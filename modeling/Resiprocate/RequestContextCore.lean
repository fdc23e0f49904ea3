import Mathlib
import Resiprocate.RequestContext

/-! How far a request has been answered, apart from its targets: the operations on targets leave
this core of a context alone, and the others act on it. -/
namespace Resiprocate.Repro

/-- The responses to the original request that have been passed to `sendResponse`. -/
def Output.upstream {υ : Type*} : Output υ → Option (SipResponse υ)
  | .response msg => if msg.method = .cancel then none else some msg
  | _ => none

def Output.isAbandon {υ : Type*} : Output υ → Bool
  | .abandon => true
  | _ => false

/-- A client transaction that starts. -/
def Output.start {υ : Type*} : Output υ → Option Data
  | .request tid => some tid
  | _ => none

/-- The part of a context that says how far the original request has been answered. -/
@[ext] structure Core (υ : Type*) where
  received : Bool
  originalMethod : Method
  originalTid : Data
  originalBranch : Data
  haveSentFinalResponse : Bool
  bestResponse : SipResponse υ
  bestIsResponse : Bool
  bestPriority : ℤ
  pendingChains : List ChainType
  upstream : List (SipResponse υ)
  abandoned : Bool

namespace Target
variable {υ : Type*} (t : Target υ)

@[simp] theorem cancelOut_upstream : t.cancelOut.filterMap Output.upstream = [] := by
  unfold cancelOut; split <;> rfl

@[simp] theorem cancelOut_isAbandon : t.cancelOut.any Output.isAbandon = false := by
  unfold cancelOut; split <;> rfl

@[simp] theorem cancelOut_start : t.cancelOut.filterMap Output.start = [] := by
  unfold cancelOut; split <;> rfl

end Target

/-- A 6xx response. -/
def SipResponse.isGlobal {υ : Type*} (r : SipResponse υ) : Bool := r.statusCode / 100 == 6

namespace Core
variable {υ : Type*}

/-- A response passed to `sendResponse`. -/
def send (msg : SipResponse υ) (c : Core υ) : Core υ :=
  if c.originalMethod = .ack then c
  else { c with
    haveSentFinalResponse := c.haveSentFinalResponse || msg.isFinal
    upstream := c.upstream ++ if msg.method = .cancel then [] else [msg] }

def soften (c : Core υ) : Core υ :=
  { c with
    bestIsResponse := true
    bestResponse := if c.bestResponse.statusCode = 503
      then { c.bestResponse with statusCode := 480 } else c.bestResponse }

/-- The best response goes out, or the server transaction is abandoned. -/
def forward (c : Core υ) : Core υ :=
  let c := c.soften
  if c.bestResponse.statusCode = 408 ∧ c.bestResponse.method ≠ .invite then
    { c with haveSentFinalResponse := true, abandoned := true }
  else c.send c.bestResponse

def keepBest (msg : SipResponse υ) (c : Core υ) : Core υ :=
  let priority := getPriority msg.statusCode
  if priority = c.bestPriority then
    if msg.statusCode = 401 ∨ msg.statusCode = 407 then
      { c with bestResponse := c.bestResponse.mergeChallenges msg }
    else if msg.statusCode / 100 = 3 then
      { c with bestResponse := c.bestResponse.mergeContacts msg }
    else c
  else if priority < c.bestPriority then
    { c with bestPriority := priority, bestResponse := msg, bestIsResponse := true }
  else c

def keepGlobal (msg : SipResponse υ) (c : Core υ) : Core υ :=
  if c.bestResponse.statusCode / 100 ≠ 6 then
    { c with bestResponse := msg, bestPriority := 0, bestIsResponse := true }
  else c

/-- A failure response against the kept one, by its class. -/
def keep (r : SipResponse υ) (c : Core υ) : Core υ :=
  if r.isGlobal then c.keepGlobal r else c.keepBest r

/-- Keeping a response changes the kept one and its priority only. -/
theorem keep_frame (r : SipResponse υ) (c : Core υ) :
    (c.keep r).haveSentFinalResponse = c.haveSentFinalResponse ∧
    (c.keep r).originalMethod = c.originalMethod ∧
    (c.keep r).originalBranch = c.originalBranch ∧ (c.keep r).upstream = c.upstream := by
  unfold keep keepGlobal keepBest
  dsimp only
  repeat' split
  all_goals exact ⟨rfl, rfl, rfl, rfl⟩

def success (msg : SipResponse υ) (c : Core υ) : Core υ :=
  if c.originalMethod ≠ .invite ∧ c.haveSentFinalResponse then c
  else { c with
    haveSentFinalResponse := true
    bestResponse := { c.bestResponse with statusCode := msg.statusCode }
    bestIsResponse := true }.send msg

end Core

section CancelOuts
variable {υ : Type*} (targets : TransactionMap υ)

@[simp] theorem cancelOuts_upstream : (cancelOuts targets).filterMap Output.upstream = [] := by
  rw [cancelOuts, List.filterMap_flatMap]
  simp

@[simp] theorem cancelOuts_isAbandon : (cancelOuts targets).any Output.isAbandon = false := by
  rw [cancelOuts, List.any_flatMap]
  simp

@[simp] theorem cancelOuts_start : (cancelOuts targets).filterMap Output.start = [] := by
  rw [cancelOuts, List.filterMap_flatMap]
  simp

end CancelOuts

namespace Context
variable {υ : Type*}

def upstream (s : Context υ) : List (SipResponse υ) := s.out.filterMap Output.upstream

def abandoned (s : Context υ) : Bool := s.out.any Output.isAbandon

/-- The client transactions that have been started. -/
def starts (s : Context υ) : List Data := s.out.filterMap Output.start

def core (s : Context υ) : Core υ where
  received := s.received
  originalMethod := s.originalMethod
  originalTid := s.originalTid
  originalBranch := s.originalBranch
  haveSentFinalResponse := s.haveSentFinalResponse
  bestResponse := s.bestResponse
  bestIsResponse := s.bestIsResponse
  bestPriority := s.bestPriority
  pendingChains := s.pendingChains
  upstream := s.upstream
  abandoned := s.abandoned

/-- An output that is no answer. -/
theorem core_append {o : Output υ} (hup : o.upstream = none) (hab : o.isAbandon = false)
    (s : Context υ) : ({ s with out := s.out ++ [o] } : Context υ).core = s.core := by
  simp [core, upstream, abandoned, hup, hab]

section Targets
variable (s : Context υ)

@[simp] theorem core_cancelActive : s.cancelActive.core = s.core := by
  simp [core, cancelActive, upstream, abandoned]

@[simp] theorem core_clearCandidateTransactions : s.clearCandidateTransactions.core = s.core := by
  simp [core, clearCandidateTransactions, upstream, abandoned]

@[simp] theorem core_cancelActiveClientTransactions :
    s.cancelActiveClientTransactions.core = s.core := by
  unfold cancelActiveClientTransactions
  split
  · rfl
  · split <;> simp

@[simp] theorem core_cancelAllClientTransactions :
    s.cancelAllClientTransactions.core = s.core := by
  unfold cancelAllClientTransactions
  split
  · rfl
  · split <;> simp

@[simp] theorem core_cancelClientTransactionOf (tid : Data) :
    (s.cancelClientTransactionOf tid).core = s.core := by
  unfold cancelClientTransactionOf
  split
  · simp [core, upstream, abandoned]
  · split
    · simp [core, upstream, abandoned]
    · rfl

@[simp] theorem core_terminateClientTransaction (tid : Data) :
    (s.terminateClientTransaction tid).core = s.core := by
  unfold terminateClientTransaction
  split
  · rfl
  · split <;> rfl

@[simp] theorem core_removeClientTransaction (tid : Data) :
    (s.removeClientTransaction tid).core = s.core := by
  unfold removeClientTransaction
  repeat' split
  all_goals rfl

@[simp] theorem core_assertCandidate (target : Target υ) :
    (s.assertCandidate target).core = s.core := by
  unfold assertCandidate
  split
  · rfl
  · exact core_append rfl rfl s

@[simp] theorem core_startTimerC (tid : Data) : (s.startTimerC tid).core = s.core := by
  unfold startTimerC
  split
  · simp [core, updateTimerC, upstream, abandoned, Output.upstream, Output.isAbandon]
  · rfl

@[simp] theorem core_sendRequest (tid : Data) : (s.sendRequest tid).core = s.core := by
  unfold sendRequest
  split <;> simp [core, upstream, abandoned, Output.upstream, Output.isAbandon]

theorem core_beginClientTransaction {s s' : Context υ} {target : Target υ}
    (h : s.beginClientTransaction target = some s') : s'.core = s.core := by
  unfold beginClientTransaction at h
  split at h
  · obtain rfl := Option.some.inj h
    simp
  · cases h

end Targets

section Responses
variable (s : Context υ)

theorem core_sendResponse (msg : SipResponse υ) : (s.sendResponse msg).core = s.core.send msg := by
  unfold sendResponse Core.send
  split
  · next h => simp [core, h, upstream, abandoned, Output.upstream, Output.isAbandon]
  · next h =>
    have hmethod : s.core.originalMethod ≠ .ack := h
    by_cases hcancel : msg.method = .cancel <;>
      simp [core, upstream, abandoned, Output.upstream, Output.isAbandon, hcancel, h]

theorem core_withdrawTargets : s.withdrawTargets.core = s.core := by
  unfold withdrawTargets
  split <;> simp

theorem core_abandonServerTransaction : s.abandonServerTransaction.core =
    { s.core with haveSentFinalResponse := true, abandoned := true } := by
  simp [core, abandonServerTransaction, upstream, abandoned, Output.upstream, Output.isAbandon]

theorem core_forwardBestResponse : s.forwardBestResponse.core = s.core.forward := by
  have hsoft : s.withdrawTargets.softenBest.core = s.core.soften :=
    congrArg Core.soften (core_withdrawTargets s)
  have hbest : s.withdrawTargets.softenBest.bestResponse = s.core.soften.bestResponse :=
    congrArg Core.bestResponse hsoft
  unfold forwardBestResponse Core.forward
  dsimp only
  rw [hbest]
  split
  · rw [core_abandonServerTransaction, hsoft]
  · rw [core_sendResponse, hsoft]

theorem core_keepBest (msg : SipResponse υ) : (s.keepBest msg).core = s.core.keepBest msg := by
  unfold keepBest Core.keepBest
  simp only [apply_ite core]
  rfl

theorem core_keepGlobal (msg : SipResponse υ) :
    (s.keepGlobal msg).core = s.core.keepGlobal msg := by
  unfold keepGlobal Core.keepGlobal
  simp only [apply_ite core, core_cancelAllClientTransactions, ite_self]
  rfl

/-- A failure response against the kept one, by its class. -/
def keep (msg : SipResponse υ) (s : Context υ) : Context υ :=
  if msg.isGlobal then s.keepGlobal msg else s.keepBest msg

theorem core_keep (msg : SipResponse υ) : (s.keep msg).core = s.core.keep msg := by
  unfold keep Core.keep
  split
  · exact core_keepGlobal s msg
  · exact core_keepBest s msg

/-- The classes of responses on an active branch. -/
theorem processActiveResponse_induction {P : Context υ → Prop} {s : Context υ}
    {msg : SipResponse υ}
    (provisional : msg.statusCode / 100 = 1 → P (s.startTimerC msg.tid) ∧
      ((s.startTimerC msg.tid).haveSentFinalResponse = false → msg.statusCode ≠ 100 →
        P ((s.startTimerC msg.tid).sendResponse msg)))
    (success : msg.statusCode / 100 = 2 → P (s.processSuccess msg))
    (failure : 300 ≤ msg.statusCode → msg.statusCode ≤ 699 →
      ((s.terminateClientTransaction msg.tid).haveSentFinalResponse = true →
        P (s.terminateClientTransaction msg.tid)) ∧
      ((s.terminateClientTransaction msg.tid).haveSentFinalResponse = false →
        P ((s.terminateClientTransaction msg.tid).keep msg).forwardIfDone))
    (other : msg.statusCode < 100 ∨ 699 < msg.statusCode →
      P { s with out := s.out ++ [.assertFailed] }) : P (s.processActiveResponse msg) := by
  have hfail : ∀ h : 300 ≤ msg.statusCode ∧ msg.statusCode ≤ 699,
      P (if (s.terminateClientTransaction msg.tid).haveSentFinalResponse
        then s.terminateClientTransaction msg.tid
        else ((s.terminateClientTransaction msg.tid).keep msg).forwardIfDone) := by
    intro h
    obtain ⟨hlate, hkeep⟩ := failure h.1 h.2
    split
    · next hsent => exact hlate hsent
    · next hnot => exact hkeep (by simpa using hnot)
  unfold processActiveResponse
  split
  · next hclass =>
    obtain ⟨hquiet, hsend⟩ := provisional hclass
    dsimp only
    split
    · exact hquiet
    · next hnot =>
      simp only [Bool.or_eq_true, decide_eq_true_eq, not_or, Bool.not_eq_true] at hnot
      exact hsend hnot.1 hnot.2
  · next hclass => exact success hclass
  · next hclass => simpa [keep, SipResponse.isGlobal, hclass] using hfail (by omega)
  · next hclass => simpa [keep, SipResponse.isGlobal, hclass] using hfail (by omega)
  · next hclass => simpa [keep, SipResponse.isGlobal, hclass] using hfail (by omega)
  · next hclass => simpa [keep, SipResponse.isGlobal, hclass] using hfail (by omega)
  · next hone htwo hthree hfour hfive hsix =>
    simp only [imp_false] at hone htwo hthree hfour hfive hsix
    exact other (by omega)

theorem core_processSuccess (msg : SipResponse υ) :
    (s.processSuccess msg).core = s.core.success msg := by
  have hterm := core_terminateClientTransaction s msg.tid
  have hmethod : (s.terminateClientTransaction msg.tid).originalMethod = s.originalMethod :=
    congrArg Core.originalMethod hterm
  have hfinal : (s.terminateClientTransaction msg.tid).haveSentFinalResponse =
      s.haveSentFinalResponse := congrArg Core.haveSentFinalResponse hterm
  have hset : ∀ s' : Context υ, s'.core = s.core → (({ s' with
      haveSentFinalResponse := true
      bestResponse := { s'.bestResponse with statusCode := msg.statusCode }
      bestIsResponse := true } : Context υ).sendResponse msg).core =
      ({ s.core with
        haveSentFinalResponse := true
        bestResponse := { s.core.bestResponse with statusCode := msg.statusCode }
        bestIsResponse := true } : Core υ).send msg := by
    intro s' h
    rw [core_sendResponse, ← h]
    rfl
  simp only [processSuccess, hmethod, hfinal]
  split
  · next h =>
    rw [hset _ (by rw [core_cancelAllClientTransactions, hterm])]
    exact (if_neg fun hc => hc.1 h).symm
  · next h =>
    split
    · next hsent =>
      rw [hterm]
      exact (if_pos ⟨h, hsent⟩).symm
    · next hsent =>
      rw [hset _ (by rw [core_clearCandidateTransactions, hterm])]
      exact (if_neg fun hc => hsent hc.2).symm

end Responses

section Calls
variable [BEq υ]

theorem core_beginCandidate (tid : Data) (target : Target υ) (s : Context υ) :
    (s.beginCandidate tid target).1.core = s.core := by
  unfold beginCandidate
  split
  · rfl
  · dsimp only
    split
    · rfl
    · next h =>
      have hbegin := core_beginClientTransaction h
      exact hbegin

theorem core_beginCandidates (l : List (Data × Target υ)) (result : Bool) (s : Context υ) :
    (s.beginCandidates l result).1.core = s.core := by
  induction l generalizing result s with
  | nil => rfl
  | cons p rest ih =>
    have hbegin := core_beginCandidate p.1 p.2 s
    unfold beginCandidates
    split
    · next h => rwa [h] at hbegin
    · next h => rw [ih, ← hbegin, h]

theorem core_addTarget (target : Target υ) (beginImmediately checkDuplicates : Bool)
    (s : Context υ) : (s.addTarget target beginImmediately checkDuplicates).1.core = s.core := by
  unfold addTarget
  split
  · rfl
  · split
    · rfl
    · split
      · split
        · rfl
        · dsimp only
          split
          · rfl
          · next h =>
            have hbegin := core_beginClientTransaction h
            exact hbegin
      · rfl

omit [BEq υ] in
theorem core_addTargetBatch (targets : List (Target υ)) (highPriority : Bool) (s : Context υ) :
    (s.addTargetBatch targets highPriority).1.core = s.core := by
  unfold addTargetBatch
  split <;> rfl

end Calls

end Context

/-- The call passes a response. -/
def Call.sends {υ : Type*} : Call υ → Bool
  | .sendResponse _ => true
  | _ => false

namespace Context
variable {υ : Type*} [BEq υ]

theorem core_call {c : Call υ} (h : c.sends = false) (s : Context υ) :
    (s.call c).1.core = s.core := by
  cases c with
  | addTarget target beginImmediately checkDuplicates => exact core_addTarget ..
  | addTargetBatch targets highPriority => exact core_addTargetBatch ..
  | beginClientTransactions => exact core_beginCandidates ..
  | beginClientTransaction tid =>
    change (s.beginClientTransactionOf tid).1.core = s.core
    unfold beginClientTransactionOf
    split
    · rfl
    · exact core_beginCandidate ..
  | cancelActiveClientTransactions => exact core_cancelActiveClientTransactions s
  | cancelAllClientTransactions => exact core_cancelAllClientTransactions s
  | clearCandidateTransactions => exact core_clearCandidateTransactions s
  | cancelClientTransaction tid => exact core_cancelClientTransactionOf s tid
  | sendResponse msg => simp [Call.sends] at h

end Context
end Resiprocate.Repro
