import Mathlib
import Resiprocate.RequestContextCalls

/-! What a run of a processor chain does to a context, from what its calls do. -/
namespace Resiprocate.Repro

/-- The processors pass no response. -/
def ChainRun.Silent {υ : Type*} (run : ChainRun υ) : Prop := ∀ c ∈ run.calls, c.sends = false

instance {υ : Type*} (run : ChainRun υ) : Decidable run.Silent :=
  inferInstanceAs (Decidable (∀ c ∈ run.calls, c.sends = false))

namespace Context
variable {υ : Type*} [BEq υ] {s : Context υ} {run : ChainRun υ} {chain : ChainType}

/-- A property that every call of a run keeps is kept by the run. -/
theorem calls_induction {P : Context υ → Prop} {result : ChainResult} {l : List (Call υ)}
    (hs : P s) (hstep : ∀ c ∈ l, ∀ s, P s → P (s.call c).1) : P (calls result l s).1 := by
  induction l generalizing s with
  | nil => exact hs
  | cons c rest ih =>
    have hc := hstep c (by simp) s hs
    unfold calls
    split
    · next heq => rwa [heq] at hc
    · next heq =>
      rw [heq] at hc
      exact ih hc fun d hd => hstep d (by simp [hd])

/-- A run that ends with an exception was told to, or met it before a final response. -/
theorem calls_raised {result : ChainResult} {l : List (Call υ)}
    (h : (calls result l s).2 = .raised) :
    result = .raised ∨ (calls result l s).1.haveSentFinalResponse = false := by
  induction l generalizing s with
  | nil => exact .inl h
  | cons c rest ih =>
    unfold calls at h ⊢
    split at h
    · next s' heq =>
      have hfinal := call_raised (congrArg Prod.snd heq)
      have hsends : c.sends = false := by
        cases c with
        | sendResponse msg =>
          have h2 := congrArg Prod.snd heq
          cases h2
        | _ => rfl
      have hcore := core_call hsends s
      rw [heq] at hcore
      exact .inr ((congrArg Core.haveSentFinalResponse hcore).trans hfinal)
    · exact ih h

/-- A run that continues was told to. -/
theorem calls_continues {result : ChainResult} {l : List (Call υ)}
    (h : (calls result l s).2 = .continues) : result = .continues := by
  induction l generalizing s with
  | nil => exact h
  | cons c rest ih =>
    unfold calls at h
    split at h
    · cases h
    · exact ih h

/-- The pending chains are all that a run adds to its calls. -/
theorem process_eq : (s.process chain run).1 =
    { (calls run.result run.calls s).1 with
      pendingChains := (s.process chain run).1.pendingChains } := by
  simp only [process]
  split <;> rfl

theorem process_snd : (s.process chain run).2 = (calls run.result run.calls s).2 := rfl

theorem mem_process {tid : Data} (h : tid ∈ s.activeTransactionMap) :
    tid ∈ (s.process chain run).1.activeTransactionMap := by
  rw [process_eq]
  exact calls_induction (P := fun s => tid ∈ s.activeTransactionMap) h fun c _ s hs => mem_call c hs

theorem hasActive_process (h : s.hasActiveTransactions = true) :
    (s.process chain run).1.hasActiveTransactions = true := by
  rw [hasActiveTransactions_iff] at h ⊢
  obtain ⟨tid, htid⟩ := h
  exact ⟨tid, mem_process htid⟩

/-- A silent run leaves the core alone, up to the pending chains. -/
theorem core_process (h : run.Silent) : (s.process chain run).1.core =
    { s.core with pendingChains := (s.process chain run).1.pendingChains } := by
  have hcalls : (calls run.result run.calls s).1.core = s.core :=
    calls_induction (P := fun s' => s'.core = s.core) rfl fun c hc s' hs' =>
      (core_call (h c hc) s').trans hs'
  rw [← hcalls]
  exact congrArg core process_eq

theorem final_process (h : run.Silent) :
    (s.process chain run).1.haveSentFinalResponse = s.haveSentFinalResponse :=
  congrArg Core.haveSentFinalResponse (core_process h)

theorem process_raised (h : (s.process chain run).2 = .raised) :
    run.result = .raised ∨ (s.process chain run).1.haveSentFinalResponse = false := by
  rw [process_eq]
  exact calls_raised h

end Context

/-- An output that is neither an answer nor a request. -/
def Output.IsNote {υ : Type*} (o : Output υ) : Prop :=
  o.upstream = none ∧ o.isAbandon = false ∧ o.start = none

namespace Context
variable {υ : Type*} [BEq υ] {s : Context υ} {run targetChain : ChainRun υ} {msg : SipResponse υ}

/-- A property that dealing with a response keeps. A final response on an active branch has to meet
`kept`. -/
structure AnswerRule {υ : Type*} (P : Context υ → Prop) (kept : SipResponse υ → Prop) : Prop where
  send : ∀ s msg, P s → P (s.sendResponse msg)
  forward : ∀ s, P s → P s.forwardBestResponse
  success : ∀ s msg, kept msg → msg.statusCode / 100 = 2 → P s → P (s.processSuccess msg)
  keep : ∀ s msg, kept msg → P s → P (s.keep msg)
  terminate : ∀ s tid, P s → P (s.terminateClientTransaction tid)
  timer : ∀ s tid, P s → P (s.startTimerC tid)
  note : ∀ (s : Context υ) (o : Output υ), o.IsNote → P s → P { s with out := s.out ++ [o] }

/-- A property that every operation on a context keeps. What a processor calls has to meet
`called`. -/
structure Rule (P : Context υ → Prop) (kept : SipResponse υ → Prop) (called : Call υ → Prop) : Prop
    extends AnswerRule P kept where
  remove : ∀ s tid, P s → P (s.removeClientTransaction tid)
  cancelAll : ∀ s, P s → P s.cancelAllClientTransactions
  cancelOne : ∀ s tid, P s → P (s.cancelClientTransactionOf tid)
  clear : ∀ s, P s → P s.clearCandidateTransactions
  call : ∀ s c, called c → P s → P (s.call c).1
  pending : ∀ (s : Context υ) (chains : List ChainType), P s → P { s with pendingChains := chains }
  asked : ∀ s : Context υ, P s → P { s with bestIsResponse := true }
  count : ∀ (s : Context υ) (n : ℤ) (d : Bool), P s →
    P { s with transactionCount := n, deleted := d }

omit [BEq υ] in
/-- The response that timer C makes up. -/
theorem processTimerC_response {tid : Data} {serial : ℕ}
    (h : (s.processTimerC tid serial).2 = some msg) :
    msg = { (SipResponse.make tid s.originalMethod 408) with
      nextVia := .wellFormed s.originalBranch } := by
  have hcore := core_cancelClientTransactionOf s tid
  have hm : (s.cancelClientTransactionOf tid).originalMethod = s.originalMethod :=
    congrArg Core.originalMethod hcore
  have hb : (s.cancelClientTransactionOf tid).originalBranch = s.originalBranch :=
    congrArg Core.originalBranch hcore
  unfold processTimerC at h
  dsimp only at h
  repeat' split at h
  · obtain rfl := Option.some.inj h
    rw [hm, hb]
  all_goals cases h

omit [BEq υ] in
/-- Timer C cancels a branch, or does nothing. -/
theorem processTimerC_state (tid : Data) (serial : ℕ) (s : Context υ) :
    (s.processTimerC tid serial).1 = s.cancelClientTransactionOf tid ∨
      (s.processTimerC tid serial).1 = s := by
  unfold processTimerC
  dsimp only
  repeat' split
  · exact .inl rfl
  · exact .inl rfl
  · exact .inl rfl
  · exact .inr rfl

omit [BEq υ] in
theorem core_processTimerC (tid : Data) (serial : ℕ) (s : Context υ) :
    (s.processTimerC tid serial).1.core = s.core := by
  rcases processTimerC_state tid serial s with heq | heq
  · rw [heq]
    exact core_cancelClientTransactionOf s tid
  · rw [heq]

omit [BEq υ] in
theorem core_processTransactionTerminated (isClientTransaction : Bool) (tid : Data)
    (s : Context υ) : (s.processTransactionTerminated isClientTransaction tid).core = s.core := by
  unfold processTransactionTerminated
  cases isClientTransaction with
  | false => rfl
  | true => exact core_removeClientTransaction s tid

omit [BEq υ] in
theorem core_processRequestAckTransaction (original forwards : Bool) (s : Context υ) :
    (s.processRequestAckTransaction original forwards).core = s.core := by
  have hforward : (if forwards then
      { s.cancelAllClientTransactions with
        out := s.cancelAllClientTransactions.out ++ [.forwardAck] } else s).core = s.core := by
    split
    · exact (core_append rfl rfl _).trans (core_cancelAllClientTransactions s)
    · rfl
  unfold processRequestAckTransaction
  dsimp only
  split
  · exact (core_append rfl rfl _).trans hforward
  · exact hforward

end Context

/-- What the processors call while an event is dealt with. -/
def Event.calls {υ : Type*} : Event υ → List (Call υ)
  | .request _ requestChain targetChain => requestChain.calls ++ targetChain.calls
  | .cancel targetChain => targetChain.calls
  | .response _ responseChain targetChain => responseChain.calls ++ targetChain.calls
  | .timerC _ _ responseChain targetChain => responseChain.calls ++ targetChain.calls
  | .processorMessage _ run targetChain => run.calls ++ targetChain.calls
  | .ack .. | .transactionTerminated .. | .ack200Done => []

namespace Context.AnswerRule
variable {υ : Type*} {P : Context υ → Prop} {kept : SipResponse υ → Prop} {s : Context υ}
  {msg : SipResponse υ}

theorem forwardIfDone (h : AnswerRule P kept) (hs : P s) : P s.forwardIfDone := by
  unfold Context.forwardIfDone
  split
  · exact h.forward _ hs
  · exact hs

theorem processActiveResponse (h : AnswerRule P kept) (hs : P s)
    (hkept : 200 ≤ msg.statusCode → msg.statusCode ≤ 699 → kept msg) :
    P (s.processActiveResponse msg) := by
  have htimer : P (s.startTimerC msg.tid) := h.timer _ _ hs
  have hterm : P (s.terminateClientTransaction msg.tid) := h.terminate _ _ hs
  refine processActiveResponse_induction (fun _ => ⟨htimer, fun _ _ => h.send _ _ htimer⟩)
    (fun hclass => h.success _ _ (hkept (by omega) (by omega)) hclass hs)
    (fun hlow hhigh => ⟨fun _ => hterm, fun _ => h.forwardIfDone ?_⟩)
    fun _ => h.note _ _ ⟨rfl, rfl, rfl⟩ hs
  exact h.keep _ _ (hkept (by omega) hhigh) hterm

theorem processResponse (h : AnswerRule P kept) (hs : P s)
    (hkept : msg.viaCheck s.originalBranch = .passed → msg.tid ∈ s.activeTransactionMap →
      200 ≤ msg.statusCode → msg.statusCode ≤ 699 → kept msg) : P (s.processResponse msg) := by
  unfold Context.processResponse
  split
  · exact hs
  · exact h.terminate _ _ hs
  · next hpass =>
    split
    · next hmem => exact h.processActiveResponse hs (hkept hpass hmem)
    · split
      · exact h.send _ _ hs
      · exact hs

end Context.AnswerRule

namespace Context.Rule
variable {υ : Type*} [BEq υ] {P : Context υ → Prop} {kept : SipResponse υ → Prop}
  {called : Call υ → Prop} {s : Context υ} {msg : SipResponse υ}

theorem processCancel (h : Rule P kept called) (hs : P s) : P s.processCancel := by
  have hok : P (s.sendResponse (.make s.originalTid .cancel 200)) := h.send _ _ hs
  have hall := h.cancelAll _ hok
  unfold Context.processCancel
  dsimp only
  split
  · exact hok
  · split
    · exact hall
    · exact h.send _ _ hall

section Chains
variable {run targetChain : ChainRun υ} {settle : Context υ → Context υ}

theorem process (h : Rule P kept called) (hs : P s) (hrun : ∀ c ∈ run.calls, called c)
    (chain : ChainType) : P (s.process chain run).1 := by
  have hcalls : P (Context.calls run.result run.calls s).1 :=
    calls_induction hs fun c hc s hs => h.call s c (hrun c hc) hs
  rw [process_eq]
  exact h.pending _ _ hcalls

theorem catchTargetException (h : Rule P kept called) (hs : P s) (ret : ChainResult) :
    P (s.catchTargetException ret) := by
  unfold Context.catchTargetException
  split
  · exact h.send _ _ (h.clear _ hs)
  · exact hs

theorem checkTargets (h : Rule P kept called) (hs : P s)
    (hsettle : ∀ s : Context υ, P s → P (settle s)) (ret : ChainResult) :
    P (s.checkTargets settle ret) := by
  unfold Context.checkTargets
  split
  · split
    · exact h.send _ _ hs
    · exact hsettle _ hs
  · exact hs

theorem runTargetChain (h : Rule P kept called) (hs : P s)
    (hsettle : ∀ s : Context υ, P s → P (settle s)) (htarget : ∀ c ∈ targetChain.calls, called c) :
    P (s.runTargetChain settle targetChain) := by
  have hchain : P (s.process .targetChain targetChain).1 := h.process hs htarget _
  unfold Context.runTargetChain
  split
  · exact h.send _ _ hs
  · exact h.checkTargets (h.catchTargetException hchain _) hsettle _

theorem runRequestChain (h : Rule P kept called) (hs : P s)
    (hsettle : ∀ s : Context υ, P s → P (settle s)) (hrun : ∀ c ∈ run.calls, called c)
    (htarget : ∀ c ∈ targetChain.calls, called c) :
    P (s.runRequestChain settle run targetChain) := by
  have hchain : P (s.process .requestChain run).1 := h.process hs hrun _
  have hcatch : P ((s.process .requestChain run).1.catchRequestException
      (s.process .requestChain run).2) := by
    unfold Context.catchRequestException
    split
    · exact h.send _ _ hchain
    · exact hchain
  unfold Context.runRequestChain
  dsimp only
  split
  · exact h.runTargetChain hcatch hsettle htarget
  · exact hcatch

theorem settleResumed (h : Rule P kept called) (hs : P s) : P s.settleResumed := by
  have hset : P { s with bestIsResponse := true } := h.asked _ hs
  unfold Context.settleResumed
  dsimp only
  split
  · exact h.forward _ hset
  · exact hset

theorem checkBranches (h : Rule P kept called) (hs : P s) : P (s.checkBranches msg) := by
  unfold Context.checkBranches
  split
  · split
    · exact h.send _ _ hs
    · split
      · exact hs
      · split
        · exact h.forward _ hs
        · exact h.send _ _ hs
  · exact hs

theorem doPostResponseProcessing (h : Rule P kept called) (hs : P (s.processResponse msg))
    (htarget : ∀ c ∈ targetChain.calls, called c) :
    P (s.doPostResponseProcessing msg targetChain) := by
  have hchain : P ((s.processResponse msg).process .targetChain targetChain).1 :=
    h.process hs htarget _
  unfold Context.doPostResponseProcessing
  dsimp only
  split
  · exact hchain
  · exact h.checkBranches hchain

/-- The response has to meet `kept` only where it is on an active branch. -/
theorem processResponseTransaction (h : Rule P kept called) (hs : P s)
    (hrun : ∀ c ∈ run.calls, called c) (htarget : ∀ c ∈ targetChain.calls, called c)
    (hkept : msg.method = s.originalMethod →
      msg.tid ∈ (s.process .responseChain run).1.activeTransactionMap →
      200 ≤ msg.statusCode → msg.statusCode ≤ 699 → kept msg) :
    P (s.processResponseTransaction msg run targetChain) := by
  have hchain : P (s.process .responseChain run).1 := h.process hs hrun _
  unfold Context.processResponseTransaction
  split
  · next hm =>
    dsimp only
    split
    · exact h.doPostResponseProcessing (h.processResponse hchain fun _ => hkept hm) htarget
    · exact h.terminate _ _ hchain
  · exact hs

theorem processTimerC (h : Rule P kept called) (hs : P s) (tid : Data) (serial : ℕ) :
    P (s.processTimerC tid serial).1 := by
  rcases processTimerC_state tid serial s with heq | heq
  · rw [heq]
    exact h.cancelOne _ _ hs
  · rwa [heq]

theorem processTimerCMessage (h : Rule P kept called) (hs : P s)
    (hrun : ∀ c ∈ run.calls, called c) (htarget : ∀ c ∈ targetChain.calls, called c)
    (hkept : ∀ msg : SipResponse υ, msg.statusCode = 408 → msg.method = s.originalMethod → kept msg)
    (tid : Data) (serial : ℕ) :
    P (s.processTimerCMessage tid serial run targetChain) := by
  have hstate := h.processTimerC hs tid serial
  have hresponse : ∀ msg, (s.processTimerC tid serial).2 = some msg → msg =
      { (SipResponse.make tid s.originalMethod 408) with
        nextVia := .wellFormed s.originalBranch } := fun _ => processTimerC_response
  unfold Context.processTimerCMessage
  split
  · next s₁ msg heq =>
    rw [heq] at hstate hresponse
    have hmsg := hresponse msg rfl
    refine h.processResponseTransaction hstate hrun htarget fun _ _ _ _ => hkept msg ?_ ?_
    · rw [hmsg]
      rfl
    · rw [hmsg]
      rfl
  · next s₁ heq => rwa [heq] at hstate

theorem processProcessorMessage (h : Rule P kept called) (hs : P s)
    (hrun : ∀ c ∈ run.calls, called c) (htarget : ∀ c ∈ targetChain.calls, called c)
    (chain : ChainType) : P (s.processProcessorMessage chain run targetChain) := by
  have hresume : P (s.resume chain) := h.pending _ _ hs
  unfold Context.processProcessorMessage
  cases chain with
  | requestChain => exact h.runRequestChain hresume (fun _ => h.settleResumed) hrun htarget
  | responseChain =>
    have hresponse := h.process hresume hrun .responseChain
    dsimp only
    unfold Context.resumeResponseChain
    dsimp only
    split
    · exact hresponse
    · exact h.process hresponse htarget _
  | targetChain => exact h.process hresume hrun _

theorem processRequestAckTransaction (h : Rule P kept called) (hs : P s)
    (original forwards : Bool) : P (s.processRequestAckTransaction original forwards) := by
  have hforward : P (if forwards then
      { s.cancelAllClientTransactions with
        out := s.cancelAllClientTransactions.out ++ [.forwardAck] } else s) := by
    split
    · exact h.note _ _ ⟨rfl, rfl, rfl⟩ (h.cancelAll _ hs)
    · exact hs
  unfold Context.processRequestAckTransaction
  dsimp only
  split
  · exact h.note _ _ ⟨rfl, rfl, rfl⟩ hforward
  · exact hforward

theorem processTransactionTerminated (h : Rule P kept called) (hs : P s)
    (isClientTransaction : Bool) (tid : Data) :
    P (s.processTransactionTerminated isClientTransaction tid) := by
  cases isClientTransaction with
  | false => exact h.count s _ _ hs
  | true => exact h.count (s.removeClientTransaction tid) _ _ (h.remove _ _ hs)

theorem processCancelRequest (h : Rule P kept called) (hs : P s)
    (hinvite : s.originalMethod = .invite → P s.processCancel)
    (htarget : ∀ c ∈ targetChain.calls, called c) : P (s.processCancelRequest targetChain) := by
  unfold Context.processCancelRequest
  split
  · exact h.note _ _ ⟨rfl, rfl, rfl⟩ hs
  · next hm => exact h.runTargetChain (hinvite hm) h.forward htarget
  · exact h.note _ _ ⟨rfl, rfl, rfl⟩ hs

/-- The rule for one event: `kept` has to hold of a final response on an active branch and of the
408 of timer C. -/
theorem step (h : Rule P kept called) {e : Event υ} (he : s.accepts e)
    (hs : P { s with received := true }) (hcalls : ∀ c ∈ e.calls, called c)
    (hkept : ∀ msg run targetChain, e = .response msg run targetChain →
      msg.method = s.originalMethod →
      msg.tid ∈ (s.process .responseChain run).1.activeTransactionMap →
      200 ≤ msg.statusCode → msg.statusCode ≤ 699 → kept msg)
    (htimer : ∀ msg : SipResponse υ, msg.statusCode = 408 → msg.method = s.originalMethod →
      kept msg) :
    P (s.step e) := by
  have hsame : s.received = true → P s := by
    intro hr
    have hs' : ({ s with received := true } : Context υ) = s := by rw [← hr]
    rwa [← hs']
  cases e with
  | request route requestChain targetChain =>
    have hboth := List.forall_mem_append.1 hcalls
    cases route with
    | done => exact h.runRequestChain hs h.forward hboth.1 hboth.2
    | parseException => exact h.send _ _ hs
    | baseException => exact h.send _ _ hs
  | ack route forwards =>
    change P (if _ then _ else Context.processRequestAckTransaction _ _ _)
    split
    · exact h.note _ _ ⟨rfl, rfl, rfl⟩ hs
    · exact h.processRequestAckTransaction hs _ _
  | cancel targetChain =>
    have hrec := hsame he.2
    exact h.processCancelRequest hrec (fun _ => h.processCancel hrec) hcalls
  | response msg responseChain targetChain =>
    have hboth := List.forall_mem_append.1 hcalls
    exact h.processResponseTransaction (hsame he.2) hboth.1 hboth.2 (hkept _ _ _ rfl)
  | timerC tid serial responseChain targetChain =>
    have hboth := List.forall_mem_append.1 hcalls
    exact h.processTimerCMessage (hsame he.2) hboth.1 hboth.2 htimer tid serial
  | processorMessage chain run targetChain =>
    have hboth := List.forall_mem_append.1 hcalls
    exact h.processProcessorMessage (hsame he.2) hboth.1 hboth.2 chain
  | transactionTerminated isClientTransaction tid =>
    exact h.processTransactionTerminated (hsame he.2) _ _
  | ack200Done => exact h.count _ _ _ (hsame he.2)

end Chains
end Context.Rule

/-- A property of the core that every way of answering keeps. -/
structure Core.AnswerRule {υ : Type*} (P : Core υ → Prop) (kept : SipResponse υ → Prop) : Prop where
  send : ∀ c msg, P c → P (c.send msg)
  forward : ∀ c, P c → P c.forward
  keep : ∀ c msg, kept msg → P c → P (c.keep msg)
  success : ∀ c msg, kept msg → msg.statusCode / 100 = 2 → P c → P (c.success msg)

/-- A property that does not depend on what the chains are waiting for, either. -/
structure Core.Rule {υ : Type*} (P : Core υ → Prop) (kept : SipResponse υ → Prop) : Prop
    extends Core.AnswerRule P kept where
  pending : ∀ c chains, P c → P { c with pendingChains := chains }
  asked : ∀ c, P c → P { c with bestIsResponse := true }

section Lift
variable {υ : Type*} {P : Core υ → Prop} {kept : SipResponse υ → Prop}

theorem Core.AnswerRule.context (h : Core.AnswerRule P kept) :
    Context.AnswerRule (fun s : Context υ => P s.core) kept where
  send s msg hs := by
    rw [Context.core_sendResponse]
    exact h.send _ _ hs
  forward s hs := by
    rw [Context.core_forwardBestResponse]
    exact h.forward _ hs
  success s msg hkept hclass hs := by
    rw [Context.core_processSuccess]
    exact h.success _ _ hkept hclass hs
  keep s msg hkept hs := by
    rw [Context.core_keep]
    exact h.keep _ _ hkept hs
  terminate s tid hs := by rwa [Context.core_terminateClientTransaction]
  timer s tid hs := by rwa [Context.core_startTimerC]
  note s o ho hs := by rwa [Context.core_append ho.1 ho.2.1]

theorem Core.Rule.context [BEq υ] (h : Core.Rule P kept) :
    Context.Rule (fun s : Context υ => P s.core) kept fun _ => True where
  toAnswerRule := h.toAnswerRule.context
  remove s tid hs := by rwa [Context.core_removeClientTransaction]
  cancelAll s hs := by rwa [Context.core_cancelAllClientTransactions]
  cancelOne s tid hs := by rwa [Context.core_cancelClientTransactionOf]
  clear s hs := by rwa [Context.core_clearCandidateTransactions]
  call s c _ hs := by
    by_cases hsends : c.sends = true
    · cases c with
      | sendResponse msg => exact h.toAnswerRule.context.send _ _ hs
      | _ => cases hsends
    · rwa [Context.core_call (by simpa using hsends)]
  pending s chains hs := h.pending _ _ hs
  asked s hs := h.asked _ hs
  count s n d hs := hs

end Lift

/-- What identifies the original request. -/
structure Request where
  received : Bool
  method : Method
  tid : Data
  branch : Data

namespace Core
variable {υ : Type*}

def request (c : Core υ) : Request where
  received := c.received
  method := c.originalMethod
  tid := c.originalTid
  branch := c.originalBranch

theorem request_send (c : Core υ) (msg : SipResponse υ) : (c.send msg).request = c.request := by
  unfold send
  split <;> rfl

theorem request_rule (r : Request) : Rule (fun c : Core υ => c.request = r) fun _ => True where
  send c msg h := (request_send c msg).trans h
  forward c h := by
    unfold forward
    dsimp only
    split
    · exact h
    · exact (request_send _ _).trans h
  keep c msg _ h := by
    unfold keep keepGlobal keepBest
    dsimp only
    repeat' split
    all_goals exact h
  success c msg _ _ h := by
    unfold success
    split
    · exact h
    · exact (request_send _ _).trans h
  pending _ _ h := h
  asked _ h := h

theorem final_send {c : Core υ} (msg : SipResponse υ) (h : c.haveSentFinalResponse = true) :
    (c.send msg).haveSentFinalResponse = true := by
  unfold send
  split
  · exact h
  · exact Bool.or_eq_true_iff.2 (.inl h)

theorem bestResponse_send (c : Core υ) (msg : SipResponse υ) :
    (c.send msg).bestResponse = c.bestResponse := by
  unfold send
  split <;> rfl

theorem bestPriority_send (c : Core υ) (msg : SipResponse υ) :
    (c.send msg).bestPriority = c.bestPriority := by
  unfold send
  split <;> rfl

/-- A final response stays sent. -/
theorem final_rule : Rule (fun c : Core υ => c.haveSentFinalResponse = true) fun _ => True where
  send _ msg h := final_send msg h
  forward c h := by
    unfold forward
    dsimp only
    split
    · rfl
    · exact final_send _ h
  keep c msg _ h := (keep_frame msg c).1.trans h
  success c msg _ _ h := by
    unfold success
    split
    · exact h
    · exact final_send _ rfl
  pending _ _ h := h
  asked _ h := h

end Core

namespace Context
variable {υ : Type*} [BEq υ]

/-- The identity of the request stays, and it counts as received from the first event on. -/
theorem request_step {s : Context υ} {e : Event υ} (h : s.accepts e) :
    (s.step e).core.request = { s.core.request with received := true } :=
  (Core.request_rule _).context.step h rfl (fun _ _ => trivial) (fun _ _ _ _ _ _ _ _ => trivial)
    fun _ _ _ => trivial

omit [BEq υ] in
/-- A 2xx is a final response. -/
theorem final_processSuccess (s : Context υ) (msg : SipResponse υ) :
    (s.processSuccess msg).haveSentFinalResponse = true := by
  have hcore := congrArg Core.haveSentFinalResponse (core_processSuccess s msg)
  refine hcore.trans ?_
  unfold Core.success
  split
  · next h => exact h.2
  · exact Core.final_send _ rfl

end Context
end Resiprocate.Repro
