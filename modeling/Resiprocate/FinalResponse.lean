import Mathlib
import Resiprocate.RequestContextChains

/-! One final answer upstream: what is passed to `sendResponse` for one request, over whole runs. -/
namespace Resiprocate.Repro
open TransitionSystem (Reach anyStep)

def SipResponse.isSuccess {υ : Type*} (r : SipResponse υ) : Bool := r.statusCode / 100 == 2

/-- A response that may be passed after a final one: only further 2xx responses to an INVITE. -/
def SipResponse.mayFollow {υ : Type*} (method : Method) (r : SipResponse υ) : Prop :=
  method = .invite ∧ r.isSuccess = true

instance {υ : Type*} (method : Method) (r : SipResponse υ) : Decidable (r.mayFollow method) :=
  inferInstanceAs (Decidable (_ ∧ _))

/-- After a final response no other is passed, provisional or final, save a 2xx to an INVITE. So
there is at most one failure response to an INVITE and none after a 2xx, and at most one final
response to any other request. -/
def OneFinal {υ : Type*} (method : Method) (responses : List (SipResponse υ)) : Prop :=
  responses.Pairwise fun r r' => r.isFinal = true → r'.mayFollow method

namespace Core
variable {υ : Type*} {c : Core υ} {msg : SipResponse υ}

/-- A final response has been passed. -/
def hasAnswered (c : Core υ) : Bool := c.upstream.any SipResponse.isFinal

structure InOrder (c : Core υ) : Prop where
  oneFinal : OneFinal c.originalMethod c.upstream
  flag : c.hasAnswered = true → c.haveSentFinalResponse = true

theorem InOrder.unanswered (h : c.InOrder) (hfinal : c.haveSentFinalResponse = false) :
    c.hasAnswered = false := by
  by_contra ha
  simp [h.flag (by simpa using ha)] at hfinal

theorem InOrder.send (h : c.InOrder)
    (hmsg : c.hasAnswered = false ∨ msg.mayFollow c.originalMethod ∨ msg.method = .cancel) :
    (c.send msg).InOrder := by
  unfold Core.send
  split
  · exact h
  · by_cases hcancel : msg.method = .cancel
    · rw [if_pos hcancel, List.append_nil]
      exact ⟨h.oneFinal, fun ha => by simp [h.flag ha]⟩
    · rw [if_neg hcancel]
      constructor
      · refine List.pairwise_append.2 ⟨h.oneFinal, List.pairwise_singleton _ _, ?_⟩
        intro r hr r' hr' hfinal
        obtain rfl := List.mem_singleton.1 hr'
        rcases hmsg with hno | hfollow | hc
        · have hany : c.hasAnswered = true := List.any_eq_true.2 ⟨r, hr, hfinal⟩
          simp [hno] at hany
        · exact hfollow
        · exact absurd hc hcancel
      · intro ha
        simp only [hasAnswered, List.any_append, List.any_cons, List.any_nil, Bool.or_false,
          Bool.or_eq_true] at ha
        rcases ha with ha | ha
        · simp [h.flag ha]
        · simp [ha]

/-- The kept response and the chains that wait do not matter. -/
theorem InOrder.of_eq {c' : Core υ} (h : c.InOrder) (hm : c'.originalMethod = c.originalMethod)
    (hup : c'.upstream = c.upstream)
    (hf : c.haveSentFinalResponse = true → c'.haveSentFinalResponse = true) : c'.InOrder := by
  refine ⟨by rw [hm, hup]; exact h.oneFinal, fun ha => hf (h.flag ?_)⟩
  unfold hasAnswered at ha ⊢
  rwa [hup] at ha

theorem InOrder.forward (h : c.InOrder) (hfinal : c.haveSentFinalResponse = false) :
    c.forward.InOrder := by
  unfold Core.forward
  dsimp only
  split
  · exact h.of_eq rfl rfl fun _ => rfl
  · have hsoft : c.soften.InOrder := h.of_eq rfl rfl id
    exact hsoft.send (.inl (h.unanswered hfinal))

theorem InOrder.success (h : c.InOrder) (hmsg : msg.isSuccess = true) :
    (c.success msg).InOrder := by
  unfold Core.success
  split
  · exact h
  · next hnot =>
    refine InOrder.send (h.of_eq rfl rfl fun _ => rfl) ?_
    by_cases hinvite : c.originalMethod = .invite
    · exact .inr (.inl ⟨hinvite, hmsg⟩)
    · exact .inl (h.unanswered (by simpa [hinvite] using hnot))

end Core

namespace Context
variable {υ : Type*} {s : Context υ} {msg : SipResponse υ}

def InOrder (s : Context υ) : Prop := s.core.InOrder

def hasAnswered (s : Context υ) : Bool := s.core.hasAnswered

theorem InOrder.of_core {s' : Context υ} (h : s.InOrder) (hcore : s'.core = s.core) :
    s'.InOrder := by
  unfold InOrder
  rwa [hcore]

theorem InOrder.send (h : s.InOrder) (hmsg : s.hasAnswered = false ∨
    msg.mayFollow s.originalMethod ∨ msg.method = .cancel) : (s.sendResponse msg).InOrder := by
  unfold InOrder
  rw [core_sendResponse]
  exact Core.InOrder.send h hmsg

theorem InOrder.unanswered (h : s.InOrder) (hfinal : s.haveSentFinalResponse = false) :
    s.hasAnswered = false := Core.InOrder.unanswered h hfinal

theorem InOrder.forward (h : s.InOrder) (hfinal : s.haveSentFinalResponse = false) :
    s.forwardBestResponse.InOrder := by
  unfold InOrder
  rw [core_forwardBestResponse]
  exact Core.InOrder.forward h hfinal

theorem InOrder.forwardIfDone (h : s.InOrder) (hfinal : s.haveSentFinalResponse = false) :
    s.forwardIfDone.InOrder := by
  unfold Context.forwardIfDone
  split
  · exact h.forward hfinal
  · exact h

theorem InOrder.processActiveResponse (h : s.InOrder) :
    (s.processActiveResponse msg).InOrder := by
  have hterm : (s.terminateClientTransaction msg.tid).InOrder :=
    h.of_core (core_terminateClientTransaction s msg.tid)
  refine processActiveResponse_induction (fun _ => ?_) (fun hclass => ?_) (fun _ _ => ?_)
    fun _ => ?_
  · have htimer : (s.startTimerC msg.tid).InOrder := h.of_core (core_startTimerC s msg.tid)
    exact ⟨htimer, fun hfinal _ => htimer.send (.inl (htimer.unanswered hfinal))⟩
  · unfold InOrder
    rw [core_processSuccess]
    exact Core.InOrder.success h (by simpa [SipResponse.isSuccess] using hclass)
  · refine ⟨fun _ => hterm, fun hfinal => InOrder.forwardIfDone ?_ ?_⟩
    · unfold InOrder
      rw [core_keep]
      obtain ⟨kfinal, kmethod, -, kupstream⟩ :=
        Core.keep_frame msg (s.terminateClientTransaction msg.tid).core
      exact Core.InOrder.of_eq hterm kmethod kupstream fun hsent => kfinal.trans hsent
    · exact (congrArg Core.haveSentFinalResponse (core_keep _ msg)).trans
        ((Core.keep_frame msg _).1.trans hfinal)
  · refine h.of_core ?_
    simp [core, upstream, abandoned, Output.upstream, Output.isAbandon]

/-- A 2xx for a branch that is not active is forwarded at any time. -/
theorem InOrder.processResponse (h : s.InOrder)
    (hstray : msg.viaCheck s.originalBranch = .passed → msg.isSuccess = true →
      msg.tid ∉ s.activeTransactionMap →
      s.originalMethod = .invite ∨ s.hasAnswered = false) : (s.processResponse msg).InOrder := by
  unfold Context.processResponse
  split
  · exact h
  · exact h.of_core (core_terminateClientTransaction s msg.tid)
  · next hpass =>
    split
    · exact h.processActiveResponse
    · next hmem =>
      split
      · next hclass =>
        have hsuccess : msg.isSuccess = true := by simpa [SipResponse.isSuccess] using hclass
        rcases hstray hpass hsuccess hmem with hinvite | hno
        · exact h.send (.inr (.inl ⟨hinvite, hsuccess⟩))
        · exact h.send (.inl hno)
      · exact h

theorem InOrder.processCancel (h : s.InOrder) : s.processCancel.InOrder := by
  have hok : (s.sendResponse (.make s.originalTid .cancel 200)).InOrder := h.send (.inr (.inr rfl))
  unfold Context.processCancel
  dsimp only
  split
  · exact hok
  · next hfinal =>
    rw [Bool.not_eq_true] at hfinal
    have hall := hok.of_core
      (core_cancelAllClientTransactions (s.sendResponse (.make s.originalTid .cancel 200)))
    split
    · exact hall
    · refine hall.send (.inl (hall.unanswered ?_))
      exact (congrArg Core.haveSentFinalResponse (core_cancelAllClientTransactions _)).trans hfinal

end Context

/-- The call passes a final response. -/
def Call.answers {υ : Type*} : Call υ → Bool
  | .sendResponse msg => msg.isFinal
  | _ => false

/-- Each response that a processor passes comes before any final one, or may follow it. -/
def SendsInOrder {υ : Type*} (method : Method) : Bool → List (Call υ) → Prop
  | _, [] => True
  | sent, .sendResponse msg :: rest =>
    (sent = false ∨ msg.mayFollow method) ∧ SendsInOrder method (sent || msg.isFinal) rest
  | sent, _ :: rest => SendsInOrder method sent rest

instance SendsInOrder.decide {υ : Type*} (method : Method) :
    (sent : Bool) → (l : List (Call υ)) → Decidable (SendsInOrder method sent l)
  | _, [] => isTrue trivial
  | sent, .sendResponse msg :: rest =>
    have := SendsInOrder.decide method (sent || msg.isFinal) rest
    inferInstanceAs (Decidable (_ ∧ _))
  | sent, .addTarget .. :: rest => SendsInOrder.decide method sent rest
  | sent, .addTargetBatch .. :: rest => SendsInOrder.decide method sent rest
  | sent, .beginClientTransactions :: rest => SendsInOrder.decide method sent rest
  | sent, .beginClientTransaction _ :: rest => SendsInOrder.decide method sent rest
  | sent, .cancelActiveClientTransactions :: rest => SendsInOrder.decide method sent rest
  | sent, .cancelAllClientTransactions :: rest => SendsInOrder.decide method sent rest
  | sent, .clearCandidateTransactions :: rest => SendsInOrder.decide method sent rest
  | sent, .cancelClientTransaction _ :: rest => SendsInOrder.decide method sent rest

/-- The processors of a run pass responses in order, and none raises an exception after a final
response. -/
def ChainRun.SendsInOrder {υ : Type*} (method : Method) (sent : Bool) (run : ChainRun υ) : Prop :=
  Repro.SendsInOrder method sent run.calls ∧
    (run.result = .raised → sent = false ∧ ∀ c ∈ run.calls, c.answers = false)

instance {υ : Type*} (method : Method) (sent : Bool) (run : ChainRun υ) :
    Decidable (run.SendsInOrder method sent) := inferInstanceAs (Decidable (_ ∧ _))

namespace Context
variable {υ : Type*} [BEq υ] {s : Context υ} {run targetChain : ChainRun υ} {chain : ChainType}

omit [BEq υ] in
theorem hasAnswered_send {msg : SipResponse υ} (h : (s.sendResponse msg).hasAnswered = true) :
    s.hasAnswered = true ∨ msg.isFinal = true := by
  unfold hasAnswered at h ⊢
  rw [core_sendResponse] at h
  unfold Core.send at h
  split at h
  · exact .inl h
  · unfold Core.hasAnswered at h ⊢
    rw [List.any_append, Bool.or_eq_true] at h
    rcases h with h | h
    · exact .inl h
    · split at h
      · simp at h
      · exact .inr (by simpa using h)

omit [BEq υ] in
theorem originalMethod_sendResponse (msg : SipResponse υ) :
    (s.sendResponse msg).originalMethod = s.originalMethod := by
  unfold sendResponse
  split <;> rfl

/-- Calls that pass their responses in order. -/
theorem InOrder.calls {result : ChainResult} {l : List (Call υ)} {sent : Bool} (h : s.InOrder)
    (hsent : s.hasAnswered = true → sent = true)
    (hl : SendsInOrder s.originalMethod sent l) : (Context.calls result l s).1.InOrder := by
  induction l generalizing s sent with
  | nil => exact h
  | cons c rest ih =>
    unfold Context.calls
    by_cases hc : c.sends = true
    · cases c with
      | sendResponse msg =>
        obtain ⟨hmsg, hrest⟩ := hl
        have hin : (s.sendResponse msg).InOrder := by
          refine h.send ?_
          rcases hmsg with hno | hfollow
          · refine .inl ?_
            by_contra ha
            rw [hsent (by simpa using ha)] at hno
            cases hno
          · exact .inr (.inl hfollow)
        refine ih hin (fun ha => ?_) (by rwa [originalMethod_sendResponse])
        rcases hasAnswered_send ha with ha | ha
        · simp [hsent ha]
        · simp [ha]
      | _ => cases hc
    · have hcore := core_call (by simpa using hc) s
      have hstep : (s.call c).1.InOrder := h.of_core hcore
      split
      · next heq => rwa [heq] at hstep
      · next s' _ heq =>
        rw [heq] at hstep hcore
        refine ih hstep (fun ha => hsent ?_) ?_
        · unfold hasAnswered at ha ⊢
          rwa [hcore] at ha
        · have hmethod : s'.originalMethod = s.originalMethod := congrArg Core.originalMethod hcore
          rw [hmethod]
          cases c with
          | sendResponse msg => simp [Call.sends] at hc
          | _ => exact hl

/-- Calls that pass no final response. -/
theorem hasAnswered_calls {result : ChainResult} {l : List (Call υ)} (h : s.hasAnswered = false)
    (hl : ∀ c ∈ l, c.answers = false) : (Context.calls result l s).1.hasAnswered = false := by
  refine calls_induction (P := fun s => s.hasAnswered = false) h fun c hc s hs => ?_
  by_cases hsends : c.sends = true
  · cases c with
    | sendResponse msg =>
      change (s.sendResponse msg).hasAnswered = false
      by_contra hne
      rcases hasAnswered_send (eq_true_of_ne_false hne) with ha | ha
      · simp [hs] at ha
      · have := hl _ hc
        simp [Call.answers, ha] at this
    | _ => cases hsends
  · unfold hasAnswered at hs ⊢
    rwa [core_call (by simpa using hsends) s]

theorem InOrder.process (h : s.InOrder) (hrun : run.SendsInOrder s.originalMethod s.hasAnswered) :
    (s.process chain run).1.InOrder := by
  have hcalls : (Context.calls run.result run.calls s).1.InOrder := h.calls id hrun.1
  unfold InOrder
  rw [process_eq]
  exact Core.InOrder.of_eq hcalls rfl rfl id

/-- An exception of such a run comes before any final response. -/
theorem InOrder.process_raised (h : s.InOrder)
    (hrun : run.SendsInOrder s.originalMethod s.hasAnswered)
    (hraised : (s.process chain run).2 = .raised) :
    (s.process chain run).1.hasAnswered = false := by
  rcases Context.process_raised hraised with hresult | hfinal
  · obtain ⟨hsent, hcalls⟩ := hrun.2 hresult
    have hno : (Context.calls run.result run.calls s).1.hasAnswered = false :=
      hasAnswered_calls hsent hcalls
    rw [process_eq]
    exact hno
  · exact (h.process hrun).unanswered hfinal

/-- A silent run passes nothing. -/
theorem InOrder.process_silent (h : s.InOrder) (chain : ChainType) (hrun : run.Silent) :
    (s.process chain run).1.InOrder ∧
      (s.process chain run).1.hasAnswered = s.hasAnswered := by
  have hcore : (s.process chain run).1.core =
      { s.core with pendingChains := (s.process chain run).1.pendingChains } := core_process hrun
  unfold InOrder hasAnswered
  rw [hcore]
  exact ⟨Core.InOrder.of_eq h rfl rfl id, rfl⟩

omit [BEq υ] in
theorem InOrder.catchTargetException (h : s.InOrder) {ret : ChainResult}
    (hraise : ret = .raised → s.hasActiveTransactions = false → s.hasAnswered = false) :
    (s.catchTargetException ret).InOrder := by
  unfold Context.catchTargetException
  split
  · next hr =>
    have hclear := h.of_core (core_clearCandidateTransactions s)
    refine hclear.send (.inl ?_)
    unfold hasAnswered
    rw [core_clearCandidateTransactions]
    exact hraise hr.1 hr.2
  · exact h

omit [BEq υ] in
theorem InOrder.checkTargets {settle : Context υ → Context υ}
    (hsettle : ∀ s : Context υ, s.InOrder → s.haveSentFinalResponse = false → (settle s).InOrder)
    (h : s.InOrder) (ret : ChainResult) : (s.checkTargets settle ret).InOrder := by
  unfold Context.checkTargets
  split
  · next hguard =>
    split
    · exact h.send (.inl (h.unanswered hguard.2.1))
    · exact hsettle s h hguard.2.1
  · exact h

/-- The target chain, when no final response is out where it is to send one. -/
theorem InOrder.runTargetChain {settle : Context υ → Context υ}
    (hsettle : ∀ s : Context υ, s.InOrder → s.haveSentFinalResponse = false → (settle s).InOrder)
    (h : s.InOrder) (hsilent : targetChain.Silent)
    (hnone : s.hasTargets = false → s.hasAnswered = false)
    (hraise : (s.process .targetChain targetChain).2 = .raised →
      (s.process .targetChain targetChain).1.hasActiveTransactions = false →
      s.hasAnswered = false) : (s.runTargetChain settle targetChain).InOrder := by
  obtain ⟨hin, hno⟩ := h.process_silent .targetChain hsilent
  unfold Context.runTargetChain
  split
  · next htargets => exact h.send (.inl (hnone (by simpa using htargets)))
  · exact (hin.catchTargetException fun hr ha => hno.trans (hraise hr ha)).checkTargets hsettle _

theorem InOrder.runRequestChain {settle : Context υ → Context υ} {requestChain : ChainRun υ}
    (hsettle : ∀ s : Context υ, s.InOrder → s.haveSentFinalResponse = false → (settle s).InOrder)
    (h : s.InOrder) (hrun : requestChain.SendsInOrder s.originalMethod s.hasAnswered)
    (hsilent : targetChain.Silent) :
    (s.runRequestChain settle requestChain targetChain).InOrder := by
  have hin : (s.process .requestChain requestChain).1.InOrder := h.process hrun
  have hafter : ((s.process .requestChain requestChain).1.catchRequestException
      (s.process .requestChain requestChain).2).InOrder := by
    unfold Context.catchRequestException
    split
    · next hr => exact hin.send (.inl (h.process_raised hrun hr))
    · exact hin
  unfold Context.runRequestChain
  dsimp only
  split
  · next hguard =>
    have hno := hafter.unanswered hguard.2
    exact hafter.runTargetChain hsettle hsilent (fun _ => hno) fun _ _ => hno
  · exact hafter

omit [BEq υ] in
theorem InOrder.settleResumed (h : s.InOrder) (hfinal : s.haveSentFinalResponse = false) :
    s.settleResumed.InOrder := by
  have hset : ({ s with bestIsResponse := true } : Context υ).InOrder :=
    Core.InOrder.of_eq h rfl rfl id
  unfold Context.settleResumed
  dsimp only
  split
  · exact hset.forward hfinal
  · exact hset

omit [BEq υ] in
theorem InOrder.checkBranches (h : s.InOrder) (msg : SipResponse υ) :
    (s.checkBranches msg).InOrder := by
  unfold Context.checkBranches
  split
  · next hguard =>
    have hno := h.unanswered hguard.1
    split
    · exact h.send (.inl hno)
    · split
      · exact h
      · split
        · exact h.forward hguard.1
        · exact h.send (.inl hno)
  · exact h

theorem InOrder.doPostResponseProcessing {msg : SipResponse υ}
    (h : (s.processResponse msg).InOrder) (hsilent : targetChain.Silent) :
    (s.doPostResponseProcessing msg targetChain).InOrder := by
  obtain ⟨hin, -⟩ := h.process_silent .targetChain hsilent
  unfold Context.doPostResponseProcessing
  dsimp only
  split
  · exact hin
  · exact hin.checkBranches msg

/-- A 2xx on a branch that is not active does not come after a final response to another method
than INVITE. -/
def StrayInOrder (s : Context υ) (msg : SipResponse υ) (responseChain : ChainRun υ) : Prop :=
  msg.method = s.originalMethod → responseChain.result = .continues →
    msg.viaCheck s.originalBranch = .passed → msg.isSuccess = true →
    msg.tid ∉ s.activeTransactionMap → s.originalMethod = .invite ∨ s.hasAnswered = false

instance (s : Context υ) (msg : SipResponse υ) (responseChain : ChainRun υ) :
    Decidable (s.StrayInOrder msg responseChain) := inferInstanceAs (Decidable (_ → _))

theorem InOrder.processResponseTransaction {msg : SipResponse υ} {responseChain : ChainRun υ}
    (h : s.InOrder) (hresponse : responseChain.Silent) (hsilent : targetChain.Silent)
    (hstray : s.StrayInOrder msg responseChain) :
    (s.processResponseTransaction msg responseChain targetChain).InOrder := by
  obtain ⟨hin, hno⟩ := h.process_silent .responseChain hresponse
  have hcore : (s.process .responseChain responseChain).1.core = { s.core with
      pendingChains := (s.process .responseChain responseChain).1.pendingChains } :=
    core_process hresponse
  unfold Context.processResponseTransaction
  split
  · next hmethod =>
    dsimp only
    split
    · next hc =>
      refine InOrder.doPostResponseProcessing (hin.processResponse ?_) hsilent
      intro hpass hsuccess hnot
      have hm := congrArg Core.originalMethod hcore
      have hb := congrArg Core.originalBranch hcore
      change (s.process .responseChain responseChain).1.originalMethod = s.originalMethod at hm
      change (s.process .responseChain responseChain).1.originalBranch = s.originalBranch at hb
      rw [hm, hno]
      rw [hb] at hpass
      exact hstray hmethod (calls_continues hc) hpass hsuccess fun htid => hnot (mem_process htid)
    · exact hin.of_core (core_terminateClientTransaction _ _)
  · exact h

/-- What keeps the answers to one request in order.

* Response and target processors pass no response of their own; request processors pass theirs in
  order and raise no exception after a final one, also when they are resumed.
* A CANCEL finds a target, and an active one if the target processors raise an exception.
* A 2xx on a branch that has ended does not follow a final response to a request other than an
  INVITE. -/
def Orderly (s : Context υ) : Event υ → Prop
  | .request _ requestChain targetChain =>
    requestChain.SendsInOrder s.originalMethod s.hasAnswered ∧ targetChain.Silent
  | .cancel targetChain => s.originalMethod = .invite → targetChain.Silent ∧
      s.hasTargets = true ∧ (targetChain.result = .raised → s.hasActiveTransactions = true)
  | .response msg responseChain targetChain =>
    responseChain.Silent ∧ targetChain.Silent ∧ s.StrayInOrder msg responseChain
  | .timerC _ _ responseChain targetChain => responseChain.Silent ∧ targetChain.Silent
  | .processorMessage .requestChain run targetChain =>
    run.SendsInOrder s.originalMethod s.hasAnswered ∧ targetChain.Silent
  | .processorMessage .responseChain run targetChain => run.Silent ∧ targetChain.Silent
  | .processorMessage .targetChain run _ => run.Silent
  | .ack .. | .transactionTerminated .. | .ack200Done => True

instance (s : Context υ) : (e : Event υ) → Decidable (s.Orderly e)
  | .request .. => inferInstanceAs (Decidable (_ ∧ _))
  | .cancel _ => inferInstanceAs (Decidable (_ → _))
  | .response .. => inferInstanceAs (Decidable (_ ∧ _))
  | .timerC .. => inferInstanceAs (Decidable (_ ∧ _))
  | .processorMessage .requestChain .. => inferInstanceAs (Decidable (_ ∧ _))
  | .processorMessage .responseChain .. => inferInstanceAs (Decidable (_ ∧ _))
  | .processorMessage .targetChain run _ => inferInstanceAs (Decidable run.Silent)
  | .ack .. => isTrue trivial
  | .transactionTerminated .. => isTrue trivial
  | .ack200Done => isTrue trivial

section Cancel

omit [BEq υ] in
theorem hasActive_processCancel (h : s.hasActiveTransactions = true) :
    s.processCancel.hasActiveTransactions = true := by
  have hok : (s.sendResponse (.make s.originalTid .cancel 200)).hasActiveTransactions = true := by
    unfold sendResponse
    split <;> exact h
  unfold Context.processCancel
  dsimp only
  split
  · exact hok
  · have hall : (s.sendResponse (.make s.originalTid .cancel
        200)).cancelAllClientTransactions.hasActiveTransactions = true := by
      rw [hasActiveTransactions_iff] at hok ⊢
      obtain ⟨tid, htid⟩ := hok
      exact ⟨tid, mem_cancelAllClientTransactions.2 htid⟩
    rw [if_pos hall]
    exact hall

omit [BEq υ] in
/-- Cleared candidates are terminated targets. -/
theorem hasTerminated_clear (h : s.candidateTransactionMap.isEmpty = false ∨
    s.hasTerminatedTransactions = true) :
    s.clearCandidateTransactions.hasTerminatedTransactions = true := by
  have hfold : ∀ (l : List (Data × Target υ)) (m : TransactionMap υ),
      l ≠ [] ∨ m.isEmpty = false →
      (l.foldl (fun m p => m.insert p.2.tid p.2.cancel) m).isEmpty = false := by
    intro l
    induction l with
    | nil => exact fun m hm => hm.resolve_left fun h => h rfl
    | cons p rest ih => exact fun m _ => ih _ (.inr Std.TreeMap.isEmpty_insert)
  unfold hasTerminatedTransactions clearCandidateTransactions
  dsimp only
  rw [hfold]
  · rfl
  · rcases h with h | h
    · left
      intro hnil
      rw [← Std.TreeMap.isEmpty_toList, hnil] at h
      cases h
    · right
      simpa [hasTerminatedTransactions] using h

omit [BEq υ] in
theorem hasTerminated_cancelAll (h : s.candidateTransactionMap.isEmpty = false ∨
    s.hasTerminatedTransactions = true) :
    s.cancelAllClientTransactions.hasTerminatedTransactions = true := by
  unfold cancelAllClientTransactions
  split
  · next hempty =>
    rcases h with h | h
    · simp [h] at hempty
    · exact h
  · split
    · exact hasTerminated_clear h
    · exact hasTerminated_clear h

omit [BEq υ] in
/-- A CANCEL that finds a target leaves one. -/
theorem hasTargets_processCancel (h : s.hasTargets = true) : s.processCancel.hasTargets = true := by
  have hok : (s.sendResponse (.make s.originalTid .cancel 200)).maps = s.maps ∧
      (s.sendResponse (.make s.originalTid .cancel 200)).haveSentFinalResponse =
        s.haveSentFinalResponse := by
    unfold sendResponse
    split
    · exact ⟨rfl, rfl⟩
    · exact ⟨rfl, by simp [SipResponse.isFinal, SipResponse.make]⟩
  unfold Context.processCancel
  generalize s.sendResponse (.make s.originalTid .cancel 200) = s₁ at hok
  obtain ⟨hmaps, hfinal⟩ := hok
  have htargets : s₁.hasTargets = true := by
    simp only [maps, Prod.mk.injEq] at hmaps
    unfold hasTargets hasCandidateTransactions hasActiveTransactions hasTerminatedTransactions at h ⊢
    rwa [hmaps.1, hmaps.2.1, hmaps.2.2, hfinal]
  dsimp only
  split
  · exact htargets
  · next hsent =>
    split
    · next hactive => simp [hasTargets, hactive]
    · next hactive =>
      have hterm : s₁.cancelAllClientTransactions.hasTerminatedTransactions = true := by
        refine hasTerminated_cancelAll ?_
        have hidle : s₁.hasActiveTransactions = false := by
          by_contra hne
          obtain ⟨tid, htid⟩ := hasActiveTransactions_iff.1 (eq_true_of_ne_false hne)
          exact hactive (hasActiveTransactions_iff.2 ⟨tid, mem_cancelAllClientTransactions.2 htid⟩)
        simp only [hasTargets, hidle, Bool.or_false, Bool.or_eq_true] at htargets
        rcases htargets with hcand | hterm
        · left
          simpa [hasCandidateTransactions, hsent] using hcand
        · exact .inr hterm
      unfold sendResponse
      split <;> simp [hasTargets, hasTerminatedTransactions] at hterm ⊢ <;> simp [hterm]

end Cancel

/-- The main step: an orderly event keeps the answers in order. -/
theorem InOrder.step {e : Event υ} (h : s.InOrder)
    (hfresh : s.received = false → s.hasAnswered = false) (he : s.accepts e)
    (ho : s.Orderly e) : (s.step e).InOrder := by
  cases e with
  | request route requestChain targetChain =>
    have hin : ({ s with received := true } : Context υ).InOrder := Core.InOrder.of_eq h rfl rfl id
    have hno := hfresh he.2.1
    cases route with
    | done => exact hin.runRequestChain (fun _ => .forward) ho.1 ho.2
    | parseException => exact hin.send (.inl hno)
    | baseException => exact hin.send (.inl hno)
  | ack route forwards =>
    have hin : ({ s with received := true } : Context υ).InOrder := Core.InOrder.of_eq h rfl rfl id
    change (if _ then _ else Context.processRequestAckTransaction _ _ _ : Context υ).InOrder
    split
    · exact hin.of_core (core_append rfl rfl _)
    · exact hin.of_core (core_processRequestAckTransaction _ _ _)
  | cancel targetChain =>
    change (s.processCancelRequest targetChain).InOrder
    unfold processCancelRequest
    split
    · exact h.of_core (core_append rfl rfl s)
    · next hmethod =>
      obtain ⟨hsilent, htargets, hraise⟩ := ho hmethod
      refine h.processCancel.runTargetChain (fun _ => .forward) hsilent (fun hnone => ?_)
        fun hr hidle => ?_
      · simp [hasTargets_processCancel htargets] at hnone
      · rcases Context.process_raised hr with hresult | hfinal
        · have hactive : (s.processCancel.process .targetChain
              targetChain).1.hasActiveTransactions = true :=
            hasActive_process (hasActive_processCancel (hraise hresult))
          simp [hactive] at hidle
        · exact h.processCancel.unanswered ((final_process hsilent).symm.trans hfinal)
    · exact h.of_core (core_append rfl rfl s)
  | response msg responseChain targetChain => exact h.processResponseTransaction ho.1 ho.2.1 ho.2.2
  | timerC tid serial responseChain targetChain =>
    have hin := h.of_core (core_processTimerC tid serial s)
    change (s.processTimerCMessage tid serial responseChain targetChain).InOrder
    unfold processTimerCMessage
    split
    · next s₁ msg heq =>
      rw [heq] at hin
      refine hin.processResponseTransaction ho.1 ho.2 fun _ _ _ hsuccess => ?_
      rw [processTimerC_response (congrArg Prod.snd heq)] at hsuccess
      cases hsuccess
    · next heq => rwa [heq] at hin
  | processorMessage chain run targetChain =>
    have hin : (s.resume chain).InOrder := Core.InOrder.of_eq h rfl rfl id
    cases chain with
    | requestChain => exact hin.runRequestChain (fun _ => .settleResumed) ho.1 ho.2
    | responseChain =>
      change ((s.resume .responseChain).resumeResponseChain run targetChain).InOrder
      unfold resumeResponseChain
      have hresponse := (hin.process_silent .responseChain ho.1).1
      dsimp only
      split
      · exact hresponse
      · exact (hresponse.process_silent .targetChain ho.2).1
    | targetChain => exact (hin.process_silent .targetChain ho).1
  | transactionTerminated isClientTransaction tid =>
    exact h.of_core (core_processTransactionTerminated _ _ s)
  | ack200Done => exact Core.InOrder.of_eq h rfl rfl id

/-- In a run of orderly events one final answer goes upstream. -/
theorem one_final_response {method : Method} {tid branch : Data} {s : Context υ}
    (h : Reach (system method tid branch) Orderly s) : OneFinal method s.upstream := by
  have hinv : s.InOrder ∧ (s.received = false → s.hasAnswered = false) ∧
      s.originalMethod = method := by
    refine Reach.invariant (P := fun s : Context υ => s.InOrder ∧
      (s.received = false → s.hasAnswered = false) ∧ s.originalMethod = method) ?_ ?_ h
    · rintro s rfl
      exact ⟨⟨List.Pairwise.nil, fun ha => by cases ha⟩, fun _ => rfl, rfl⟩
    · intro s e _ hs he ho
      have hreq := request_step he
      refine ⟨hs.1.step hs.2.1 he ho, fun hr => ?_, ?_⟩
      · have hreceived : (s.step e).received = true := congrArg Request.received hreq
        change (s.step e).received = false at hr
        simp [hreceived] at hr
      · exact (congrArg Request.method hreq).trans hs.2.2
  rw [← hinv.2.2]
  exact hinv.1.oneFinal

section Example

def idle : ChainRun ℕ := ⟨[], .continues⟩

/-- A target that is offered and started by the processors. -/
def oneTarget : Target ℕ := ⟨[1], ⟨0, [], 1⟩, .candidate, true, true⟩

def forkOne : Event ℕ :=
  .request .done ⟨[.addTarget oneTarget false true], .continues⟩
    ⟨[.beginClientTransactions], .skipsAllChains⟩

/-- The 487 of a cancelled branch. -/
def terminated487 : SipResponse ℕ :=
  { SipResponse.make [1] .invite 487 with nextVia := .wellFormed [98] }

theorem one_final_response_cancelled :
    OneFinal .invite ([forkOne, .cancel idle, .response terminated487 idle idle].foldl step
      (.new .invite [105] [98])).upstream :=
  one_final_response (Reach.run (.init rfl) _ (by decide))

end Example

/-- A CANCEL while a request processor waits for an event: a 487 and a 480. -/
theorem not_one_final_response : ¬ ∀ s : Context ℕ,
    Reach (system .invite [105] [98]) anyStep s → OneFinal .invite s.upstream := by
  intro h
  have hrun := h _ (Reach.run (.init rfl)
    [.request .done ⟨[], .waitsForEvent⟩ idle, .cancel idle] (by decide))
  have hup : ([.request .done ⟨[], .waitsForEvent⟩ idle, .cancel idle].foldl step
      (.new .invite [105] [98])).upstream =
      [.make [105] .invite 487, .make [105] .invite 480] := rfl
  change OneFinal .invite (List.foldl step _ _).upstream at hrun
  rw [hup] at hrun
  have hsecond := (List.pairwise_cons.1 hrun).1 _ (List.mem_singleton.2 rfl) (by decide)
  exact absurd hsecond (by decide)

end Context
end Resiprocate.Repro
