import Resiprocate.ServerSessionRuns
import Resiprocate.ClientInviteSession

/-! ACKs in the states of a session. An ACK is answered where any request without a case of its own is. -/
namespace Resiprocate.Dum
open TransitionSystem ProgramLogic

def RequestRef.isInvite : RequestRef → Bool
  | .first => true
  | .later request => request.method = .invite

/-- A response to the request, or a final response to an INVITE. -/
def Effect.answers {γ : Type*} (msg : SessionMessage γ) : Effect γ → Bool
  | .response r => r.request = msg.ref || (200 ≤ r.statusCode && r.request.isInvite)
  | _ => false

/-- The early states of the callee, where a request that is not expected ends the session. -/
def SessionState.early : SessionState → Bool
  | .UAS_Offer | .UAS_OfferProvidedAnswer | .UAS_EarlyOffer | .UAS_EarlyProvidedAnswer | .UAS_NoOffer
  | .UAS_ProvidedOffer | .UAS_EarlyNoOffer | .UAS_EarlyProvidedOffer | .UAS_OfferReliable
  | .UAS_OfferReliableProvidedAnswer | .UAS_NoOfferReliable | .UAS_ProvidedOfferReliable
  | .UAS_FirstSentOfferReliable | .UAS_FirstSentAnswerReliable | .UAS_NoAnswerReliableWaitingPrack
  | .UAS_NegotiatedReliable | .UAS_NoAnswerReliable | .UAS_SentUpdate | .UAS_SentUpdateAccepted
  | .UAS_SentUpdateGlare | .UAS_ReceivedUpdate | .UAS_ReceivedUpdateWaitingAnswer => true
  | _ => false

/-- The states in which both sides answer every request. -/
def SessionState.over : SessionState → Bool
  | .WaitingToTerminate | .Terminated => true
  | _ => false

/-- The answers in a trace. -/
def answersTo {γ : Type*} (msg : SessionMessage γ) (trace : List (Effect γ)) : List (Effect γ) :=
  trace.filter (·.answers msg)

/-- Nothing that has been sent answers the request or an INVITE. -/
def Silent {γ : Type*} (msg : SessionMessage γ) (trace trace' : List (Effect γ)) : Prop :=
  answersTo msg trace' = answersTo msg trace

section
variable {γ : Type*} (msg : SessionMessage γ) (trace : List (Effect γ))

@[simp] lemma answersTo_callback (c : Callback γ) : answersTo msg (.callback c :: trace) = answersTo msg trace := rfl

@[simp] lemma answersTo_request (method : Transaction.MethodTypes) (sequence : ℕ) (body : Option γ) :
    answersTo msg (.request method sequence body :: trace) = answersTo msg trace := rfl

@[simp] lemma answersTo_exception : answersTo msg (.exception :: trace) = answersTo msg trace := rfl

lemma answersTo_ref (statusCode : ℕ) (body : Option γ) (rSeq : Option ℕ) :
    answersTo msg (.response ⟨msg.ref, statusCode, body, rSeq⟩ :: trace) =
      .response ⟨msg.ref, statusCode, body, rSeq⟩ :: answersTo msg trace := by
  simp [answersTo, Effect.answers]

lemma answersTo_first {statusCode : ℕ} (h : 200 ≤ statusCode) (body : Option γ) (rSeq : Option ℕ) :
    answersTo msg (.response ⟨.first, statusCode, body, rSeq⟩ :: trace) =
      .response ⟨.first, statusCode, body, rSeq⟩ :: answersTo msg trace := by
  simp [answersTo, Effect.answers, RequestRef.isInvite, h]

end

namespace InviteSession
variable {γ : Type*} {b : InviteSession γ} {msg : SessionMessage γ}

lemma toEvent_ack (hm : msg.method = .ack) (hr : msg.isRequest) (b : InviteSession γ) :
    b.toEvent msg = .OnAck ∨ b.toEvent msg = .OnAckAnswer := by
  have hcode : msg.statusCode = 0 := by simpa [SessionMessage.isRequest] using hr
  simp only [toEvent, hm, hcode]
  cases msg.body <;> simp

lemma provideOffer_silent (offer : γ) (hs : b.mState ≠ .ReceivedReinviteNoOffer) :
    Yields (b.provideOffer offer) fun b' => Silent msg b.trace b'.trace := by
  simp only [provideOffer]
  split
  case h_5 hst => exact absurd hst hs
  all_goals simp [Silent]

lemma requestOffer_silent : Yields b.requestOffer fun b' => Silent msg b.trace b'.trace := by
  simp only [requestOffer]
  split <;> simp [Silent]

lemma setCurrentLocalOfferAnswer_trace :
    Yields b.setCurrentLocalOfferAnswer fun b' => b'.trace = b.trace := by
  simp only [setCurrentLocalOfferAnswer]
  split <;> simp

/-- In all other states the base class keeps silent. -/
lemma dispatch_silent [DecidableEq γ] (hm : msg.method = .ack) (hr : msg.isRequest)
    (hs : b.mState.over = false) : Yields (b.dispatch msg) fun b' => Silent msg b.trace b'.trace := by
  have hothers : b.dispatchOthers msg = .ok b := by simp [dispatchOthers, hm]
  have hevent := toEvent_ack hm hr b
  simp only [dispatch, hm, reduceCtorEq, false_and, if_false]
  split
  case h_12 hst =>
    rcases hevent with he | he
    · simp only [dispatchReceivedReinviteSentOffer, he]
      split_ifs <;> simp [Silent]
    · simp only [dispatchReceivedReinviteSentOffer, he]
      refine Yields.bind_iff.mpr (setCurrentLocalOfferAnswer_trace.weaken fun b' hb => ?_)
      simp_all [Silent]
  case h_14 hst =>
    simp only [dispatchWaitingToOffer, hm, hr, and_self, if_true, provideProposedOffer, Yields.bind_iff]
    exact fun offer _ => provideOffer_silent offer (by simp [hst])
  case h_15 hst =>
    simp only [dispatchWaitingToRequestOffer, hm, hr, and_self, if_true]
    exact requestOffer_silent
  case h_16 hst | h_18 hst => simp [hst, SessionState.over] at hs
  case h_17 hst => rcases hevent with he | he <;> simp [dispatchWaitingToHangup, he, Silent]
  case h_19 => exact Yields.of_error _
  all_goals rcases hevent with he | he <;>
    simp [dispatchConnected, dispatchSentUpdate, dispatchSentReinvite, dispatchSentReinviteNoOffer,
      dispatchReinviteResponse, dispatchSentReinviteAnswered, dispatchGlare, dispatchReceivedUpdateOrReinvite,
      dispatchAnswered, he, hm, hr, hothers, Silent]

/-- The ACK itself is answered. -/
lemma not_dispatch_silent [DecidableEq γ] (hm : msg.method = .ack) (hr : msg.isRequest)
    (hs : b.mState.over) : ¬Yields (b.dispatch msg) fun b' => Silent msg b.trace b'.trace := by
  have hover : b.mState = .WaitingToTerminate ∨ b.mState = .Terminated := by
    cases h : b.mState <;> simp [h, SessionState.over] at hs ⊢
  rcases hover with h | h
  · simp [dispatch, h, hm, hr, dispatchWaitingToTerminate, Silent, answersTo_ref]
  · simp [dispatch, h, hm, hr, dispatchTerminated, Silent, answersTo_ref]

end InviteSession

namespace ServerInviteSession
variable {γ : Type*} {s : ServerInviteSession γ} {msg : SessionMessage γ}

lemma toEvent_ack (hm : msg.method = .ack) (hr : msg.isRequest) (s : ServerInviteSession γ) :
    s.toEvent msg = .OnAck ∨ s.toEvent msg = .OnAckAnswer :=
  InviteSession.toEvent_ack hm hr s.toInviteSession

lemma dispatch_early [DecidableEq γ] (hm : msg.method = .ack) (hr : msg.isRequest) (hs : s.mState.early) :
    s.dispatch msg = .ok (s.dispatchUnknown msg) := by
  have hunknown : s.dispatchUnknownRequest msg = s.dispatchUnknown msg := if_pos hr
  simp only [dispatch, hm, reduceCtorEq, or_self, and_false, if_false]
  split
  case h_1 hst | h_15 hst | h_16 hst | h_17 hst | h_18 hst | h_26 hst => simp [hst, SessionState.early] at hs
  case h_29 => simp_all [SessionState.early]
  all_goals rcases toEvent_ack hm hr s with he | he <;>
    simp [dispatchOfferOrEarly, dispatchOfferReliableProvidedAnswer, dispatchFirstSentAnswerReliable,
      dispatchNoAnswerReliableWaitingPrack, dispatchFirstSentOfferReliable, dispatchReceivedUpdate,
      dispatchReceivedUpdateWaitingAnswer, dispatchSentUpdate, dispatchSentUpdateGlare, dispatchSentUpdateAccepted,
      dispatchNegotiatedReliable, he, hunknown]

lemma provideOffer_unheard (offer : γ) (sendOfferAtAccept : Bool) (hs : s.mState ≠ .ReceivedReinviteNoOffer) :
    Yields (s.provideOffer offer sendOfferAtAccept) fun s' => Silent msg s.trace s'.trace := by
  unfold provideOffer
  split
  case h_24 => exact Yields.map_iff.mpr (InviteSession.provideOffer_silent offer hs)
  case h_4 =>
    simp only [sendUpdate]
    split_ifs <;> simp [Silent]
  all_goals simp [Silent]

lemma dispatch_unheard [DecidableEq γ] (hm : msg.method = .ack) (hr : msg.isRequest)
    (he : s.mState.early = false) (hs : s.mState.over = false) :
    Yields (s.dispatch msg) fun s' => Silent msg s.trace s'.trace := by
  have hevent := toEvent_ack hm hr s
  simp only [dispatch, hm, reduceCtorEq, or_self, and_false, if_false]
  split
  case h_1 => rcases hevent with h | h <;> simp_all [dispatchStart, InviteSession.toEvent]
  case h_15 => rcases hevent with h | h <;> simp [dispatchAccepted, h, Silent]
  case h_16 hst =>
    rcases hevent with h | h
    · simp only [dispatchWaitingToOffer, h, provideProposedOffer]
      split
      · refine Yields.bind_iff.mpr fun offer _ => provideOffer_unheard offer false ?_
        simp [hst]
      · exact Yields.of_error _
    · simp [dispatchWaitingToOffer, h, Silent]
  case h_17 hst =>
    rcases hevent with h | h
    · have hbase : (s.onBase (·.stop200)).requestOffer =
          s.inherited s.toInviteSession.stop200.requestOffer := by simp [requestOffer, hst]
      simp only [dispatchWaitingToRequestOffer, h, hbase]
      exact Yields.map_iff.mpr InviteSession.requestOffer_silent
    · simp [dispatchWaitingToRequestOffer, h, Silent]
  case h_18 =>
    rcases hevent with h | h
    · simp [dispatchAcceptedWaitingAnswer, h, Silent]
    · simp only [dispatchAcceptedWaitingAnswer, h]
      refine Yields.bind_iff.mpr fun answer _ => Yields.bind_iff.mpr ?_
      refine (receiveAnswer_spec _ answer).weaken ?_
      rintro _ ⟨offer, -, rfl⟩
      simp [Silent]
  case h_26 => rcases hevent with h | h <;> simp [dispatchWaitingToHangup, InviteSession.dispatchWaitingToHangup, h, Silent]
  case h_29 => exact Yields.map_iff.mpr (InviteSession.dispatch_silent hm hr hs)
  all_goals rename_i hst; simp [hst, SessionState.early] at he

/-- The session answers the ACK, and the INVITE with a failure. -/
lemma not_dispatch_silent [DecidableEq γ] (hm : msg.method = .ack) (hr : msg.isRequest)
    (hs : s.mState.early ∨ s.mState.over) :
    ¬Yields (s.dispatch msg) fun s' => Silent msg s.trace s'.trace := by
  rcases hs with hs | hs
  · rw [dispatch_early hm hr hs]
    intro hsilent
    have hlength := congrArg List.length (hsilent _ rfl)
    simp [dispatchUnknown, answersTo_ref, answersTo_first] at hlength
    omega
  · have hbase : s.dispatch msg = s.inherited (s.toInviteSession.dispatch msg) := by
      cases h : s.mState <;> simp [h, SessionState.over] at hs <;> simp [dispatch, h, hm]
    rw [hbase]
    exact fun hsilent => InviteSession.not_dispatch_silent hm hr hs fun b hb => hsilent _ (by rw [hb]; rfl)

end ServerInviteSession

namespace ClientInviteSession
variable {γ : Type*} {s : ClientInviteSession γ} {msg : SessionMessage γ}

lemma dispatch_ack [DecidableEq γ] (hm : msg.method = .ack) (s : ClientInviteSession γ) :
    s.dispatch msg = s.dispatchByState msg := by
  have hrseq : s.isBadRseq msg = (false, s.mRelRespInfo) := by
    unfold isBadRseq
    split <;> simp [hm]
  simp [dispatch, hrseq, hm]

lemma dispatch_silent [DecidableEq γ] (hm : msg.method = .ack) (hr : msg.isRequest)
    (hc : s.mState ≠ .UAC_Cancelled) (hs : s.mState.over = false) :
    Yields (s.dispatch msg) fun s' => Silent msg s.trace s'.trace := by
  have hevent : s.toEvent msg = .OnAck ∨ s.toEvent msg = .OnAckAnswer :=
    InviteSession.toEvent_ack hm hr s.toInviteSession
  rw [dispatch_ack hm, dispatchByState]
  split
  case h_1 => simp [dispatchStart, hr]
  case h_11 hst => exact absurd hst hc
  case h_12 => exact Yields.map_iff.mpr (InviteSession.dispatch_silent hm hr hs)
  all_goals rcases hevent with h | h <;>
    simp [dispatchEarly, dispatchEarlyWithOffer, dispatchEarlyWithAnswer, dispatchAnswered, dispatchSentUpdateEarly,
      dispatchSentUpdateEarlyGlare, dispatchReceivedUpdateEarly, dispatchSentAnswer, dispatchQueuedUpdate, h, Silent]

lemma not_dispatch_silent [DecidableEq γ] (hm : msg.method = .ack) (hr : msg.isRequest)
    (hs : s.mState = .UAC_Cancelled ∨ s.mState.over) :
    ¬Yields (s.dispatch msg) fun s' => Silent msg s.trace s'.trace := by
  rw [dispatch_ack hm, dispatchByState]
  rcases hs with hs | hs
  · have hevent : s.toEvent msg = .OnAck ∨ s.toEvent msg = .OnAckAnswer :=
      InviteSession.toEvent_ack hm hr s.toInviteSession
    rcases hevent with h | h <;> simp [hs, dispatchCancelled, h, hr, Silent, answersTo_ref]
  · have hbase : s.dispatchByState msg = s.inherited (s.toInviteSession.dispatch msg) := by
      cases h : s.mState <;> simp [h, SessionState.over] at hs <;> simp [dispatchByState, h]
    rw [← dispatchByState, hbase]
    exact fun hsilent => InviteSession.not_dispatch_silent hm hr hs fun b hb => hsilent _ (by rw [hb]; rfl)

end ClientInviteSession

/-- A session answers an ACK, or an INVITE because of it, exactly in the early states of the callee, when the
caller has cancelled, and when the session is over or about to end. -/
theorem ack_unanswered_iff {γ : Type*} [DecidableEq γ] (msg : SessionMessage γ) (hm : msg.method = .ack)
    (hr : msg.isRequest) :
    (∀ s : ServerInviteSession γ, Yields (s.dispatch msg) (fun s' => Silent msg s.trace s'.trace) ↔
      s.mState.early = false ∧ s.mState.over = false) ∧
    ∀ s : ClientInviteSession γ, Yields (s.dispatch msg) (fun s' => Silent msg s.trace s'.trace) ↔
      s.mState ≠ .UAC_Cancelled ∧ s.mState.over = false := by
  constructor
  · intro s
    constructor
    · intro h
      by_contra hs
      refine ServerInviteSession.not_dispatch_silent hm hr ?_ h
      cases he : s.mState.early <;> simp_all
    · rintro ⟨he, hs⟩
      exact ServerInviteSession.dispatch_unheard hm hr he hs
  · intro s
    constructor
    · intro h
      by_contra hs
      refine ClientInviteSession.not_dispatch_silent hm hr ?_ h
      by_cases hc : s.mState = .UAC_Cancelled <;> simp_all
    · rintro ⟨hc, hs⟩
      exact ClientInviteSession.dispatch_silent hm hr hc hs

/-- The ACK of a 200 in the state that waits for it. -/
theorem ack_unanswered_accepted :
    let accepted := [.resume, .provideAnswer 2, .accept 200].foldl (ServerInviteSession.runs ℕ).next
      (ServerInviteSession.started .Never (some 1))
    Yields (accepted.dispatch (.plain .ack 1 none)) fun s' =>
      Silent (.plain .ack 1 none) accepted.trace s'.trace :=
  ((ack_unanswered_iff (.plain .ack 1 none) rfl rfl).1 _).mpr (by decide)

/-- The ACK for a retransmission of the 200, after the session has been ended. -/
theorem not_ack_unanswered :
    ¬∀ s msg, Reach (ServerInviteSession.runs ℕ) anyStep s → msg.method = .ack → msg.isRequest →
      Yields (s.dispatch msg) fun s' => Silent msg s.trace s'.trace := by
  intro h
  let ack : SessionMessage ℕ := .plain .ack 1 none
  have hreach := ServerInviteSession.reach_started.run [.resume, .provideAnswer 2, .accept 200, .message ack,
    .endSession] (by decide : Permitted _ anyStep (ServerInviteSession.started .Never (some 1)) _)
  have hsilent := h _ ack hreach rfl rfl _ rfl
  exact absurd hsilent (by unfold Silent; decide)

end Resiprocate.Dum
