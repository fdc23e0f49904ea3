import Resiprocate.AckUnanswered

/-! What the functions of the base class do to the timers of a session, to the retransmission of its 2xx and
to its reliable provisionals. -/
namespace Resiprocate.Dum
open ProgramLogic
open Transaction (MethodTypes)

/-- The states of the base class. -/
def SessionState.shared : SessionState → Bool
  | .Connected | .SentUpdate | .SentUpdateGlare | .SentReinvite | .SentReinviteGlare
  | .SentReinviteNoOffer | .SentReinviteAnswered | .SentReinviteNoOfferGlare | .ReceivedUpdate
  | .ReceivedReinvite | .ReceivedReinviteNoOffer | .ReceivedReinviteSentOffer | .Answered
  | .WaitingToOffer | .WaitingToRequestOffer | .WaitingToTerminate | .WaitingToHangup | .Terminated => true
  | _ => false

/-- The states that are left when the ACK of a 2xx comes. -/
def SessionState.awaitsAck : SessionState → Bool
  | .Answered | .WaitingToOffer | .WaitingToRequestOffer | .ReceivedReinviteSentOffer | .WaitingToHangup
  | .UAS_Accepted | .UAS_WaitingToOffer | .UAS_WaitingToRequestOffer | .UAS_AcceptedWaitingAnswer
  | .UAS_WaitingToHangup => true
  | _ => false

def SessionState.hangsUp : SessionState → Bool
  | .WaitingToHangup | .UAS_WaitingToHangup => true
  | _ => false

/-- The states that are left when the response to a re-INVITE comes. -/
def SessionState.reinvites : SessionState → Bool
  | .SentReinvite | .SentReinviteNoOffer | .WaitingToTerminate => true
  | _ => false

/-- The rests of handlers that lead back to a state before the 2xx. -/
@[simp] def Frame.returns {γ : Type*} : Frame γ → Bool
  | .offerInPrack _ _ | .negotiatedReliable _ => true
  | _ => false

@[simp] def Frame.isGlare {γ : Type*} : Frame γ → Bool
  | .glare _ => true
  | _ => false

@[simp] def Frame.isAck {γ : Type*} : Frame γ → Bool
  | .glare msg => msg.method = .ack
  | _ => false

/-! ### Reliable provisionals -/

/-- The reliable responses to the first INVITE, the latest first. -/
def reliable {γ : Type*} (trace : List (Effect γ)) : List (SentResponse γ) :=
  (firstResponses trace).filter (·.rSeq.isSome)

section
variable {γ : Type*} (trace : List (Effect γ))

@[simp] lemma reliable_callback (c : Callback γ) : reliable (.callback c :: trace) = reliable trace := rfl

@[simp] lemma reliable_request (method : MethodTypes) (sequence : ℕ) (body : Option γ) :
    reliable (.request method sequence body :: trace) = reliable trace := rfl

@[simp] lemma reliable_exception : reliable (.exception :: trace) = reliable trace := rfl

lemma reliable_response {r : SentResponse γ} (h : r.rSeq = none) :
    reliable (.response r :: trace) = reliable trace := by
  rw [reliable, firstResponses_response]
  split_ifs <;> simp [reliable, h]

@[simp] lemma reliable_plain (request : RequestRef) (statusCode : ℕ) (body : Option γ) :
    reliable (.response ⟨request, statusCode, body, none⟩ :: trace) = reliable trace :=
  reliable_response trace rfl

end

namespace InviteSession
variable {γ : Type*}

/-- The timers that a state waits for are pending. -/
structure Waits (b : InviteSession γ) : Prop where
  ack : b.mState.awaitsAck → b.mCurrentRetransmit200 →
    ⟨.WaitForAck, b.mLastRemoteSessionModification.2, 0⟩ ∈ b.timers
  hangUp : b.mState.hangsUp → b.mCurrentRetransmit200
  reinvite : b.mState.reinvites → ⟨.StaleReInvite, b.mStaleReInviteTimerSeq, 0⟩ ∈ b.timers

/-- The pending timers for the retransmission of the 2xx. -/
def retransmissions (b : InviteSession γ) : List SessionTimer := b.timers.filter (·.type = .Retransmit200)

/-- The 2xx is no reliable provisional. -/
def Plain (b : InviteSession γ) : Prop := ∀ r, b.mInvite200 = some r → r.rSeq = none

/-- What a function of the base class does. It stops the retransmission of a 2xx, sends another one, or leaves
a rest of itself only if it is said to. -/
@[mk_iff] structure Turns (stops starts suspends : Prop) (b b' : InviteSession γ) : Prop where
  waits : b.Waits → b'.Waits
  reliable : reliable b'.trace = reliable b.trace
  plain : b.Plain → b'.Plain
  retransmission : (b'.mCurrentRetransmit200 = b.mCurrentRetransmit200 ∧ b'.mInvite200 = b.mInvite200 ∧
      b'.retransmissions = b.retransmissions) ∨
    (stops ∧ b'.mCurrentRetransmit200 = false ∧ b'.mInvite200 = b.mInvite200 ∧
      b'.retransmissions = b.retransmissions) ∨
    (starts ∧ b'.mCurrentRetransmit200 = true ∧ b'.mInvite200.isSome ∧
      ∃ t, b'.retransmissions = t :: b.retransmissions)
  shared : b'.mState = b.mState ∨ b'.mState.shared
  parked : b.mState.early ∨ b.mState = .Terminated →
    b'.mState = b.mState ∧ (b'.mCurrentRetransmit200 → b.mCurrentRetransmit200)
  frames : b'.frames = b.frames ∨ suspends ∧ ∃ f, b'.frames = f :: b.frames ∧ f.returns = false ∧
    f.isAck = false ∧ (f.isGlare → b'.mState.shared)

variable {b b' : InviteSession γ} {msg : SessionMessage γ} {stops starts suspends : Prop}

lemma Turns.refl : b.Turns stops starts suspends b :=
  ⟨id, rfl, id, .inl ⟨rfl, rfl, rfl⟩, .inl rfl, fun _ => ⟨rfl, id⟩, .inl rfl⟩

lemma Turns.mono {stops' starts' suspends' : Prop} (h : b.Turns stops starts suspends b')
    (hstops : stops → stops') (hstarts : starts → starts') (hsuspends : suspends → suspends') :
    b.Turns stops' starts' suspends' b' :=
  ⟨h.waits, h.reliable, h.plain, h.retransmission.imp_right (.imp (.imp_left hstops) (.imp_left hstarts)),
    h.shared, h.parked, h.frames.imp_right (.imp_left hsuspends)⟩

/-- A function that does nothing of the kind may follow. -/
lemma Turns.trans {b₁ : InviteSession γ} (h : b.Turns stops starts False b₁)
    (h' : b₁.Turns False False suspends b') : b.Turns stops starts suspends b' := by
  refine ⟨fun hw => h'.waits (h.waits hw), h'.reliable.trans h.reliable, fun hp => h'.plain (h.plain hp), ?_, ?_, ?_, ?_⟩
  · have hkept := h'.retransmission
    simp only [false_and, or_false] at hkept
    rw [hkept.1, hkept.2.1, hkept.2.2]
    exact h.retransmission
  · rcases h'.shared with hs | hs
    · rw [hs]
      exact h.shared
    · exact .inr hs
  · intro hparked
    obtain ⟨hs, hf⟩ := h.parked hparked
    obtain ⟨hs', hf'⟩ := h'.parked (by rwa [hs])
    exact ⟨hs'.trans hs, fun h => hf (hf' h)⟩
  · have hsame : b₁.frames = b.frames := by simpa using h.frames
    rw [← hsame]
    exact h'.frames

/-- A function that leaves no rest stays in the states of the base class. -/
lemma Turns.frames_shared (h : b.Turns stops starts False b') (hs : b.mState.shared) :
    b'.frames = b.frames ∧ b'.mState.shared := by
  have hframes : b'.frames = b.frames := by simpa using h.frames
  refine ⟨hframes, ?_⟩
  rcases h.shared with h | h
  · rw [h]
    exact hs
  · exact h

lemma waits_iff : b.Waits ↔
    (b.mState.awaitsAck → b.mCurrentRetransmit200 →
      ⟨.WaitForAck, b.mLastRemoteSessionModification.2, 0⟩ ∈ b.timers) ∧
    (b.mState.hangsUp → b.mCurrentRetransmit200) ∧
    (b.mState.reinvites → ⟨.StaleReInvite, b.mStaleReInviteTimerSeq, 0⟩ ∈ b.timers) :=
  ⟨fun h => ⟨h.ack, h.hangUp, h.reinvite⟩, fun h => ⟨h.1, h.2.1, h.2.2⟩⟩

/-! ### Calls -/

lemma provideOffer_turns (offer : γ) :
    Yields (b.provideOffer offer) (b.Turns False (b.mState = .ReceivedReinviteNoOffer) False) := by
  simp only [provideOffer]
  split <;> simp_all +decide [turns_iff, waits_iff, Plain, retransmissions]

lemma provideProposedOffer_turns :
    Yields b.provideProposedOffer (b.Turns False (b.mState = .ReceivedReinviteNoOffer) False) := by
  simp only [provideProposedOffer, Yields.bind_iff]
  exact fun offer _ => provideOffer_turns offer

lemma requestOffer_turns : Yields b.requestOffer (b.Turns False False False) := by
  simp only [requestOffer]
  split <;> simp_all +decide [turns_iff, waits_iff, Plain, retransmissions]

lemma sendAck_spec (answer : Option γ) : Yields (b.sendAck answer) fun b' => ∃ transactionId sequence,
    b' = ({ b with mAcks := ⟨transactionId, sequence, answer⟩ :: b.mAcks }.addTimer .CanDiscardAck
      transactionId 0).emit (.request .ack sequence answer) := by
  simp only [sendAck, Yields.bind_iff]
  intro source _
  split_ifs
  · exact Yields.of_error _
  · exact Yields.pure_iff.mpr ⟨source.transactionId, source.sequence, rfl⟩

lemma sendAck_turns (answer : Option γ) : Yields (b.sendAck answer) (b.Turns False False False) := by
  refine (sendAck_spec answer).weaken ?_
  rintro _ ⟨transactionId, sequence, rfl⟩
  simp +decide [turns_iff, waits_iff, Plain, retransmissions]

/-- Neither early nor over. -/
def Open (b : InviteSession γ) : Prop := b.mState.early = false ∧ b.mState ≠ .Terminated

lemma Open.of_eq {state : SessionState} (h : b.mState = state) (he : state.early = false)
    (ht : state ≠ .Terminated) : b.Open := by
  subst h
  exact ⟨he, ht⟩

lemma isConnected_open (h : b.isConnected) : b.Open := by
  cases hs : b.mState <;> simp_all [isConnected, Open, SessionState.early]

/-- A state of the base class that waits for nothing. -/
lemma transition_turns (target : SessionState) (h : b.Open) (hs : target.shared)
    (hw : target.awaitsAck = false) (hr : target.reinvites = false) :
    b.Turns False False False (b.transition target) := by
  have hh : target.hangsUp = false := by cases target <;> simp_all +decide
  simp_all [turns_iff, waits_iff, Plain, retransmissions, Open]

lemma stop200_turns (h : b.mState.hangsUp = false) : b.Turns True False False b.stop200 := by
  simp_all [turns_iff, waits_iff, Plain, retransmissions]

lemma connected_turns (h : b.Open) : b.Turns False False False (b.transition .Connected) :=
  transition_turns .Connected h rfl rfl rfl

lemma sessionRefresh_turns (h : b.Open) : Yields b.sessionRefresh (b.Turns False False False) := by
  simp only [sessionRefresh]
  split <;> simp_all +decide [turns_iff, waits_iff, Plain, retransmissions, Open]

lemma targetRefresh_turns : Yields b.targetRefresh (b.Turns False False False) := by
  simp only [targetRefresh]
  split
  case isTrue hc => exact sessionRefresh_turns (isConnected_open hc)
  case isFalse => simp [turns_iff, waits_iff, Plain, retransmissions]

lemma provideAnswer_turns (answer : γ) :
    Yields (b.provideAnswer answer) (b.Turns False (b.mState = .ReceivedReinvite) False) := by
  simp only [provideAnswer]
  split
  case h_3 hst =>
    have hc := connected_turns (b := b) (by simp [Open, hst, SessionState.early])
    refine Yields.bind_iff.mpr ((sendAck_turns (some answer)).weaken fun b' hb => Yields.pure_iff.mpr ?_)
    exact ((hc.trans hb).mono id False.elim id).trans (by simp [turns_iff, waits_iff, Plain, retransmissions])
  all_goals simp_all +decide [turns_iff, waits_iff, Plain, retransmissions]

lemma endSession_turns : Yields b.endSession (b.Turns False False False) := by
  simp only [endSession]
  split
  all_goals simp_all +decide [turns_iff, waits_iff, Plain, retransmissions]

lemma reject_turns (code : ℕ) : Yields (b.reject code) (b.Turns False False False) := by
  simp only [reject]
  split
  case h_4 hst =>
    refine (sendAck_turns none).weaken fun b' hb => ?_
    have hc : b.Turns False False False ((b.setProposedRemote none).transition .Connected) := by
      simp_all +decide [turns_iff, waits_iff, Plain, retransmissions]
    exact hc.trans hb
  all_goals simp_all +decide [turns_iff, waits_iff, Plain, retransmissions]

/-! ### Messages -/

lemma dispatchBye_turns (h : b.Open) : Yields (b.dispatchBye msg) (b.Turns False False suspends) := by
  simp only [dispatchBye]
  split <;> simp_all +decide [turns_iff, waits_iff, Plain, retransmissions, Open]

lemma dispatchOthers_turns (h : b.Open) : Yields (b.dispatchOthers msg) (b.Turns False False suspends) := by
  simp only [dispatchOthers, dispatchCancel, dispatchPrack]
  split
  case h_5 => exact dispatchBye_turns h
  all_goals simp_all +decide [turns_iff, waits_iff, Plain, retransmissions, Open]

lemma receiveOffer_turns (target : SessionState) (h : b.Open) (hs : target.shared)
    (hw : target.awaitsAck = false) (hr : target.reinvites = false) :
    Yields (b.receiveOffer msg target) (b.Turns False False suspends) := by
  have hh : target.hangsUp = false := by cases target <;> simp_all +decide
  simp_all [receiveOffer, turns_iff, waits_iff, Plain, retransmissions, Open]

lemma method_of_event (h : b.toEvent msg = .OnAck ∨ b.toEvent msg = .OnAckAnswer) : msg.method = .ack := by
  cases hm : msg.method <;> simp only [toEvent, hm] at h ⊢ <;> split_ifs at h <;> simp at h

/-- The retransmission of the 2xx stops for an ACK, whichever it is for. -/
lemma dispatchConnected_turns (h : b.Open) (hh : b.mState.hangsUp = false) :
    Yields (b.dispatchConnected msg) (b.Turns (msg.method = .ack) False suspends) := by
  have hack : b.toEvent msg = .OnAck ∨ b.toEvent msg = .OnAckAnswer → msg.method = .ack := method_of_event
  simp only [dispatchConnected]
  split
  case h_3 | h_4 =>
    exact (receiveOffer_turns .ReceivedReinvite h rfl rfl rfl).weaken fun _ hb => hb.mono False.elim id id
  case h_5 | h_6 | h_7 => exact (sendAck_turns none).weaken fun _ hb => hb.mono False.elim id False.elim
  case h_8 => exact (receiveOffer_turns .ReceivedUpdate h rfl rfl rfl).weaken fun _ hb => hb.mono False.elim id id
  case h_14 => exact (dispatchOthers_turns h).weaken fun _ hb => hb.mono False.elim id id
  all_goals simp_all +decide [turns_iff, waits_iff, Plain, retransmissions, Open]

lemma intervalTooSmall_turns (h : b.Open) :
    Yields (b.intervalTooSmall msg) (b.Turns False False False) := by
  simp only [intervalTooSmall]
  split
  · exact sessionRefresh_turns h
  · simp_all +decide [turns_iff, waits_iff, Plain, retransmissions, Open]

lemma setCurrentLocalOfferAnswer_spec : Yields b.setCurrentLocalOfferAnswer fun b' => ∃ offer,
    b' = { b with mCurrentLocalOfferAnswer := some offer, mProposedLocalOfferAnswer := none } := by
  simp only [setCurrentLocalOfferAnswer]
  split
  · exact Yields.of_error _
  · exact Yields.ok_iff.mpr ⟨_, rfl⟩

lemma setCurrentLocalOfferAnswer_turns :
    Yields b.setCurrentLocalOfferAnswer (b.Turns False False False) := by
  refine setCurrentLocalOfferAnswer_spec.weaken ?_
  rintro _ ⟨offer, rfl⟩
  simp [turns_iff, waits_iff, Plain, retransmissions]

lemma setCurrentRemote_turns (answer : Option γ) : b.Turns False False False (b.setCurrentRemote answer) := by
  simp [turns_iff, waits_iff, Plain, retransmissions]

lemma callback_turns (c : Callback γ) : b.Turns False False False (b.callback c) := by
  simp [turns_iff, waits_iff, Plain, retransmissions]

lemma dispatchSentUpdate_turns (h : b.Open) :
    Yields (b.dispatchSentUpdate msg) (b.Turns False False True) := by
  have hc := connected_turns h
  simp only [dispatchSentUpdate]
  split
  case h_7 =>
    split
    · refine Yields.bind_iff.mpr (setCurrentLocalOfferAnswer_turns.weaken fun b' hb => Yields.pure_iff.mpr ?_)
      exact ((hc.trans hb).trans (setCurrentRemote_turns _)).trans
        ((callback_turns _).mono id id False.elim)
    · simp_all +decide [turns_iff, waits_iff, Plain, retransmissions, Open]
    · exact Yields.ok_iff.mpr (hc.mono id id False.elim)
  case h_9 => exact (intervalTooSmall_turns h).weaken fun _ hb => hb.mono id id False.elim
  case h_12 => exact dispatchOthers_turns h
  all_goals simp_all +decide [turns_iff, waits_iff, Plain, retransmissions, Open]

lemma reinviteAnswered_turns [DecidableEq γ] : Yields (b.reinviteAnswered msg) (b.Turns False False False) := by
  simp only [reinviteAnswered, Yields.bind_iff]
  intro answer _
  split <;> simp_all [turns_iff, waits_iff, Plain, retransmissions]

/-- The timer for the re-INVITE is disabled once the state is left. -/
lemma answeredReinvite_turns (target : SessionState) (h : b.Open) (hs : target.shared)
    (hw : target.awaitsAck = false) (hr : target.reinvites = false) :
    b.Turns False False False (b.nextStaleReInvite.transition target) := by
  have hh : target.hangsUp = false := by cases target <;> simp_all +decide
  simp_all [turns_iff, waits_iff, Plain, retransmissions, Open]

lemma intervalTooSmall_next (h : b.Open) :
    Yields (b.nextStaleReInvite.intervalTooSmall msg) (b.Turns False False False) := by
  simp only [intervalTooSmall, sessionRefresh]
  split
  · split <;> simp_all +decide [turns_iff, waits_iff, Plain, retransmissions, Open]
  · simp_all +decide [turns_iff, waits_iff, Plain, retransmissions, Open]

lemma dispatchReinviteResponse_turns (glare : SessionState) (h : b.Open) (hg : glare.shared)
    (hw : glare.awaitsAck = false) (hr : glare.reinvites = false) :
    Yields (b.dispatchReinviteResponse msg glare) (b.Turns False False True) := by
  have hhg : glare.hangsUp = false := by cases glare <;> simp_all +decide
  simp only [dispatchReinviteResponse]
  split
  case h_9 =>
    refine Yields.bind_iff.mpr ((sendAck_spec none).weaken ?_)
    rintro _ ⟨transactionId, sequence, rfl⟩
    simp_all +decide [turns_iff, waits_iff, Plain, retransmissions, Open]
  case h_10 => exact (intervalTooSmall_next h).weaken fun _ hb => hb.mono id id False.elim
  case h_15 => exact dispatchOthers_turns h
  all_goals simp_all +decide [turns_iff, waits_iff, Plain, retransmissions, Open]

lemma dispatchSentReinvite_turns [DecidableEq γ] (h : b.Open) :
    Yields (b.dispatchSentReinvite msg) (b.Turns False False True) := by
  simp only [dispatchSentReinvite]
  split
  case h_3 => exact dispatchReinviteResponse_turns _ h rfl rfl rfl
  all_goals
    refine Yields.bind_iff.mpr (setCurrentLocalOfferAnswer_turns.weaken fun b₁ h₁ => ?_)
    refine Yields.bind_iff.mpr ((sendAck_turns none).weaken fun b₂ h₂ => ?_)
    refine reinviteAnswered_turns.weaken fun b₃ h₃ => ?_
    have hc := answeredReinvite_turns .Connected h rfl rfl rfl
    exact (((hc.trans h₁).trans h₂).trans h₃).mono id id False.elim

lemma dispatchSentReinviteNoOffer_turns (h : b.Open) :
    Yields (b.dispatchSentReinviteNoOffer msg) (b.Turns False False True) := by
  simp only [dispatchSentReinviteNoOffer]
  split
  case h_3 => exact dispatchReinviteResponse_turns _ h rfl rfl rfl
  all_goals
    refine Yields.bind_iff.mpr fun offer _ => Yields.pure_iff.mpr ?_
    simp_all +decide [turns_iff, waits_iff, Plain, retransmissions, Open]

lemma dispatchReceivedReinviteSentOffer_turns (h : b.Open) (hh : b.mState.hangsUp = false) :
    Yields (b.dispatchReceivedReinviteSentOffer msg) (b.Turns (msg.method = .ack) False True) := by
  have hack : b.toEvent msg = .OnAck ∨ b.toEvent msg = .OnAckAnswer → msg.method = .ack := method_of_event
  simp only [dispatchReceivedReinviteSentOffer]
  split
  case h_7 =>
    refine Yields.bind_iff.mpr (setCurrentLocalOfferAnswer_spec.weaken ?_)
    rintro _ ⟨offer, rfl⟩
    refine Yields.bind_iff.mpr fun answer _ => Yields.pure_iff.mpr ?_
    simp_all +decide [turns_iff, waits_iff, Plain, retransmissions, Open]
  case h_9 => exact (dispatchOthers_turns h).weaken fun _ hb => hb.mono False.elim id id
  all_goals simp_all +decide [turns_iff, waits_iff, Plain, retransmissions, Open]

lemma dispatchTerminated_turns : b.Turns False False False (b.dispatchTerminated msg) := by
  simp only [dispatchTerminated]
  split <;> simp [turns_iff, waits_iff, Plain, retransmissions]

lemma dispatchGlare_turns (h : b.Open) (hs : b.mState.shared) (rejected : Callback γ) :
    Yields (b.dispatchGlare msg rejected) (b.Turns False False True) := by
  simp only [dispatchGlare]
  split
  case isTrue hm =>
    have hack : msg.method ≠ .ack := by rcases hm.2 with h | h <;> simp [h]
    simp_all [turns_iff, waits_iff, Plain, retransmissions, Open]
  case isFalse => exact dispatchOthers_turns h

lemma dispatchReceivedUpdateOrReinvite_turns (h : b.Open) :
    Yields (b.dispatchReceivedUpdateOrReinvite msg) (b.Turns False False True) := by
  simp only [dispatchReceivedUpdateOrReinvite]
  split
  case h_7 =>
    refine (show Yields _ (Turns False False True _) from dispatchBye_turns ?_).weaken fun b' hb => ?_
    · simpa [Open] using h
    · exact (show b.Turns False False False _ by simp [turns_iff, waits_iff, Plain, retransmissions]).trans hb
  case h_8 => exact dispatchOthers_turns h
  all_goals simp_all [turns_iff, waits_iff, Plain, retransmissions, Open]

lemma dispatchWaitingToTerminate_turns (h : b.Open) :
    Yields (b.dispatchWaitingToTerminate msg) (b.Turns False False True) := by
  have hend : b.Turns False False True b.hangUp := by
    simp_all +decide [turns_iff, waits_iff, Plain, retransmissions, Open]
  simp only [dispatchWaitingToTerminate]
  split
  · split
    · refine Yields.bind_iff.mpr ((sendAck_spec none).weaken ?_)
      rintro _ ⟨transactionId, sequence, rfl⟩
      simp_all +decide [turns_iff, waits_iff, Plain, retransmissions, Open]
    · exact Yields.ok_iff.mpr hend
  · split
    · split
      · exact dispatchBye_turns h
      · simp_all [turns_iff, waits_iff, Plain, retransmissions, Open]
    · exact Yields.ok_iff.mpr .refl

/-- The state is left when the retransmission stops. -/
lemma dispatchWaitingToHangup_turns (h : b.Open) :
    b.Turns (msg.method = .ack) False False (b.dispatchWaitingToHangup msg) := by
  have hack : b.toEvent msg = .OnAck ∨ b.toEvent msg = .OnAckAnswer → msg.method = .ack := method_of_event
  simp only [dispatchWaitingToHangup]
  split <;> simp_all +decide [turns_iff, waits_iff, Plain, retransmissions, Open]

theorem dispatch_turns [DecidableEq γ] :
    Yields (b.dispatch msg) (b.Turns (msg.method = .ack) False True) := by
  simp only [dispatch]
  split
  · exact Yields.ok_iff.mpr (by simp [turns_iff, waits_iff, Plain, retransmissions])
  have hkeep {b' : InviteSession γ} (hb : b.Turns False False True b') :
      b.Turns (msg.method = .ack) False True b' := hb.mono False.elim id id
  split
  case h_1 hst =>
    exact dispatchConnected_turns (Open.of_eq hst rfl (by simp)) (by rw [hst]; rfl)
  case h_2 hst =>
    exact (dispatchSentUpdate_turns (Open.of_eq hst rfl (by simp))).weaken fun _ => hkeep
  case h_3 hst =>
    exact (dispatchSentReinvite_turns (Open.of_eq hst rfl (by simp))).weaken fun _ => hkeep
  case h_4 hst =>
    exact (dispatchSentReinviteNoOffer_turns (Open.of_eq hst rfl (by simp))).weaken fun _ => hkeep
  case h_5 hst =>
    simp only [dispatchSentReinviteAnswered]
    split
    · exact Yields.ok_iff.mpr .refl
    · exact (dispatchOthers_turns (Open.of_eq hst rfl (by simp))).weaken fun _ => hkeep
  case h_6 hst | h_7 hst | h_8 hst =>
    exact (dispatchGlare_turns (Open.of_eq hst rfl (by simp)) (by rw [hst]; rfl) _).weaken fun _ => hkeep
  case h_9 hst | h_10 hst | h_11 hst =>
    exact (dispatchReceivedUpdateOrReinvite_turns (Open.of_eq hst rfl (by simp))).weaken fun _ => hkeep
  case h_12 hst =>
    exact dispatchReceivedReinviteSentOffer_turns (Open.of_eq hst rfl (by simp)) (by rw [hst]; rfl)
  case h_13 hst =>
    simp only [dispatchAnswered]
    split
    · simp_all +decide [turns_iff, waits_iff, Plain, retransmissions]
    · exact (dispatchOthers_turns (Open.of_eq hst rfl (by simp))).weaken fun _ => hkeep
  case h_14 hst =>
    have hstop := stop200_turns (b := b) (by rw [hst]; rfl)
    simp only [dispatchWaitingToOffer]
    split
    case isTrue hack =>
      refine provideProposedOffer_turns.weaken fun b' hb => ?_
      have hb' : b.stop200.Turns False False False b' := hb.mono id (by simp [hst]) id
      exact (hstop.trans hb').mono (fun _ => hack.2) id False.elim
    case isFalse => exact (dispatchOthers_turns (Open.of_eq hst rfl (by simp))).weaken fun _ => hkeep
  case h_15 hst =>
    have hstop := stop200_turns (b := b) (by rw [hst]; rfl)
    simp only [dispatchWaitingToRequestOffer]
    split
    case isTrue hack =>
      exact requestOffer_turns.weaken fun b' hb => (hstop.trans hb).mono (fun _ => hack.2) id False.elim
    case isFalse => exact (dispatchOthers_turns (Open.of_eq hst rfl (by simp))).weaken fun _ => hkeep
  case h_16 hst =>
    exact (dispatchWaitingToTerminate_turns (Open.of_eq hst rfl (by simp))).weaken fun _ => hkeep
  case h_17 hst =>
    have hb : b.Turns (msg.method = .ack) False False (b.dispatchWaitingToHangup msg) :=
      dispatchWaitingToHangup_turns (Open.of_eq hst rfl (by simp))
    exact Yields.ok_iff.mpr (hb.mono id id False.elim)
  case h_18 => exact Yields.ok_iff.mpr (dispatchTerminated_turns.mono False.elim id False.elim)
  case h_19 => exact Yields.of_error _

/-! ### Timers -/

lemma filter_erase {α : Type*} [DecidableEq α] {test : α → Bool} {a : α} (h : test a = false) (l : List α) :
    (l.erase a).filter test = l.filter test := by
  rw [← List.erase_filter]
  exact List.erase_of_not_mem (by simp [h])

/-- A timer that no state waits for is gone. -/
lemma erase_turns (timeout : SessionTimer) (h200 : timeout.type ≠ .Retransmit200)
    (hack : timeout.type = .WaitForAck → b.mCurrentRetransmit200 →
      timeout.seq ≠ b.mLastRemoteSessionModification.2)
    (hstale : timeout.type = .StaleReInvite → b.mState.reinvites → timeout.seq ≠ b.mStaleReInviteTimerSeq) :
    b.Turns False False False { b with timers := b.timers.erase timeout } := by
  refine ⟨fun h => ⟨fun hs hf => ?_, h.hangUp, fun hs => ?_⟩, rfl, id, .inl ⟨rfl, rfl, ?_⟩, .inl rfl,
    fun _ => ⟨rfl, id⟩, .inl rfl⟩
  · refine (List.mem_erase_of_ne fun heq => ?_).mpr (h.ack hs hf)
    exact hack (by rw [← heq]) hf (by rw [← heq])
  · refine (List.mem_erase_of_ne fun heq => ?_).mpr (h.reinvite hs)
    exact hstale (by rw [← heq]) hs (by rw [← heq])
  · exact filter_erase (by simpa using h200) b.timers

lemma waitForAckExpired_turns (timeout : SessionTimer) (ht : timeout.type = .WaitForAck) :
    Yields (waitForAckExpired { b with timers := b.timers.erase timeout }) (b.Turns True False True) := by
  have hfilter : (b.timers.erase timeout).filter (·.type = .Retransmit200) =
      b.timers.filter (·.type = .Retransmit200) := filter_erase (by simp [ht]) b.timers
  have hmem (seq : ℕ) : (⟨.StaleReInvite, seq, 0⟩ : SessionTimer) ∈ b.timers.erase timeout ↔
      ⟨.StaleReInvite, seq, 0⟩ ∈ b.timers := by
    refine List.mem_erase_of_ne ?_
    rintro rfl
    simp at ht
  simp only [waitForAckExpired]
  split
  case h_4 | h_5 => split <;> simp_all +decide [turns_iff, waits_iff, Plain, retransmissions]
  case h_8 =>
    have hh : b.mState.hangsUp = false := by cases hs : b.mState <;> simp_all [SessionState.hangsUp]
    simp_all [turns_iff, waits_iff, Plain, retransmissions]
  all_goals simp_all +decide [turns_iff, waits_iff, Plain, retransmissions]

lemma staleReInviteExpired_turns (timeout : SessionTimer) (ht : timeout.type = .StaleReInvite) :
    b.Turns False False False (staleReInviteExpired { b with timers := b.timers.erase timeout }) := by
  have hfilter : (b.timers.erase timeout).filter (·.type = .Retransmit200) =
      b.timers.filter (·.type = .Retransmit200) := filter_erase (by simp [ht]) b.timers
  have hmem (seq : ℕ) : (⟨.WaitForAck, seq, 0⟩ : SessionTimer) ∈ b.timers.erase timeout ↔
      ⟨.WaitForAck, seq, 0⟩ ∈ b.timers := by
    refine List.mem_erase_of_ne ?_
    rintro rfl
    simp at ht
  simp only [staleReInviteExpired]
  split
  case h_4 =>
    have hr : b.mState.reinvites = false := by cases hs : b.mState <;> simp_all [SessionState.reinvites]
    simp_all [turns_iff, waits_iff, Plain, retransmissions]
  all_goals simp_all +decide [turns_iff, waits_iff, Plain, retransmissions]

lemma glareExpired_turns : b.Turns False False False b.glareExpired := by
  simp only [glareExpired]
  split <;> simp_all +decide [turns_iff, waits_iff, Plain, retransmissions]

/-- A WaitForAck timer stops the retransmission if it is for the last request received. -/
theorem dispatchTimer_turns (timeout : SessionTimer) (h200 : timeout.type ≠ .Retransmit200) :
    Yields (dispatchTimer { b with timers := b.timers.erase timeout } timeout)
      (b.Turns (timeout.type = .WaitForAck ∧ timeout.seq = b.mLastRemoteSessionModification.2) False True) := by
  have herase (h₁ : timeout.type ≠ .WaitForAck) (h₂ : timeout.type ≠ .StaleReInvite) :
      b.Turns False False False { b with timers := b.timers.erase timeout } :=
    erase_turns timeout h200 (fun h => absurd h h₁) (fun h => absurd h h₂)
  have hkeep {stops : Prop} {b' : InviteSession γ} (hb : b.Turns False False False b') :
      b.Turns stops False True b' := hb.mono False.elim id False.elim
  simp only [dispatchTimer]
  split
  case h_1 ht => exact absurd ht h200
  case h_2 ht =>
    split
    case isTrue hf => exact (waitForAckExpired_turns timeout ht).weaken fun b' hb => hb.mono (fun _ => ⟨ht, hf.2⟩) id id
    case isFalse hf =>
      refine Yields.ok_iff.mpr (hkeep (erase_turns timeout h200 ?_ (by simp [ht])))
      exact fun _ h hseq => hf ⟨h, hseq⟩
  case h_3 ht =>
    have hb := herase (by simp [ht]) (by simp [ht])
    refine Yields.ok_iff.mpr (hkeep (hb.trans ?_))
    simp [turns_iff, waits_iff, Plain, retransmissions]
  case h_4 ht => exact Yields.ok_iff.mpr (hkeep ((herase (by simp [ht]) (by simp [ht])).trans glareExpired_turns))
  case h_5 ht =>
    refine Yields.ok_ite_iff.mpr ⟨fun _ => hkeep (staleReInviteExpired_turns timeout ht), fun hseq => ?_⟩
    exact hkeep (erase_turns timeout h200 (by simp [ht]) (fun _ _ => hseq))
  case h_6 ht => exact Yields.ok_iff.mpr (hkeep ((herase (by simp [ht]) (by simp [ht])).trans (callback_turns _)))
  case h_7 ht =>
    have hb := herase (by simp [ht]) (by simp [ht])
    split
    case isTrue hst =>
      have hopen : Open { b with timers := b.timers.erase timeout } := Open.of_eq hst rfl nofun
      exact (sessionRefresh_turns hopen).weaken fun b' hb' => hkeep (hb.trans hb')
    case isFalse => exact Yields.ok_iff.mpr (hkeep hb)
  case h_8 ht | h_9 ht | h_10 ht => exact Yields.ok_iff.mpr (hkeep (herase (by simp [ht]) (by simp [ht])))

/-- The timer for the retransmission goes on as long as that is not stopped. -/
theorem dispatchTimer_again (timeout : SessionTimer) (ht : timeout.type = .Retransmit200) :
    Yields (dispatchTimer { b with timers := b.timers.erase timeout } timeout) fun b' =>
      (b.Waits → b'.Waits) ∧ (b.Plain → reliable b'.trace = reliable b.trace) ∧ b'.mInvite200 = b.mInvite200 ∧
      b'.mCurrentRetransmit200 = b.mCurrentRetransmit200 ∧ b'.mState = b.mState ∧ b'.frames = b.frames ∧
      (timeout ∈ b.timers → b'.retransmissions.length ≤ b.retransmissions.length) ∧
      (b.mCurrentRetransmit200 → b.mInvite200.isSome → b'.retransmissions ≠ []) := by
  have hmem (type : TimerType) (hne : type ≠ .Retransmit200) (seq : ℕ) :
      (⟨type, seq, 0⟩ : SessionTimer) ∈ b.timers.erase timeout ↔ ⟨type, seq, 0⟩ ∈ b.timers := by
    refine List.mem_erase_of_ne ?_
    rintro rfl
    exact hne ht
  have hlength (hin : timeout ∈ b.timers) : ((b.timers.erase timeout).filter (·.type = .Retransmit200)).length + 1 =
      (b.timers.filter (·.type = .Retransmit200)).length := by
    have hin' : timeout ∈ b.timers.filter (·.type = .Retransmit200) := by simp [hin, ht]
    rw [← List.erase_filter, List.length_erase_of_mem hin']
    have hpos := List.length_pos_of_mem hin'
    omega
  simp only [dispatchTimer, ht]
  split
  case h_1 r hf hr =>
    have hrel (h : b.Plain) := reliable_response b.trace (h r hr)
    simp_all +decide [waits_iff, retransmissions]
  case h_2 hnot =>
    refine Yields.ok_iff.mpr ⟨by simp_all +decide [waits_iff], fun _ => rfl, rfl, rfl, rfl, rfl,
      fun hin => ?_, fun hf hr => ?_⟩
    · have hshorter := hlength hin
      simp only [retransmissions]
      omega
    · obtain ⟨r, hr⟩ := Option.isSome_iff_exists.mp hr
      exact absurd hr (hnot r hf)

/-! ### Rests of handlers -/

lemma resume_turns (f : Frame γ) (hglare : f.isGlare → b.mState.shared) :
    Yields (b.resume f)
      (b.Turns f.isAck (f = .provideProposedOffer ∧ b.mState = .ReceivedReinviteNoOffer) False) := by
  simp only [resume]
  split
  case h_1 =>
    split
    · exact Yields.ok_iff.mpr .refl
    · exact provideProposedOffer_turns.weaken fun _ hb => hb.mono False.elim (fun hs => ⟨rfl, hs⟩) id
  case h_2 =>
    split
    · exact Yields.ok_iff.mpr .refl
    · exact requestOffer_turns.weaken fun _ hb => hb.mono False.elim False.elim id
  case h_3 msg =>
    split
    case isTrue => exact Yields.ok_iff.mpr (dispatchTerminated_turns.mono False.elim False.elim id)
    case isFalse hterm =>
      have hs := hglare rfl
      have hopen : b.Open := by cases h : b.mState <;> simp_all [Open, SessionState.early, SessionState.shared, isTerminated]
      have hh : b.mState.hangsUp = false := by cases h : b.mState <;> simp_all [SessionState.hangsUp, isTerminated]
      exact (dispatchConnected_turns hopen hh).weaken fun _ hb => hb.mono (by simp) False.elim id
  case h_4 => simp [turns_iff, waits_iff, Plain, retransmissions]
  case h_5 => exact Yields.ok_iff.mpr .refl

end InviteSession

end Resiprocate.Dum
