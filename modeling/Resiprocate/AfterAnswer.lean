import Resiprocate.ServerSessionRuns

/-! After the INVITE that created a session has been answered, the base class handles it. -/
namespace Resiprocate.Dum
open ProgramLogic

/-- The states after the final response to the first INVITE. -/
def SessionState.answered : SessionState → Bool
  | .Connected | .SentUpdate | .SentUpdateGlare | .SentReinvite | .SentReinviteGlare
  | .SentReinviteNoOffer | .SentReinviteAnswered | .SentReinviteNoOfferGlare | .ReceivedUpdate
  | .ReceivedReinvite | .ReceivedReinviteNoOffer | .ReceivedReinviteSentOffer | .Answered
  | .WaitingToOffer | .WaitingToRequestOffer | .WaitingToTerminate | .WaitingToHangup | .Terminated
  | .UAS_Accepted | .UAS_WaitingToOffer | .UAS_WaitingToRequestOffer | .UAS_AcceptedWaitingAnswer
  | .UAS_WaitingToHangup => true
  | _ => false

/-- The states in which `mLastRemoteSessionModification` is still to be answered. -/
def SessionState.received : SessionState → Bool
  | .ReceivedUpdate | .ReceivedReinvite | .ReceivedReinviteNoOffer | .UAS_ReceivedUpdate
  | .UAS_ReceivedUpdateWaitingAnswer => true
  | _ => false

/-- The rest of a handler that rejects the INVITE, when the session has ended. -/
def Frame.rejects {γ : Type*} : Frame γ → Bool
  | .notAcceptable _ => true
  | _ => false

/-- The rests of handlers that run after the final response. -/
def Frame.late {γ : Type*} : Frame γ → Bool
  | .clearQueue | .updateCheckQueue | .popQueue | .provideProposedOffer | .requestOffer | .glare _
  | .resetProposed => true
  | _ => false

namespace InviteSession
variable {γ : Type*}

/-- What is to be answered is a later request. -/
def AnswersLater (b : InviteSession γ) : Prop :=
  b.mState.received → b.mLastRemoteSessionModification.1 ≠ .first

/-- The base class sends no response to the first INVITE, and none that it would send again. -/
@[mk_iff] structure Quiet (b b' : InviteSession γ) : Prop where
  responses : firstResponses b'.trace = firstResponses b.trace
  invite200 : ∀ r, b'.mInvite200 = some r → r.request = .first → b.mInvite200 = some r
  later : b'.AnswersLater
  state : b'.mState = b.mState ∨ b'.mState.answered
  frames : b'.frames = b.frames
  profile : b'.profile = b.profile

/-- A quiet handler may leave a rest of itself behind. -/
def Quietly (b b' : InviteSession γ) : Prop :=
  b.Quiet b' ∨ ∃ b₁ f, b.Quiet b₁ ∧ b₁.mState.received = false ∧ f.rejects = false ∧
    b₁.mState.answered ∧ b' = b₁.suspend f

variable {b b' : InviteSession γ} {msg : SessionMessage γ}

lemma Quiet.refl (h : b.AnswersLater) : b.Quiet b := ⟨rfl, fun _ h _ => h, h, .inl rfl, rfl, rfl⟩

lemma Quiet.trans {b₁ : InviteSession γ} (h : b.Quiet b₁) (h' : b₁.Quiet b') : b.Quiet b' := by
  refine ⟨h'.responses.trans h.responses, ?_, h'.later, ?_, h'.frames.trans h.frames,
    h'.profile.trans h.profile⟩
  · exact fun r hr hf => h.invite200 r (h'.invite200 r hr hf) hf
  · rcases h'.state with hs | hs
    · rw [hs]
      exact h.state
    · exact .inr hs

/-- What is left to do after a quiet change. -/
lemma Quiet.then {b₁ : InviteSession γ} (h : b.Quiet b₁) {r : Outcome (InviteSession γ)}
    (hr : Yields r b₁.Quiet) : Yields r b.Quiet :=
  hr.weaken fun _ => h.trans

lemma Quiet.transition (h : b.Quiet b') (target : SessionState) (ha : target.answered)
    (hr : target.received = false) : b.Quiet (b'.transition target) :=
  ⟨h.responses, h.invite200, by simp [AnswersLater, hr], .inr ha, h.frames, h.profile⟩

lemma provideOffer_quiet (h : b.AnswersLater) (offer : γ) :
    Yields (b.provideOffer offer) b.Quiet := by
  simp only [provideOffer]
  split <;> simp_all +decide [quiet_iff, AnswersLater]

lemma provideProposedOffer_quiet (h : b.AnswersLater) :
    Yields b.provideProposedOffer b.Quiet := by
  simp only [provideProposedOffer, Yields.bind_iff]
  exact fun offer _ => provideOffer_quiet h offer

lemma requestOffer_quiet (h : b.AnswersLater) : Yields b.requestOffer b.Quiet := by
  simp only [requestOffer]
  split <;> simp_all +decide [quiet_iff, AnswersLater]

lemma sendAck_quiet (h : b.Quiet b') (answer : Option γ) :
    Yields (b'.sendAck answer) b.Quiet := by
  simp only [sendAck, Yields.bind_iff]
  intro source _
  simp_all [quiet_iff, AnswersLater]

lemma sessionRefresh_quiet (h : b.Quiet b') : Yields b'.sessionRefresh b.Quiet := by
  simp only [sessionRefresh]
  split <;> simp_all +decide [quiet_iff, AnswersLater]

lemma targetRefresh_quiet (h : b.AnswersLater) : Yields b.targetRefresh b.Quiet := by
  simp only [targetRefresh]
  split
  · exact sessionRefresh_quiet (.refl h)
  · simp_all [quiet_iff, AnswersLater]

lemma provideAnswer_quiet (h : b.AnswersLater) (answer : γ) :
    Yields (b.provideAnswer answer) b.Quiet := by
  simp only [provideAnswer]
  split
  case h_3 =>
    have hc := (Quiet.refl h).transition .Connected rfl rfl
    refine Yields.bind_iff.mpr ((sendAck_quiet hc _).weaken fun b' hb => ?_)
    simpa [quiet_iff, AnswersLater] using hb
  all_goals simp_all +decide [quiet_iff, AnswersLater]

lemma endSession_quiet (h : b.AnswersLater) : Yields b.endSession b.Quiet := by
  simp only [endSession]
  split <;> simp_all +decide [quiet_iff, AnswersLater]

lemma setProposedRemote_quiet (h : b.Quiet b') (offer : Option γ) :
    b.Quiet (b'.setProposedRemote offer) := by
  simpa [quiet_iff, AnswersLater] using h

lemma reject_quiet (h : b.AnswersLater) (code : ℕ) : Yields (b.reject code) b.Quiet := by
  have hr := setProposedRemote_quiet (.refl h) none
  simp only [reject]
  split
  case h_4 => exact sendAck_quiet (hr.transition .Connected rfl rfl) none
  all_goals simp_all +decide [quiet_iff, AnswersLater]

lemma dispatchBye_quiet (h : b.Quiet b') : Yields (b'.dispatchBye msg) b.Quiet := by
  simp only [dispatchBye]
  split <;> simp_all +decide [quiet_iff, AnswersLater]

lemma dispatchOthers_quiet (h : b.AnswersLater) : Yields (b.dispatchOthers msg) b.Quiet := by
  simp only [dispatchOthers, dispatchCancel, dispatchPrack]
  split
  case h_5 => exact dispatchBye_quiet (.refl h)
  all_goals simp_all +decide [quiet_iff, AnswersLater]

lemma receiveOffer_quiet (target : SessionState) (ht : target.answered) :
    Yields (b.receiveOffer msg target) b.Quiet := by
  simp_all +decide [receiveOffer, quiet_iff, AnswersLater]

lemma dispatchConnected_quiet (h : b.AnswersLater) :
    Yields (b.dispatchConnected msg) b.Quiet := by
  simp only [dispatchConnected]
  split
  case h_3 | h_4 => exact receiveOffer_quiet .ReceivedReinvite rfl
  case h_5 | h_6 | h_7 => exact sendAck_quiet (.refl h) none
  case h_8 => exact receiveOffer_quiet .ReceivedUpdate rfl
  case h_14 => exact dispatchOthers_quiet h
  all_goals simp_all +decide [quiet_iff, AnswersLater]

lemma intervalTooSmall_quiet (h : b.Quiet b') : Yields (b'.intervalTooSmall msg) b.Quiet := by
  simp only [intervalTooSmall]
  split
  · exact sessionRefresh_quiet h
  · simp_all +decide [quiet_iff, AnswersLater]

lemma setCurrentLocalOfferAnswer_quiet (h : b.Quiet b') :
    Yields b'.setCurrentLocalOfferAnswer b.Quiet := by
  simp only [setCurrentLocalOfferAnswer]
  split <;> simp_all [quiet_iff, AnswersLater]

lemma dispatchSentUpdate_quiet (h : b.AnswersLater) :
    Yields (b.dispatchSentUpdate msg) b.Quietly := by
  have hc := (Quiet.refl h).transition .Connected rfl rfl
  simp only [dispatchSentUpdate]
  split
  case h_7 =>
    split
    · refine Yields.bind_iff.mpr ((setCurrentLocalOfferAnswer_quiet hc).weaken fun b' hb => ?_)
      exact Yields.pure_iff.mpr (.inl (by simpa [quiet_iff, AnswersLater] using hb))
    · exact Yields.ok_iff.mpr (.inr ⟨_, _, by simpa [quiet_iff, AnswersLater] using hc, rfl, rfl, rfl,
        rfl⟩)
    · exact Yields.ok_iff.mpr (.inl hc)
  case h_9 => exact (intervalTooSmall_quiet (.refl h)).weaken fun _ => .inl
  case h_12 => exact (dispatchOthers_quiet h).weaken fun _ => .inl
  all_goals exact Yields.ok_iff.mpr (.inl (by simp_all +decide [quiet_iff, AnswersLater]))

lemma reinviteAnswered_quiet [DecidableEq γ] (h : b.Quiet b') :
    Yields (b'.reinviteAnswered msg) b.Quiet := by
  simp only [reinviteAnswered, Yields.bind_iff]
  intro answer _
  split <;> simp_all [quiet_iff, AnswersLater]

lemma dispatchReinviteResponse_quiet (h : b.AnswersLater) (glare : SessionState)
    (hg : glare.answered) (hr : glare.received = false) :
    Yields (b.dispatchReinviteResponse msg glare) b.Quietly := by
  have hn : b.Quiet b.nextStaleReInvite := by simp_all [quiet_iff, AnswersLater]
  simp only [dispatchReinviteResponse]
  split
  case h_9 =>
    refine Yields.bind_iff.mpr ((sendAck_quiet hn none).weaken fun b' hb => ?_)
    refine Yields.pure_iff.mpr (.inr ⟨_, _, ?_, rfl, rfl, rfl, rfl⟩)
    simpa [quiet_iff, AnswersLater] using hb.transition .Connected rfl rfl
  case h_10 => exact (intervalTooSmall_quiet hn).weaken fun _ => .inl
  case h_15 => exact (dispatchOthers_quiet h).weaken fun _ => .inl
  all_goals exact Yields.ok_iff.mpr (.inl (by simp_all +decide [quiet_iff, AnswersLater]))

lemma dispatchSentReinvite_quiet [DecidableEq γ] (h : b.AnswersLater) :
    Yields (b.dispatchSentReinvite msg) b.Quietly := by
  have hc : b.Quiet (b.nextStaleReInvite.transition .Connected) := by
    simp_all +decide [quiet_iff, AnswersLater]
  simp only [dispatchSentReinvite]
  split
  case h_3 => exact dispatchReinviteResponse_quiet h _ rfl rfl
  all_goals
    refine Yields.bind_iff.mpr ((setCurrentLocalOfferAnswer_quiet hc).weaken fun b₁ h₁ => ?_)
    refine Yields.bind_iff.mpr ((sendAck_quiet h₁ none).weaken fun b₂ h₂ => ?_)
    exact (reinviteAnswered_quiet h₂).weaken fun _ => .inl

lemma dispatchSentReinviteNoOffer_quiet (h : b.AnswersLater) :
    Yields (b.dispatchSentReinviteNoOffer msg) b.Quietly := by
  simp only [dispatchSentReinviteNoOffer]
  split
  case h_3 => exact dispatchReinviteResponse_quiet h _ rfl rfl
  all_goals
    refine Yields.bind_iff.mpr fun offer _ => Yields.pure_iff.mpr (.inl ?_)
    simp_all +decide [quiet_iff, AnswersLater]

lemma dispatchReceivedReinviteSentOffer_quiet (h : b.AnswersLater) :
    Yields (b.dispatchReceivedReinviteSentOffer msg) b.Quiet := by
  have hc := (Quiet.refl h).transition .Connected rfl rfl
  simp only [dispatchReceivedReinviteSentOffer]
  split
  case h_7 =>
    refine Yields.bind_iff.mpr ((setCurrentLocalOfferAnswer_quiet hc).weaken fun b' hb => ?_)
    simp_all [quiet_iff, AnswersLater]
  case h_9 => exact dispatchOthers_quiet h
  all_goals simp_all +decide [quiet_iff, AnswersLater]

lemma dispatchTerminated_quiet (h : b.AnswersLater) : b.Quiet (b.dispatchTerminated msg) := by
  simp only [dispatchTerminated]
  split <;> simp_all [quiet_iff, AnswersLater]

lemma dispatchGlare_quiet (h : b.AnswersLater) (hr : b.mState.received = false)
    (ha : b.mState.answered) (rejected : Callback γ) : Yields (b.dispatchGlare msg rejected) b.Quietly := by
  simp only [dispatchGlare]
  split
  · refine Yields.ok_iff.mpr (.inr ⟨b.callback rejected, .glare msg, ?_, hr, rfl, ha, rfl⟩)
    simp_all [quiet_iff, AnswersLater]
  · exact (dispatchOthers_quiet h).weaken fun _ => .inl

lemma dispatchReceivedUpdateOrReinvite_quiet (h : b.AnswersLater) (hr : b.mState.received) :
    Yields (b.dispatchReceivedUpdateOrReinvite msg) b.Quiet := by
  simp only [dispatchReceivedUpdateOrReinvite]
  split
  case h_7 =>
    refine dispatchBye_quiet ?_
    simp_all [quiet_iff, AnswersLater]
  case h_8 => exact dispatchOthers_quiet h
  all_goals simp_all +decide [quiet_iff, AnswersLater]

lemma dispatchWaitingToTerminate_quiet (h : b.AnswersLater) :
    Yields (b.dispatchWaitingToTerminate msg) b.Quiet := by
  have hend (b' : InviteSession γ) (hb : b.Quiet b') : b.Quiet b'.hangUp := by
    simp_all +decide [quiet_iff, AnswersLater]
  simp only [dispatchWaitingToTerminate]
  split
  · split
    · refine Yields.bind_iff.mpr ((sendAck_quiet (.refl h) none).weaken fun b' hb => ?_)
      exact Yields.pure_iff.mpr (hend b' hb)
    · exact Yields.ok_iff.mpr (hend b (.refl h))
  · split
    · split
      · exact dispatchBye_quiet (.refl h)
      · simp_all [quiet_iff, AnswersLater]
    · simpa using Quiet.refl h

lemma dispatchWaitingToHangup_quiet (h : b.AnswersLater) :
    b.Quiet (b.dispatchWaitingToHangup msg) := by
  simp only [dispatchWaitingToHangup]
  split <;> simp_all +decide [quiet_iff, AnswersLater]

theorem dispatch_quiet [DecidableEq γ] (h : b.AnswersLater) :
    Yields (b.dispatch msg) b.Quietly := by
  have hs : b.Quiet b.stop200 := by simp_all [quiet_iff, AnswersLater]
  simp only [dispatch]
  split
  · exact Yields.ok_iff.mpr (.inl (by simp_all [quiet_iff, AnswersLater]))
  split
  case h_1 => exact (dispatchConnected_quiet h).weaken fun _ => .inl
  case h_2 => exact dispatchSentUpdate_quiet h
  case h_3 => exact dispatchSentReinvite_quiet h
  case h_4 => exact dispatchSentReinviteNoOffer_quiet h
  case h_5 =>
    simp only [dispatchSentReinviteAnswered]
    split
    · exact Yields.ok_iff.mpr (.inl (.refl h))
    · exact (dispatchOthers_quiet h).weaken fun _ => .inl
  case h_6 hst | h_7 hst | h_8 hst => exact dispatchGlare_quiet h (by rw [hst]; rfl) (by rw [hst]; rfl) _
  case h_9 hst | h_10 hst | h_11 hst =>
    exact (dispatchReceivedUpdateOrReinvite_quiet h (by rw [hst]; rfl)).weaken fun _ => .inl
  case h_12 => exact (dispatchReceivedReinviteSentOffer_quiet h).weaken fun _ => .inl
  case h_13 =>
    simp only [dispatchAnswered]
    split
    · exact Yields.ok_iff.mpr (.inl (hs.transition .Connected rfl rfl))
    · exact (dispatchOthers_quiet h).weaken fun _ => .inl
  case h_14 =>
    simp only [dispatchWaitingToOffer]
    split
    · exact (hs.then (provideProposedOffer_quiet hs.later)).weaken fun _ => .inl
    · exact (dispatchOthers_quiet h).weaken fun _ => .inl
  case h_15 =>
    simp only [dispatchWaitingToRequestOffer]
    split
    · exact (hs.then (requestOffer_quiet hs.later)).weaken fun _ => .inl
    · exact (dispatchOthers_quiet h).weaken fun _ => .inl
  case h_16 => exact (dispatchWaitingToTerminate_quiet h).weaken fun _ => .inl
  case h_17 => exact Yields.ok_iff.mpr (.inl (dispatchWaitingToHangup_quiet h))
  case h_18 => exact Yields.ok_iff.mpr (.inl (dispatchTerminated_quiet h))
  case h_19 => exact Yields.of_error _

lemma waitForAckExpired_quiet (h : b.AnswersLater) : Yields b.waitForAckExpired b.Quietly := by
  have hs (c : Callback γ) : b.Quiet (b.stop200.callback c) := by simp_all [quiet_iff, AnswersLater]
  simp only [waitForAckExpired]
  split
  case h_4 hst | h_5 hst =>
    split
    · exact Yields.ok_iff.mpr (.inr ⟨_, _, hs _, by simp_all +decide, rfl, by simp_all +decide, rfl⟩)
    · exact Yields.of_error _
  case h_6 hst | h_7 hst => exact Yields.ok_iff.mpr (.inr ⟨_, _, hs _, by simp_all +decide, rfl, by simp_all +decide, rfl⟩)
  all_goals exact Yields.ok_iff.mpr (.inl (by simp_all +decide [quiet_iff, AnswersLater]))

/-- Of the timers of this class only one sends a response. -/
lemma dispatchTimer_quietly (h : b.AnswersLater) {timeout : SessionTimer}
    (ht : timeout.type ≠ .Retransmit200) : Yields (b.dispatchTimer timeout) b.Quietly := by
  have hr : b.Quietly b := .inl (.refl h)
  simp only [dispatchTimer]
  split
  case h_1 hty => exact absurd hty ht
  case h_2 =>
    split
    · exact waitForAckExpired_quiet h
    · exact Yields.ok_iff.mpr hr
  case h_4 =>
    refine Yields.ok_iff.mpr (.inl ?_)
    simp only [glareExpired]
    split <;> simp_all +decide [quiet_iff, AnswersLater]
  case h_5 =>
    refine Yields.ok_ite_iff.mpr ⟨fun _ => .inl ?_, fun _ => hr⟩
    simp only [staleReInviteExpired]
    split <;> simp_all +decide [quiet_iff, AnswersLater]
  case h_7 =>
    split
    · exact (sessionRefresh_quiet (.refl h)).weaken fun _ => .inl
    · exact Yields.ok_iff.mpr hr
  case h_8 | h_9 | h_10 => exact Yields.ok_iff.mpr hr
  all_goals exact Yields.ok_iff.mpr (.inl (by simp_all [quiet_iff, AnswersLater]))

/-- It sends the 2xx again. -/
lemma dispatchTimer_quiet (h : b.AnswersLater) (timeout : SessionTimer) :
    Yields (b.dispatchTimer timeout) fun b' => b.Quietly b' ∨
      ∃ r, b.mInvite200 = some r ∧
        b' = (b.emit (.response r)).addTimer .Retransmit200 timeout.seq 0 := by
  by_cases ht : timeout.type = .Retransmit200
  · simp only [dispatchTimer, ht]
    split
    case h_1 r _ hr => exact Yields.ok_iff.mpr (.inr ⟨r, hr, rfl⟩)
    case h_2 => exact Yields.ok_iff.mpr (.inl (.inl (.refl h)))
  · exact (dispatchTimer_quietly h ht).weaken fun _ => .inl

lemma resume_quiet (h : b.AnswersLater) (f : Frame γ) : Yields (b.resume f) b.Quiet := by
  have hr := Quiet.refl h
  simp only [resume]
  split
  case h_1 => simpa [hr] using fun _ => provideProposedOffer_quiet h
  case h_2 => simpa [hr] using fun _ => requestOffer_quiet h
  case h_3 => simpa [dispatchTerminated_quiet h] using fun _ => dispatchConnected_quiet h
  case h_4 => simp_all [quiet_iff, AnswersLater]
  case h_5 => simpa using hr

end InviteSession

end Resiprocate.Dum
