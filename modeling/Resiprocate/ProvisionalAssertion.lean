import Resiprocate.PrackSteps

/-! The assertion that no reliable provisional is unacknowledged when the next one is sent. -/
namespace Resiprocate.Dum
open TransitionSystem ProgramLogic

@[simp] lemma dereference_avoids {α : Type*} (p : Option α) :
    Avoids Failure.unacknowledgedProvisional (dereference p) := by
  cases p <;> simp [dereference]

namespace InviteSession
variable {γ : Type*} {b : InviteSession γ} {msg : SessionMessage γ}

/-! ### The base class sends no provisional responses -/

@[simp] lemma sendAck_avoids (answer : Option γ) :
    Avoids .unacknowledgedProvisional (b.sendAck answer) := by
  simp [sendAck]

@[simp] lemma sessionRefresh_avoids : Avoids .unacknowledgedProvisional b.sessionRefresh := by
  simp [sessionRefresh]

@[simp] lemma provideOffer_avoids (offer : γ) :
    Avoids .unacknowledgedProvisional (b.provideOffer offer) := by
  simp only [provideOffer]
  split <;> simp

@[simp] lemma provideProposedOffer_avoids :
    Avoids .unacknowledgedProvisional b.provideProposedOffer := by
  simp [provideProposedOffer]

@[simp] lemma requestOffer_avoids : Avoids .unacknowledgedProvisional b.requestOffer := by
  simp only [requestOffer]
  split <;> simp

@[simp] lemma provideAnswer_avoids (answer : γ) :
    Avoids .unacknowledgedProvisional (b.provideAnswer answer) := by
  simp only [provideAnswer]
  split <;> simp

@[simp] lemma endSession_avoids : Avoids .unacknowledgedProvisional b.endSession := by
  simp only [endSession]
  split <;> simp

@[simp] lemma reject_avoids (code : ℕ) : Avoids .unacknowledgedProvisional (b.reject code) := by
  simp only [reject]
  split <;> simp

@[simp] lemma targetRefresh_avoids : Avoids .unacknowledgedProvisional b.targetRefresh := by
  simp [targetRefresh]

@[simp] lemma dispatchBye_avoids : Avoids .unacknowledgedProvisional (b.dispatchBye msg) := by
  simp [dispatchBye]

@[simp] lemma dispatchOthers_avoids : Avoids .unacknowledgedProvisional (b.dispatchOthers msg) := by
  simp only [dispatchOthers, dispatchCancel]
  split <;> simp

@[simp] lemma receiveOffer_avoids (target : SessionState) :
    Avoids .unacknowledgedProvisional (b.receiveOffer msg target) := by
  simp [receiveOffer]

@[simp] lemma dispatchConnected_avoids :
    Avoids .unacknowledgedProvisional (b.dispatchConnected msg) := by
  simp only [dispatchConnected]
  split <;> simp

@[simp] lemma intervalTooSmall_avoids :
    Avoids .unacknowledgedProvisional (b.intervalTooSmall msg) := by
  simp only [intervalTooSmall]
  split <;> simp

@[simp] lemma setCurrentLocalOfferAnswer_avoids :
    Avoids .unacknowledgedProvisional b.setCurrentLocalOfferAnswer := by
  simp only [setCurrentLocalOfferAnswer]
  split <;> simp

@[simp] lemma dispatchSentUpdate_avoids :
    Avoids .unacknowledgedProvisional (b.dispatchSentUpdate msg) := by
  simp only [dispatchSentUpdate]
  split
  case h_7 => split <;> simp
  all_goals simp

@[simp] lemma reinviteAnswered_avoids [DecidableEq γ] :
    Avoids .unacknowledgedProvisional (b.reinviteAnswered msg) := by
  simp [reinviteAnswered]

@[simp] lemma dispatchReinviteResponse_avoids (glare : SessionState) :
    Avoids .unacknowledgedProvisional (b.dispatchReinviteResponse msg glare) := by
  simp only [dispatchReinviteResponse]
  split <;> simp

@[simp] lemma dispatchSentReinvite_avoids [DecidableEq γ] :
    Avoids .unacknowledgedProvisional (b.dispatchSentReinvite msg) := by
  simp only [dispatchSentReinvite]
  split <;> simp

@[simp] lemma dispatchSentReinviteNoOffer_avoids :
    Avoids .unacknowledgedProvisional (b.dispatchSentReinviteNoOffer msg) := by
  simp only [dispatchSentReinviteNoOffer]
  split <;> simp

@[simp] lemma dispatchReceivedReinviteSentOffer_avoids :
    Avoids .unacknowledgedProvisional (b.dispatchReceivedReinviteSentOffer msg) := by
  simp only [dispatchReceivedReinviteSentOffer]
  split <;> simp

@[simp] lemma dispatchReceivedUpdateOrReinvite_avoids :
    Avoids .unacknowledgedProvisional (b.dispatchReceivedUpdateOrReinvite msg) := by
  simp only [dispatchReceivedUpdateOrReinvite]
  split <;> simp

lemma dispatch_avoids [DecidableEq γ] : Avoids .unacknowledgedProvisional (b.dispatch msg) := by
  simp only [dispatch]
  split
  · simp
  split <;> simp [dispatchSentReinviteAnswered, dispatchGlare, dispatchAnswered,
    dispatchWaitingToOffer, dispatchWaitingToRequestOffer, dispatchWaitingToTerminate]

lemma waitForAckExpired_avoids : Avoids .unacknowledgedProvisional b.waitForAckExpired := by
  simp only [waitForAckExpired]
  split <;> simp

lemma dispatchTimer_avoids (timeout : SessionTimer) :
    Avoids .unacknowledgedProvisional (b.dispatchTimer timeout) := by
  simp only [dispatchTimer]
  split
  case h_1 => split <;> simp
  all_goals simp [waitForAckExpired_avoids]

lemma resume_avoids (f : Frame γ) : Avoids .unacknowledgedProvisional (b.resume f) := by
  simp only [resume]
  split <;> simp
end InviteSession

namespace ServerInviteSession
open InviteSession
variable {γ : Type*} {s s' : ServerInviteSession γ} {msg : SessionMessage γ}

/-! ### The assertion -/

lemma inherited_avoids {r : Outcome (InviteSession γ)}
    (h : Avoids .unacknowledgedProvisional r) :
    Avoids .unacknowledgedProvisional (s.inherited r) := by
  simpa using h

lemma sendProvisional_avoids {code : ℕ} {earlyFlag : Bool}
    (hu : s.mUnacknowledgedReliableProvisional = false) :
    Avoids .unacknowledgedProvisional (s.sendProvisional code earlyFlag) := by
  unfold sendProvisional
  split <;> simp [hu]

lemma prackCheckQueue_avoids (hok : s.resumesAstray .prackCheckQueue = false) :
    Avoids .unacknowledgedProvisional s.prackCheckQueue := by
  unfold prackCheckQueue
  split
  case h_1 code earlyFlag rest hq =>
    split
    case isTrue hc =>
      have hc' : code < 300 := by omega
      have hu : s.mUnacknowledgedReliableProvisional = false := by simp_all [resumesAstray]
      simp [sendProvisional_avoids hu]
    case isFalse => split <;> simp
  case h_2 => simp

lemma provisional_avoids (h : s.Acknowledging) (code : ℕ) (earlyFlag : Bool) :
    Avoids .unacknowledgedProvisional (s.provisional code earlyFlag) := by
  have hu (hst : s.mState.awaitsPrack = false) (hst' : s.mState ≠ .Terminated) :
      s.mUnacknowledgedReliableProvisional = false := by
    by_contra hn
    simpa [Settled, hst, hst'] using h.settled (by simpa using hn)
  have hqueue : Avoids .unacknowledgedProvisional (s.provisionalOrQueue code earlyFlag) := by
    unfold provisionalOrQueue
    split
    case isTrue => simp
    case isFalse hn => exact sendProvisional_avoids (by simpa using hn)
  have hthen (hf : s.mUnacknowledgedReliableProvisional = false) (target : SessionState) :
      Avoids .unacknowledgedProvisional (s.provisionalThen code earlyFlag target) := by
    simp [provisionalThen, sendProvisional_avoids hf]
  unfold provisional
  split
  case h_1 hst | h_2 hst | h_3 hst | h_4 hst | h_5 hst | h_6 hst | h_7 hst | h_8 hst =>
    exact sendProvisional_avoids (hu (by rw [hst]; rfl) (by simp [hst]))
  case h_14 hst | h_15 hst | h_16 hst => exact hthen (hu (by rw [hst]; rfl) (by simp [hst])) _
  case h_17 =>
    split
    case isTrue => exact hqueue
    case isFalse hc => exact hthen (by simpa using fun hn => hc (.inl hn)) _
  case h_18 => simp
  all_goals exact hqueue

lemma provideOffer_avoids (offer : γ) (sendOfferAtAccept : Bool) :
    Avoids .unacknowledgedProvisional (s.provideOffer offer sendOfferAtAccept) := by
  unfold provideOffer
  split <;> simp

lemma provideProposedOffer_avoids : Avoids .unacknowledgedProvisional s.provideProposedOffer := by
  simp [provideProposedOffer, provideOffer_avoids]

lemma requestOffer_avoids : Avoids .unacknowledgedProvisional s.requestOffer := by
  unfold requestOffer
  split <;> simp

lemma provideAnswer_avoids (answer : γ) :
    Avoids .unacknowledgedProvisional (s.provideAnswer answer) := by
  simp only [provideAnswer]
  split
  case h_8 => split <;> simp
  all_goals simp

lemma reject_avoids (code : ℕ) : Avoids .unacknowledgedProvisional (s.reject code) := by
  unfold reject
  split <;> simp

lemma endSession_avoids : Avoids .unacknowledgedProvisional s.endSession := by
  unfold endSession
  split <;> simp [reject_avoids]

lemma accept_avoids (code : ℕ) : Avoids .unacknowledgedProvisional (s.accept code) := by
  unfold accept
  split <;> simp

lemma redirect_avoids (code : ℕ) : Avoids .unacknowledgedProvisional (s.redirect code) := by
  unfold redirect
  split <;> simp

lemma receiveAnswer_avoids (answer : γ) :
    Avoids .unacknowledgedProvisional (s.receiveAnswer answer) := by
  simp [receiveAnswer]

lemma handlePrack_avoids {k : ServerInviteSession γ → Outcome (ServerInviteSession γ)}
    (hk : ∀ s₁, Avoids .unacknowledgedProvisional (k s₁)) :
    Avoids .unacknowledgedProvisional (s.handlePrack msg k) := by
  simp only [handlePrack]
  split <;> simp [hk]

lemma dispatchNegotiatedReliable_avoids :
    Avoids .unacknowledgedProvisional (s.dispatchNegotiatedReliable msg) := by
  simp only [dispatchNegotiatedReliable]
  split
  case h_1 => exact handlePrack_avoids (by simp)
  all_goals simp

lemma dispatchSentUpdate_avoids (hu : s.mUnacknowledgedReliableProvisional = false) :
    Avoids .unacknowledgedProvisional (s.dispatchSentUpdate msg) := by
  simp only [dispatchSentUpdate]
  split
  case h_5 =>
    split
    · simp [receiveAnswer_avoids]
    · refine prackCheckQueue_avoids (s := s.transition .UAS_NegotiatedReliable) ?_
      simp only [resumesAstray]
      split
      · simp [hu, SessionState.awaitsPrack]
      · rfl
  all_goals simp

lemma dispatch_avoids [DecidableEq γ] (h : s.Acknowledging) :
    Avoids .unacknowledgedProvisional (s.dispatch msg) := by
  simp only [dispatch]
  split
  · simp
  split
  case h_1 =>
    simp only [dispatchStart]
    split <;> simp
  case h_14 =>
    simp only [dispatchOfferReliableProvidedAnswer]
    split
    case h_1 => exact handlePrack_avoids (by simp)
    case h_2 => simp
  case h_16 =>
    simp only [dispatchWaitingToOffer]
    split <;> simp [provideProposedOffer_avoids]
  case h_17 =>
    simp only [dispatchWaitingToRequestOffer]
    split <;> simp [requestOffer_avoids]
  case h_18 =>
    simp only [dispatchAcceptedWaitingAnswer]
    split <;> simp [receiveAnswer_avoids]
  case h_19 =>
    simp only [dispatchFirstSentAnswerReliable]
    split
    case h_1 => exact handlePrack_avoids (by simp)
    case h_2 => simp
  case h_20 =>
    simp only [dispatchNoAnswerReliableWaitingPrack]
    split
    case h_1 => exact handlePrack_avoids (by simp)
    case h_2 => simp
  case h_21 =>
    simp only [dispatchFirstSentOfferReliable]
    split
    case h_1 =>
      refine handlePrack_avoids fun s₁ => ?_
      split <;> simp [receiveAnswer_avoids]
    case h_2 => simp
  case h_24 hst =>
    have hset := h.settled
    exact dispatchSentUpdate_avoids (by simpa [Settled, SessionState.awaitsPrack, hst] using hset)
  case h_27 =>
    simp only [dispatchSentUpdateAccepted]
    split
    case h_4 => split <;> simp [receiveAnswer_avoids]
    all_goals simp
  case h_28 => exact dispatchNegotiatedReliable_avoids
  case h_29 => exact inherited_avoids InviteSession.dispatch_avoids
  all_goals simp

lemma dispatchTimer_avoids (timeout : SessionTimer) :
    Avoids .unacknowledgedProvisional (s.dispatchTimer timeout) := by
  have hbase := inherited_avoids (s := s) (InviteSession.dispatchTimer_avoids
    (b := s.toInviteSession) timeout)
  simp only [dispatchTimer]
  split
  case h_2 => split <;> simp
  case h_4 =>
    split
    · simp
    · exact hbase
  case h_5 => exact hbase
  all_goals simp

lemma resumeFrame_avoids (f : Frame γ) (hok : s.resumesAstray f = false) :
    Avoids .unacknowledgedProvisional (s.resumeFrame f) := by
  simp only [resumeFrame]
  split
  case h_8 => exact prackCheckQueue_avoids hok
  case h_12 => exact dispatchNegotiatedReliable_avoids
  case h_13 => simp [provideProposedOffer_avoids]
  case h_14 => simp [requestOffer_avoids]
  case h_15 => exact inherited_avoids (resume_avoids f)
  all_goals simp

theorem step_avoids [DecidableEq γ] {e : ServerEvent γ} (h : s.Acknowledging)
    (hok : s.astray e = false) : s.step e ≠ .error .unacknowledgedProvisional := by
  change Avoids _ (s.step e)
  cases e with
  | message msg => exact dispatch_avoids h
  | timer timeout => exact dispatchTimer_avoids timeout
  | resume =>
    simp only [step, resume]
    split
    case h_1 f rest hf =>
      have hok' : s.resumesAstray f = false := by simpa [astray, hf] using hok
      exact resumeFrame_avoids f hok'
    case h_2 => simp
  | provisional code earlyFlag => exact provisional_avoids h code earlyFlag
  | provideOffer offer sendOfferAtAccept => exact provideOffer_avoids offer sendOfferAtAccept
  | requestOffer => exact requestOffer_avoids
  | provideAnswer answer => exact provideAnswer_avoids answer
  | accept code => exact accept_avoids code
  | reject code => exact reject_avoids code
  | redirect code => exact redirect_avoids code
  | endSession => exact endSession_avoids
  | targetRefresh => exact inherited_avoids targetRefresh_avoids
end ServerInviteSession

end Resiprocate.Dum
