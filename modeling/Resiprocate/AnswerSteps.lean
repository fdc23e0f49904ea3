import Resiprocate.AfterAnswer

/-! One step of a callee sends one response to the first INVITE at most, and leaves the rest of one
handler at most. -/
namespace Resiprocate.Dum
open TransitionSystem ProgramLogic

namespace InviteSession
variable {γ : Type*}

/-- One step answers the first INVITE once at most, and finally only on the way to a state that
says so. -/
@[mk_iff] structure Answers (b b' : InviteSession γ) : Prop where
  responses : firstResponses b'.trace = firstResponses b.trace ∨
    ∃ r, firstResponses b'.trace = r :: firstResponses b.trace ∧
      (200 ≤ r.statusCode → b'.mState.answered)
  invite200 : ∀ r, b'.mInvite200 = some r → r.request = .first → b.mInvite200 = some r ∨
    (firstResponses b'.trace = r :: firstResponses b.trace ∧
      200 ≤ r.statusCode ∧ r.statusCode < 300)
  later : b'.AnswersLater
  frames : b'.frames = b.frames ∨ ∃ f, b'.frames = f :: b.frames ∧
    b'.mState.received = false ∧ (f.rejects → b'.mState = .Terminated) ∧
    (f.late → b'.mState.answered)

variable {b b' : InviteSession γ}

lemma Quiet.answers (h : b.Quiet b') : b.Answers b' :=
  ⟨.inl h.responses, fun r hr hf => .inl (h.invite200 r hr hf), h.later, .inl h.frames⟩

lemma Quietly.answers (h : b.Quietly b') : b.Answers b' := by
  rcases h with h | ⟨b₁, f, h, hr, hf, ha, rfl⟩
  · exact h.answers
  · exact ⟨.inl h.responses, fun r hr hf => .inl (h.invite200 r hr hf), h.later,
      .inr ⟨f, congrArg _ h.frames, hr, by simp [hf], fun _ => ha⟩⟩

lemma Quiet.answersThen {b₁ : InviteSession γ} (h : b.Quiet b₁) (h' : b₁.Answers b') :
    b.Answers b' := by
  refine ⟨h.responses ▸ h'.responses, fun r hr hf => ?_, h'.later, h.frames ▸ h'.frames⟩
  rcases h'.invite200 r hr hf with h₁ | h₁
  · exact .inl (h.invite200 r h₁ hf)
  · exact .inr (h.responses ▸ h₁)

/-- What a call of the application leaves alone. -/
@[mk_iff] structure Contains (b b' : InviteSession γ) : Prop where
  frames : b.mState.received = false → b'.frames = b.frames
  received : b.mState.received = false → b'.mState.received = false
  terminated : b.mState = .Terminated → b'.mState = .Terminated
  answered : b.mState.answered → b'.mState.answered

lemma sendAck_contains (h : b.Contains b') (answer : Option γ) :
    Yields (b'.sendAck answer) b.Contains := by
  simp only [sendAck, Yields.bind_iff]
  intro source _
  simp_all [contains_iff]

lemma sessionRefresh_contains (h : b.mState ≠ .Terminated) : Yields b.sessionRefresh b.Contains := by
  simp only [sessionRefresh]
  split <;> simp_all +decide [contains_iff]

lemma provideOffer_contains (offer : γ) : Yields (b.provideOffer offer) b.Contains := by
  simp only [provideOffer]
  split <;> simp_all +decide [contains_iff]

lemma requestOffer_contains : Yields b.requestOffer b.Contains := by
  simp only [requestOffer]
  split <;> simp_all +decide [contains_iff]

lemma provideAnswer_contains (answer : γ) : Yields (b.provideAnswer answer) b.Contains := by
  simp only [provideAnswer]
  split
  case h_3 hst =>
    have hc : b.Contains (b.transition .Connected) := by simp_all +decide [contains_iff]
    refine Yields.bind_iff.mpr ((sendAck_contains hc _).weaken fun b' hb => ?_)
    simpa [contains_iff] using hb
  all_goals simp_all +decide [contains_iff]

lemma endSession_contains : Yields b.endSession b.Contains := by
  simp only [endSession]
  split <;> simp_all +decide [contains_iff]

lemma reject_contains (code : ℕ) : Yields (b.reject code) b.Contains := by
  simp only [reject]
  split
  case h_4 hst =>
    exact sendAck_contains (by simp_all +decide [contains_iff]) none
  all_goals simp_all +decide [contains_iff]

lemma targetRefresh_contains : Yields b.targetRefresh b.Contains := by
  simp only [targetRefresh]
  split
  case isTrue hc =>
    refine sessionRefresh_contains fun hst => ?_
    simp [isConnected, hst] at hc
  case isFalse => simp [contains_iff]

end InviteSession

namespace ServerInviteSession
open InviteSession
variable {γ : Type*} {s : ServerInviteSession γ} {msg : SessionMessage γ}

/-- Provisional and 2xx responses. -/
def Queueable (queue : List (ℕ × Bool)) : Prop := ∀ q ∈ queue, q.1 < 300

@[simp] lemma queueable_nil : Queueable [] := nofun

@[simp] lemma queueable_append {queue : List (ℕ × Bool)} {code : ℕ} {earlyFlag : Bool} :
    Queueable (queue ++ [(code, earlyFlag)]) ↔ Queueable queue ∧ code < 300 := by
  simp only [Queueable, List.forall_mem_append, List.forall_mem_singleton]

@[simp] lemma Queueable.tail {queue : List (ℕ × Bool)} (h : Queueable queue) :
    Queueable queue.tail :=
  fun q hq => h q (List.mem_of_mem_tail hq)

/-- The same for a step of the derived class, which keeps provisional codes in `m1xx`, and
provisional and 2xx codes in the queue. -/
@[mk_iff] structure Answering (s s' : ServerInviteSession γ) : Prop where
  answers : s.toInviteSession.Answers s'.toInviteSession
  code : s.m1xx.statusCode < 200 → s'.m1xx.statusCode < 200
  queue : Queueable s.mQueuedResponses → Queueable s'.mQueuedResponses

lemma Answering.refl (h : s.AnswersLater) : s.Answering s := ⟨(Quiet.refl h).answers, id, id⟩

/-- A quiet change of the base class on the way. -/
lemma Answering.after {s₁ s' : ServerInviteSession γ}
    (h : s.toInviteSession.Quiet s₁.toInviteSession)
    (hm : s₁.m1xx = s.m1xx ∧ s₁.mQueuedResponses = s.mQueuedResponses)
    (h' : s₁.Answering s') : s.Answering s' :=
  ⟨h.answersThen h'.answers, hm.1 ▸ h'.code, hm.2 ▸ h'.queue⟩

/-- What is left to do after a quiet change. -/
lemma answers_after {s₁ : ServerInviteSession γ} {r : Outcome (ServerInviteSession γ)}
    (h : s.toInviteSession.Quiet s₁.toInviteSession)
    (hm : s₁.m1xx = s.m1xx ∧ s₁.mQueuedResponses = s.mQueuedResponses)
    (hr : Yields r s₁.Answering) : Yields r s.Answering :=
  hr.weaken fun _ => .after h hm

lemma stop200_quiet (h : s.AnswersLater) :
    s.toInviteSession.Quiet (s.onBase (·.stop200)).toInviteSession := by
  simp_all [quiet_iff, AnswersLater]

/-- A provisional may be sent before or after a transition. -/
lemma sendProvisional_answers {code : ℕ} (hc : code < 200) (earlyFlag : Bool) :
    Yields (s.sendProvisional code earlyFlag) fun s' => (s.AnswersLater → s.Answering s') ∧
      ∀ target : SessionState, target.received = false → s.Answering (s'.transition target) := by
  refine (sendProvisional_spec s code earlyFlag).weaken ?_
  rintro s' (⟨body, -, -, -, rfl⟩ | ⟨body, -, rfl⟩)
  · simp_all [answering_iff, answers_iff, AnswersLater, Frame.rejects,
    Frame.late]
  · simp_all [answering_iff, answers_iff, AnswersLater, Frame.rejects,
    Frame.late]

lemma connect_answers {code : ℕ} (h : 200 ≤ code ∧ code < 300) (body : Option γ) :
    s.Answering (s.connect code body) := by
  simp_all +decide [answering_iff, answers_iff, AnswersLater, Frame.rejects,
    Frame.late]

lemma connect_suspend_answers {code : ℕ} (h : 200 ≤ code ∧ code < 300) (body : Option γ)
    {f : Frame γ} (hf : f.rejects = false) : s.Answering ((s.connect code body).suspend f) := by
  simp_all +decide [answering_iff, answers_iff, AnswersLater, Frame.rejects,
    Frame.late]

lemma refuse_answers (code : ℕ) : s.Answering (s.refuse code) := by
  simp_all +decide [answering_iff, answers_iff, AnswersLater, Frame.rejects,
    Frame.late]

/-- The base class says nothing about the first INVITE. -/
lemma inherited_answers {r : Outcome (InviteSession γ)} (h : Yields r s.toInviteSession.Quiet) :
    Yields (s.inherited r) s.Answering :=
  Yields.map_iff.mpr (h.weaken fun _ hq => ⟨hq.answers, id, id⟩)

lemma prackCheckQueue_answers (h : s.AnswersLater) : Yields s.prackCheckQueue s.Answering := by
  unfold prackCheckQueue
  split
  case h_1 code earlyFlag rest hq =>
    split
    case isTrue hc =>
      refine Yields.bind_iff.mpr ((sendProvisional_answers hc earlyFlag).weaken fun s' hs => ?_)
      refine Yields.pure_iff.mpr ⟨(hs.1 h).answers, (hs.1 h).code, fun hall => ?_⟩
      simpa [hq] using hall.tail
    split
    case isTrue hc => exact Yields.ok_iff.mpr (connect_suspend_answers ⟨by omega, hc⟩ _ rfl)
    case isFalse => exact Yields.ok_iff.mpr (.refl h)
  case h_2 => exact Yields.ok_iff.mpr (.refl h)

lemma updateCheckQueue_answers (h : s.AnswersLater) : s.Answering s.updateCheckQueue := by
  unfold updateCheckQueue
  split
  case h_1 code _ _ _ =>
    split_ifs with hc
    · exact connect_suspend_answers hc _ rfl
    · exact (.refl h)
  case h_2 => exact (.refl h)

lemma updateCheckQueue_after {s₁ : ServerInviteSession γ}
    (h : s.toInviteSession.Quiet s₁.toInviteSession)
    (hm : s₁.m1xx = s.m1xx ∧ s₁.mQueuedResponses = s.mQueuedResponses) :
    s.Answering s₁.updateCheckQueue :=
  .after h hm (updateCheckQueue_answers h.later)

/-! ### Calls -/

lemma redirect_answers (code : ℕ) : Yields (s.redirect code) s.Answering := by
  unfold redirect
  split
  case h_20 => exact Yields.of_error _
  all_goals exact Yields.ok_iff.mpr (refuse_answers code)

lemma provisionalOrQueue_answers (h : s.AnswersLater) {code : ℕ} (hc : code < 200)
    (earlyFlag : Bool) : Yields (s.provisionalOrQueue code earlyFlag) s.Answering := by
  unfold provisionalOrQueue
  split_ifs
  · have hc' : code < 300 := by omega
    exact Yields.ok_iff.mpr ⟨(Quiet.refl h).answers, id, by simp [hc']⟩
  · exact (sendProvisional_answers hc earlyFlag).weaken fun s' hs => hs.1 h

lemma provisionalThen_answers (h : s.AnswersLater) {code : ℕ} (hc : code < 200)
    (earlyFlag : Bool) {target : SessionState} (ht : target.received = false) :
    Yields (s.provisionalThen code earlyFlag target) s.Answering := by
  refine Yields.bind_iff.mpr ((sendProvisional_answers hc earlyFlag).weaken fun s' hs => ?_)
  refine Yields.pure_iff.mpr ?_
  split_ifs
  · exact hs.2 target ht
  · exact hs.1 h

/-- A transition between two states in which nothing of the peer is to be answered. -/
lemma provisionalAt_answers {code : ℕ} (hc : code < 200) (earlyFlag : Bool)
    {target : SessionState} (ht : target.received = false) :
    Yields ((s.transition target).sendProvisional code earlyFlag) s.Answering :=
  (sendProvisional_answers hc earlyFlag).weaken fun s' hs => by
    have ha := hs.1 (by simp [AnswersLater, ht])
    simpa [answering_iff, answers_iff] using ha

lemma provisional_answers (h : s.AnswersLater) {code : ℕ} (hc : code < 200) (earlyFlag : Bool) :
    Yields (s.provisional code earlyFlag) s.Answering := by
  unfold provisional
  split
  case h_1 | h_2 | h_3 | h_4 | h_5 | h_6 | h_7 | h_8 => exact provisionalAt_answers hc earlyFlag rfl
  case h_9 | h_10 | h_11 | h_12 | h_13 => exact provisionalOrQueue_answers h hc earlyFlag
  case h_14 | h_15 | h_16 => exact provisionalThen_answers h hc earlyFlag rfl
  case h_17 =>
    split_ifs
    · exact provisionalOrQueue_answers h hc earlyFlag
    · exact provisionalThen_answers h hc earlyFlag rfl
  case h_18 => exact Yields.of_error _

lemma provideOffer_answers (h : s.AnswersLater) (offer : γ) (sendOfferAtAccept : Bool) :
    Yields (s.provideOffer offer sendOfferAtAccept) s.Answering := by
  unfold provideOffer
  split
  case h_4 =>
    simp only [sendUpdate]
    split_ifs <;> simp_all +decide [answering_iff, answers_iff, AnswersLater, Frame.rejects,
    Frame.late]
  case h_24 => exact inherited_answers (provideOffer_quiet h offer)
  all_goals simp_all +decide [answering_iff, answers_iff, AnswersLater, Frame.rejects,
    Frame.late]

lemma requestOffer_answers (h : s.AnswersLater) : Yields s.requestOffer s.Answering := by
  unfold requestOffer
  split
  · simp_all +decide [answering_iff, answers_iff, AnswersLater, Frame.rejects,
    Frame.late]
  · exact inherited_answers (requestOffer_quiet h)

lemma provideAnswer_answers (h : s.AnswersLater) (answer : γ) :
    Yields (s.provideAnswer answer) s.Answering := by
  have hq : s.toInviteSession.Quiet { s with mAnswerSentReliably := false }.toInviteSession :=
    .refl h
  refine answers_after hq ⟨rfl, rfl⟩ ?_
  simp only [provideAnswer]
  split
  case h_7 hst =>
    refine Yields.ok_iff.mpr (updateCheckQueue_after ?_ ⟨rfl, rfl⟩)
    simp_all +decide [quiet_iff, AnswersLater]
  case h_8 =>
    split <;> simp_all +decide [answering_iff, answers_iff, AnswersLater, Frame.rejects,
    Frame.late]
  case h_27 => exact inherited_answers (provideAnswer_quiet h answer)
  all_goals simp_all +decide [answering_iff, answers_iff, AnswersLater, Frame.rejects,
    Frame.late]

lemma reject_answers (h : s.AnswersLater) (code : ℕ) : Yields (s.reject code) s.Answering := by
  unfold reject
  split
  all_goals first
    | exact Yields.of_error _
    | exact Yields.ok_iff.mpr (refuse_answers code)
    | exact inherited_answers (reject_quiet h code)

lemma endSession_answers (h : s.AnswersLater) : Yields s.endSession s.Answering := by
  unfold endSession
  split
  all_goals first
    | exact reject_answers h 480
    | exact inherited_answers (endSession_quiet h)
    | simp_all +decide [answering_iff, answers_iff, AnswersLater, Frame.rejects,
    Frame.late]

lemma accept_answers (h : s.AnswersLater) {code : ℕ} (hc : 200 ≤ code ∧ code < 300) :
    Yields (s.accept code) s.Answering := by
  unfold accept
  split
  all_goals simp_all +decide [answering_iff, answers_iff, AnswersLater, Frame.rejects,
    Frame.late]

/-! ### Messages -/

lemma dispatchUnknownRequest_answers (h : s.AnswersLater) :
    s.Answering (s.dispatchUnknownRequest msg) := by
  simp only [dispatchUnknownRequest, dispatchUnknown]
  split <;> simp_all +decide [answering_iff, answers_iff, AnswersLater, Frame.rejects,
    Frame.late]

lemma dispatchOfferOrEarly_answers (h : s.AnswersLater) :
    s.Answering (s.dispatchOfferOrEarly msg) := by
  simp only [dispatchOfferOrEarly]
  split
  case h_4 => exact dispatchUnknownRequest_answers h
  all_goals simp_all +decide [dispatchCancel, dispatchBye, answering_iff, answers_iff, AnswersLater,
    Frame.rejects, Frame.late]

lemma dispatchAfter2xx_answers (h : s.AnswersLater) : s.Answering (s.dispatchAfter2xx msg) := by
  simp only [dispatchAfter2xx]
  split
  case h_8 => exact dispatchUnknownRequest_answers h
  all_goals simp_all +decide [answering_iff, answers_iff, AnswersLater, Frame.rejects,
    Frame.late]

lemma dispatchAccepted_answers (h : s.AnswersLater) : s.Answering (s.dispatchAccepted msg) := by
  simp only [dispatchAccepted, dispatchByeAccepted]
  split
  case h_5 => exact dispatchAfter2xx_answers h
  all_goals simp_all +decide [answering_iff, answers_iff, AnswersLater, Frame.rejects,
    Frame.late]

lemma provideProposedOffer_answers (h : s.AnswersLater) :
    Yields s.provideProposedOffer s.Answering :=
  Yields.bind_iff.mpr fun offer _ => provideOffer_answers h offer false

lemma dispatchWaitingToOffer_answers (h : s.AnswersLater) :
    Yields (s.dispatchWaitingToOffer msg) s.Answering := by
  simp only [dispatchWaitingToOffer, dispatchByeAccepted]
  split
  case h_1 =>
    split
    · exact answers_after (stop200_quiet h) ⟨rfl, rfl⟩ (provideProposedOffer_answers (stop200_quiet h).later)
    · exact Yields.of_error _
  case h_4 => exact Yields.ok_iff.mpr (dispatchAfter2xx_answers h)
  all_goals simp_all +decide [answering_iff, answers_iff, AnswersLater, Frame.rejects,
    Frame.late]

lemma dispatchWaitingToRequestOffer_answers (h : s.AnswersLater) :
    Yields (s.dispatchWaitingToRequestOffer msg) s.Answering := by
  simp only [dispatchWaitingToRequestOffer, dispatchByeAccepted]
  split
  case h_1 => exact answers_after (stop200_quiet h) ⟨rfl, rfl⟩ (requestOffer_answers (stop200_quiet h).later)
  case h_4 => exact Yields.ok_iff.mpr (dispatchAfter2xx_answers h)
  all_goals simp_all +decide [answering_iff, answers_iff, AnswersLater, Frame.rejects,
    Frame.late]

lemma dispatchAcceptedWaitingAnswer_answers (h : s.AnswersLater) :
    Yields (s.dispatchAcceptedWaitingAnswer msg) s.Answering := by
  simp only [dispatchAcceptedWaitingAnswer]
  split
  case h_1 =>
    refine Yields.bind_iff.mpr fun answer _ => ?_
    refine Yields.bind_iff.mpr ((receiveAnswer_spec _ answer).weaken ?_)
    rintro s' ⟨offer, -, rfl⟩
    simp_all +decide [answering_iff, answers_iff, AnswersLater, Frame.rejects,
    Frame.late]
  case h_4 => exact Yields.ok_iff.mpr (dispatchAfter2xx_answers h)
  all_goals simp_all +decide [answering_iff, answers_iff, AnswersLater, Frame.rejects,
    Frame.late]

lemma handlePrack_answers (h : s.AnswersLater)
    {k : ServerInviteSession γ → Outcome (ServerInviteSession γ)}
    (hk : Yields (k { s with mUnacknowledgedReliableProvisional := false }) s.Answering) :
    Yields (s.handlePrack msg k) s.Answering := by
  simp only [handlePrack]
  split
  · exact hk
  · simp_all [answering_iff, answers_iff, AnswersLater, Frame.rejects,
    Frame.late]

lemma dispatchFirstSentOfferReliable_answers (h : s.AnswersLater) :
    Yields (s.dispatchFirstSentOfferReliable msg) s.Answering := by
  simp only [dispatchFirstSentOfferReliable]
  split
  case h_1 =>
    refine handlePrack_answers h ?_
    split
    case h_1 answer _ =>
      refine Yields.bind_iff.mpr ((receiveAnswer_spec _ answer).weaken ?_)
      rintro s' ⟨offer, -, rfl⟩
      simp_all +decide [answering_iff, answers_iff, AnswersLater, Frame.rejects,
    Frame.late]
    case h_2 => simp_all +decide [illegalPrack, answering_iff, answers_iff, AnswersLater, Frame.rejects,
    Frame.late]
  case h_2 => exact Yields.ok_iff.mpr (dispatchOfferOrEarly_answers h)

lemma dispatchOfferReliableProvidedAnswer_answers (h : s.AnswersLater)
    (hr : s.mState.received = false) :
    Yields (s.dispatchOfferReliableProvidedAnswer msg) s.Answering := by
  simp only [dispatchOfferReliableProvidedAnswer]
  split
  case h_1 =>
    refine handlePrack_answers h ?_
    simp only [acknowledgePrack, illegalPrack]
    split_ifs <;> simp_all +decide [answering_iff, answers_iff, AnswersLater, Frame.rejects,
    Frame.late]
  case h_2 => exact Yields.ok_iff.mpr (dispatchOfferOrEarly_answers h)

lemma dispatchFirstSentAnswerReliable_answers (h : s.AnswersLater)
    (hr : s.mState.received = false) :
    Yields (s.dispatchFirstSentAnswerReliable msg) s.Answering := by
  simp only [dispatchFirstSentAnswerReliable]
  split
  case h_1 =>
    refine handlePrack_answers h ?_
    simp only [acknowledgePrack, offerInPrack]
    split <;> simp_all +decide [answering_iff, answers_iff, AnswersLater, Frame.rejects,
    Frame.late]
  case h_2 => exact Yields.ok_iff.mpr (dispatchOfferOrEarly_answers h)

lemma dispatchNoAnswerReliableWaitingPrack_answers (h : s.AnswersLater) :
    Yields (s.dispatchNoAnswerReliableWaitingPrack msg) s.Answering := by
  simp only [dispatchNoAnswerReliableWaitingPrack]
  split
  case h_1 =>
    refine handlePrack_answers h ?_
    simp only [acknowledgePrack, illegalPrack]
    split_ifs <;> simp_all +decide [answering_iff, answers_iff, AnswersLater, Frame.rejects,
    Frame.late]
  case h_2 => exact Yields.ok_iff.mpr (dispatchOfferOrEarly_answers h)

lemma dispatchNegotiatedReliable_answers (h : s.AnswersLater)
    (hr : s.mState.received = false) :
    Yields (s.dispatchNegotiatedReliable msg) s.Answering := by
  simp only [dispatchNegotiatedReliable]
  split
  case h_1 =>
    refine handlePrack_answers h ?_
    simp only [acknowledgePrack, offerInPrack]
    split <;> simp_all +decide [answering_iff, answers_iff, AnswersLater, Frame.rejects,
    Frame.late]
  case h_2 => simp_all +decide [receiveOffer, answering_iff, answers_iff, AnswersLater, Frame.rejects,
    Frame.late]
  case h_3 => exact Yields.ok_iff.mpr (dispatchOfferOrEarly_answers h)

lemma dispatchSentUpdate_answers (h : s.AnswersLater) :
    Yields (s.dispatchSentUpdate msg) s.Answering := by
  have hn : s.Answering (s.transition .UAS_NegotiatedReliable) := by
    simp_all +decide [answering_iff, answers_iff, AnswersLater, Frame.rejects,
    Frame.late]
  simp only [dispatchSentUpdate]
  split
  case h_5 =>
    split
    · refine Yields.bind_iff.mpr ((receiveAnswer_spec _ _).weaken ?_)
      rintro s' ⟨offer, -, rfl⟩
      simp_all +decide [answering_iff, answers_iff, AnswersLater, Frame.rejects,
    Frame.late]
    · refine (prackCheckQueue_answers (s := s.transition .UAS_NegotiatedReliable) ?_).weaken ?_
      · simp +decide [AnswersLater]
      · intro s' hs
        simpa [answering_iff, answers_iff] using hs
  case h_9 => exact Yields.ok_iff.mpr (dispatchUnknownRequest_answers h)
  all_goals simp_all +decide [dispatchCancel, dispatchBye, answering_iff, answers_iff, AnswersLater,
    Frame.rejects, Frame.late]

lemma dispatchSentUpdateGlare_answers (h : s.AnswersLater)
    (hr : s.mState.received = false) :
    s.Answering (s.dispatchSentUpdateGlare msg) := by
  simp only [dispatchSentUpdateGlare]
  split
  case h_5 => exact dispatchUnknownRequest_answers h
  all_goals simp_all +decide [dispatchCancel, dispatchBye, answering_iff, answers_iff, AnswersLater,
    Frame.rejects, Frame.late]

lemma dispatchSentUpdateAccepted_answers (h : s.AnswersLater) :
    Yields (s.dispatchSentUpdateAccepted msg) s.Answering := by
  have hn : s.toInviteSession.Quiet (s.transition .UAS_Accepted).toInviteSession :=
    (Quiet.refl h).transition .UAS_Accepted rfl rfl
  simp only [dispatchSentUpdateAccepted]
  split
  case h_4 =>
    split
    · refine Yields.bind_iff.mpr ((receiveAnswer_spec _ _).weaken ?_)
      rintro s' ⟨offer, -, rfl⟩
      simp_all +decide [answering_iff, answers_iff, AnswersLater, Frame.rejects,
    Frame.late]
    · exact Yields.ok_iff.mpr (updateCheckQueue_after hn ⟨rfl, rfl⟩)
  case h_8 => exact Yields.ok_iff.mpr (dispatchUnknownRequest_answers h)
  all_goals simp_all +decide [dispatchCancel, dispatchBye, answering_iff, answers_iff, AnswersLater,
    Frame.rejects, Frame.late]

lemma dispatchReceivedUpdate_answers (h : s.AnswersLater) :
    s.Answering (s.dispatchReceivedUpdate msg) := by
  simp only [dispatchReceivedUpdate]
  split
  case h_5 => exact dispatchUnknownRequest_answers h
  all_goals simp_all +decide [dispatchCancel, dispatchBye, answering_iff, answers_iff, AnswersLater,
    Frame.rejects, Frame.late]

lemma dispatchStart_answers (h : s.AnswersLater) : Yields (s.dispatchStart msg) s.Answering := by
  simp only [dispatchStart]
  split <;> simp_all +decide [answering_iff, answers_iff, AnswersLater, Frame.rejects,
    Frame.late]

theorem dispatch_answers [DecidableEq γ] (h : s.AnswersLater) :
    Yields (s.dispatch msg) s.Answering := by
  simp only [dispatch]
  split
  · exact Yields.ok_iff.mpr (.refl h)
  split
  case h_1 => exact dispatchStart_answers h
  case h_14 hst => exact dispatchOfferReliableProvidedAnswer_answers h (by rw [hst]; rfl)
  case h_15 => exact Yields.ok_iff.mpr (dispatchAccepted_answers h)
  case h_16 => exact dispatchWaitingToOffer_answers h
  case h_17 => exact dispatchWaitingToRequestOffer_answers h
  case h_18 => exact dispatchAcceptedWaitingAnswer_answers h
  case h_19 hst => exact dispatchFirstSentAnswerReliable_answers h (by rw [hst]; rfl)
  case h_20 => exact dispatchNoAnswerReliableWaitingPrack_answers h
  case h_21 => exact dispatchFirstSentOfferReliable_answers h
  case h_22 | h_23 => exact Yields.ok_iff.mpr (dispatchReceivedUpdate_answers h)
  case h_24 => exact dispatchSentUpdate_answers h
  case h_25 hst => exact Yields.ok_iff.mpr (dispatchSentUpdateGlare_answers h (by rw [hst]; rfl))
  case h_26 => exact Yields.ok_iff.mpr ⟨(dispatchWaitingToHangup_quiet h).answers, id, id⟩
  case h_27 => exact dispatchSentUpdateAccepted_answers h
  case h_28 hst => exact dispatchNegotiatedReliable_answers h (by rw [hst]; rfl)
  case h_29 => exact Yields.map_iff.mpr ((dispatch_quiet h).weaken fun _ hq => ⟨hq.answers, id, id⟩)
  all_goals exact Yields.ok_iff.mpr (dispatchOfferOrEarly_answers h)

/-! ### Timers, and the rests of handlers -/

/-- The 2xx is a final response, sent in a state that says so. -/
def Retransmittable (s : ServerInviteSession γ) : Prop :=
  ∀ r, s.mInvite200 = some r → r.request = .first → s.mState.answered

lemma dispatchTimer_answers (h : s.AnswersLater) (hm : s.m1xx.statusCode < 200)
    (h200 : s.Retransmittable) (timeout : SessionTimer) :
    Yields (s.dispatchTimer timeout) s.Answering := by
  have hbase : Yields (s.inherited (s.toInviteSession.dispatchTimer timeout)) s.Answering := by
    refine Yields.map_iff.mpr ((dispatchTimer_quiet h timeout).weaken ?_)
    rintro b (hq | ⟨r, hr, rfl⟩)
    · exact ⟨hq.answers, id, id⟩
    · by_cases hf : r.request = .first
      · have := h200 r hr hf
        simp_all [answering_iff, answers_iff, AnswersLater, Frame.rejects,
    Frame.late]
      · simp_all [answering_iff, answers_iff, AnswersLater, Frame.rejects,
    Frame.late]
  simp only [dispatchTimer]
  split
  case h_1 =>
    split_ifs <;> simp_all [answering_iff, answers_iff, AnswersLater, Frame.rejects,
    Frame.late]
  case h_2 =>
    split
    · split_ifs <;> simp_all [answering_iff, answers_iff, AnswersLater, Frame.rejects,
    Frame.late]
    · exact Yields.ok_iff.mpr (.refl h)
  case h_3 =>
    split_ifs
    · exact Yields.ok_iff.mpr (refuse_answers 504)
    · simp_all [answering_iff, answers_iff, AnswersLater, Frame.rejects,
    Frame.late]
    · exact Yields.ok_iff.mpr (.refl h)
  case h_4 =>
    split_ifs
    · simp_all +decide [answering_iff, answers_iff, AnswersLater, Frame.rejects,
    Frame.late]
    · exact hbase
  case h_5 => exact hbase

lemma sendUpdate_answers (h : s.AnswersLater) (offer : γ) : s.Answering (s.sendUpdate offer) := by
  simp only [sendUpdate]
  split_ifs <;> simp_all [answering_iff, answers_iff, AnswersLater, Frame.rejects,
    Frame.late]

lemma resumeFrame_answers (h : s.AnswersLater) (f : Frame γ) (hr : s.mState.received = false)
    (hf : f.rejects → s.mState = .Terminated) : Yields (s.resumeFrame f) s.Answering := by
  simp only [resumeFrame]
  split
  case h_1 =>
    split_ifs
    · exact Yields.ok_iff.mpr (.refl h)
    · split <;> simp_all [answering_iff, answers_iff, AnswersLater, Frame.rejects,
    Frame.late]
  case h_7 => exact Yields.bind_iff.mpr fun offer _ => Yields.pure_iff.mpr (sendUpdate_answers h offer)
  case h_8 => exact prackCheckQueue_answers h
  case h_10 => exact Yields.ok_iff.mpr (updateCheckQueue_answers h)
  case h_12 => exact dispatchNegotiatedReliable_answers h hr
  case h_13 => simpa [Answering.refl h] using fun _ => provideProposedOffer_answers h
  case h_14 => simpa [Answering.refl h] using fun _ => requestOffer_answers h
  case h_15 => exact inherited_answers (resume_quiet h _)
  all_goals simp_all +decide [offerInPrack, answering_iff, answers_iff, AnswersLater, Frame.rejects,
    Frame.late]

/-! ### Calls while a handler waits -/

/-- `Contains` for a call of the derived class. -/
def Contains (s s' : ServerInviteSession γ) : Prop :=
  s.toInviteSession.Contains s'.toInviteSession

lemma inherited_contains {r : Outcome (InviteSession γ)} (h : Yields r s.toInviteSession.Contains) :
    Yields (s.inherited r) s.Contains :=
  Yields.map_iff.mpr h

lemma sendProvisional_contains (code : ℕ) (earlyFlag : Bool) :
    Yields (s.sendProvisional code earlyFlag) s.Contains := by
  refine (sendProvisional_spec s code earlyFlag).weaken ?_
  rintro s' (⟨body, -, -, -, rfl⟩ | ⟨body, -, rfl⟩)
  · simp [Contains, contains_iff]
  · simp [Contains, contains_iff]

lemma provisional_contains (code : ℕ) (earlyFlag : Bool) :
    Yields (s.provisional code earlyFlag) s.Contains := by
  have hat (target : SessionState) (hr : target.received = false)
      (hst : s.mState.answered = false) :
      Yields ((s.transition target).sendProvisional code earlyFlag) s.Contains :=
    (sendProvisional_contains code earlyFlag).weaken fun s' hs => by
      have hne : s.mState ≠ .Terminated := fun h => by simp [h, SessionState.answered] at hst
      simp_all [Contains, contains_iff]
  have hqueue : Yields (s.provisionalOrQueue code earlyFlag) s.Contains := by
    unfold provisionalOrQueue
    split_ifs
    · simp [Contains, contains_iff]
    · exact sendProvisional_contains code earlyFlag
  have hthen (target : SessionState) (hr : target.received = false)
      (hst : s.mState.answered = false) :
      Yields (s.provisionalThen code earlyFlag target) s.Contains := by
    refine Yields.bind_iff.mpr ((sendProvisional_contains code earlyFlag).weaken fun s' hs => ?_)
    refine Yields.pure_iff.mpr ?_
    split_ifs
    · have hne : s.mState ≠ .Terminated := fun h => by simp [h, SessionState.answered] at hst
      simp_all [Contains, contains_iff]
    · exact hs
  unfold provisional
  split
  case h_17 hst =>
    split_ifs
    · exact hqueue
    · exact hthen _ rfl (by rw [hst]; rfl)
  case h_18 => exact Yields.of_error _
  all_goals first
    | exact hqueue
    | exact hat _ rfl (by simp_all [SessionState.answered])
    | exact hthen _ rfl (by simp_all [SessionState.answered])

lemma provideOffer_contains (offer : γ) (sendOfferAtAccept : Bool) :
    Yields (s.provideOffer offer sendOfferAtAccept) s.Contains := by
  unfold provideOffer
  split
  case h_4 =>
    simp only [sendUpdate]
    split_ifs <;> simp_all +decide [Contains, contains_iff]
  case h_24 => exact inherited_contains (InviteSession.provideOffer_contains offer)
  all_goals simp_all +decide [Contains, contains_iff]

lemma requestOffer_contains : Yields s.requestOffer s.Contains := by
  unfold requestOffer
  split
  · simp_all +decide [Contains, contains_iff]
  · exact inherited_contains InviteSession.requestOffer_contains

lemma provideAnswer_contains (answer : γ) : Yields (s.provideAnswer answer) s.Contains := by
  simp only [provideAnswer]
  split
  case h_7 => simp_all +decide [Contains, contains_iff]
  case h_8 => split <;> simp_all +decide [Contains, contains_iff]
  case h_27 =>
    exact inherited_contains (s := { s with mAnswerSentReliably := false })
      (InviteSession.provideAnswer_contains answer)
  all_goals simp_all +decide [Contains, contains_iff]

lemma refuse_contains (code : ℕ) : s.Contains (s.refuse code) := by
  simp +decide [Contains, contains_iff]

lemma reject_contains (code : ℕ) : Yields (s.reject code) s.Contains := by
  unfold reject
  split
  all_goals first
    | exact Yields.of_error _
    | exact Yields.ok_iff.mpr (refuse_contains code)
    | exact inherited_contains (InviteSession.reject_contains code)

lemma endSession_contains : Yields s.endSession s.Contains := by
  unfold endSession
  split
  all_goals first
    | exact reject_contains 480
    | exact inherited_contains InviteSession.endSession_contains
    | simp_all +decide [Contains, contains_iff]

lemma redirect_contains (code : ℕ) : Yields (s.redirect code) s.Contains := by
  unfold redirect
  split
  all_goals first
    | exact Yields.of_error _
    | exact Yields.ok_iff.mpr (refuse_contains code)

lemma accept_contains (code : ℕ) : Yields (s.accept code) s.Contains := by
  unfold accept
  split <;> simp_all +decide [Contains, contains_iff]

/-! ### Runs -/

/-- What waits for an answer is a later request, and one handler waits at most. -/
structure Orderly (s : ServerInviteSession γ) : Prop where
  later : s.AnswersLater
  frames : s.frames = [] ∨ ∃ f, s.frames = [f] ∧ s.mState.received = false ∧
    (f.rejects → s.mState = .Terminated) ∧ (f.late → s.mState.answered)
  queue : Queueable s.mQueuedResponses

/-- A handler that starts when none is waiting leaves the rest of one at most. -/
lemma Answering.orderly (ha : s.Answering s') (hs : s.frames = [])
    (hq : Queueable s.mQueuedResponses) : s'.Orderly := by
  refine ⟨ha.answers.later, ?_, ha.queue hq⟩
  rcases ha.answers.frames with hf | ⟨f, hf, hr⟩
  · exact .inl (hf.trans hs)
  · exact .inr ⟨f, by rw [hf, hs], hr⟩

/-- A call of the application leaves a waiting handler as it is. -/
lemma Orderly.call (h : s.Orderly) (ha : s.Answering s') (hc : s.Contains s') : s'.Orderly := by
  rcases h.frames with hf | ⟨f, hf, hr, hrej, hlate⟩
  · exact ha.orderly hf h.queue
  · exact ⟨ha.answers.later, .inr ⟨f, (hc.frames hr).trans hf, hc.received hr,
      fun hj => hc.terminated (hrej hj), fun hl => hc.answered (hlate hl)⟩, ha.queue h.queue⟩

lemma Orderly.calls (h : s.Orderly) {r : Outcome (ServerInviteSession γ)}
    (ha : Yields r s.Answering) (hc : Yields r s.Contains) : Yields r Orderly :=
  fun s' hr => h.call (ha s' hr) (hc s' hr)

lemma dispatchTimer_orderly (hs : s.Orderly) (hf : s.frames = []) (timeout : SessionTimer) :
    Yields (s.dispatchTimer timeout) Orderly := by
  have h := hs.later
  have hbase : Yields (s.inherited (s.toInviteSession.dispatchTimer timeout)) Orderly := by
    refine Yields.map_iff.mpr ((dispatchTimer_quiet h timeout).weaken ?_)
    rintro b (hq | ⟨r, hr, rfl⟩)
    · exact Answering.orderly ⟨hq.answers, id, id⟩ hf hs.queue
    · exact ⟨h, .inl hf, hs.queue⟩
  simp only [dispatchTimer]
  split
  case h_1 => exact Yields.ok_ite_iff.mpr ⟨fun _ => ⟨h, .inl hf, hs.queue⟩, fun _ => hs⟩
  case h_2 =>
    split
    · exact Yields.ok_ite_iff.mpr ⟨fun _ => ⟨h, .inl hf, hs.queue⟩, fun _ => hs⟩
    · exact Yields.ok_iff.mpr hs
  case h_3 =>
    refine Yields.ok_ite_iff.mpr ⟨fun _ => ?_, fun _ => hs⟩
    split_ifs
    · exact (refuse_answers 504).orderly hf hs.queue
    · exact ⟨h, .inl hf, hs.queue⟩
  case h_4 =>
    split_ifs
    · exact Yields.ok_iff.mpr ⟨by simp +decide [AnswersLater], .inl hf, hs.queue⟩
    · exact hbase
  case h_5 => exact hbase

lemma resume_orderly (h : s.Orderly) : Yields s.resume Orderly := by
  unfold resume
  split
  case h_2 => exact Yields.of_error _
  case h_1 f rest hf =>
    rcases h.frames with hn | ⟨g, hg, hr, hrej, -⟩
    · simp [hn] at hf
    obtain ⟨rfl, rfl⟩ : g = f ∧ rest = [] := by simpa [hg, eq_comm] using hf
    have h' : Orderly { s with frames := [] } := ⟨h.later, .inl rfl, h.queue⟩
    exact (resumeFrame_answers h'.later g hr hrej).weaken fun _ ha => ha.orderly rfl h'.queue

/-- This needs no condition on the steps. -/
theorem step_orderly [DecidableEq γ] {e : ServerEvent γ} (h : s.Orderly)
    (he : s.allowed e) : Yields (s.step e) Orderly := by
  cases e with
  | message msg =>
    obtain ⟨hf, hm⟩ : s.frames = [] ∧ msg.routed := by simpa [allowed] using he
    exact (dispatch_answers h.later).weaken fun _ ha => ha.orderly hf h.queue
  | timer timeout =>
    simp only [allowed, Bool.and_eq_true, List.isEmpty_iff] at he
    have h' : Orderly { s with timers := s.timers.erase timeout } := ⟨h.later, h.frames, h.queue⟩
    exact dispatchTimer_orderly h' he.1 timeout
  | resume => exact resume_orderly h
  | provisional code earlyFlag =>
    have hc : code < 200 := by simp_all [allowed]
    exact h.calls (provisional_answers h.later hc earlyFlag) (provisional_contains code earlyFlag)
  | provideOffer offer sendOfferAtAccept =>
    exact h.calls (provideOffer_answers h.later offer sendOfferAtAccept)
      (provideOffer_contains offer sendOfferAtAccept)
  | requestOffer => exact h.calls (requestOffer_answers h.later) requestOffer_contains
  | provideAnswer answer =>
    exact h.calls (provideAnswer_answers h.later answer) (provideAnswer_contains answer)
  | accept code =>
    have hc : 200 ≤ code ∧ code < 300 := by simp_all [allowed]
    exact h.calls (accept_answers h.later hc) (accept_contains code)
  | reject code => exact h.calls (reject_answers h.later code) (reject_contains code)
  | redirect code => exact h.calls (redirect_answers code) (redirect_contains code)
  | endSession => exact h.calls (endSession_answers h.later) endSession_contains
  | targetRefresh =>
    exact h.calls (inherited_answers (targetRefresh_quiet h.later))
      (inherited_contains targetRefresh_contains)

lemma dispatchStart_orderly {profile : SessionProfile} {request : SessionMessage γ} :
    Yields ((create profile request).dispatchStart request) Orderly := by
  have h : (create profile request).AnswersLater := by simp +decide [AnswersLater, create]
  exact (dispatchStart_answers h).weaken fun _ ha => ha.orderly rfl queueable_nil

theorem orderly [DecidableEq γ] {ok : ServerInviteSession γ → ServerEvent γ → Prop}
    (h : Reach (runs γ) ok s) : s.Orderly :=
  invariant (fun _ _ _ => dispatchStart_orderly) (fun _ _ hs he _ => step_orderly hs he) h

end ServerInviteSession

end Resiprocate.Dum
