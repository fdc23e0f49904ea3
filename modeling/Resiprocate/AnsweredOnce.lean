import Resiprocate.AnswerSteps

/-! A callee answers its INVITE once. -/
namespace Resiprocate.Dum
open TransitionSystem ProgramLogic

/-- A final response is the last one to the first INVITE, but for a 2xx that is sent again. -/
def AnsweredOnce {γ : Type*} (trace : List (Effect γ)) : Prop :=
  (firstResponses trace).Pairwise fun later earlier =>
    200 ≤ earlier.statusCode → later = earlier ∧ later.statusCode < 300

instance {γ : Type*} [DecidableEq γ] (trace : List (Effect γ)) : Decidable (AnsweredOnce trace) :=
  inferInstanceAs (Decidable (List.Pairwise _ _))

def finalSent {γ : Type*} (trace : List (Effect γ)) : Bool :=
  (firstResponses trace).any (200 ≤ ·.statusCode)

lemma finalSent_iff {γ : Type*} {trace : List (Effect γ)} :
    finalSent trace ↔ ∃ r ∈ firstResponses trace, 200 ≤ r.statusCode := by
  simp [finalSent]

/-- All final responses to the INVITE are the same. -/
lemma AnsweredOnce.eq {γ : Type*} {trace : List (Effect γ)} (h : AnsweredOnce trace)
    {r r' : SentResponse γ} (hr : r ∈ firstResponses trace) (hr' : r' ∈ firstResponses trace)
    (hc : 200 ≤ r.statusCode) (hc' : 200 ≤ r'.statusCode) : r = r' := by
  let same (a b : SentResponse γ) : Prop := 200 ≤ a.statusCode → 200 ≤ b.statusCode → a = b
  have hsame : (firstResponses trace).Pairwise same := h.imp fun hab _ hb => (hab hb).1
  have : Std.Symm same := ⟨fun _ _ hab hb ha => (hab ha hb).symm⟩
  exact hsame.forall_of_forall (fun _ _ _ _ => rfl) hr hr' hc hc'

/-- The requests that every state after the 2xx has a case for. -/
def SessionEvent.common : SessionEvent → Bool
  | .OnInvite | .OnInviteReliable | .OnInviteOffer | .OnInviteReliableOffer | .OnUpdate
  | .OnUpdateOffer | .OnCancel => true
  | _ => false

namespace ServerInviteSession
open InviteSession
variable {γ : Type*} {s s' : ServerInviteSession γ} {msg : SessionMessage γ}

/-- The rests of handlers that send what is queued, or go back to a state before the answer. -/
def resumesAnswer (s : ServerInviteSession γ) : Frame γ → Bool
  | .prackCheckQueue => s.mQueuedResponses.head?.any (·.1 < 300)
  | .updateCheckQueue =>
    s.mQueuedResponses.head?.any fun queued => 200 ≤ queued.1 && queued.1 < 300
  | .negotiatedReliable msg => s.toEvent msg ≠ .OnUpdate
  | .notAcceptable _ | .offerInPrack _ _ => true
  | _ => false

/-- The handlers that do not look whether the INVITE is answered. -/
def answersAgain (s : ServerInviteSession γ) : ServerEvent γ → Bool
  | .message msg => msg.isRequest && match s.mState with
    | .UAS_WaitingToOffer | .UAS_WaitingToRequestOffer => msg.method = .prack
    | .UAS_AcceptedWaitingAnswer => msg.method = .bye
    | _ => false
  | .reject _ => s.mState = .UAS_AcceptedWaitingAnswer
  | .timer timeout => match timeout.type with
    | .Retransmit1xx => timeout.seq = s.mCurrentRetransmit1xxSeq
    | .Resubmit1xxRel => s.m1xx.rSeq.isSome && timeout.seq = s.mCurrentRetransmit1xxSeq
    | .Retransmit1xxRel =>
      s.mUnacknowledgedReliableProvisional && s.m1xx.rSeq.getD 0 = timeout.seq
    | _ => false
  | .resume => s.frames.head?.any s.resumesAnswer
  | _ => false

/-- A step after the answer: nothing but the 2xx is sent again. -/
structure Silent (s s' : ServerInviteSession γ) : Prop where
  responses : firstResponses s'.trace = firstResponses s.trace ∨ ∃ r, r.request = .first ∧
    s.mInvite200 = some r ∧ firstResponses s'.trace = r :: firstResponses s.trace
  state : s'.mState.answered

lemma Silent.of_eq (hs : s'.mState.answered)
    (hr : firstResponses s'.trace = firstResponses s.trace) : s.Silent s' :=
  ⟨.inl hr, hs⟩

lemma Silent.of_quiet (ha : s.mState.answered)
    (h : s.toInviteSession.Quiet s'.toInviteSession) : s.Silent s' := by
  refine .of_eq ?_ h.responses
  rcases h.state with hs | hs
  · rwa [hs]
  · exact hs

lemma Silent.of_quietly (ha : s.mState.answered)
    (h : s.toInviteSession.Quietly s'.toInviteSession) : s.Silent s' := by
  rcases h with h | ⟨b, f, h, -, -, -, hb⟩
  · exact .of_quiet ha h
  · have hs : s.Silent { s' with toInviteSession := b } := .of_quiet ha h
    exact ⟨by simpa [hb] using hs.responses, by simpa [hb] using hs.state⟩

/-- What is left to do after a quiet change. -/
lemma silent_after {s₁ : ServerInviteSession γ} {r : Outcome (ServerInviteSession γ)}
    (h : s.toInviteSession.Quiet s₁.toInviteSession) (h200 : s₁.mInvite200 = s.mInvite200)
    (hr : Yields r s₁.Silent) : Yields r s.Silent :=
  hr.weaken fun _ hs => ⟨by simpa [h.responses, h200] using hs.responses, hs.state⟩

lemma inherited_silent (ha : s.mState.answered) {r : Outcome (InviteSession γ)}
    (h : Yields r s.toInviteSession.Quiet) : Yields (s.inherited r) s.Silent :=
  Yields.map_iff.mpr (h.weaken fun _ hq => .of_quiet ha hq)

/-! ### Calls -/

lemma provisional_silent (ha : s.mState.answered) (code : ℕ) (earlyFlag : Bool) :
    Yields (s.provisional code earlyFlag) s.Silent := by
  unfold provisional
  split
  case h_18 => exact Yields.of_error _
  all_goals simp_all [SessionState.answered]

lemma redirect_silent (ha : s.mState.answered) (code : ℕ) :
    Yields (s.redirect code) s.Silent := by
  unfold redirect
  split
  case h_20 => exact Yields.of_error _
  all_goals simp_all [SessionState.answered]

lemma accept_silent (ha : s.mState.answered) (code : ℕ) : Yields (s.accept code) s.Silent := by
  unfold accept
  split
  case h_12 => exact Yields.of_error _
  all_goals simp_all [SessionState.answered]

lemma provideOffer_silent (ha : s.mState.answered) (h : s.AnswersLater) (offer : γ)
    (sendOfferAtAccept : Bool) : Yields (s.provideOffer offer sendOfferAtAccept) s.Silent := by
  unfold provideOffer
  split
  case h_24 => exact inherited_silent ha (provideOffer_quiet h offer)
  all_goals simp_all [SessionState.answered, Silent.of_eq]

lemma requestOffer_silent (ha : s.mState.answered) (h : s.AnswersLater) :
    Yields s.requestOffer s.Silent := by
  unfold requestOffer
  split
  · exact Yields.ok_iff.mpr (.of_eq rfl rfl)
  · exact inherited_silent ha (requestOffer_quiet h)

lemma provideAnswer_silent (ha : s.mState.answered) (h : s.AnswersLater) (answer : γ) :
    Yields (s.provideAnswer answer) s.Silent := by
  have hq : s.toInviteSession.Quiet { s with mAnswerSentReliably := false }.toInviteSession :=
    .refl h
  refine silent_after hq rfl ?_
  simp only [provideAnswer]
  split
  case h_27 =>
    exact inherited_silent (s := { s with mAnswerSentReliably := false }) ha
      (provideAnswer_quiet h answer)
  all_goals simp_all [SessionState.answered, Silent.of_eq]

lemma reject_silent (ha : s.mState.answered) (h : s.AnswersLater) (code : ℕ)
    (hok : s.mState ≠ .UAS_AcceptedWaitingAnswer) : Yields (s.reject code) s.Silent := by
  unfold reject
  split
  case h_29 => exact inherited_silent ha (reject_quiet h code)
  all_goals simp_all [SessionState.answered]

lemma endSession_silent (ha : s.mState.answered) (h : s.AnswersLater) :
    Yields s.endSession s.Silent := by
  unfold endSession
  split
  case h_29 => exact inherited_silent ha (endSession_quiet h)
  all_goals simp_all [SessionState.answered, Silent.of_eq]

/-! ### Messages -/

/-- No other request reaches a session. -/
lemma toEvent_request {b : InviteSession γ} (hm : msg.routed) (hr : msg.isRequest)
    (hi : ¬(msg.method = .info ∨ msg.method = .message)) :
    (b.toEvent msg).common ∨ b.toEvent msg = .OnAck ∨ b.toEvent msg = .OnAckAnswer ∨
      (b.toEvent msg = .OnBye ∧ msg.method = .bye) ∨
      (b.toEvent msg = .OnPrack ∧ msg.method = .prack) := by
  have h0 : msg.statusCode = 0 := by simpa [SessionMessage.isRequest] using hr
  cases hme : msg.method <;> cases hb : msg.body <;>
    simp_all [SessionMessage.routed, toEvent, SessionEvent.common] <;> split_ifs <;> simp

lemma dispatchAfter2xx_silent (ha : s.mState.answered)
    (hok : msg.isRequest → (s.toEvent msg).common) : s.Silent (s.dispatchAfter2xx msg) := by
  simp only [dispatchAfter2xx, dispatchUnknownRequest]
  split
  case h_8 =>
    split
    case isTrue hr => simp_all [SessionEvent.common]
    case isFalse => exact .of_eq ha rfl
  all_goals exact .of_eq ha (by simp)

lemma dispatchByeAccepted_silent : s.Silent (s.dispatchByeAccepted msg) :=
  .of_eq rfl (by simp [dispatchByeAccepted])

lemma dispatchAccepted_silent (ha : s.mState.answered) (hm : msg.routed)
    (hi : ¬(msg.isRequest ∧ (msg.method = .info ∨ msg.method = .message))) :
    s.Silent (s.dispatchAccepted msg) := by
  simp only [dispatchAccepted]
  split
  case h_3 => exact dispatchByeAccepted_silent
  case h_5 =>
    refine dispatchAfter2xx_silent ha fun hr => ?_
    have := toEvent_request (b := s.toInviteSession) hm hr fun h => hi ⟨hr, h⟩
    simp_all
  case h_4 => exact .of_eq ha (by simp)
  all_goals exact .of_eq rfl (by simp)

lemma provideProposedOffer_silent (ha : s.mState.answered) (h : s.AnswersLater) :
    Yields s.provideProposedOffer s.Silent :=
  Yields.bind_iff.mpr fun offer _ => provideOffer_silent ha h offer false

lemma dispatchWaitingToOffer_silent (ha : s.mState.answered) (h : s.AnswersLater)
    (hm : msg.routed) (hi : ¬(msg.isRequest ∧ (msg.method = .info ∨ msg.method = .message)))
    (hok : ¬(msg.isRequest ∧ msg.method = .prack)) :
    Yields (s.dispatchWaitingToOffer msg) s.Silent := by
  have hs := stop200_quiet h
  simp only [dispatchWaitingToOffer]
  split
  case h_1 =>
    split
    · exact (provideProposedOffer_silent (s := s.onBase (·.stop200)) ha hs.later).weaken
        fun _ h' => ⟨h'.responses, h'.state⟩
    · exact Yields.of_error _
  case h_2 => exact Yields.ok_iff.mpr (.of_eq rfl (by simp))
  case h_3 => exact Yields.ok_iff.mpr dispatchByeAccepted_silent
  case h_4 =>
    refine Yields.ok_iff.mpr (dispatchAfter2xx_silent ha fun hr => ?_)
    have := toEvent_request (b := s.toInviteSession) hm hr fun h => hi ⟨hr, h⟩
    simp_all

lemma dispatchWaitingToRequestOffer_silent (ha : s.mState.answered) (h : s.AnswersLater)
    (hm : msg.routed) (hi : ¬(msg.isRequest ∧ (msg.method = .info ∨ msg.method = .message)))
    (hok : ¬(msg.isRequest ∧ msg.method = .prack)) :
    Yields (s.dispatchWaitingToRequestOffer msg) s.Silent := by
  have hs := stop200_quiet h
  simp only [dispatchWaitingToRequestOffer]
  split
  case h_1 =>
    exact (requestOffer_silent (s := s.onBase (·.stop200)) ha hs.later).weaken
      fun _ h' => ⟨h'.responses, h'.state⟩
  case h_2 => exact Yields.ok_iff.mpr (.of_eq rfl (by simp))
  case h_3 => exact Yields.ok_iff.mpr dispatchByeAccepted_silent
  case h_4 =>
    refine Yields.ok_iff.mpr (dispatchAfter2xx_silent ha fun hr => ?_)
    have := toEvent_request (b := s.toInviteSession) hm hr fun h => hi ⟨hr, h⟩
    simp_all

lemma dispatchAcceptedWaitingAnswer_silent (ha : s.mState.answered) (hm : msg.routed)
    (hi : ¬(msg.isRequest ∧ (msg.method = .info ∨ msg.method = .message)))
    (hok : ¬(msg.isRequest ∧ msg.method = .bye)) :
    Yields (s.dispatchAcceptedWaitingAnswer msg) s.Silent := by
  simp only [dispatchAcceptedWaitingAnswer]
  split
  case h_1 =>
    refine Yields.bind_iff.mpr fun answer _ => ?_
    refine Yields.bind_iff.mpr ((receiveAnswer_spec _ answer).weaken ?_)
    rintro s' ⟨offer, -, rfl⟩
    exact Yields.pure_iff.mpr (.of_eq rfl (by simp))
  case h_2 => exact Yields.ok_iff.mpr (.of_eq rfl (by simp))
  case h_3 => exact Yields.ok_iff.mpr (.of_eq ha (by simp))
  case h_4 =>
    refine Yields.ok_iff.mpr (dispatchAfter2xx_silent ha fun hr => ?_)
    have := toEvent_request (b := s.toInviteSession) hm hr fun h => hi ⟨hr, h⟩
    simp_all

theorem dispatch_silent [DecidableEq γ] (ha : s.mState.answered) (h : s.AnswersLater)
    (hm : msg.routed) (hok : s.answersAgain (.message msg) = false) :
    Yields (s.dispatch msg) s.Silent := by
  simp only [dispatch]
  split
  case isTrue => exact Yields.ok_iff.mpr (.of_eq ha rfl)
  case isFalse hi =>
    split
    case h_15 => exact Yields.ok_iff.mpr (dispatchAccepted_silent ha hm hi)
    case h_16 hst =>
      refine dispatchWaitingToOffer_silent ha h hm hi ?_
      simpa [answersAgain, hst] using hok
    case h_17 hst =>
      refine dispatchWaitingToRequestOffer_silent ha h hm hi ?_
      simpa [answersAgain, hst] using hok
    case h_18 hst =>
      refine dispatchAcceptedWaitingAnswer_silent ha hm hi ?_
      simpa [answersAgain, hst] using hok
    case h_26 => exact Yields.ok_iff.mpr (.of_quiet ha (dispatchWaitingToHangup_quiet h))
    case h_29 =>
      exact Yields.map_iff.mpr ((dispatch_quiet h).weaken fun _ hq => .of_quietly ha hq)
    all_goals simp_all [SessionState.answered]

/-! ### Timers, and the rests of handlers -/

lemma dispatchTimer_silent (ha : s.mState.answered) (h : s.AnswersLater) (timeout : SessionTimer)
    (hok : s.answersAgain (.timer timeout) = false) : Yields (s.dispatchTimer timeout) s.Silent := by
  have hbase : Yields (s.inherited (s.toInviteSession.dispatchTimer timeout)) s.Silent := by
    refine Yields.map_iff.mpr ((dispatchTimer_quiet h timeout).weaken ?_)
    rintro b (hq | ⟨r, hr, rfl⟩)
    · exact .of_quietly ha hq
    · by_cases hf : r.request = .first
      · exact ⟨.inr ⟨r, hf, hr, by simp [hf]⟩, ha⟩
      · exact .of_eq ha (by simp [hf])
  simp only [dispatchTimer]
  split
  case h_1 hty =>
    have hne : timeout.seq ≠ s.mCurrentRetransmit1xxSeq := by simpa [answersAgain, hty] using hok
    simpa [hne] using Silent.of_eq ha rfl
  case h_2 hty =>
    split
    case h_1 rSeq hr =>
      have hne : timeout.seq ≠ s.mCurrentRetransmit1xxSeq := by
        simpa [answersAgain, hty, hr] using hok
      simpa [hne] using Silent.of_eq ha rfl
    case h_2 => exact Yields.ok_iff.mpr (.of_eq ha rfl)
  case h_3 hty =>
    have hne : ¬(s.mUnacknowledgedReliableProvisional ∧ s.m1xx.rSeq.getD 0 = timeout.seq) := by
      simpa [answersAgain, hty] using hok
    simpa [hne] using Silent.of_eq ha rfl
  case h_4 =>
    split
    case isTrue hst => simp [hst, SessionState.answered] at ha
    case isFalse => exact hbase
  case h_5 => exact hbase

lemma sendUpdate_silent (ha : s.mState.answered) (offer : γ) : s.Silent (s.sendUpdate offer) := by
  simp only [sendUpdate]
  split_ifs <;> exact .of_eq ha (by simp)

lemma prackCheckQueue_silent (ha : s.mState.answered)
    (hok : s.resumesAnswer .prackCheckQueue = false) : Yields s.prackCheckQueue s.Silent := by
  unfold prackCheckQueue
  split
  case h_1 code earlyFlag rest hq =>
    have hc : 300 ≤ code := by simpa [resumesAnswer, hq] using hok
    rw [if_neg (by omega), if_neg (by omega)]
    exact Yields.ok_iff.mpr (.of_eq ha rfl)
  case h_2 => exact Yields.ok_iff.mpr (.of_eq ha rfl)

lemma updateCheckQueue_silent (ha : s.mState.answered)
    (hok : s.resumesAnswer .updateCheckQueue = false) : s.Silent s.updateCheckQueue := by
  unfold updateCheckQueue
  split
  case h_1 code _ _ hq =>
    have hc : ¬(200 ≤ code ∧ code < 300) := by simpa [resumesAnswer, hq] using hok
    rw [if_neg hc]
    exact .of_eq ha rfl
  case h_2 => exact .of_eq ha rfl

lemma resumeFrame_silent (ha : s.mState.answered) (h : s.AnswersLater) {f : Frame γ}
    (hok : s.resumesAnswer f = false) : Yields (s.resumeFrame f) s.Silent := by
  simp only [resumeFrame]
  split
  case h_1 =>
    split_ifs
    · exact Yields.ok_iff.mpr (.of_eq ha rfl)
    · split <;> exact Yields.ok_iff.mpr (.of_eq ha (by simp))
  case h_2 | h_4 =>
    split_ifs <;> exact Yields.ok_iff.mpr (.of_eq ha (by simp))
  case h_5 | h_6 => simp [resumesAnswer] at hok
  case h_7 =>
    exact Yields.bind_iff.mpr fun offer _ => Yields.pure_iff.mpr (sendUpdate_silent ha offer)
  case h_8 => exact prackCheckQueue_silent ha hok
  case h_10 => exact Yields.ok_iff.mpr (updateCheckQueue_silent ha hok)
  case h_12 msg =>
    have he : s.toEvent msg = .OnUpdate := by simpa [resumesAnswer] using hok
    simp only [dispatchNegotiatedReliable, dispatchOfferOrEarly, he]
    exact Yields.ok_iff.mpr (.of_eq ha (by simp))
  case h_13 =>
    simpa [Silent.of_eq ha rfl] using fun _ => provideProposedOffer_silent ha h
  case h_14 => simpa [Silent.of_eq ha rfl] using fun _ => requestOffer_silent ha h
  case h_15 => exact inherited_silent ha (resume_quiet h _)
  all_goals exact Yields.ok_iff.mpr (.of_eq ha (by simp))

/-! ### Runs -/

/-- What holds in the states of a run. -/
structure Answered (s : ServerInviteSession γ) : Prop where
  once : AnsweredOnce s.trace
  state : finalSent s.trace → s.mState.answered
  orderly : s.Orderly
  invite200 : ∀ r, s.mInvite200 = some r → r.request = .first →
    r ∈ firstResponses s.trace ∧ 200 ≤ r.statusCode ∧ r.statusCode < 300
  code : s.m1xx.statusCode < 200

lemma Answered.retransmittable (h : s.Answered) : s.Retransmittable := by
  intro r hr hf
  obtain ⟨hmem, hc, -⟩ := h.invite200 r hr hf
  exact h.state (finalSent_iff.mpr ⟨r, hmem, hc⟩)

/-- A step that answers at most once, and after the answer is silent. -/
lemma Answered.next (h : s.Answered) (ha : s.Answering s') (ho : s'.Orderly)
    (hs : finalSent s.trace → s.Silent s') : s'.Answered := by
  have hfresh : firstResponses s'.trace = firstResponses s.trace ∨
      ∃ r, firstResponses s'.trace = r :: firstResponses s.trace ∧
        (200 ≤ r.statusCode → s'.mState.answered) ∧
        ∀ e ∈ firstResponses s.trace, 200 ≤ e.statusCode → r = e ∧ r.statusCode < 300 := by
    by_cases hfinal : finalSent s.trace
    · rcases (hs hfinal).responses with heq | ⟨r, hreq, h200, heq⟩
      · exact .inl heq
      · obtain ⟨hmem, hc, hc'⟩ := h.invite200 r h200 hreq
        exact .inr ⟨r, heq, fun _ => (hs hfinal).state, fun e he hce =>
          ⟨h.once.eq hmem he hc hce, hc'⟩⟩
    · rcases ha.answers.responses with heq | ⟨r, heq, hr⟩
      · exact .inl heq
      · exact .inr ⟨r, heq, hr, fun e he hce => absurd (finalSent_iff.mpr ⟨e, he, hce⟩) hfinal⟩
  refine ⟨?_, ?_, ho, ?_, ha.code h.code⟩
  · rcases hfresh with heq | ⟨r, heq, -, hr⟩
    · simpa [AnsweredOnce, heq] using h.once
    · exact (congrArg (List.Pairwise _) heq).mpr (List.pairwise_cons.mpr ⟨hr, h.once⟩)
  · intro hfinal
    by_cases hbefore : finalSent s.trace
    · exact (hs hbefore).state
    obtain ⟨e, he, hc⟩ := finalSent_iff.mp hfinal
    rcases hfresh with heq | ⟨r, heq, hr, -⟩
    · exact absurd (finalSent_iff.mpr ⟨e, heq ▸ he, hc⟩) hbefore
    · rcases List.mem_cons.mp (heq ▸ he) with rfl | he
      · exact hr hc
      · exact absurd (finalSent_iff.mpr ⟨e, he, hc⟩) hbefore
  · intro r hr hreq
    rcases ha.answers.invite200 r hr hreq with hold | ⟨heq, hc⟩
    · obtain ⟨hmem, hc⟩ := h.invite200 r hold hreq
      refine ⟨?_, hc⟩
      rcases hfresh with heq | ⟨r', heq, -⟩
      · rwa [heq]
      · exact heq ▸ List.mem_cons_of_mem _ hmem
    · exact ⟨heq ▸ List.mem_cons_self, hc⟩

lemma Answered.steps (h : s.Answered) {r : Outcome (ServerInviteSession γ)}
    (ha : Yields r s.Answering) (ho : Yields r Orderly) (hs : finalSent s.trace → Yields r s.Silent) :
    Yields r Answered :=
  fun s' hr => h.next (ha s' hr) (ho s' hr) fun hf => hs hf s' hr

/-- The condition under which the INVITE is answered once. -/
def repliesOnce (s : ServerInviteSession γ) (e : ServerEvent γ) : Prop :=
  finalSent s.trace → s.answersAgain e = false

instance (s : ServerInviteSession γ) (e : ServerEvent γ) : Decidable (s.repliesOnce e) :=
  inferInstanceAs (Decidable (_ → _))

lemma resume_answered (h : s.Answered) (hok : s.repliesOnce .resume) :
    Yields s.resume Answered := by
  have ho := resume_orderly h.orderly
  unfold resume at ho ⊢
  split at ho
  case h_2 hf => simp [hf]
  case h_1 f rest hf =>
    rcases h.orderly.frames with hn | ⟨g, hg, hr, hrej, -⟩
    · simp [hn] at hf
    obtain ⟨rfl, rfl⟩ : g = f ∧ rest = [] := by simpa [hg, eq_comm] using hf
    have h' : Answered { s with frames := [] } :=
      ⟨h.once, h.state, ⟨h.orderly.later, .inl rfl, h.orderly.queue⟩, h.invite200, h.code⟩
    have hquiet (hfinal : finalSent s.trace) : s.resumesAnswer g = false := by
      simpa [answersAgain, hg] using hok hfinal
    exact h'.steps (resumeFrame_answers h'.orderly.later g hr hrej) ho fun hfinal =>
      resumeFrame_silent (h'.state hfinal) h'.orderly.later (hquiet hfinal)

theorem step_answered [DecidableEq γ] {e : ServerEvent γ} (h : s.Answered)
    (he : s.allowed e) (hok : s.repliesOnce e) : Yields (s.step e) Answered := by
  have hl := h.orderly.later
  have ho := step_orderly h.orderly he
  cases e with
  | message msg =>
    obtain ⟨-, hm⟩ : s.frames = [] ∧ msg.routed := by simpa [allowed] using he
    exact h.steps (dispatch_answers hl) ho fun hfinal =>
      dispatch_silent (h.state hfinal) hl hm (hok hfinal)
  | timer timeout =>
    have h' : Answered { s with timers := s.timers.erase timeout } :=
      ⟨h.once, h.state, ⟨h.orderly.later, h.orderly.frames, h.orderly.queue⟩, h.invite200, h.code⟩
    exact h'.steps (dispatchTimer_answers h'.orderly.later h'.code h'.retransmittable timeout) ho
      fun hfinal => dispatchTimer_silent (h'.state hfinal) h'.orderly.later timeout (hok hfinal)
  | resume => exact resume_answered h hok
  | provisional code earlyFlag =>
    have hc : code < 200 := by simp_all [allowed]
    exact h.steps (provisional_answers hl hc earlyFlag) ho fun hfinal =>
      provisional_silent (h.state hfinal) code earlyFlag
  | provideOffer offer sendOfferAtAccept =>
    exact h.steps (provideOffer_answers hl offer sendOfferAtAccept) ho fun hfinal =>
      provideOffer_silent (h.state hfinal) hl offer sendOfferAtAccept
  | requestOffer =>
    exact h.steps (requestOffer_answers hl) ho fun hfinal =>
      requestOffer_silent (h.state hfinal) hl
  | provideAnswer answer =>
    exact h.steps (provideAnswer_answers hl answer) ho fun hfinal =>
      provideAnswer_silent (h.state hfinal) hl answer
  | accept code =>
    have hc : 200 ≤ code ∧ code < 300 := by simp_all [allowed]
    exact h.steps (accept_answers hl hc) ho fun hfinal => accept_silent (h.state hfinal) code
  | reject code =>
    exact h.steps (reject_answers hl code) ho fun hfinal =>
      reject_silent (h.state hfinal) hl code (by simpa [answersAgain] using hok hfinal)
  | redirect code =>
    exact h.steps (redirect_answers code) ho fun hfinal => redirect_silent (h.state hfinal) code
  | endSession =>
    exact h.steps (endSession_answers hl) ho fun hfinal => endSession_silent (h.state hfinal) hl
  | targetRefresh =>
    have hq := targetRefresh_quiet hl
    exact h.steps (inherited_answers hq) ho fun hfinal => inherited_silent (h.state hfinal) hq

lemma dispatchStart_answered {profile : SessionProfile} {request : SessionMessage γ} :
    Yields ((create profile request).dispatchStart request) Answered := by
  have h : (create profile request).AnswersLater := by simp +decide [AnswersLater, create]
  have hcreate : (create profile request).Answered :=
    ⟨by simp [AnsweredOnce, create], by simp [finalSent, create], ⟨h, .inl rfl, queueable_nil⟩,
      by simp [create], by simp [create]⟩
  exact hcreate.steps (dispatchStart_answers h) dispatchStart_orderly (by simp [finalSent, create])

theorem first_invite_answered_once [DecidableEq γ]
    (h : Reach (runs γ) repliesOnce s) : AnsweredOnce s.trace :=
  (invariant (P := Answered) (fun _ _ _ => dispatchStart_answered)
    (fun _ _ hs he hok => step_answered hs he hok) h).once

/-- A provisional response, the 200, the 200 again, and a BYE after its ACK. -/
theorem first_invite_answered_once_sent_again :
    let run := [.resume, .provisional 180 false, .provideAnswer 2, .accept 200,
      .timer ⟨.Retransmit200, 1, 0⟩, .message (.plain .ack 1 none),
      .message (.plain .bye 2 none)].foldl (runs ℕ).next (started .Never (some 1))
    (firstResponses run.trace).map (·.statusCode) = [200, 200, 180] ∧ AnsweredOnce run.trace :=
  ⟨by decide, first_invite_answered_once (reach_started.run _ (by decide))⟩

/-- A 200 with an offer, and a BYE instead of the ACK with the answer. -/
theorem not_first_invite_answered_once :
    ¬(∀ s, Reach (runs ℕ) anyStep s → AnsweredOnce s.trace) := by
  intro h
  have hrun := h _ (reach_started.run [.resume, .provideOffer 1 false, .accept 200,
    .message (.plain .bye 2 none)] (by decide : Permitted _ _ (started .Never none) _))
  exact absurd hrun (by decide)

end ServerInviteSession

end Resiprocate.Dum
