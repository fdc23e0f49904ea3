import Resiprocate.ProvisionalAssertion

/-! One reliable provisional is unacknowledged at a time, and its PRACK is answered. -/
namespace Resiprocate.Dum
open TransitionSystem ProgramLogic

namespace ServerInviteSession
open InviteSession
variable {γ : Type*} {s s' : ServerInviteSession γ} {msg : SessionMessage γ}

/-! ### Runs -/

/-- The numbers of the reliable provisionals that a step sends, but does not send again. -/
def sentReliably [DecidableEq γ] (s : ServerInviteSession γ) (e : ServerEvent γ) : List ℕ :=
  let before := firstResponses s.trace
  let after := firstResponses ((runs γ).next s e).trace
  let new := after.take (after.length - before.length)
  match e with
  | .timer timeout => if timeout.type.retransmits then [] else new.filterMap (·.rSeq)
  | _ => new.filterMap (·.rSeq)

/-- The PRACK of a provisional response to the INVITE. -/
def isPrack (s : ServerInviteSession γ) (msg : SessionMessage γ) : Bool :=
  msg.isRequest && msg.method = .prack && msg.rAck.method = .invite &&
    msg.rAck.cSequence = s.mFirstRequest.sequence

/-- The numbers sent reliably that the peer has sent no PRACK for. -/
def unacknowledged [DecidableEq γ] (s : ServerInviteSession γ) (e : ServerEvent γ)
    (pending : List ℕ) : List ℕ :=
  s.sentReliably e ++ match e with
    | .message msg => if s.isPrack msg then pending.erase msg.rAck.rSequence else pending
    | _ => pending

lemma acknowledged_expected : (s.acknowledged msg).expected =
    if s.isPrack msg then s.expected.erase msg.rAck.rSequence else s.expected := by
  by_cases hu : s.mUnacknowledgedReliableProvisional
  · by_cases hp : s.isPrack msg
    · have hp' : s.toEvent msg = .OnPrack ∧ msg.rAck.method = .invite ∧
          s.mFirstRequest.sequence = msg.rAck.cSequence := by
        simp_all [isPrack, toEvent_eq_prack]
      by_cases hn : s.m1xx.rSeq.getD 0 = msg.rAck.rSequence <;>
        simp [acknowledged, matchesPrack, expected, hu, hp, hp', hn]
    · have hp' : ¬(s.toEvent msg = .OnPrack ∧ s.matchesPrack msg) := by
        simp_all [isPrack, toEvent_eq_prack, matchesPrack]
        grind
      simp [acknowledged, hp', hp]
  · simp [acknowledged_of_false (by simpa using hu), expected, hu]

lemma sentReliably_eq [DecidableEq γ] {e : ServerEvent γ} (he : (runs γ).next s e = s')
    (ht : ∀ timeout, e = .timer timeout → timeout.type.retransmits = false) {l : List (SentResponse γ)}
    (hl : firstResponses s'.trace = l ++ firstResponses s.trace) :
    s.sentReliably e = l.filterMap (·.rSeq) := by
  have hnew : (firstResponses s'.trace).take
      ((firstResponses s'.trace).length - (firstResponses s.trace).length) = l := by
    simp [hl]
  simp only [sentReliably, he, hnew]
  split
  case h_1 timeout => simp [ht timeout rfl]
  case h_2 => rfl

lemma Acknowledging.next (h : s.Acknowledging) (ho : s'.Orderly)
    (hset : s'.mUnacknowledgedReliableProvisional → s'.Settled)
    (hu : s'.mState.unreliable → s.mState.unreliable)
    (hsame : s'.profile = s.profile ∧ s'.mFirstRequest = s.mFirstRequest) : s'.Acknowledging := by
  refine ⟨ho, hset, fun hn code => ?_⟩
  have := h.unreliable (hu hn) code
  simpa [requiresReliable, hsame] using this

/-- A step that keeps what is expected leaves that as what is not acknowledged. -/
lemma Keeps.sent [DecidableEq γ] {e : ServerEvent γ} {s₁ : ServerInviteSession γ}
    (h : s₁.Keeps s') (htrace : firstResponses s₁.trace = firstResponses s.trace)
    (he : (runs γ).next s e = s')
    (ht : ∀ timeout, e = .timer timeout → timeout.type.retransmits = false) :
    s'.expected = s.sentReliably e ++ s₁.expected := by
  rcases h.expected with ⟨hr, hx⟩ | ⟨r, hr, hx⟩
  · rw [sentReliably_eq he ht (l := []) (by simpa using hr.trans htrace)]
    simpa using hx
  · rw [sentReliably_eq he ht (l := [r]) (by simpa [htrace] using hr)]
    cases hn : r.rSeq <;> simp [hx, hn]

/-- The session that a handler starts from. -/
def handled (s : ServerInviteSession γ) : ServerEvent γ → ServerInviteSession γ
  | .message msg => s.acknowledged msg
  | .timer timeout => { s with timers := s.timers.erase timeout }
  | .resume => { s with frames := s.frames.tail }
  | _ => s

lemma handled_trace (e : ServerEvent γ) : (s.handled e).trace = s.trace := by
  cases e <;> simp only [handled, acknowledged]
  split_ifs <;> rfl

lemma handled_expected [DecidableEq γ] (e : ServerEvent γ) :
    s.sentReliably e ++ (s.handled e).expected = s.unacknowledged e s.expected := by
  cases e <;> simp only [handled, unacknowledged, acknowledged_expected] <;> rfl

lemma Acknowledging.handled (h : s.Acknowledging) (e : ServerEvent γ) :
    (s.handled e).Acknowledging := by
  cases e <;> simp only [ServerInviteSession.handled]
  case message msg =>
    simp only [acknowledged]
    split_ifs
    · exact ⟨⟨h.orderly.later, h.orderly.frames, h.orderly.queue⟩, by simp, h.unreliable⟩
    · exact h
  case timer => exact ⟨⟨h.orderly.later, h.orderly.frames, h.orderly.queue⟩, h.settled, h.unreliable⟩
  case resume =>
    refine ⟨⟨h.orderly.later, .inl ?_, h.orderly.queue⟩, h.settled, h.unreliable⟩
    rcases h.orderly.frames with hf | ⟨f, hf, -⟩ <;> simp [hf]
  all_goals exact h

theorem step_keeps [DecidableEq γ] {e : ServerEvent γ} (h : s.Acknowledging)
    (hok : s.astray e = false)
    (ht : ∀ timeout, e = .timer timeout → timeout.type.retransmits = false) :
    Yields (s.step e) (s.handled e).Keeps := by
  have hset := h.settled
  have hl := h.orderly.later
  cases e with
  | message msg => exact dispatch_keeps h hok
  | timer timeout =>
    have h' := h.handled (.timer timeout)
    exact dispatchTimer_keeps h'.settled h'.orderly.later (ht timeout rfl) hok
  | resume =>
    have h' := h.handled .resume
    simp only [step, resume]
    split
    case h_1 f rest hf =>
      have hok' : s.resumesAstray f = false := by simpa [astray, hf] using hok
      simp only [ServerInviteSession.handled, hf, List.tail_cons] at h' ⊢
      exact resumeFrame_keeps h' f hok'
    case h_2 => exact Yields.of_error _
  | provisional code earlyFlag => exact provisional_keeps h code earlyFlag hok
  | provideOffer offer sendOfferAtAccept =>
    refine provideOffer_keeps h offer sendOfferAtAccept fun hn hst => ?_
    simp [astray, hn, hst] at hok
  | requestOffer => exact requestOffer_keeps h
  | provideAnswer answer => exact provideAnswer_keeps h answer
  | accept code => exact accept_keeps h code hok
  | reject code => exact reject_keeps h code
  | redirect code => exact redirect_keeps code
  | endSession => exact endSession_keeps h
  | targetRefresh =>
    exact inherited_keeps (targetRefresh_quiet hl) fun hn => targetRefresh_settled (hset hn)

theorem step_acknowledging [DecidableEq γ] {e : ServerEvent γ} (h : s.Acknowledging)
    (he : s.allowed e) (hok : s.astray e = false) :
    Yields (s.step e) fun s' =>
      s'.Acknowledging ∧ s'.expected = s.unacknowledged e s.expected := by
  intro s' hs
  have ho := step_orderly h.orderly he s' hs
  have hh := h.handled e
  by_cases ht : ∀ timeout, e = .timer timeout → timeout.type.retransmits = false
  · have hk := step_keeps h hok ht s' hs
    refine ⟨hh.next ho hk.settled hk.unreliable hk.same, ?_⟩
    rw [hk.sent (by rw [handled_trace]) (next_eq hs) ht, handled_expected]
  · obtain ⟨timeout, rfl, hagain⟩ : ∃ timeout, e = .timer timeout ∧ timeout.type.retransmits := by
      simpa using ht
    obtain ⟨hset, hu, hsame, hx⟩ := dispatchTimer_again hh.settled hagain s' hs
    refine ⟨hh.next ho hset hu hsame, hx.trans ?_⟩
    rw [← handled_expected, sentReliably]
    simp [hagain]
/-! ### The PRACK -/

/-- Runs that remember what the peer has not acknowledged. -/
def prackRuns (γ : Type*) [DecidableEq γ] :
    System (ServerInviteSession γ × List ℕ) (ServerEvent γ) :=
  (runs γ).observe [] unacknowledged

/-- The condition under which a PRACK finds its provisional. -/
def staysOnTrack (p : ServerInviteSession γ × List ℕ) (e : ServerEvent γ) : Prop :=
  p.1.astray e = false

instance (p : ServerInviteSession γ × List ℕ) (e : ServerEvent γ) :
    Decidable (staysOnTrack p e) :=
  inferInstanceAs (Decidable (_ = _))

/-- The PRACK of the peer has to bring the answer to an offer of ours. -/
def owesAnswer (s : ServerInviteSession γ) : Bool := s.mState = .UAS_FirstSentOfferReliable

/-- A PRACK without a body for what is not acknowledged is answered 200, and the call goes on. -/
def PrackAnswered [DecidableEq γ] (p : ServerInviteSession γ × List ℕ) (e : ServerEvent γ) : Prop :=
  ∀ msg, e = .message msg → p.1.isPrack msg → msg.rAck.rSequence ∈ p.2 → msg.body = none →
    p.1.owesAnswer = false → ∃ s', p.1.step e = .ok s' ∧ s'.isTerminated = false ∧
      s'.trace = .callback .onPrack :: .response ⟨msg.ref, 200, none, none⟩ :: p.1.trace

lemma dispatch_prack [DecidableEq γ] (h : s.Acknowledging) (hp : s.isPrack msg)
    (hn : msg.rAck.rSequence ∈ s.expected) (hb : msg.body = none)
    (howes : s.owesAnswer = false) (hok : s.astray (.message msg) = false) :
    ∃ s', s.dispatch msg = .ok s' ∧ s'.isTerminated = false ∧
      s'.trace = .callback .onPrack :: .response ⟨msg.ref, 200, none, none⟩ :: s.trace := by
  obtain ⟨hu, hseq⟩ : s.mUnacknowledgedReliableProvisional ∧
      msg.rAck.rSequence = s.m1xx.rSeq.getD 0 := by
    simp only [expected] at hn
    split_ifs at hn with hu
    · exact ⟨hu, by simpa using hn⟩
    · simp at hn
  have hm : s.matchesPrack msg := by simp_all [matchesPrack, isPrack]
  have hreq : msg.isRequest ∧ msg.method = .prack := by simp_all [isPrack]
  have he : ∀ b : InviteSession γ, b.toEvent msg = .OnPrack := fun b => toEvent_eq_prack.mpr hreq
  have hset := h.settled hu
  cases hst : s.mState <;>
    simp [Settled, SessionState.awaitsPrack, owesAnswer, astray, hst, hreq] at hset howes hok <;>
    simp only [dispatch, hst, hreq, reduceCtorEq, or_self, and_false, if_false]
  case UAS_OfferReliableProvidedAnswer =>
    refine ⟨_, by simp only [dispatchOfferReliableProvidedAnswer, handlePrack, he, hm, hb]; rfl, ?_⟩
    rw [if_neg (by simp)]
    split_ifs <;> simp [acknowledgePrack, isTerminated, hst]
  case UAS_FirstSentAnswerReliable =>
    refine ⟨_, by simp only [dispatchFirstSentAnswerReliable, handlePrack, he, hm, hb]; rfl, ?_⟩
    cases s.mProposedLocalOfferAnswer <;> simp [acknowledgePrack, isTerminated]
  case UAS_NoAnswerReliableWaitingPrack =>
    refine ⟨_, by simp only [dispatchNoAnswerReliableWaitingPrack, handlePrack, he, hm, hb]; rfl, ?_⟩
    simp [acknowledgePrack, isTerminated]
  case UAS_NegotiatedReliable =>
    refine ⟨_, by simp only [dispatchNegotiatedReliable, handlePrack, he, hm, hb]; rfl, ?_⟩
    simp [acknowledgePrack, isTerminated, hst]

lemma isReliable_of_toEvent {b : InviteSession γ}
    (h : b.toEvent msg = .OnInvite ∨ b.toEvent msg = .OnInviteOffer) : b.isReliable msg = false := by
  cases hm : msg.method <;> simp only [toEvent, hm] at h <;> split_ifs at h <;> simp_all

lemma dispatchStart_acknowledging {profile : SessionProfile} {request : SessionMessage γ}
    (ha : admitted profile request) :
    Yields ((create profile request).dispatchStart request) fun s =>
      s.Acknowledging ∧ s.expected = [] := by
  have hr (b : InviteSession γ) (hb : b.profile = profile) (h : b.isReliable request = false)
      (code : ℕ) : (create profile request).requiresReliable code = false := by
    cases hm : profile.uasReliableProvisionalMode <;>
      simp_all [admitted, isReliable, requiresReliable, create]
  have hunreliable : Yields ((create profile request).dispatchStart request) fun s =>
      s.mState.unreliable → ∀ code, s.requiresReliable code = false := by
    simp only [dispatchStart]
    split
    case h_1 he => exact Yields.ok_iff.mpr fun _ => hr _ rfl (isReliable_of_toEvent (.inr he))
    case h_2 he => exact Yields.ok_iff.mpr fun _ => hr _ rfl (isReliable_of_toEvent (.inl he))
    all_goals simp [SessionState.unreliable]
  have hexpected : Yields ((create profile request).dispatchStart request) fun s =>
      s.mUnacknowledgedReliableProvisional = false := by
    simp only [dispatchStart]
    split <;> simp [create]
  intro s hs
  have hu := hexpected s hs
  exact ⟨⟨dispatchStart_orderly s hs, by simp [hu], hunreliable s hs⟩, by simp [expected, hu]⟩

/-- What holds in the states of a run. -/
def OnTrack (p : ServerInviteSession γ × List ℕ) : Prop :=
  p.1.Acknowledging ∧ p.1.expected = p.2

theorem onTrack [DecidableEq γ] {p : ServerInviteSession γ × List ℕ}
    (hp : Reach (prackRuns γ) staysOnTrack p) : OnTrack p := by
  refine hp.invariant ?_ ?_
  · rintro ⟨s, pending⟩ ⟨⟨profile, request, ha, hr⟩, rfl⟩
    exact dispatchStart_acknowledging ha s hr
  · rintro ⟨s, pending⟩ e _ ⟨hs, hpending⟩ he hok
    obtain rfl : s.expected = pending := hpending
    exact step_acknowledging hs he.1 hok _ (step_eq_next he)

theorem reliable_provisional_acknowledged [DecidableEq γ] {p : ServerInviteSession γ × List ℕ}
    (hp : Reach (prackRuns γ) staysOnTrack p) :
    p.2.length ≤ 1 ∧ ∀ e, p.1.allowed e → staysOnTrack p e →
      p.1.step e ≠ .error .unacknowledgedProvisional ∧ PrackAnswered p e := by
  obtain ⟨s, pending⟩ := p
  obtain ⟨hs, hpending⟩ := onTrack hp
  obtain rfl : s.expected = pending := hpending
  refine ⟨?_, fun e he hok => ⟨step_avoids hs hok, ?_⟩⟩
  · show s.expected.length ≤ 1
    simp only [expected]
    split_ifs <;> simp
  · rintro msg rfl hprack hn hb howes
    exact dispatch_prack hs hprack hn hb howes hok

/-- A PRACK of the peer for the provisional with this number. -/
def prack (number : ℕ) : ServerEvent ℕ :=
  .message { SessionMessage.plain .prack 2 none with rAck := ⟨number, 1, .invite⟩ }

/-- A reliable provisional with the answer, one that waits in the queue for its PRACK, and both
PRACKs. -/
theorem reliable_provisional_acknowledged_queued :
    let p := [.resume, .provideAnswer 2, .provisional 183 true, .provisional 180 false,
      prack 1, .resume].foldl (prackRuns ℕ).next (started .Supported (some 1), [])
    p.2 = [2] ∧ p.2.length ≤ 1 ∧ PrackAnswered p (prack 2) := by
  intro p
  have hp : Reach (prackRuns ℕ) staysOnTrack p :=
    Reach.run (.observe_init (init_started .Supported (some 1))) _ (by decide)
  obtain ⟨hlength, hstep⟩ := reliable_provisional_acknowledged hp
  exact ⟨by decide, hlength, (hstep (prack 2) (by decide) (by decide)).2⟩

/-- The provisional that leaves the queue is sent in a state that expects no PRACK, and the timer of
the first one sends another one before its PRACK. -/
theorem not_reliable_provisional_acknowledged :
    ¬(∀ p, Reach (prackRuns ℕ) (fun _ _ => True) p → p.2.length ≤ 1) ∧
    ¬(∀ p, Reach (prackRuns ℕ) (fun _ _ => True) p →
      ∀ e, p.1.allowed e → PrackAnswered p e) := by
  constructor
  · intro h
    have hrun := h _ (Reach.run (.observe_init (init_started .Supported (some 1)))
      [.resume, .provisional 183 false, .timer ⟨.Resubmit1xxRel, 1, 0⟩] (by decide))
    exact absurd hrun (by decide)
  · intro h
    have hrun := h _ (Reach.run (.observe_init (init_started .Supported (some 1)))
      [.resume, .provisional 183 false, .provisional 180 false, prack 1, .resume] (by decide))
      (prack 2) (by decide) _ rfl (by decide) (by decide) rfl (by decide)
    obtain ⟨s', hs, hgoes, -⟩ := hrun
    have hends := congrArg (fun r => r.toOption.map (·.isTerminated)) hs
    exact absurd (hends.trans (congrArg some hgoes)) (by decide)

end ServerInviteSession

end Resiprocate.Dum
