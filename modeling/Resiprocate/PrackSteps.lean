import Resiprocate.AnswerSteps

/-! What a step of a callee does to the reliable provisional that is not acknowledged yet. -/
namespace Resiprocate.Dum
open TransitionSystem ProgramLogic

/-- The states that have a case for the PRACK of a reliable provisional. -/
def SessionState.awaitsPrack : SessionState → Bool
  | .UAS_FirstSentAnswerReliable | .UAS_NoAnswerReliableWaitingPrack | .UAS_FirstSentOfferReliable
  | .UAS_NegotiatedReliable | .UAS_OfferReliableProvidedAnswer => true
  | _ => false

/-- The states that only an INVITE without 100rel leads to. -/
def SessionState.unreliable : SessionState → Bool
  | .UAS_Start | .UAS_Offer | .UAS_EarlyOffer | .UAS_OfferProvidedAnswer | .UAS_EarlyProvidedAnswer
  | .UAS_NoOffer | .UAS_EarlyNoOffer => true
  | _ => false

/-- The timers that send a response to the INVITE again. -/
def TimerType.retransmits : TimerType → Bool
  | .Retransmit1xx | .Retransmit1xxRel | .Retransmit200 => true
  | _ => false

namespace InviteSession
variable {γ : Type*} {b : InviteSession γ} {msg : SessionMessage γ}

/-- The states in which a PRACK may be outstanding. -/
def Settled (b : InviteSession γ) : Prop := b.mState.awaitsPrack ∨ b.mState = .Terminated

lemma provideOffer_settled (h : b.Settled) (offer : γ) :
    Yields (b.provideOffer offer) Settled := by
  simp only [provideOffer]
  split <;> simp_all [Settled, SessionState.awaitsPrack]

lemma requestOffer_settled (h : b.Settled) : Yields b.requestOffer Settled := by
  simp only [requestOffer]
  split <;> simp_all [Settled, SessionState.awaitsPrack]

lemma provideAnswer_settled (h : b.Settled) (answer : γ) :
    Yields (b.provideAnswer answer) Settled := by
  simp only [provideAnswer]
  split <;> simp_all [Settled, SessionState.awaitsPrack]

lemma endSession_settled (h : b.Settled) : Yields b.endSession Settled := by
  simp only [endSession]
  split <;> simp_all [Settled, SessionState.awaitsPrack]

lemma reject_settled (h : b.Settled) (code : ℕ) : Yields (b.reject code) Settled := by
  simp only [reject]
  split <;> simp_all [Settled, SessionState.awaitsPrack]

lemma targetRefresh_settled (h : b.Settled) : Yields b.targetRefresh Settled := by
  have hc : b.isConnected = false := by
    cases hst : b.mState <;> simp_all [Settled, SessionState.awaitsPrack, isConnected]
  simpa [targetRefresh, hc, Settled] using h

lemma dispatch_settled [DecidableEq γ] (h : b.Settled) : Yields (b.dispatch msg) Settled := by
  simp only [dispatch]
  split
  · simpa [Settled] using h
  split
  case h_18 =>
    simp only [dispatchTerminated]
    split <;> simp_all [Settled]
  all_goals simp_all [Settled, SessionState.awaitsPrack]

lemma waitForAckExpired_settled (h : b.Settled) : Yields b.waitForAckExpired Settled := by
  simp only [waitForAckExpired]
  split <;> simp_all [Settled, SessionState.awaitsPrack]

lemma dispatchTimer_settled (h : b.Settled) (timeout : SessionTimer) :
    Yields (b.dispatchTimer timeout) Settled := by
  simp only [dispatchTimer]
  split
  case h_1 => split <;> simp_all [Settled]
  case h_2 => simpa [h] using fun _ _ => waitForAckExpired_settled h
  case h_4 =>
    simp only [glareExpired]
    split <;> simp_all [Settled, SessionState.awaitsPrack]
  case h_5 =>
    simp only [staleReInviteExpired]
    split_ifs
    · split <;> simp_all [Settled, SessionState.awaitsPrack]
    · exact Yields.ok_iff.mpr h
  case h_7 => split_ifs <;> simp_all [Settled, SessionState.awaitsPrack]
  all_goals simpa [Settled] using h

end InviteSession

namespace ServerInviteSession
open InviteSession
variable {γ : Type*} {s s' : ServerInviteSession γ} {msg : SessionMessage γ}

/-! ### Steps after which a PRACK goes astray -/

/-- The rests of handlers. -/
def resumesAstray (s : ServerInviteSession γ) : Frame γ → Bool
  | .prackCheckQueue =>
    match s.mQueuedResponses with
    | (code, earlyFlag) :: _ => code < 300 && (s.mUnacknowledgedReliableProvisional ||
      (code < 200 && (s.provisionalContents code earlyFlag).2 && !s.mState.awaitsPrack))
    | [] => false
  | .updateCheckQueue | .negotiatedReliable _ | .provideProposedOffer | .glare _ =>
    s.mUnacknowledgedReliableProvisional
  | _ => false

def astray (s : ServerInviteSession γ) : ServerEvent γ → Bool
  | .message msg =>
    match s.mState with
    | .UAS_NegotiatedReliable => s.mUnacknowledgedReliableProvisional &&
      s.toEvent msg = .OnUpdateOffer
    | .Terminated => msg.method = .prack
    | _ => false
  | .timer timeout =>
    timeout.type = .Resubmit1xxRel && timeout.seq = s.mCurrentRetransmit1xxSeq &&
      s.m1xx.rSeq.isSome && (s.mUnacknowledgedReliableProvisional || !s.mState.awaitsPrack)
  | .provisional code _ =>
    match s.mState with
    | .UAS_ProvidedOffer | .UAS_EarlyProvidedOffer => s.requiresReliable code
    | _ => false
  | .provideOffer _ _ => s.mUnacknowledgedReliableProvisional && s.mState = .UAS_NegotiatedReliable
  | .accept _ =>
    s.mUnacknowledgedReliableProvisional && s.mState = .UAS_OfferReliableProvidedAnswer
  | .resume => s.frames.head?.any s.resumesAstray
  | _ => false

/-- The number of the reliable provisional that the session waits for the PRACK of. -/
def expected (s : ServerInviteSession γ) : List ℕ :=
  if s.mUnacknowledgedReliableProvisional then [s.m1xx.rSeq.getD 0] else []

/-- What holds in the states of a run. -/
structure Acknowledging (s : ServerInviteSession γ) : Prop where
  orderly : s.Orderly
  settled : s.mUnacknowledgedReliableProvisional → s.Settled
  unreliable : s.mState.unreliable → ∀ code, s.requiresReliable code = false

/-- A step sends one reliable provisional at most, which is the one to be acknowledged then. -/
@[mk_iff] structure Keeps (s s' : ServerInviteSession γ) : Prop where
  settled : s'.mUnacknowledgedReliableProvisional → s'.Settled
  unreliable : s'.mState.unreliable → s.mState.unreliable
  same : s'.profile = s.profile ∧ s'.mFirstRequest = s.mFirstRequest
  expected : (firstResponses s'.trace = firstResponses s.trace ∧ s'.expected = s.expected) ∨
    ∃ r, firstResponses s'.trace = r :: firstResponses s.trace ∧
      s'.expected = r.rSeq.toList ++ s.expected

/-- After a change that sends nothing to the first INVITE. -/
lemma Keeps.after {s₁ : ServerInviteSession γ} (h : s₁.Keeps s')
    (hr : firstResponses s₁.trace = firstResponses s.trace) (he : s₁.expected = s.expected)
    (hp : s₁.profile = s.profile ∧ s₁.mFirstRequest = s.mFirstRequest)
    (hu : s₁.mState.unreliable → s.mState.unreliable) : s.Keeps s' :=
  ⟨h.settled, fun h' => hu (h.unreliable h'), ⟨h.same.1.trans hp.1, h.same.2.trans hp.2⟩,
    hr ▸ he ▸ h.expected⟩

lemma Keeps.refl (h : s.mUnacknowledgedReliableProvisional → s.Settled) : s.Keeps s :=
  ⟨h, id, ⟨rfl, rfl⟩, .inl ⟨rfl, rfl⟩⟩

lemma answered_not_unreliable {state : SessionState} (h : state.answered) :
    state.unreliable = false := by
  cases state <;> simp_all [SessionState.answered, SessionState.unreliable]

/-- The base class keeps what a PRACK is waited for with. -/
lemma Keeps.of_quiet {b : InviteSession γ} (hq : s.toInviteSession.Quiet b)
    (hs : s.mUnacknowledgedReliableProvisional → b.Settled) :
    s.Keeps { s with toInviteSession := b } := by
  refine ⟨hs, fun hu => ?_, ⟨hq.profile, rfl⟩, .inl ⟨hq.responses, rfl⟩⟩
  rcases hq.state with h | h
  · rwa [← h]
  · simp [answered_not_unreliable h] at hu

lemma Keeps.of_quietly {b : InviteSession γ} (hq : s.toInviteSession.Quietly b)
    (hs : s.mUnacknowledgedReliableProvisional → b.Settled) :
    s.Keeps { s with toInviteSession := b } := by
  rcases hq with hq | ⟨b₁, f, hq, -, -, -, rfl⟩
  · exact .of_quiet hq hs
  · have hk : s.Keeps { s with toInviteSession := b₁ } := .of_quiet hq fun hu => by
      simpa [Settled] using hs hu
    exact ⟨by simpa [Settled] using hk.settled, hk.unreliable, hk.same, hk.expected⟩

lemma inherited_keeps {r : Outcome (InviteSession γ)} (hq : Yields r s.toInviteSession.Quiet)
    (hs : s.mUnacknowledgedReliableProvisional → Yields r Settled) :
    Yields (s.inherited r) s.Keeps :=
  Yields.map_iff.mpr fun b hb => .of_quiet (hq b hb) fun hu => hs hu b hb

/-! ### Responses to the first INVITE -/

/-- A provisional that may be sent: when it goes out reliably, none is unacknowledged and its PRACK
is expected. -/
lemma sendProvisional_keeps {code : ℕ} {earlyFlag : Bool}
    (hu : s.mUnacknowledgedReliableProvisional = false)
    (hs : (s.provisionalContents code earlyFlag).2 → s.Settled) :
    Yields (s.sendProvisional code earlyFlag) s.Keeps := by
  refine (sendProvisional_spec s code earlyFlag).weaken ?_
  rintro s' (⟨body, hc, -, -, rfl⟩ | ⟨body, hc, rfl⟩)
  · have := hs (by simp [hc])
    simp_all [keeps_iff, Settled, expected]
  · simp_all [keeps_iff, Settled, expected]

lemma connect_keeps (hu : s.mUnacknowledgedReliableProvisional = false) (code : ℕ)
    (body : Option γ) : s.Keeps (s.connect code body) := by
  simp +decide [keeps_iff, hu, expected]

lemma refuse_keeps (code : ℕ) : s.Keeps (s.refuse code) := by
  simp +decide [keeps_iff, Settled, expected]

lemma prackCheckQueue_keeps (hset : s.mUnacknowledgedReliableProvisional → s.Settled)
    (hok : s.resumesAstray .prackCheckQueue = false) : Yields s.prackCheckQueue s.Keeps := by
  unfold prackCheckQueue
  split
  case h_1 code earlyFlag rest hq =>
    simp only [resumesAstray, hq] at hok
    split
    case isTrue hc =>
      have hc' : code < 300 := by omega
      obtain ⟨hu, hs⟩ : s.mUnacknowledgedReliableProvisional = false ∧
          ((s.provisionalContents code earlyFlag).2 → s.Settled) := by
        simp_all [Settled]
      refine Yields.bind_iff.mpr ((sendProvisional_keeps hu hs).weaken fun s' hk => ?_)
      exact Yields.pure_iff.mpr ⟨hk.settled, hk.unreliable, hk.same, hk.expected⟩
    case isFalse hc =>
      split
      case isTrue hc' =>
        have hu : s.mUnacknowledgedReliableProvisional = false := by simp_all
        simp +decide [keeps_iff, hu, expected]
      case isFalse => exact Yields.ok_iff.mpr (.refl hset)
  case h_2 => exact Yields.ok_iff.mpr (.refl hset)

lemma updateCheckQueue_keeps (hu : s.mUnacknowledgedReliableProvisional = false) :
    s.Keeps s.updateCheckQueue := by
  unfold updateCheckQueue
  split
  case h_1 =>
    split
    · simp +decide [keeps_iff, hu, expected]
    · exact .refl (by simp [hu])
  case h_2 => exact .refl (by simp [hu])

/-! ### Calls -/

lemma redirect_keeps (code : ℕ) : Yields (s.redirect code) s.Keeps := by
  unfold redirect
  split
  case h_20 => exact Yields.of_error _
  all_goals exact Yields.ok_iff.mpr (refuse_keeps code)

lemma provisionalOrQueue_keeps {code : ℕ} {earlyFlag : Bool}
    (hs : s.mState.awaitsPrack ∨ (s.provisionalContents code earlyFlag).2 = false)
    (hset : s.mUnacknowledgedReliableProvisional → s.Settled) :
    Yields (s.provisionalOrQueue code earlyFlag) s.Keeps := by
  unfold provisionalOrQueue
  split
  case isTrue => exact Yields.ok_iff.mpr ⟨hset, id, ⟨rfl, rfl⟩, .inl ⟨rfl, rfl⟩⟩
  case isFalse hu => exact sendProvisional_keeps (by simpa using hu) fun hr => .inl (by simp_all)

/-- A state that a reliable provisional leads to. -/
lemma provisionalThen_keeps {code : ℕ} {earlyFlag : Bool} {target : SessionState}
    (hu : s.mUnacknowledgedReliableProvisional = false) (ht : target.awaitsPrack) :
    Yields (s.provisionalThen code earlyFlag target) s.Keeps := by
  refine Yields.bind_iff.mpr ((sendProvisional_spec s code earlyFlag).weaken ?_)
  have htu : target.unreliable = false := by
    cases target <;> simp_all [SessionState.awaitsPrack, SessionState.unreliable]
  rintro s' (⟨body, hc, -, -, rfl⟩ | ⟨body, hc, rfl⟩)
  · simp_all [keeps_iff, Settled, expected]
  · simp_all [keeps_iff, Settled, expected]

/-- In these states only what requires it goes out reliably. -/
lemma provisionalContents_eq_false {code : ℕ} {earlyFlag : Bool}
    (hr : s.requiresReliable code = false)
    (hs : s.mState = .UAS_EarlyOffer ∨ s.mState = .UAS_EarlyProvidedAnswer ∨
      s.mState = .UAS_EarlyProvidedOffer ∨ s.mState = .UAS_EarlyNoOffer) :
    (s.provisionalContents code earlyFlag).2 = false := by
  rcases hs with hs | hs | hs | hs <;> simp [provisionalContents, hs, hr]

lemma provisionalAt_keeps {code : ℕ} {earlyFlag : Bool} {target : SessionState}
    (hu : s.mUnacknowledgedReliableProvisional = false)
    (hr : s.requiresReliable code = false) (ht : target = .UAS_EarlyOffer ∨
      target = .UAS_EarlyProvidedAnswer ∨ target = .UAS_EarlyProvidedOffer ∨
      target = .UAS_EarlyNoOffer) (hst : target.unreliable → s.mState.unreliable) :
    Yields ((s.transition target).sendProvisional code earlyFlag) s.Keeps := by
  have hc : ((s.transition target).provisionalContents code earlyFlag).2 = false :=
    provisionalContents_eq_false (s := s.transition target) hr ht
  have hk := sendProvisional_keeps (s := s.transition target) hu (by rw [hc]; nofun)
  exact hk.weaken fun _ hk => hk.after rfl rfl ⟨rfl, rfl⟩ hst

lemma provisional_keeps (h : s.Acknowledging) (code : ℕ) (earlyFlag : Bool)
    (hok : s.astray (.provisional code earlyFlag) = false) :
    Yields (s.provisional code earlyFlag) s.Keeps := by
  have hu (hst : s.mState.awaitsPrack = false) (hst' : s.mState ≠ .Terminated) :
      s.mUnacknowledgedReliableProvisional = false := by
    by_contra hn
    simpa [Settled, hst, hst'] using h.settled (by simpa using hn)
  unfold provisional
  split
  case h_1 hst | h_2 hst | h_3 hst | h_4 hst | h_7 hst | h_8 hst =>
    exact provisionalAt_keeps (hu (by rw [hst]; rfl) (by simp [hst]))
      (h.unreliable (by rw [hst]; rfl) code) (by simp) (by rw [hst]; exact fun _ => rfl)
  case h_5 hst | h_6 hst =>
    exact provisionalAt_keeps (hu (by rw [hst]; rfl) (by simp [hst]))
      (by simpa [astray, hst] using hok) (by simp) nofun
  case h_9 hst =>
    have hf := hu (by rw [hst]; rfl) (by simp [hst])
    simp only [provisionalOrQueue, hf, Bool.false_eq_true, if_false]
    refine (sendProvisional_spec s code earlyFlag).weaken ?_
    rintro s' (⟨body, -, hne, -⟩ | ⟨body, hc, rfl⟩)
    · exact absurd hst hne
    · simp [keeps_iff, Settled, expected, hf]
  case h_10 hst | h_11 hst | h_12 hst | h_13 hst =>
    exact provisionalOrQueue_keeps (.inl (by rw [hst]; rfl)) h.settled
  case h_14 hst | h_15 hst | h_16 hst =>
    exact provisionalThen_keeps (hu (by rw [hst]; rfl) (by simp [hst])) rfl
  case h_17 hst =>
    split
    case isTrue => exact provisionalOrQueue_keeps (.inl (by rw [hst]; rfl)) h.settled
    case isFalse hc =>
      exact provisionalThen_keeps (by simpa using fun hu => hc (.inl hu)) rfl
  case h_18 => exact Yields.of_error _

lemma provideOffer_keeps (h : s.Acknowledging) (offer : γ) (sendOfferAtAccept : Bool)
    (hok : s.mUnacknowledgedReliableProvisional → s.mState ≠ .UAS_NegotiatedReliable) :
    Yields (s.provideOffer offer sendOfferAtAccept) s.Keeps := by
  have hset := h.settled
  unfold provideOffer
  split
  case h_4 hst =>
    have hu : s.mUnacknowledgedReliableProvisional = false := by simpa [hst] using hok
    simp only [sendUpdate]
    split_ifs <;> simp_all +decide [keeps_iff, expected]
  case h_24 =>
    exact inherited_keeps (provideOffer_quiet h.orderly.later offer) fun hu =>
      provideOffer_settled (hset hu) offer
  all_goals simp_all +decide [keeps_iff, expected, Settled]

lemma requestOffer_keeps (h : s.Acknowledging) : Yields s.requestOffer s.Keeps := by
  have hset := h.settled
  unfold requestOffer
  split
  · simp_all +decide [keeps_iff, expected, Settled]
  · exact inherited_keeps (requestOffer_quiet h.orderly.later) fun hu =>
      requestOffer_settled (hset hu)

lemma provideAnswer_keeps (h : s.Acknowledging) (answer : γ) :
    Yields (s.provideAnswer answer) s.Keeps := by
  have hset := h.settled
  have hl := h.orderly.later
  simp only [provideAnswer]
  split
  case h_7 hst =>
    have hu : s.mUnacknowledgedReliableProvisional = false := by
      simpa [Settled, SessionState.awaitsPrack, hst] using hset
    have hne : s.mLastRemoteSessionModification.1 ≠ .first := hl (by rw [hst]; rfl)
    refine Yields.ok_iff.mpr ((updateCheckQueue_keeps ?_).after ?_ rfl ⟨rfl, rfl⟩ id)
    · exact hu
    · simp [hne]
  case h_8 => split <;> simp_all +decide [keeps_iff, expected, Settled]
  case h_27 =>
    refine (inherited_keeps (s := { s with mAnswerSentReliably := false })
      (provideAnswer_quiet hl answer) fun hu => provideAnswer_settled (hset hu) answer).weaken ?_
    exact fun _ hk => hk.after rfl rfl ⟨rfl, rfl⟩ id
  all_goals simp_all +decide [keeps_iff, expected, Settled, AnswersLater]

lemma reject_keeps (h : s.Acknowledging) (code : ℕ) : Yields (s.reject code) s.Keeps := by
  have hset := h.settled
  unfold reject
  split
  all_goals first
    | exact Yields.of_error _
    | exact Yields.ok_iff.mpr (refuse_keeps code)
    | exact inherited_keeps (reject_quiet h.orderly.later code) fun hu => reject_settled (hset hu) code

lemma endSession_keeps (h : s.Acknowledging) : Yields s.endSession s.Keeps := by
  have hset := h.settled
  unfold endSession
  split
  all_goals first
    | exact reject_keeps h 480
    | exact inherited_keeps (endSession_quiet h.orderly.later) fun hu => endSession_settled (hset hu)
    | simp_all +decide [keeps_iff, expected, Settled]

lemma accept_keeps (h : s.Acknowledging) (code : ℕ)
    (hok : s.astray (.accept code) = false) : Yields (s.accept code) s.Keeps := by
  have hset := h.settled
  unfold accept
  split
  all_goals simp_all +decide [keeps_iff, expected, Settled, astray]

/-! ### Messages -/

lemma toEvent_eq_prack {b : InviteSession γ} :
    b.toEvent msg = .OnPrack ↔ msg.isRequest ∧ msg.method = .prack := by
  constructor
  · intro h
    cases hm : msg.method <;> simp only [toEvent, hm] at h <;> split_ifs at h <;>
      simp_all [SessionMessage.isRequest]
  · rintro ⟨hr, hm⟩
    have h0 : msg.statusCode = 0 := by simpa [SessionMessage.isRequest] using hr
    simp [toEvent, hm, h0]

/-- The session for which a PRACK that matches has acknowledged what was sent. -/
def acknowledged (s : ServerInviteSession γ) (msg : SessionMessage γ) : ServerInviteSession γ :=
  if s.toEvent msg = .OnPrack ∧ s.matchesPrack msg then
    { s with mUnacknowledgedReliableProvisional := false }
  else s

lemma acknowledged_of_ne (h : s.toEvent msg ≠ .OnPrack) : s.acknowledged msg = s := by
  simp [acknowledged, h]

lemma acknowledged_of_false (h : s.mUnacknowledgedReliableProvisional = false) :
    s.acknowledged msg = s := by
  simp [acknowledged, matchesPrack, h]

lemma dispatchUnknownRequest_keeps (hset : s.mUnacknowledgedReliableProvisional → s.Settled) :
    s.Keeps (s.dispatchUnknownRequest msg) := by
  simp only [dispatchUnknownRequest, dispatchUnknown]
  split
  · simp +decide [keeps_iff, Settled, expected]
  · exact .refl hset

lemma dispatchOfferOrEarly_keeps (hset : s.mUnacknowledgedReliableProvisional → s.Settled) :
    s.Keeps (s.dispatchOfferOrEarly msg) := by
  simp only [dispatchOfferOrEarly]
  split
  case h_4 => exact dispatchUnknownRequest_keeps hset
  all_goals simp_all +decide [dispatchCancel, dispatchBye, keeps_iff, Settled, expected]

lemma dispatchAfter2xx_keeps (hset : s.mUnacknowledgedReliableProvisional → s.Settled) :
    s.Keeps (s.dispatchAfter2xx msg) := by
  simp only [dispatchAfter2xx]
  split
  case h_8 => exact dispatchUnknownRequest_keeps hset
  all_goals simp_all +decide [keeps_iff, Settled, expected]

lemma handlePrack_keeps (he : s.toEvent msg = .OnPrack)
    (hset : s.mUnacknowledgedReliableProvisional → s.Settled)
    {k : ServerInviteSession γ → Outcome (ServerInviteSession γ)}
    (hk : Yields (k { s with mUnacknowledgedReliableProvisional := false })
      (Keeps { s with mUnacknowledgedReliableProvisional := false })) :
    Yields (s.handlePrack msg k) (s.acknowledged msg).Keeps := by
  simp only [handlePrack]
  split
  case isTrue hm => simpa [acknowledged, he, hm] using hk
  case isFalse hm =>
    have ha : s.acknowledged msg = s := by simp [acknowledged, hm]
    rw [ha]
    simp_all [keeps_iff, Settled, expected]

lemma dispatchFirstSentOfferReliable_keeps
    (hset : s.mUnacknowledgedReliableProvisional → s.Settled) :
    Yields (s.dispatchFirstSentOfferReliable msg) (s.acknowledged msg).Keeps := by
  simp only [dispatchFirstSentOfferReliable]
  split
  case h_1 he =>
    refine handlePrack_keeps he hset ?_
    split
    case h_1 answer _ =>
      refine Yields.bind_iff.mpr ((receiveAnswer_spec _ answer).weaken ?_)
      rintro s' ⟨offer, -, rfl⟩
      simp +decide [keeps_iff, expected]
    case h_2 => simp +decide [illegalPrack, keeps_iff, expected]
  case h_2 he =>
    rw [acknowledged_of_ne he]
    exact Yields.ok_iff.mpr (dispatchOfferOrEarly_keeps hset)

lemma dispatchOfferReliableProvidedAnswer_keeps
    (hset : s.mUnacknowledgedReliableProvisional → s.Settled) :
    Yields (s.dispatchOfferReliableProvidedAnswer msg) (s.acknowledged msg).Keeps := by
  simp only [dispatchOfferReliableProvidedAnswer]
  split
  case h_1 he =>
    refine handlePrack_keeps he hset ?_
    simp only [acknowledgePrack, illegalPrack]
    split_ifs <;> simp_all +decide [keeps_iff, expected]
  case h_2 he =>
    rw [acknowledged_of_ne he]
    exact Yields.ok_iff.mpr (dispatchOfferOrEarly_keeps hset)

lemma dispatchFirstSentAnswerReliable_keeps
    (hset : s.mUnacknowledgedReliableProvisional → s.Settled) :
    Yields (s.dispatchFirstSentAnswerReliable msg) (s.acknowledged msg).Keeps := by
  simp only [dispatchFirstSentAnswerReliable]
  split
  case h_1 he =>
    refine handlePrack_keeps he hset ?_
    simp only [acknowledgePrack, offerInPrack]
    split <;> simp_all +decide [keeps_iff, expected]
  case h_2 he =>
    rw [acknowledged_of_ne he]
    exact Yields.ok_iff.mpr (dispatchOfferOrEarly_keeps hset)

lemma dispatchNoAnswerReliableWaitingPrack_keeps
    (hset : s.mUnacknowledgedReliableProvisional → s.Settled) :
    Yields (s.dispatchNoAnswerReliableWaitingPrack msg) (s.acknowledged msg).Keeps := by
  simp only [dispatchNoAnswerReliableWaitingPrack]
  split
  case h_1 he =>
    refine handlePrack_keeps he hset ?_
    simp only [acknowledgePrack, illegalPrack]
    split_ifs <;> simp_all +decide [keeps_iff, expected]
  case h_2 he =>
    rw [acknowledged_of_ne he]
    exact Yields.ok_iff.mpr (dispatchOfferOrEarly_keeps hset)

lemma dispatchNegotiatedReliable_keeps
    (hset : s.mUnacknowledgedReliableProvisional → s.Settled)
    (hok : s.mUnacknowledgedReliableProvisional → s.toEvent msg ≠ .OnUpdateOffer) :
    Yields (s.dispatchNegotiatedReliable msg) (s.acknowledged msg).Keeps := by
  simp only [dispatchNegotiatedReliable]
  split
  case h_1 he =>
    refine handlePrack_keeps he hset ?_
    simp only [acknowledgePrack, offerInPrack]
    split <;> simp_all +decide [keeps_iff, expected]
  case h_2 he =>
    have hu : s.mUnacknowledgedReliableProvisional = false := by simpa [he] using hok
    rw [acknowledged_of_false hu]
    simp_all +decide [receiveOffer, keeps_iff, expected]
  case h_3 he _ =>
    rw [acknowledged_of_ne he]
    exact Yields.ok_iff.mpr (dispatchOfferOrEarly_keeps hset)

lemma dispatchAccepted_keeps (hu : s.mUnacknowledgedReliableProvisional = false) :
    s.Keeps (s.dispatchAccepted msg) := by
  simp only [dispatchAccepted, dispatchByeAccepted]
  split
  case h_5 => exact dispatchAfter2xx_keeps (by simp [hu])
  all_goals simp_all +decide [keeps_iff, expected]

lemma dispatchWaitingToOffer_keeps (h : s.Acknowledging)
    (hu : s.mUnacknowledgedReliableProvisional = false) :
    Yields (s.dispatchWaitingToOffer msg) s.Keeps := by
  have h' : Acknowledging (s.onBase (·.stop200)) :=
    ⟨⟨h.orderly.later, h.orderly.frames, h.orderly.queue⟩, h.settled, h.unreliable⟩
  simp only [dispatchWaitingToOffer, dispatchByeAccepted]
  split
  case h_1 =>
    split
    · refine Yields.bind_iff.mpr fun offer _ => ?_
      exact (provideOffer_keeps h' offer false (by simp [hu])).weaken fun _ hk =>
        hk.after rfl rfl ⟨rfl, rfl⟩ id
    · exact Yields.of_error _
  case h_4 => exact Yields.ok_iff.mpr (dispatchAfter2xx_keeps (by simp [hu]))
  all_goals simp_all +decide [keeps_iff, expected]

lemma dispatchWaitingToRequestOffer_keeps (h : s.Acknowledging)
    (hu : s.mUnacknowledgedReliableProvisional = false) :
    Yields (s.dispatchWaitingToRequestOffer msg) s.Keeps := by
  have h' : Acknowledging (s.onBase (·.stop200)) :=
    ⟨⟨h.orderly.later, h.orderly.frames, h.orderly.queue⟩, h.settled, h.unreliable⟩
  simp only [dispatchWaitingToRequestOffer, dispatchByeAccepted]
  split
  case h_1 => exact (requestOffer_keeps h').weaken fun _ hk => hk.after rfl rfl ⟨rfl, rfl⟩ id
  case h_4 => exact Yields.ok_iff.mpr (dispatchAfter2xx_keeps (by simp [hu]))
  all_goals simp_all +decide [keeps_iff, expected]

lemma dispatchAcceptedWaitingAnswer_keeps (hu : s.mUnacknowledgedReliableProvisional = false) :
    Yields (s.dispatchAcceptedWaitingAnswer msg) s.Keeps := by
  simp only [dispatchAcceptedWaitingAnswer]
  split
  case h_1 =>
    refine Yields.bind_iff.mpr fun answer _ => ?_
    refine Yields.bind_iff.mpr ((receiveAnswer_spec _ answer).weaken ?_)
    rintro s' ⟨offer, -, rfl⟩
    simp_all +decide [keeps_iff, expected]
  case h_4 => exact Yields.ok_iff.mpr (dispatchAfter2xx_keeps (by simp [hu]))
  all_goals simp_all +decide [keeps_iff, expected]

/-- The response to our UPDATE drains the queue where a PRACK has a case. -/
lemma dispatchSentUpdate_keeps (hu : s.mUnacknowledgedReliableProvisional = false) :
    Yields (s.dispatchSentUpdate msg) s.Keeps := by
  simp only [dispatchSentUpdate]
  split
  case h_5 =>
    split
    · refine Yields.bind_iff.mpr ((receiveAnswer_spec _ _).weaken ?_)
      rintro s' ⟨offer, -, rfl⟩
      simp_all +decide [keeps_iff, expected]
    · refine (prackCheckQueue_keeps (s := s.transition .UAS_NegotiatedReliable) ?_ ?_).weaken ?_
      · simp [hu]
      · simp only [resumesAstray]
        split
        · simp [hu, SessionState.awaitsPrack]
        · rfl
      · exact fun _ hk => hk.after rfl rfl ⟨rfl, rfl⟩
          fun h : SessionState.UAS_NegotiatedReliable.unreliable = true => absurd h (by decide)
  case h_9 => exact Yields.ok_iff.mpr (dispatchUnknownRequest_keeps (by simp [hu]))
  all_goals simp_all +decide [dispatchCancel, dispatchBye, keeps_iff, expected]

lemma dispatchSentUpdateGlare_keeps (hu : s.mUnacknowledgedReliableProvisional = false) :
    s.Keeps (s.dispatchSentUpdateGlare msg) := by
  simp only [dispatchSentUpdateGlare]
  split
  case h_5 => exact dispatchUnknownRequest_keeps (by simp [hu])
  all_goals simp_all +decide [dispatchCancel, dispatchBye, keeps_iff, expected]

lemma dispatchSentUpdateAccepted_keeps (hu : s.mUnacknowledgedReliableProvisional = false) :
    Yields (s.dispatchSentUpdateAccepted msg) s.Keeps := by
  simp only [dispatchSentUpdateAccepted]
  split
  case h_4 =>
    split
    · refine Yields.bind_iff.mpr ((receiveAnswer_spec _ _).weaken ?_)
      rintro s' ⟨offer, -, rfl⟩
      simp_all +decide [keeps_iff, expected]
    · have hk := updateCheckQueue_keeps (s := s.transition .UAS_Accepted) hu
      exact Yields.ok_iff.mpr (hk.after rfl rfl ⟨rfl, rfl⟩
        fun h : SessionState.UAS_Accepted.unreliable = true => absurd h (by decide))
  case h_8 => exact Yields.ok_iff.mpr (dispatchUnknownRequest_keeps (by simp [hu]))
  all_goals simp_all +decide [dispatchCancel, dispatchBye, keeps_iff, expected]

lemma dispatchReceivedUpdate_keeps (hu : s.mUnacknowledgedReliableProvisional = false) :
    s.Keeps (s.dispatchReceivedUpdate msg) := by
  simp only [dispatchReceivedUpdate]
  split
  case h_5 => exact dispatchUnknownRequest_keeps (by simp [hu])
  all_goals simp_all +decide [dispatchCancel, dispatchBye, keeps_iff, expected]

lemma dispatchStart_keeps (hu : s.mUnacknowledgedReliableProvisional = false)
    (hst : s.mState.unreliable) : Yields (s.dispatchStart msg) s.Keeps := by
  simp only [dispatchStart]
  split <;> simp_all +decide [keeps_iff, expected]

theorem dispatch_keeps [DecidableEq γ] (h : s.Acknowledging)
    (hok : s.astray (.message msg) = false) :
    Yields (s.dispatch msg) (s.acknowledged msg).Keeps := by
  have hset := h.settled
  have hl := h.orderly.later
  have hu (hst : s.mState.awaitsPrack = false) (hst' : s.mState ≠ .Terminated) :
      s.mUnacknowledgedReliableProvisional = false := by
    by_contra hn
    simpa [Settled, hst, hst'] using hset (by simpa using hn)
  simp only [dispatch]
  split
  case isTrue hi =>
    have he : s.toEvent msg ≠ .OnPrack := fun he => by
      have := (toEvent_eq_prack.mp he).2
      simp_all
    rw [acknowledged_of_ne he]
    exact Yields.ok_iff.mpr (.refl hset)
  split
  case h_14 => exact dispatchOfferReliableProvidedAnswer_keeps hset
  case h_19 => exact dispatchFirstSentAnswerReliable_keeps hset
  case h_20 => exact dispatchNoAnswerReliableWaitingPrack_keeps hset
  case h_21 => exact dispatchFirstSentOfferReliable_keeps hset
  case h_28 hst =>
    refine dispatchNegotiatedReliable_keeps hset fun hn he => ?_
    simp [astray, hst, hn, he] at hok
  case h_29 =>
    have ha : s.acknowledged msg = s := by
      by_cases hn : s.mUnacknowledgedReliableProvisional
      · have hst : s.mState = .Terminated := by
          cases hst : s.mState <;> simp_all [Settled, SessionState.awaitsPrack]
        refine acknowledged_of_ne fun he => ?_
        simp [astray, hst, (toEvent_eq_prack.mp he).2] at hok
      · exact acknowledged_of_false (by simpa using hn)
    rw [ha]
    exact Yields.map_iff.mpr fun b hb => .of_quietly (dispatch_quiet hl b hb) fun hn =>
      dispatch_settled (hset hn) b hb
  all_goals
    rename_i hst
    have hf := hu (by rw [hst]; rfl) (by simp [hst])
    rw [acknowledged_of_false hf]
  case h_1 hst _ => exact dispatchStart_keeps hf (by rw [hst]; rfl)
  case h_15 => exact Yields.ok_iff.mpr (dispatchAccepted_keeps hf)
  case h_16 => exact dispatchWaitingToOffer_keeps h hf
  case h_17 => exact dispatchWaitingToRequestOffer_keeps h hf
  case h_18 => exact dispatchAcceptedWaitingAnswer_keeps hf
  case h_22 | h_23 => exact Yields.ok_iff.mpr (dispatchReceivedUpdate_keeps hf)
  case h_24 => exact dispatchSentUpdate_keeps hf
  case h_25 => exact Yields.ok_iff.mpr (dispatchSentUpdateGlare_keeps hf)
  case h_26 => exact Yields.ok_iff.mpr (.of_quiet (dispatchWaitingToHangup_quiet hl) (by simp [hf]))
  case h_27 => exact dispatchSentUpdateAccepted_keeps hf
  all_goals exact Yields.ok_iff.mpr (dispatchOfferOrEarly_keeps hset)

/-! ### Timers, and the rests of handlers -/

/-- What was sent is sent once more, and the PRACK of no other provisional is waited for. -/
lemma dispatchTimer_again (hset : s.mUnacknowledgedReliableProvisional → s.Settled)
    {timeout : SessionTimer} (ht : timeout.type.retransmits) :
    Yields (s.dispatchTimer timeout) fun s' =>
      (s'.mUnacknowledgedReliableProvisional → s'.Settled) ∧
      (s'.mState.unreliable → s.mState.unreliable) ∧
      (s'.profile = s.profile ∧ s'.mFirstRequest = s.mFirstRequest) ∧ s'.expected = s.expected := by
  cases hty : timeout.type <;> simp [hty, TimerType.retransmits] at ht <;>
    simp only [dispatchTimer, hty, InviteSession.dispatchTimer]
  case Retransmit1xx => split_ifs <;> simp_all [Settled, expected]
  case Retransmit1xxRel => split_ifs <;> simp_all +decide [Settled, expected]
  case Retransmit200 => split <;> simp_all [Settled, expected]

lemma dispatchTimer_keeps (hset : s.mUnacknowledgedReliableProvisional → s.Settled)
    (hl : s.AnswersLater) {timeout : SessionTimer} (ht : timeout.type.retransmits = false)
    (hok : s.astray (.timer timeout) = false) : Yields (s.dispatchTimer timeout) s.Keeps := by
  have hbase : Yields (s.inherited (s.toInviteSession.dispatchTimer timeout)) s.Keeps := by
    refine Yields.map_iff.mpr fun b hb => .of_quietly ?_ fun hn =>
      dispatchTimer_settled (hset hn) timeout b hb
    exact dispatchTimer_quietly hl (by rintro h; simp [h, TimerType.retransmits] at ht) b hb
  simp only [dispatchTimer]
  split
  case h_1 hty | h_3 hty => simp [hty, TimerType.retransmits] at ht
  case h_2 hty =>
    split
    case h_1 rSeq hr =>
      split
      case isTrue hseq =>
        obtain ⟨hu, ha⟩ : s.mUnacknowledgedReliableProvisional = false ∧ s.mState.awaitsPrack := by
          simpa [astray, hty, hseq, hr] using hok
        simp [keeps_iff, expected, Settled, hu, ha]
      case isFalse => exact Yields.ok_iff.mpr (.refl hset)
    case h_2 => exact Yields.ok_iff.mpr (.refl hset)
  case h_4 =>
    split
    case isTrue hst =>
      have hu : s.mUnacknowledgedReliableProvisional = false := by
        simpa [Settled, SessionState.awaitsPrack, hst] using hset
      simp [keeps_iff, expected, hu, SessionState.unreliable]
    case isFalse => exact hbase
  case h_5 => exact hbase

lemma sendUpdate_keeps (hset : s.mUnacknowledgedReliableProvisional → s.Settled) (offer : γ) :
    s.Keeps (s.sendUpdate offer) := by
  simp only [sendUpdate]
  split_ifs <;> simp_all [keeps_iff, expected, Settled]

lemma resumeFrame_keeps (h : s.Acknowledging) (f : Frame γ) (hok : s.resumesAstray f = false) :
    Yields (s.resumeFrame f) s.Keeps := by
  have hset := h.settled
  simp only [resumeFrame]
  split
  case h_1 =>
    split_ifs
    · exact Yields.ok_iff.mpr (.refl hset)
    · split <;> simp_all [keeps_iff, expected, Settled]
  case h_7 =>
    exact Yields.bind_iff.mpr fun offer _ => Yields.pure_iff.mpr (sendUpdate_keeps hset offer)
  case h_8 => exact prackCheckQueue_keeps hset hok
  case h_10 => exact Yields.ok_iff.mpr (updateCheckQueue_keeps hok)
  case h_12 =>
    have hf : s.mUnacknowledgedReliableProvisional = false := hok
    refine (dispatchNegotiatedReliable_keeps hset (by simp [hf])).weaken fun _ hk => ?_
    rwa [acknowledged_of_false hf] at hk
  case h_13 =>
    have hf : s.mUnacknowledgedReliableProvisional = false := hok
    refine Yields.ite_iff.mpr ⟨fun _ => Yields.ok_iff.mpr (.refl hset), fun _ => ?_⟩
    exact Yields.bind_iff.mpr fun offer _ => provideOffer_keeps h offer false (by simp [hf])
  case h_14 =>
    exact Yields.ite_iff.mpr ⟨fun _ => Yields.ok_iff.mpr (.refl hset), fun _ => requestOffer_keeps h⟩
  case h_15 =>
    refine inherited_keeps (resume_quiet h.orderly.later f) fun hn => ?_
    cases f <;> simp_all [resumesAstray, InviteSession.resume, Settled]
  all_goals simp_all +decide [offerInPrack, keeps_iff, expected, Settled]
end ServerInviteSession

end Resiprocate.Dum
