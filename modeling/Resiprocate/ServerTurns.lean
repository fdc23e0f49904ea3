import Resiprocate.SessionTurns

/-! What the functions of the callee's session do to its timers, to the retransmission of its 2xx and to its
reliable provisionals. -/
namespace Resiprocate.Dum
open ProgramLogic TransitionSystem

/-- The states of a callee once it has its INVITE. -/
def SessionState.callee : SessionState → Bool
  | .UAS_Accepted | .UAS_WaitingToOffer | .UAS_WaitingToRequestOffer | .UAS_AcceptedWaitingAnswer
  | .UAS_WaitingToHangup => true
  | state => state.early || state.shared

/-- The states in which a rest of a handler that leads back may wait. -/
def SessionState.paused : SessionState → Bool
  | .UAS_FirstSentAnswerReliable | .UAS_SentUpdateGlare | .Terminated => true
  | _ => false

/-- Each is sent again, or numbered one higher than the one before. -/
def RSeqOrdered {γ : Type*} (trace : List (Effect γ)) : Prop :=
  (reliable trace).IsChain fun later earlier => later = earlier ∨ later.rSeq = earlier.rSeq.map (· + 1)

namespace ServerInviteSession
open InviteSession
variable {γ : Type*}

/-- The reliable provisionals are numbered as they should, and what is kept of the last is right. -/
structure Numbered (s : ServerInviteSession γ) : Prop where
  ordered : RSeqOrdered s.trace
  last : ((reliable s.trace).head?.bind (·.rSeq)).getD 0 = s.mLocalRSeq
  current : ∀ rSeq, s.m1xx.rSeq = some rSeq →
    (reliable s.trace).head? = some ⟨.first, s.m1xx.statusCode, s.m1xx.body, some rSeq⟩
  plain : s.Plain

/-- What a function of the callee's session does, the reliable provisionals apart. -/
@[mk_iff] structure Moves (stops starts idle : Prop) (s s' : ServerInviteSession γ) : Prop where
  waits : s.Waits → (s.mState.early → s.mCurrentRetransmit200 = false) → s'.Waits
  early : s'.mState.early → s'.mCurrentRetransmit200 → s.mState.early ∧ s.mCurrentRetransmit200
  retransmission : (s'.mCurrentRetransmit200 = s.mCurrentRetransmit200 ∧ s'.mInvite200 = s.mInvite200 ∧
      s'.retransmissions = s.retransmissions) ∨
    (stops ∧ s'.mCurrentRetransmit200 = false ∧ s'.mInvite200 = s.mInvite200 ∧
      s'.retransmissions = s.retransmissions) ∨
    (starts ∧ s'.mCurrentRetransmit200 = true ∧ s'.mInvite200.isSome ∧
      ∃ t, s'.retransmissions = t :: s.retransmissions)
  callee : s.mState.callee → s'.mState.callee
  frames : s'.frames = s.frames ∨ ∃ f, s'.frames = f :: s.frames ∧ f.isAck = false ∧
    (f.returns → idle ∧ s'.mState.paused ∧ s'.mState.early) ∧ (f.isGlare → idle ∧ s'.mState.shared)

/-- The same, and it numbers reliable provisionals as it should. -/
@[mk_iff] structure Turns (stops starts idle : Prop) (s s' : ServerInviteSession γ) : Prop
    extends Moves stops starts idle s s' where
  provisionals : (reliable s'.trace = reliable s.trace ∧ s'.m1xx = s.m1xx ∧ s'.mLocalRSeq = s.mLocalRSeq ∧
    (s.Plain → s'.Plain)) ∨
    ((s.Numbered → s'.Numbered) ∧ reliable s.trace <:+ reliable s'.trace)

variable {s s' : ServerInviteSession γ} {msg : SessionMessage γ} {stops starts idle : Prop}

lemma Numbered.of_eq (h : s.Numbered) (hr : reliable s'.trace = reliable s.trace) (hm : s'.m1xx = s.m1xx)
    (hl : s'.mLocalRSeq = s.mLocalRSeq) (hp : s.Plain → s'.Plain) : s'.Numbered := by
  refine ⟨?_, ?_, ?_, hp h.plain⟩
  · rw [RSeqOrdered, hr]
    exact h.ordered
  · rw [hr, hl]
    exact h.last
  · rw [hr, hm]
    exact h.current

lemma Turns.numbered (h : s.Turns stops starts idle s') (hn : s.Numbered) : s'.Numbered := by
  rcases h.provisionals with ⟨hr, hm, hl, hp⟩ | h
  · exact hn.of_eq hr hm hl hp
  · exact h.1 hn

lemma Turns.grows (h : s.Turns stops starts idle s') : reliable s.trace <:+ reliable s'.trace := by
  rcases h.provisionals with h | h
  · rw [h.1]
  · exact h.2

lemma Turns.refl : s.Turns stops starts idle s :=
  ⟨⟨fun h _ => h, fun he hf => ⟨he, hf⟩, .inl ⟨rfl, rfl, rfl⟩, id, .inl rfl⟩, .inl ⟨rfl, rfl, rfl, id⟩⟩

lemma Moves.mono {stops' starts' idle' : Prop} (h : s.Moves stops starts idle s') (hstops : stops → stops')
    (hstarts : starts → starts') (hidle : idle → idle') : s.Moves stops' starts' idle' s' := by
  refine ⟨h.waits, h.early, h.retransmission.imp_right (.imp (.imp_left hstops) (.imp_left hstarts)), h.callee,
    h.frames.imp_right ?_⟩
  rintro ⟨f, hf, ha, hr, hg⟩
  exact ⟨f, hf, ha, fun h => (hr h).imp_left hidle, fun h => (hg h).imp_left hidle⟩

lemma Turns.mono {stops' starts' idle' : Prop} (h : s.Turns stops starts idle s') (hstops : stops → stops')
    (hstarts : starts → starts') (hidle : idle → idle') : s.Turns stops' starts' idle' s' :=
  ⟨h.toMoves.mono hstops hstarts hidle, h.provisionals⟩

lemma Moves.still_early {s₁ : ServerInviteSession γ} (h : s.Moves stops starts idle s₁)
    (he : s.mState.early → s.mCurrentRetransmit200 = false) : s₁.mState.early → s₁.mCurrentRetransmit200 = false := by
  intro he₁
  by_contra hf₁
  obtain ⟨hs, hfs⟩ := h.early he₁ (by simpa using hf₁)
  simp [he hs] at hfs

/-- A function that does nothing of the kind may follow. -/
lemma Moves.trans {s₁ : ServerInviteSession γ} (h : s.Moves stops starts idle s₁) (hf : s₁.frames = s.frames)
    (h' : s₁.Moves False False idle s') : s.Moves stops starts idle s' := by
  refine ⟨fun hw he => h'.waits (h.waits hw he) (h.still_early he), ?_, ?_, fun hc => h'.callee (h.callee hc),
    hf ▸ h'.frames⟩
  · intro he' hf'
    obtain ⟨he₁, hf₁⟩ := h'.early he' hf'
    exact h.early he₁ hf₁
  · have hkept := h'.retransmission
    simp only [false_and, or_false] at hkept
    rw [hkept.1, hkept.2.1, hkept.2.2]
    exact h.retransmission

lemma Turns.trans {s₁ : ServerInviteSession γ} (h : s.Turns stops starts idle s₁) (hf : s₁.frames = s.frames)
    (h' : s₁.Turns False False idle s') : s.Turns stops starts idle s' :=
  ⟨h.toMoves.trans hf h'.toMoves, .inr ⟨fun hn => h'.numbered (h.numbered hn), h.grows.trans h'.grows⟩⟩

/-- A function that does nothing of the kind may come first. -/
lemma Turns.after {s₁ : ServerInviteSession γ} (h' : s₁.Turns stops starts idle s')
    (h : s.Turns False False False s₁) (hf : s₁.frames = s.frames) : s.Turns stops starts idle s' := by
  refine ⟨⟨fun hw he => h'.waits (h.waits hw he) (h.still_early he), ?_, ?_, fun hc => h'.callee (h.callee hc),
    hf ▸ h'.frames⟩, .inr ⟨fun hn => h'.numbered (h.numbered hn), h.grows.trans h'.grows⟩⟩
  · intro he' hf'
    obtain ⟨he₁, hf₁⟩ := h'.early he' hf'
    exact h.early he₁ hf₁
  · have hkept := h.retransmission
    simp only [false_and, or_false] at hkept
    rw [← hkept.1, ← hkept.2.1, ← hkept.2.2]
    exact h'.retransmission

lemma shared_not_early {state : SessionState} (h : state.shared) : state.early = false := by
  cases state <;> simp_all +decide

lemma shared_callee {state : SessionState} (h : state.shared) : state.callee := by
  cases state <;> simp_all +decide

/-- The base class is passed through. -/
lemma Turns.of_base {b : InviteSession γ} {suspends : Prop}
    (h : s.toInviteSession.Turns stops starts suspends b) (hidle : suspends → idle) :
    s.Turns stops starts idle { s with toInviteSession := b } := by
  refine ⟨⟨fun hw _ => h.waits hw, ?_, h.retransmission, ?_, ?_⟩, .inl ⟨h.reliable, rfl, rfl, h.plain⟩⟩
  · intro he hf
    rcases h.shared with hs | hs
    · have he' : s.mState.early := by rw [← hs]; exact he
      exact ⟨he', (h.parked (.inl he')).2 hf⟩
    · simp [shared_not_early hs] at he
  · intro hc
    rcases h.shared with hs | hs
    · show b.mState.callee
      rw [hs]
      exact hc
    · exact shared_callee hs
  · rcases h.frames with hf | ⟨hsuspends, f, hf, hr, ha, hg⟩
    · exact .inl hf
    · exact .inr ⟨f, hf, ha, fun h => Bool.noConfusion (hr.symm.trans h), fun h => ⟨hidle hsuspends, hg h⟩⟩

lemma inherited_turns {r : Outcome (InviteSession γ)} {suspends : Prop}
    (h : Yields r (s.toInviteSession.Turns stops starts suspends)) (hidle : suspends → idle) :
    Yields (s.inherited r) (s.Turns stops starts idle) :=
  Yields.map_iff.mpr (h.weaken fun _ hb => .of_base hb hidle)

/-! ### Responses to the first INVITE -/

lemma numbered_sendReliable (h : s.Numbered) (code : ℕ) (body : Option γ) : (s.sendReliable code body).Numbered := by
  have htrace : reliable (s.sendReliable code body).trace =
      ⟨.first, code, body, some (s.mLocalRSeq + 1)⟩ :: reliable s.trace := by
    simp [reliable]
  refine ⟨?_, ?_, ?_, h.plain⟩
  · rw [RSeqOrdered, htrace]
    cases hrel : reliable s.trace with
    | nil => exact .singleton _
    | cons r rest =>
      have hordered := h.ordered
      rw [RSeqOrdered, hrel] at hordered
      refine List.isChain_cons_cons.mpr ⟨.inr ?_, hordered⟩
      have hmem : r ∈ reliable s.trace := by simp [hrel]
      obtain ⟨rSeq, hr⟩ : ∃ rSeq, r.rSeq = some rSeq := Option.isSome_iff_exists.mp (List.mem_filter.mp hmem).2
      have hlast := h.last
      simp only [hrel, List.head?_cons, Option.bind_some, hr, Option.getD_some] at hlast
      simp [hr, hlast]
  · rw [htrace]
    simp
  · rw [htrace]
    simp

lemma numbered_sendUnreliable (h : s.Numbered) (code : ℕ) (body : Option γ) :
    (s.sendUnreliable code body).Numbered := by
  have htrace : reliable (s.sendUnreliable code body).trace = reliable s.trace := by simp
  refine ⟨?_, ?_, by simp, h.plain⟩
  · rw [RSeqOrdered, htrace]
    exact h.ordered
  · rw [htrace]
    simpa using h.last

/-- The last provisional is sent again. -/
lemma numbered_send1xx (h : s.Numbered) : s.send1xx.Numbered := by
  cases hm : s.m1xx.rSeq with
  | none =>
    refine h.of_eq ?_ rfl rfl id
    simp [hm]
  | some rSeq =>
    have hcurrent := h.current rSeq hm
    obtain ⟨rest, hrel⟩ : ∃ rest, reliable s.trace = ⟨.first, s.m1xx.statusCode, s.m1xx.body, some rSeq⟩ :: rest :=
      List.head?_eq_some_iff.mp hcurrent
    have htrace : reliable s.send1xx.trace = ⟨.first, s.m1xx.statusCode, s.m1xx.body, some rSeq⟩ :: reliable s.trace := by
      simp [reliable, hm]
    have hordered := h.ordered
    refine ⟨?_, ?_, ?_, h.plain⟩
    · rw [RSeqOrdered, htrace, hrel]
      rw [RSeqOrdered, hrel] at hordered
      exact List.isChain_cons_cons.mpr ⟨.inl rfl, hordered⟩
    · have hlast := h.last
      rw [hrel] at hlast
      rw [htrace]
      exact hlast
    · intro rSeq' hm'
      obtain rfl : rSeq = rSeq' := Option.some.inj (hm.symm.trans hm')
      rw [htrace]
      rfl

/-- A timer of another kind is started. -/
lemma mem_started {p : Prop} [Decidable p] {timer t : SessionTimer} {l : List SessionTimer} (h : timer ≠ t) :
    timer ∈ (if p then t :: l else l) ↔ timer ∈ l := by
  split_ifs <;> simp [h]

lemma filter_started {p : Prop} [Decidable p] {test : SessionTimer → Bool} {t : SessionTimer}
    {l : List SessionTimer} (h : test t = false) : (if p then t :: l else l).filter test = l.filter test := by
  split_ifs <;> simp [h]

lemma send1xx_grows : reliable s.trace <:+ reliable s.send1xx.trace := by
  cases hm : s.m1xx.rSeq <;> simp [reliable, hm]

lemma sendProvisional_turns (code : ℕ) (earlyFlag : Bool) :
    Yields (s.sendProvisional code earlyFlag) fun s' =>
      s.Turns False False False s' ∧ s'.frames = s.frames ∧ s'.mState = s.mState := by
  refine (sendProvisional_spec s code earlyFlag).weaken ?_
  rintro s' (⟨body, -, -, -, rfl⟩ | ⟨body, -, rfl⟩)
  · refine ⟨⟨⟨fun h _ => ?_, fun he hf => ⟨he, hf⟩, .inl ⟨rfl, rfl, ?_⟩, id, .inl rfl⟩,
      .inr ⟨fun h => numbered_sendReliable h code body, ?_⟩⟩, rfl, rfl⟩
    · simpa +decide [waits_iff, mem_started] using h
    · simp [retransmissions, filter_started]
    · simp [reliable]
  · refine ⟨⟨⟨fun h _ => ?_, fun he hf => ⟨he, hf⟩, .inl ⟨rfl, rfl, ?_⟩, id, .inl rfl⟩,
      .inr ⟨fun h => numbered_sendUnreliable h code body, ?_⟩⟩, rfl, rfl⟩
    · simpa +decide [waits_iff, mem_started] using h
    · simp [retransmissions, filter_started]
    · simp

/-- A 2xx is next in the queue. -/
def acceptQueued (s : ServerInviteSession γ) : Bool :=
  match s.mQueuedResponses with
  | (code, _) :: _ => 200 ≤ code && code < 300
  | [] => false

lemma connect_turns (code : ℕ) (offerAnswer : Option γ) :
    s.Turns False True idle (s.connect code offerAnswer) := by
  simp_all +decide [turns_iff, moves_iff, waits_iff, Plain, retransmissions]

lemma refuse_turns (code : ℕ) : s.Turns False False idle (s.refuse code) := by
  simp_all +decide [turns_iff, moves_iff, waits_iff, Plain, retransmissions]

lemma suspend_turns (f : Frame γ) (ha : f.isAck = false) (hr : f.returns = false) (hg : f.isGlare = false) :
    s.Turns False False idle (s.suspend f) := by
  simp_all [turns_iff, moves_iff, waits_iff, Plain, retransmissions]

lemma setQueue_turns (queue : List (ℕ × Bool)) :
    s.Turns False False idle { s with mQueuedResponses := queue } := by
  simp_all [turns_iff, moves_iff, waits_iff, Plain, retransmissions]

lemma prackCheckQueue_turns : Yields s.prackCheckQueue (s.Turns False s.acceptQueued idle) := by
  simp only [prackCheckQueue]
  split
  case h_1 code earlyFlag rest hq =>
    split
    · refine Yields.bind_iff.mpr ((sendProvisional_turns code earlyFlag).weaken ?_)
      rintro s' ⟨hs, hframes, -⟩
      exact Yields.pure_iff.mpr ((hs.mono id False.elim False.elim).trans hframes (setQueue_turns rest))
    split
    · have haccept : s.acceptQueued := by simp [acceptQueued, hq]; omega
      refine Yields.ok_iff.mpr (((connect_turns code _).trans rfl (suspend_turns .clearQueue rfl rfl rfl)).mono id ?_ id)
      exact fun _ => haccept
    · exact Yields.ok_iff.mpr .refl
  case h_2 => exact Yields.ok_iff.mpr .refl

lemma updateCheckQueue_turns : s.Turns False s.acceptQueued idle s.updateCheckQueue := by
  simp only [updateCheckQueue]
  split
  case h_1 code earlyFlag rest hq =>
    split_ifs with h200
    · have haccept : s.acceptQueued := by simp [acceptQueued, hq]; omega
      refine ((connect_turns code none).trans rfl (suspend_turns .popQueue rfl rfl rfl)).mono id ?_ id
      exact fun _ => haccept
    · exact .refl
  case h_2 => exact .refl

lemma prackCheckQueue_follows {s₁ : ServerInviteSession γ} (h : s.Turns False False False s₁)
    (hf : s₁.frames = s.frames) (hq : s₁.mQueuedResponses = s.mQueuedResponses) :
    Yields s₁.prackCheckQueue (s.Turns False s.acceptQueued idle) := by
  have hqueued : s₁.acceptQueued = s.acceptQueued := by rw [acceptQueued, acceptQueued, hq]
  exact prackCheckQueue_turns.weaken fun s' hs => (hqueued ▸ hs).after h hf

lemma updateCheckQueue_follows {s₁ : ServerInviteSession γ} (h : s.Turns False False False s₁)
    (hf : s₁.frames = s.frames) (hq : s₁.mQueuedResponses = s.mQueuedResponses) :
    s.Turns False s.acceptQueued idle s₁.updateCheckQueue := by
  have hqueued : s₁.acceptQueued = s.acceptQueued := by rw [acceptQueued, acceptQueued, hq]
  exact (hqueued ▸ updateCheckQueue_turns).after h hf

/-! ### Calls of the application -/

lemma redirect_turns (code : ℕ) : Yields (s.redirect code) (s.Turns False False False) := by
  simp only [redirect]
  split
  case h_20 => exact Yields.of_error _
  all_goals exact Yields.ok_iff.mpr (refuse_turns code)

lemma provisionalOrQueue_turns (code : ℕ) (earlyFlag : Bool) :
    Yields (s.provisionalOrQueue code earlyFlag) (s.Turns False False False) := by
  simp only [provisionalOrQueue]
  split
  · exact Yields.ok_iff.mpr (setQueue_turns _)
  · exact (sendProvisional_turns code earlyFlag).weaken fun s' hs => hs.1

/-- Between early states nothing else changes. -/
lemma transition_turns (target : SessionState) (h : s.mState.early) (ht : target.early) :
    s.Turns False False False (s.transition target) := by
  have hc : target.callee := by cases target <;> simp_all +decide
  have hw : target.awaitsAck = false ∧ target.hangsUp = false ∧ target.reinvites = false := by
    cases target <;> simp_all +decide
  simp_all [turns_iff, moves_iff, waits_iff, Plain, retransmissions]

lemma provisionalThen_turns (code : ℕ) (earlyFlag : Bool) (target : SessionState) (h : s.mState.early)
    (ht : target.early) : Yields (s.provisionalThen code earlyFlag target) (s.Turns False False False) := by
  refine Yields.bind_iff.mpr ((sendProvisional_turns code earlyFlag).weaken ?_)
  rintro s' ⟨hs, hframes, hstate⟩
  refine Yields.pure_iff.mpr (hs.trans hframes ?_)
  split
  · exact transition_turns target (hstate ▸ h) ht
  · exact .refl

lemma transition_provisional_turns (code : ℕ) (earlyFlag : Bool) {target : SessionState} (h : s.mState.early)
    (ht : target.early) : Yields ((s.transition target).sendProvisional code earlyFlag) (s.Turns False False False) :=
  (sendProvisional_turns code earlyFlag).weaken fun _ hs =>
    (transition_turns target h ht).trans rfl hs.1

lemma provisional_turns (code : ℕ) (earlyFlag : Bool) :
    Yields (s.provisional code earlyFlag) (s.Turns False False False) := by
  simp only [provisional]
  split
  case h_9 | h_10 | h_11 | h_12 | h_13 => exact provisionalOrQueue_turns code earlyFlag
  case h_14 hst | h_15 hst | h_16 hst => exact provisionalThen_turns code earlyFlag _ (by rw [hst]; rfl) rfl
  case h_17 hst =>
    split
    · exact provisionalOrQueue_turns code earlyFlag
    · exact provisionalThen_turns code earlyFlag _ (by rw [hst]; rfl) rfl
  case h_18 => exact Yields.of_error _
  all_goals
    rename_i hst
    exact transition_provisional_turns code earlyFlag (by rw [hst]; rfl) rfl

lemma provideOffer_turns (offer : γ) (sendOfferAtAccept : Bool) :
    Yields (s.provideOffer offer sendOfferAtAccept) (s.Turns False (s.mState = .ReceivedReinviteNoOffer) False) := by
  unfold provideOffer
  split
  case h_24 => exact inherited_turns (InviteSession.provideOffer_turns offer) False.elim
  case h_4 =>
    simp only [sendUpdate]
    split_ifs <;> simp_all +decide [turns_iff, moves_iff, waits_iff, Plain, retransmissions]
  all_goals simp_all +decide [turns_iff, moves_iff, waits_iff, Plain, retransmissions]

lemma provideProposedOffer_turns :
    Yields s.provideProposedOffer (s.Turns False (s.mState = .ReceivedReinviteNoOffer) False) := by
  simp only [provideProposedOffer, Yields.bind_iff]
  exact fun offer _ => provideOffer_turns offer false

lemma requestOffer_turns : Yields s.requestOffer (s.Turns False False False) := by
  simp only [requestOffer]
  split
  case h_1 => simp_all +decide [turns_iff, moves_iff, waits_iff, Plain, retransmissions]
  case h_2 => exact inherited_turns InviteSession.requestOffer_turns False.elim

/-- The answer goes into the 2xx of a re-INVITE, or lets a queued one go out. -/
lemma provideAnswer_turns (answer : γ) : Yields (s.provideAnswer answer) (s.Turns False
    (s.mState = .ReceivedReinvite ∨ s.mState = .UAS_ReceivedUpdateWaitingAnswer ∧ s.acceptQueued) False) := by
  have hforget : s.Turns False False False { s with mAnswerSentReliably := false } := by
    simp_all [turns_iff, moves_iff, waits_iff, Plain, retransmissions]
  simp only [provideAnswer]
  split
  case h_7 hst =>
    refine Yields.ok_iff.mpr (Turns.mono (updateCheckQueue_follows ?_ rfl rfl) id (fun hq => .inr ⟨hst, hq⟩) id)
    simp_all +decide [turns_iff, moves_iff, waits_iff, Plain, retransmissions]
  case h_8 hst =>
    split
    · simp_all +decide [turns_iff, moves_iff, waits_iff, Plain, retransmissions]
    · exact Yields.of_error _
  case h_27 =>
    refine (inherited_turns (InviteSession.provideAnswer_turns answer) id).weaken fun s' hs => ?_
    exact (hs.after hforget rfl).mono id .inl id
  all_goals simp_all +decide [turns_iff, moves_iff, waits_iff, Plain, retransmissions]

lemma reject_turns (code : ℕ) : Yields (s.reject code) (s.Turns False False False) := by
  simp only [reject]
  split
  case h_29 => exact inherited_turns (InviteSession.reject_turns code) False.elim
  case h_24 | h_25 | h_26 | h_27 | h_28 => exact Yields.of_error _
  all_goals exact Yields.ok_iff.mpr (refuse_turns code)

lemma endSession_turns : Yields s.endSession (s.Turns False False False) := by
  unfold endSession
  split
  case h_23 => exact Yields.of_error _
  case h_24 | h_25 | h_26 | h_27 => simp_all +decide [turns_iff, moves_iff, waits_iff, Plain, retransmissions]
  case h_28 => exact Yields.ok_iff.mpr .refl
  case h_29 => exact inherited_turns InviteSession.endSession_turns False.elim
  all_goals exact reject_turns 480

/-- `accept` sends the 2xx at once. -/
def acceptsNow (s : ServerInviteSession γ) : Bool :=
  match s.mState with
  | .UAS_OfferProvidedAnswer | .UAS_EarlyProvidedAnswer | .UAS_OfferReliableProvidedAnswer | .UAS_ProvidedOffer
  | .UAS_ProvidedOfferReliable | .UAS_EarlyProvidedOffer => true
  | .UAS_NegotiatedReliable => !s.mUnacknowledgedReliableProvisional
  | _ => false

lemma accept_turns (code : ℕ) : Yields (s.accept code) (s.Turns False s.acceptsNow False) := by
  unfold accept
  split
  case h_1 hst | h_2 hst | h_3 hst =>
    exact Yields.ok_iff.mpr ((connect_turns code _).mono id (by simp [acceptsNow, hst]) id)
  case h_9 hst =>
    refine Yields.ok_ite_iff.mpr ⟨fun _ => (setQueue_turns _).mono id False.elim id, fun hprack => ?_⟩
    exact (connect_turns code none).mono id (by simp [acceptsNow, hst, hprack]) id
  case h_12 => exact Yields.of_error _
  all_goals simp_all +decide [turns_iff, moves_iff, waits_iff, Plain, retransmissions, acceptsNow]

lemma targetRefresh_turns : Yields s.targetRefresh (s.Turns False False False) :=
  inherited_turns InviteSession.targetRefresh_turns False.elim

/-! ### Messages -/

lemma dispatchUnknownRequest_turns : s.Turns False False idle (s.dispatchUnknownRequest msg) := by
  simp only [dispatchUnknownRequest, dispatchUnknown]
  split <;> simp_all +decide [turns_iff, moves_iff, waits_iff, Plain, retransmissions]

lemma dispatchCancel_turns : s.Turns False False idle (s.dispatchCancel msg) := by
  simp_all +decide [dispatchCancel, turns_iff, moves_iff, waits_iff, Plain, retransmissions]

lemma dispatchBye_turns : s.Turns False False idle (s.dispatchBye msg) := dispatchCancel_turns

lemma dispatchOfferOrEarly_turns : s.Turns False False idle (s.dispatchOfferOrEarly msg) := by
  simp only [dispatchOfferOrEarly]
  split
  case h_1 => exact dispatchCancel_turns
  case h_2 => exact dispatchBye_turns
  case h_3 => simp_all [turns_iff, moves_iff, waits_iff, Plain, retransmissions]
  case h_4 => exact dispatchUnknownRequest_turns

lemma dispatchByeAccepted_turns : s.Turns False False idle (s.dispatchByeAccepted msg) := by
  simp_all +decide [dispatchByeAccepted, turns_iff, moves_iff, waits_iff, Plain, retransmissions]

lemma dispatchAfter2xx_turns : s.Turns False False idle (s.dispatchAfter2xx msg) := by
  simp only [dispatchAfter2xx]
  split
  case h_8 => exact dispatchUnknownRequest_turns
  all_goals simp_all [turns_iff, moves_iff, waits_iff, Plain, retransmissions]

lemma respond_turns (request : RequestRef) (code : ℕ) (body : Option γ) :
    s.Turns False False idle (s.respond request code body) := by
  simp_all [turns_iff, moves_iff, waits_iff, Plain, retransmissions]

/-- The ACK of the 2xx comes, whichever INVITE it is for. -/
lemma dispatchAccepted_turns (hst : s.mState = .UAS_Accepted) :
    s.Turns (msg.method = .ack) False idle (s.dispatchAccepted msg) := by
  have hack : s.toEvent msg = .OnAck ∨ s.toEvent msg = .OnAckAnswer → msg.method = .ack := method_of_event
  simp only [dispatchAccepted]
  split
  case h_3 => exact dispatchByeAccepted_turns.mono False.elim id id
  case h_4 => exact (respond_turns _ _ _).mono False.elim id id
  case h_5 => exact dispatchAfter2xx_turns.mono False.elim id id
  all_goals simp_all +decide [turns_iff, moves_iff, waits_iff, Plain, retransmissions]

lemma stop200_turns (h : s.mState.early = false) (hh : s.mState.hangsUp = false) :
    s.Turns True False False (s.onBase (·.stop200)) := by
  simp_all [turns_iff, moves_iff, waits_iff, Plain, retransmissions]

lemma dispatchWaitingToOffer_turns (hst : s.mState = .UAS_WaitingToOffer) :
    Yields (s.dispatchWaitingToOffer msg) (s.Turns (msg.method = .ack) False idle) := by
  have hack : s.toEvent msg = .OnAck ∨ s.toEvent msg = .OnAckAnswer → msg.method = .ack := method_of_event
  simp only [dispatchWaitingToOffer]
  split
  case h_1 hev =>
    split
    · refine provideProposedOffer_turns.weaken fun s' hs => ?_
      have hstop : s.Turns True False False (s.onBase (·.stop200)) :=
        stop200_turns (by rw [hst]; rfl) (by rw [hst]; rfl)
      exact (hstop.trans rfl (hs.mono id (by simp [hst]) id)).mono (fun _ => hack (.inl hev)) id False.elim
    · exact Yields.of_error _
  case h_2 => simp_all +decide [turns_iff, moves_iff, waits_iff, Plain, retransmissions]
  case h_3 => exact Yields.ok_iff.mpr (dispatchByeAccepted_turns.mono False.elim id id)
  case h_4 => exact Yields.ok_iff.mpr (dispatchAfter2xx_turns.mono False.elim id id)

lemma dispatchWaitingToRequestOffer_turns (hst : s.mState = .UAS_WaitingToRequestOffer) :
    Yields (s.dispatchWaitingToRequestOffer msg) (s.Turns (msg.method = .ack) False idle) := by
  have hack : s.toEvent msg = .OnAck ∨ s.toEvent msg = .OnAckAnswer → msg.method = .ack := method_of_event
  simp only [dispatchWaitingToRequestOffer]
  split
  case h_1 hev =>
    refine requestOffer_turns.weaken fun s' hs => ?_
    have hstop : s.Turns True False False (s.onBase (·.stop200)) :=
      stop200_turns (by rw [hst]; rfl) (by rw [hst]; rfl)
    exact (hstop.trans rfl hs).mono (fun _ => hack (.inl hev)) id False.elim
  case h_2 => simp_all +decide [turns_iff, moves_iff, waits_iff, Plain, retransmissions]
  case h_3 => exact Yields.ok_iff.mpr (dispatchByeAccepted_turns.mono False.elim id id)
  case h_4 => exact Yields.ok_iff.mpr (dispatchAfter2xx_turns.mono False.elim id id)

lemma receiveAnswer_turns (answer : γ) :
    Yields (s.receiveAnswer answer) fun s' => s.Turns False False False s' ∧ s'.frames = s.frames ∧
      s'.mQueuedResponses = s.mQueuedResponses ∧ s'.mState = s.mState := by
  refine (receiveAnswer_spec s answer).weaken ?_
  rintro _ ⟨offer, -, rfl⟩
  simp_all [turns_iff, moves_iff, waits_iff, Plain, retransmissions]

lemma dispatchAcceptedWaitingAnswer_turns (hst : s.mState = .UAS_AcceptedWaitingAnswer) :
    Yields (s.dispatchAcceptedWaitingAnswer msg) (s.Turns (msg.method = .ack) False idle) := by
  have hack : s.toEvent msg = .OnAck ∨ s.toEvent msg = .OnAckAnswer → msg.method = .ack := method_of_event
  simp only [dispatchAcceptedWaitingAnswer]
  split
  case h_1 =>
    refine Yields.bind_iff.mpr fun answer _ => Yields.bind_iff.mpr ((receiveAnswer_spec _ answer).weaken ?_)
    rintro _ ⟨offer, -, rfl⟩
    simp_all +decide [turns_iff, moves_iff, waits_iff, Plain, retransmissions]
  case h_2 => simp_all +decide [turns_iff, moves_iff, waits_iff, Plain, retransmissions]
  case h_3 => exact Yields.ok_iff.mpr ((respond_turns _ _ _).mono False.elim id id)
  case h_4 => exact Yields.ok_iff.mpr (dispatchAfter2xx_turns.mono False.elim id id)

/-- A PRACK that matches is handled, another one is refused. -/
lemma handlePrack_turns {k : ServerInviteSession γ → Outcome (ServerInviteSession γ)}
    (h : Yields (k { s with mUnacknowledgedReliableProvisional := false }) (s.Turns stops starts idle)) :
    Yields (s.handlePrack msg k) (s.Turns stops starts idle) := by
  simp only [handlePrack]
  split
  · exact h
  · exact Yields.ok_iff.mpr ((respond_turns _ _ _).mono False.elim False.elim id)

lemma dispatchFirstSentOfferReliable_turns (hst : s.mState = .UAS_FirstSentOfferReliable) :
    Yields (s.dispatchFirstSentOfferReliable msg) (s.Turns False False idle) := by
  simp only [dispatchFirstSentOfferReliable]
  split
  case h_1 =>
    refine handlePrack_turns ?_
    split
    case h_1 answer _ =>
      refine Yields.bind_iff.mpr ((receiveAnswer_spec _ answer).weaken ?_)
      rintro _ ⟨offer, -, rfl⟩
      simp_all +decide [turns_iff, moves_iff, waits_iff, Plain, retransmissions]
    case h_2 => simp_all +decide [illegalPrack, turns_iff, moves_iff, waits_iff, Plain, retransmissions]
  case h_2 => exact Yields.ok_iff.mpr dispatchOfferOrEarly_turns

lemma dispatchOfferReliableProvidedAnswer_turns (hst : s.mState = .UAS_OfferReliableProvidedAnswer) :
    Yields (s.dispatchOfferReliableProvidedAnswer msg) (s.Turns False False idle) := by
  simp only [dispatchOfferReliableProvidedAnswer]
  split
  case h_1 =>
    refine handlePrack_turns (Yields.ok_ite_iff.mpr ⟨fun _ => ?_, fun _ => ?_⟩)
    · simp_all +decide [illegalPrack, turns_iff, moves_iff, waits_iff, Plain, retransmissions]
    · split_ifs <;> simp_all +decide [acknowledgePrack, turns_iff, moves_iff, waits_iff, Plain, retransmissions]
  case h_2 => exact Yields.ok_iff.mpr dispatchOfferOrEarly_turns

lemma dispatchNoAnswerReliableWaitingPrack_turns (hst : s.mState = .UAS_NoAnswerReliableWaitingPrack) :
    Yields (s.dispatchNoAnswerReliableWaitingPrack msg) (s.Turns False False idle) := by
  simp only [dispatchNoAnswerReliableWaitingPrack]
  split
  case h_1 =>
    refine handlePrack_turns (Yields.ok_ite_iff.mpr ⟨fun _ => ?_, fun _ => ?_⟩)
    · simp_all +decide [illegalPrack, turns_iff, moves_iff, waits_iff, Plain, retransmissions]
    · simp_all +decide [acknowledgePrack, turns_iff, moves_iff, waits_iff, Plain, retransmissions]
  case h_2 => exact Yields.ok_iff.mpr dispatchOfferOrEarly_turns

/-- The handler of the PRACK goes back to the early dialog after the callback. -/
lemma dispatchFirstSentAnswerReliable_turns (hst : s.mState = .UAS_FirstSentAnswerReliable) :
    Yields (s.dispatchFirstSentAnswerReliable msg) (s.Turns False False True) := by
  simp only [dispatchFirstSentAnswerReliable]
  split
  case h_1 =>
    refine handlePrack_turns (Yields.ok_iff.mpr ?_)
    split <;> simp_all +decide [offerInPrack, acknowledgePrack, turns_iff, moves_iff, waits_iff, Plain, retransmissions]
  case h_2 => exact Yields.ok_iff.mpr dispatchOfferOrEarly_turns

/-- A 200 for our UPDATE without a body lets a queued response go out. -/
lemma dispatchSentUpdate_turns (hst : s.mState = .UAS_SentUpdate) :
    Yields (s.dispatchSentUpdate msg)
      (s.Turns False (s.toEvent msg = .On200Update ∧ msg.body = none ∧ s.acceptQueued) idle) := by
  simp only [dispatchSentUpdate]
  split
  case h_1 => exact Yields.ok_iff.mpr (dispatchCancel_turns.mono id False.elim id)
  case h_2 => exact Yields.ok_iff.mpr (dispatchBye_turns.mono id False.elim id)
  case h_5 hev =>
    have hback : s.Turns False False False (s.transition .UAS_NegotiatedReliable) :=
      transition_turns _ (by rw [hst]; rfl) rfl
    split
    · refine Yields.bind_iff.mpr ((receiveAnswer_turns _).weaken ?_)
      rintro s' ⟨hs, hframes, -, -⟩
      refine Yields.pure_iff.mpr (((hback.trans rfl hs).mono id False.elim False.elim).trans hframes ?_)
      simp_all [turns_iff, moves_iff, waits_iff, Plain, retransmissions]
    case h_2 hbody =>
      exact (prackCheckQueue_follows hback rfl rfl).weaken fun _ hs => hs.mono id (fun hq => ⟨hev, hbody, hq⟩) id
  case h_9 => exact Yields.ok_iff.mpr (dispatchUnknownRequest_turns.mono id False.elim id)
  all_goals simp_all +decide [turns_iff, moves_iff, waits_iff, Plain, retransmissions]

/-- The handler goes back to the early dialog after the callback. -/
lemma dispatchSentUpdateGlare_turns (hst : s.mState = .UAS_SentUpdateGlare) :
    s.Turns False False True (s.dispatchSentUpdateGlare msg) := by
  simp only [dispatchSentUpdateGlare]
  split
  case h_1 => exact dispatchCancel_turns
  case h_2 => exact dispatchBye_turns
  case h_5 => exact dispatchUnknownRequest_turns
  all_goals simp_all +decide [turns_iff, moves_iff, waits_iff, Plain, retransmissions]

lemma dispatchSentUpdateAccepted_turns (hst : s.mState = .UAS_SentUpdateAccepted) :
    Yields (s.dispatchSentUpdateAccepted msg)
      (s.Turns False (s.toEvent msg = .On200Update ∧ msg.body = none ∧ s.acceptQueued) idle) := by
  simp only [dispatchSentUpdateAccepted]
  split
  case h_1 => exact Yields.ok_iff.mpr (dispatchCancel_turns.mono id False.elim id)
  case h_2 => exact Yields.ok_iff.mpr (dispatchBye_turns.mono id False.elim id)
  case h_4 hev =>
    have haccept : s.Turns False False False (s.transition .UAS_Accepted) := by
      simp_all +decide [turns_iff, moves_iff, waits_iff, Plain, retransmissions]
    split
    · refine Yields.bind_iff.mpr ((receiveAnswer_turns _).weaken ?_)
      rintro s' ⟨hs, hframes, -, -⟩
      refine Yields.pure_iff.mpr (((haccept.trans rfl hs).mono id False.elim False.elim).trans hframes ?_)
      simp_all [turns_iff, moves_iff, waits_iff, Plain, retransmissions]
    case h_2 hbody =>
      exact Yields.ok_iff.mpr ((updateCheckQueue_follows haccept rfl rfl).mono id (fun hq => ⟨hev, hbody, hq⟩) id)
  case h_8 => exact Yields.ok_iff.mpr (dispatchUnknownRequest_turns.mono id False.elim id)
  all_goals simp_all +decide [turns_iff, moves_iff, waits_iff, Plain, retransmissions]

lemma dispatchReceivedUpdate_turns : s.Turns False False idle (s.dispatchReceivedUpdate msg) := by
  simp only [dispatchReceivedUpdate]
  split
  case h_1 => exact dispatchCancel_turns
  case h_2 => exact dispatchBye_turns
  case h_3 | h_4 => exact respond_turns _ _ _
  case h_5 => exact dispatchUnknownRequest_turns

/-- Also the rest of a handler, when the session may have ended meanwhile. -/
lemma dispatchNegotiatedReliable_turns (hf : s.mCurrentRetransmit200 = false) :
    Yields (s.dispatchNegotiatedReliable msg) (s.Turns False False idle) := by
  simp only [dispatchNegotiatedReliable]
  split
  case h_1 =>
    refine handlePrack_turns (Yields.ok_iff.mpr ?_)
    split <;> simp_all [offerInPrack, acknowledgePrack, turns_iff, moves_iff, waits_iff, Plain, retransmissions]
  case h_2 =>
    refine Yields.map_iff.mpr (Yields.bind_iff.mpr fun offer _ => Yields.pure_iff.mpr ?_)
    simp_all +decide [turns_iff, moves_iff, waits_iff, Plain, retransmissions]
  case h_3 => exact Yields.ok_iff.mpr dispatchOfferOrEarly_turns

/-- What the base class does in a state that both classes have in common. -/
lemma dispatchWaitingToHangup_turns (hst : s.mState = .UAS_WaitingToHangup) :
    s.Turns (msg.method = .ack) False idle (s.dispatchWaitingToHangup msg) := by
  have hopen : s.toInviteSession.Open := Open.of_eq hst rfl nofun
  have hb : s.toInviteSession.Turns (msg.method = .ack) False False (s.toInviteSession.dispatchWaitingToHangup msg) :=
    InviteSession.dispatchWaitingToHangup_turns hopen
  exact .of_base hb False.elim

/-- A response to our UPDATE lets a 2xx go out that waited for it. -/
def acceptsAfterUpdate (s : ServerInviteSession γ) (msg : SessionMessage γ) : Bool :=
  (s.mState = .UAS_SentUpdate || s.mState = .UAS_SentUpdateAccepted) && s.toEvent msg = .On200Update &&
    msg.body.isNone && s.acceptQueued

theorem dispatch_turns [DecidableEq γ] (hc : s.mState.callee) (he : s.mState.early → s.mCurrentRetransmit200 = false) :
    Yields (s.dispatch msg) (s.Turns (msg.method = .ack) (s.acceptsAfterUpdate msg) True) := by
  have hkeep {s' : ServerInviteSession γ} (hs : s.Turns False False True s') :
      s.Turns (msg.method = .ack) (s.acceptsAfterUpdate msg) True s' := hs.mono False.elim False.elim id
  simp only [dispatch]
  split
  · exact Yields.ok_iff.mpr .refl
  split
  case h_1 hst => simp +decide [hst] at hc
  case h_14 hst => exact (dispatchOfferReliableProvidedAnswer_turns hst).weaken fun _ => hkeep
  case h_15 hst => exact Yields.ok_iff.mpr ((dispatchAccepted_turns hst).mono id False.elim id)
  case h_16 hst => exact (dispatchWaitingToOffer_turns hst).weaken fun _ hs => hs.mono id False.elim id
  case h_17 hst => exact (dispatchWaitingToRequestOffer_turns hst).weaken fun _ hs => hs.mono id False.elim id
  case h_18 hst => exact (dispatchAcceptedWaitingAnswer_turns hst).weaken fun _ hs => hs.mono id False.elim id
  case h_19 hst => exact (dispatchFirstSentAnswerReliable_turns hst).weaken fun _ => hkeep
  case h_20 hst => exact (dispatchNoAnswerReliableWaitingPrack_turns hst).weaken fun _ => hkeep
  case h_21 hst => exact (dispatchFirstSentOfferReliable_turns hst).weaken fun _ => hkeep
  case h_22 => exact Yields.ok_iff.mpr (hkeep dispatchReceivedUpdate_turns)
  case h_23 => exact Yields.ok_iff.mpr (hkeep dispatchReceivedUpdate_turns)
  case h_24 hst => 
    refine (dispatchSentUpdate_turns hst).weaken fun _ hs => hs.mono False.elim ?_ id
    rintro ⟨hev, hbody, hq⟩
    simp [acceptsAfterUpdate, hst, hev, hbody, hq]
  case h_25 hst => exact Yields.ok_iff.mpr (hkeep (dispatchSentUpdateGlare_turns hst))
  case h_26 hst => exact Yields.ok_iff.mpr ((dispatchWaitingToHangup_turns hst).mono id False.elim id)
  case h_27 hst =>
    refine (dispatchSentUpdateAccepted_turns hst).weaken fun _ hs => hs.mono False.elim ?_ id
    rintro ⟨hev, hbody, hq⟩
    simp [acceptsAfterUpdate, hst, hev, hbody, hq]
  case h_28 hst =>
    exact (dispatchNegotiatedReliable_turns (he (by rw [hst]; rfl))).weaken fun _ => hkeep
  case h_29 =>
    exact (inherited_turns InviteSession.dispatch_turns id).weaken fun _ hs => hs.mono id False.elim id
  all_goals exact Yields.ok_iff.mpr (hkeep dispatchOfferOrEarly_turns)

/-! ### Timers -/

/-- A timer of the callee's own is gone. -/
lemma erase_turns (timeout : SessionTimer) (h200 : timeout.type ≠ .Retransmit200) (hack : timeout.type ≠ .WaitForAck)
    (hstale : timeout.type ≠ .StaleReInvite) :
    s.Turns False False False { s with timers := s.timers.erase timeout } :=
  Turns.of_base (InviteSession.erase_turns timeout h200 (fun h => absurd h hack) (fun h => absurd h hstale)) False.elim

lemma send1xx_turns : s.Turns False False False s.send1xx :=
  ⟨⟨fun h _ => ⟨h.ack, h.hangUp, h.reinvite⟩, fun he hf => ⟨he, hf⟩, .inl ⟨rfl, rfl, rfl⟩, id, .inl rfl⟩,
    .inr ⟨numbered_send1xx, send1xx_grows⟩⟩

lemma startRetransmit1xxTimer_turns : s.Turns False False False s.startRetransmit1xxTimer := by
  refine ⟨⟨fun h _ => ?_, fun he hf => ⟨he, hf⟩, .inl ⟨rfl, rfl, ?_⟩, id, .inl rfl⟩, .inl ⟨rfl, rfl, rfl, id⟩⟩
  · simpa +decide [waits_iff, mem_started] using h
  · simp [retransmissions, filter_started]

/-- The timer makes another reliable provisional of the last one. -/
def resubmits (s : ServerInviteSession γ) (timeout : SessionTimer) : Bool :=
  timeout.type = .Resubmit1xxRel && timeout.seq = s.mCurrentRetransmit1xxSeq && s.m1xx.rSeq.isSome

lemma resubmit_moves (rSeq : ℕ) : s.Moves False False False
    { s with
      m1xx := ⟨s.m1xx.statusCode, none, some (rSeq + 1)⟩
      mUnacknowledgedReliableProvisional := true }.send1xx.startResubmit1xxRelTimer := by
  refine ⟨fun h _ => ?_, fun he hf => ⟨he, hf⟩, .inl ⟨rfl, rfl, ?_⟩, id, .inl rfl⟩
  · simpa +decide [waits_iff, mem_started] using h
  · simp [retransmissions, filter_started]

lemma startRetransmit1xxRel_turns (seq secondarySeq : ℕ) :
    s.Turns False False False (s.addTimer .Retransmit1xxRel seq secondarySeq) := by
  simp_all [turns_iff, moves_iff, waits_iff, Plain, retransmissions]

/-- Our UPDATE is sent again. -/
lemma updateAgain_turns (hst : s.mState = .UAS_SentUpdateGlare) : s.Turns False False False
    ((s.transition .UAS_SentUpdate).onBase fun b =>
      b.sendModification .update b.mLastLocalSessionModification.body) := by
  simp_all +decide [turns_iff, moves_iff, waits_iff, Plain, retransmissions]

theorem dispatchTimer_turns (timeout : SessionTimer) (h200 : timeout.type ≠ .Retransmit200) :
    Yields ({ s with timers := s.timers.erase timeout }.dispatchTimer timeout) fun s' =>
      s.Moves (timeout.type = .WaitForAck ∧ timeout.seq = s.mLastRemoteSessionModification.2) False True s' ∧
      (s.resubmits timeout = false → s.Turns (timeout.type = .WaitForAck ∧
        timeout.seq = s.mLastRemoteSessionModification.2) False True s') := by
  have hboth {stops : Prop} {s' : ServerInviteSession γ} (hs : s.Turns False False False s') :
      s.Moves stops False True s' ∧ (s.resubmits timeout = false → s.Turns stops False True s') :=
    ⟨(hs.mono False.elim id False.elim).toMoves, fun _ => hs.mono False.elim id False.elim⟩
  have herase (h₁ : timeout.type ≠ .WaitForAck) (h₂ : timeout.type ≠ .StaleReInvite) :
      s.Turns False False False { s with timers := s.timers.erase timeout } := erase_turns timeout h200 h₁ h₂
  have hbase : Yields ({ s with timers := s.timers.erase timeout }.inherited
      (InviteSession.dispatchTimer { s.toInviteSession with timers := s.timers.erase timeout } timeout)) fun s' =>
      s.Moves (timeout.type = .WaitForAck ∧ timeout.seq = s.mLastRemoteSessionModification.2) False True s' ∧
      (s.resubmits timeout = false → s.Turns (timeout.type = .WaitForAck ∧
        timeout.seq = s.mLastRemoteSessionModification.2) False True s') := by
    refine Yields.map_iff.mpr ((InviteSession.dispatchTimer_turns timeout h200).weaken fun b hb => ?_)
    have hs := Turns.of_base (s := s) hb id
    exact ⟨hs.toMoves, fun _ => hs⟩
  simp only [dispatchTimer]
  split
  case h_1 ht =>
    have hs := herase (by simp [ht]) (by simp [ht])
    refine Yields.ok_ite_iff.mpr ⟨fun _ => hboth ?_, fun _ => hboth hs⟩
    exact (hs.trans rfl send1xx_turns).trans rfl startRetransmit1xxTimer_turns
  case h_2 ht =>
    have hs := herase (by simp [ht]) (by simp [ht])
    split
    case h_1 rSeq hr =>
      refine Yields.ok_ite_iff.mpr ⟨fun hseq => ⟨?_, fun hnot => ?_⟩, fun _ => hboth hs⟩
      · exact (hs.toMoves.trans rfl (resubmit_moves rSeq)).mono False.elim id False.elim
      · have hr' : s.m1xx.rSeq = some rSeq := hr
        simp [resubmits, ht, hseq, hr'] at hnot
    case h_2 => exact Yields.ok_iff.mpr (hboth hs)
  case h_3 ht =>
    have hs := herase (by simp [ht]) (by simp [ht])
    refine Yields.ok_ite_iff.mpr ⟨fun _ => ?_, fun _ => hboth hs⟩
    split
    · exact hboth (hs.trans rfl (refuse_turns 504))
    · exact hboth ((hs.trans rfl send1xx_turns).trans rfl (startRetransmit1xxRel_turns _ _))
  case h_4 ht =>
    split
    case isTrue hst =>
      have hs := herase (by simp [ht]) (by simp [ht])
      exact Yields.ok_iff.mpr (hboth (hs.trans rfl (updateAgain_turns hst)))
    case isFalse => exact hbase
  case h_5 => exact hbase

/-! ### Rests of handlers -/

/-- The rest of a handler sends a 2xx to an INVITE. -/
def acceptsOnReturn (s : ServerInviteSession γ) : Frame γ → Bool
  | .prackCheckQueue | .updateCheckQueue => s.acceptQueued
  | .provideProposedOffer => s.mState = .ReceivedReinviteNoOffer
  | _ => false

lemma sendUpdate_turns (offer : γ) : s.Turns False False False (s.sendUpdate offer) := by
  simp only [sendUpdate]
  split <;> simp_all [turns_iff, moves_iff, waits_iff, Plain, retransmissions]

lemma callback_turns (c : Callback γ) : s.Turns False False False (s.callback c) := by
  simp_all [turns_iff, moves_iff, waits_iff, Plain, retransmissions]

lemma notAcceptable_turns (prack : LaterRequest) :
    s.Turns False False False ((s.respond (.later prack) 406 none).respond .first 406 none).destroy := by
  simp_all [turns_iff, moves_iff, waits_iff, Plain, retransmissions]

lemma returnToOffer_turns (prack : LaterRequest) (offer : γ) (hf : s.mCurrentRetransmit200 = false) :
    s.Turns False False False ((s.transition .UAS_NegotiatedReliable).offerInPrack prack offer) := by
  simp_all +decide [offerInPrack, turns_iff, moves_iff, waits_iff, Plain, retransmissions]

theorem resumeFrame_turns (f : Frame γ) (hf : f.returns → s.mCurrentRetransmit200 = false)
    (hg : f.isGlare → s.mState.shared) :
    Yields (s.resumeFrame f) (s.Turns f.isAck (s.acceptsOnReturn f) False) := by
  have hkeep {s' : ServerInviteSession γ} (hs : s.Turns False False False s') :
      s.Turns f.isAck (s.acceptsOnReturn f) False s' := hs.mono False.elim False.elim id
  simp only [resumeFrame]
  split
  case h_7 =>
    refine Yields.bind_iff.mpr fun offer _ => Yields.pure_iff.mpr ?_
    exact hkeep (sendUpdate_turns offer)
  case h_8 => exact prackCheckQueue_turns.weaken fun _ hs => hs.mono False.elim id id
  case h_9 | h_11 => exact Yields.ok_iff.mpr (hkeep (setQueue_turns _))
  case h_10 => exact Yields.ok_iff.mpr (updateCheckQueue_turns.mono False.elim id id)
  case h_12 => exact (dispatchNegotiatedReliable_turns (hf rfl)).weaken fun _ => hkeep
  case h_13 =>
    split
    · exact Yields.ok_iff.mpr .refl
    · exact provideProposedOffer_turns.weaken fun _ hs => hs.mono False.elim (by simp [acceptsOnReturn]) id
  case h_14 =>
    split
    · exact Yields.ok_iff.mpr .refl
    · exact requestOffer_turns.weaken fun _ => hkeep
  case h_15 hprovide _ =>
    refine (inherited_turns (InviteSession.resume_turns f hg) False.elim).weaken fun _ hs => hs.mono id ?_ id
    exact fun h => absurd h.1 hprovide
  case h_3 => exact Yields.ok_iff.mpr (hkeep (callback_turns _))
  case h_2 | h_4 =>
    refine Yields.ok_ite_iff.mpr ⟨fun _ => .refl, fun _ => hkeep (callback_turns _)⟩
  case h_1 =>
    refine Yields.ok_ite_iff.mpr ⟨fun _ => .refl, fun _ => hkeep ?_⟩
    split <;> exact callback_turns _
  case h_5 => exact Yields.ok_iff.mpr (hkeep (notAcceptable_turns _))
  case h_6 prack offer => exact Yields.ok_iff.mpr (hkeep (returnToOffer_turns prack offer (hf rfl)))

end ServerInviteSession

end Resiprocate.Dum
