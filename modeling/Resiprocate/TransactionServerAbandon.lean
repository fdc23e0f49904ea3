import Resiprocate.TransactionServerResponses

/-! Server transactions that the TU has abandoned: which timer is pending that ends them. -/
namespace Resiprocate.Transaction
open ServerView TransitionSystem

/-- The TU abandons the transaction, and it takes notice. -/
def acceptsAbandon (s : Session) (e : Env × SessionEvent) : Bool :=
  match s.tx, e.2 with
  | some st, .message (.abandonServerTransaction _) =>
    decide (st.mState = .trying ∨ st.mState = .proceeding) &&
      decide (st.mMachine = .serverNonInvite ∨ st.mMachine = .serverInvite ∧ !st.mIsAbandoned)
  | _, _ => false

/-- A pending timer ends the transaction. -/
def TransactionState.EndsBy (cfg : Config) (st : TransactionState)
    (timers : List TransactionTimer) : Prop :=
  ∃ t ∈ timers, (t.type = .timerH ∨ t.type = .timerI ∨ t.type = .timerJ) ∧
    ∀ env, (st.receive cfg env (.timer t)).deleted = true

/-- Once an abandonment was accepted, a live INVITE or non-INVITE transaction has a timer pending
that ends it. -/
def TornDown (cfg : Config) (p : Session × Bool) : Prop :=
  p.2 = true → ∀ st ∈ p.1.tx, st.mMachine = .serverInvite ∨ st.mMachine = .serverNonInvite →
    st.EndsBy cfg p.1.timers

/-- The TU abandons an INVITE over an unreliable transport after the last provisional was sent,
so that none is left to turn into a 500. -/
def abandonsUnstored (s : Session) (e : Env × SessionEvent) : Prop :=
  ∃ st, s.tx = some st ∧ acceptsAbandon s e ∧ st.mMachine = .serverInvite ∧
    st.mIsReliable = false ∧ st.mNextTransmission = none

instance (s : Session) (e : Env × SessionEvent) : Decidable (abandonsUnstored s e) :=
  inferInstanceAs (Decidable (∃ st, s.tx = some st ∧ _))

/-- The timer that ends an abandoned transaction is among the pending ones. -/
def ServerView.Timed (v : ServerView) (count : TimerType → ℕ) : Prop :=
  v.machine = .serverInvite ∧ (v.state = .completed ∨ v.state = .confirmed) ∧ 0 < count .timerH ∨
  v.machine = .serverNonInvite ∧ v.state = .completed ∧ 0 < count .timerJ

theorem ServerView.Timed.not_unanswered {v : ServerView} {count : TimerType → ℕ}
    (h : v.Timed count) : ¬ v.unanswered := by
  rintro ⟨-, hs | hs⟩ <;> simp [Timed, hs] at h

/-- More timers do no harm, and neither does sending. -/
theorem ServerView.Timed.mono {v v' : ServerView} {count count' : TimerType → ℕ}
    (h : v.Timed count) (hm : v'.machine = v.machine) (hs : v'.state = v.state)
    (hH : v.machine = .serverInvite → count .timerH ≤ count' .timerH)
    (hJ : v.machine = .serverNonInvite → count .timerJ ≤ count' .timerJ) : v'.Timed count' := by
  rw [Timed, hm, hs]
  rcases h with ⟨h₁, h₂, h₃⟩ | ⟨h₁, h₂, h₃⟩
  · exact .inl ⟨h₁, h₂, h₃.trans_le (hH h₁)⟩
  · exact .inr ⟨h₁, h₂, h₃.trans_le (hJ h₁)⟩

/-- An abandoned transaction keeps its timer until that timer ends it. -/
theorem ServerStep.timed {v v' : ServerView} {e : ServerCause} {x : ServerEffect}
    {count rest : TimerType → ℕ} (h : ServerStep v e x v') (hx : x.gone = false)
    (ht : v.Timed count) (hc : ∀ type, e ≠ .timer type → rest type = count type) :
    v'.Timed fun type => rest type + x.armed.count type := by
  have hu := ht.not_unanswered
  have hsame : ∀ type, e ≠ .timer type → count type ≤ rest type + x.armed.count type :=
    fun type he => (hc type he).ge.trans (Nat.le_add_right _ _)
  cases h with
  | ignored hi =>
    refine ht.mono rfl rfl (fun hm => hsame _ ?_) (fun hm => hsame _ ?_)
    · rintro rfl
      exact hi hm
    · rintro rfl
      have hs : v.state = .completed := by
        rcases ht with ⟨hm', -⟩ | ⟨-, hs, -⟩
        · cases hm.symm.trans hm'
        · exact hs
      exact hi ⟨hm, hs⟩
  | answeredAgain _ _ _ _ hsent =>
    exact ht.mono hsent.frame.1 hsent.frame.2.1 (fun _ => hsame _ (by simp)) (fun _ => hsame _ (by simp))
  | inviteForged hm _ _ _ _ hsent =>
    refine .inl ⟨hsent.frame.1.trans hm, .inl hsent.frame.2.1, ?_⟩
    simp [responseTimers]
  | nonInviteForged _ _ _ _ _ hsent =>
    exact ht.mono hsent.frame.1 hsent.frame.2.1 (fun _ => hsame _ (by simp)) (fun _ => hsame _ (by simp))
  | acked hm =>
    rcases ht with ⟨-, -, hH⟩ | ⟨hm', -⟩
    · exact .inl ⟨hm, .inr rfl, hH.trans_le (hsame _ (by simp))⟩
    · cases hm.symm.trans hm'
  | repeated _ _ _ hsent =>
    exact ht.mono hsent.frame.1 hsent.frame.2.1 (fun _ => hsame _ (by simp)) (fun _ => hsame _ (by simp))
  | staleResponse hm => simp [Timed, hm] at ht
  | tried hm hs => exact absurd ⟨hm, .inl hs⟩ hu
  | provisional hun => exact absurd hun hu
  | success hun => exact absurd hun hu
  | failure hun => exact absurd hun hu
  | final hun => exact absurd hun hu
  | abandonedAnswered hun => exact absurd hun hu
  | abandonedWaiting hun => exact absurd hun hu
  | abandonedTimed hun => exact absurd hun hu
  | _ => simp at hx

/-- An accepted abandonment starts the timer, unless there was nothing to turn into a 500. -/
theorem ServerStep.timed_of_abandon {v v' : ServerView} {x : ServerEffect}
    (h : ServerStep v .abandon x v') (hx : x.gone = false) (ha : v.accepts)
    (hstored : ¬ (v.machine = .serverInvite ∧ v.reliable = false ∧ v.next = none))
    (rest : TimerType → ℕ) : v'.Timed fun type => rest type + x.armed.count type := by
  cases h with
  | ignored hi => exact absurd ha hi
  | abandonedAnswered _ hm _ _ _ _ hsent =>
    refine .inl ⟨hsent.frame.1.trans hm, .inl hsent.frame.2.1, ?_⟩
    simp [responseTimers]
  | abandonedReliable => simp at hx
  | abandonedWaiting _ hm _ hn hr => exact absurd ⟨hm, hr, hn⟩ hstored
  | abandonedTimed _ hm => exact .inr ⟨hm, rfl, by simp⟩

/-- Timer H ends every INVITE transaction, Timer J every Completed non-INVITE one. -/
theorem TransactionState.endsBy_of_timed (cfg : Config) {s : Session} {st : TransactionState}
    (ht : st.serverView.Timed s.pending) : st.EndsBy cfg s.timers := by
  have hmem : ∀ type, 0 < s.pending type → ∃ t ∈ s.timers, t.type = type := by
    intro type h
    simpa [Session.pending, List.count_pos_iff] using h
  rcases ht with ⟨hm, -, hc⟩ | ⟨hm, hs, hc⟩
  · obtain ⟨t, hmem, htype⟩ := hmem _ hc
    have hm : st.mMachine = .serverInvite := hm
    refine ⟨t, hmem, .inl htype, fun env => ?_⟩
    simp [receive, Frame.dispatch, Frame.start, hm, Frame.processServerInvite,
      Frame.serverInviteTimer, htype]
  · obtain ⟨t, hmem, htype⟩ := hmem _ hc
    have hm : st.mMachine = .serverNonInvite := hm
    have hs : st.mState = .completed := hs
    refine ⟨t, hmem, .inr (.inr htype), fun env => ?_⟩
    simp [receive, Frame.dispatch, Frame.start, hm, Frame.processServerNonInvite,
      Frame.serverNonInviteTimer, htype, hs]

/-! ### Runs -/

theorem accepts_of_event {s : Session} {st : TransactionState} {env : Env} {ev : SessionEvent}
    (hs : s.tx = some st) (h : acceptsAbandon s (env, ev) = true) :
    serverCause st ev = .abandon ∧ st.serverView.accepts := by
  cases ev with
  | message msg =>
    cases msg with
    | abandonServerTransaction tid =>
      simp only [acceptsAbandon, hs, Bool.and_eq_true, decide_eq_true_eq] at h
      obtain ⟨hstate, hm⟩ := h
      refine ⟨rfl, ⟨hm.symm.imp_left And.left, hstate⟩, fun hi => ?_⟩
      have hi : st.mMachine = .serverInvite := hi
      simpa [hi] using hm
    | _ => simp [acceptsAbandon, hs] at h
  | _ => simp [acceptsAbandon, hs] at h

/-- Every transaction whose abandonment was accepted has its timer. -/
def AbandonKept (p : Session × Bool) : Prop :=
  p.2 = true → ∀ st, p.1.tx = some st → st.serverView.Timed p.1.pending

theorem AbandonKept.step {cfg : Config} {b : Birth} {p : Session × Bool} {e : Env × SessionEvent}
    (hp : AbandonKept p) (hk : ServerKept p.1) (he : p.1.enabled e)
    (hok : ¬ abandonsUnstored p.1 e) :
    AbandonKept (((sessions cfg b).watch acceptsAbandon).next p e) := by
  obtain ⟨s, accepted⟩ := p
  obtain ⟨env, ev⟩ := e
  intro hflag st' hst'
  change (s.apply cfg (env, ev)).tx = some st' at hst'
  change st'.serverView.Timed (s.apply cfg (env, ev)).pending
  change (accepted || acceptsAbandon s (env, ev)) = true at hflag
  cases hs : s.tx with
  | none => cases (Session.apply_gone cfg env ev hs).1.symm.trans hst'
  | some st =>
    rcases Session.apply_server cfg hk hs he with ⟨t, t', rfl, ht, heq⟩ | ⟨f, x, v, hx, hf, heq⟩
    · have hold : accepted = true := by
        simpa [acceptsAbandon, hs] using hflag
      rw [heq] at hst' ⊢
      rw [funext (Session.pending_postponed he ht)]
      exact hp hold st' hst'
    · rw [heq] at hst' ⊢
      obtain ⟨hgone, rfl⟩ := Session.absorb_server hf hst'
      rw [funext (Session.pending_server hf)]
      by_cases hold : accepted = true
      · exact hx.timed hgone (hp hold st hs) fun type hne => Session.pending_pop_server st he hne
      · have hnew : acceptsAbandon s (env, ev) = true := by simpa [hold] using hflag
        obtain ⟨hcause, haccepts⟩ := accepts_of_event hs hnew
        rw [hcause] at hx
        exact hx.timed_of_abandon hgone haccepts
          (fun ⟨hm, hr, hn⟩ => hok ⟨st, hs, hnew, hm, hr, hn⟩) _

/-- In every run of a server transaction in which no INVITE over an unreliable transport is
abandoned without a provisional to turn into a 500, a transaction whose abandonment was accepted
has a timer pending that ends it. -/
theorem server_tornDown (cfg : Config) (b : Birth) (hb : b.valid) (hserver : b.isServer)
    {p : Session × Bool} (hr : Reach ((sessions cfg b).watch acceptsAbandon)
      (fun p e => ¬ abandonsUnstored p.1 e) p) : TornDown cfg p := by
  have hkept : AbandonKept p := by
    refine Reach.invariant ?_ ?_ hr
    · rintro p ⟨-, hp⟩ hflag
      simp [hp] at hflag
    · intro p e hreach hp he hok
      exact hp.step (server_kept hb hserver (Reach.unwatch hreach)) he hok
  intro hflag st hst _
  exact st.endsBy_of_timed cfg (hkept hflag st hst)

/-- An INVITE that the TU abandons while its 100 is still to be sent. -/
theorem server_tornDown_trying :
    ∃ p : Session × Bool, p.2 = true ∧ p.1.tx.map (·.mState) = some .completed ∧
      TornDown {} p := by
  have hr : Reach ((sessions {} (sampleServerInvite .udp)).watch acceptsAbandon)
      (fun p e => ¬ abandonsUnstored p.1 e) _ :=
    .run (.watch_init rfl)
      [(sampleEnv, .message (.abandonServerTransaction sampleBranch))] (by decide)
  exact ⟨_, by decide, by decide, server_tornDown _ _ (by decide) (by decide) hr⟩

/-- An INVITE over UDP that is abandoned after its 180 was sent has no timer left. -/
theorem serverInvite_abandoned_untimed :
    ¬ ∀ p, Reach ((sessions {} (sampleServerInvite .udp)).watch acceptsAbandon) anyStep p →
      TornDown {} p := by
  intro h
  have h := h _ (.run (.watch_init rfl)
    [(sampleEnv, .message (.sip (sampleAnswer .invite 180))),
      (sampleEnv, .message (.abandonServerTransaction sampleBranch))] (by decide))
    (by decide) _ rfl (by decide)
  obtain ⟨t, ht, htype, -⟩ := h
  revert t
  decide

end Resiprocate.Transaction
