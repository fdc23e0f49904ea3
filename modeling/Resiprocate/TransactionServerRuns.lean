import Resiprocate.TransactionServerRefinement

/-! Runs of a server transaction: how it starts, what each event does to the session, and what
every run keeps. -/
namespace Resiprocate.Transaction
open ServerView TransitionSystem

/-! ### Creation -/

/-- Created for a request from the wire. -/
def Birth.isServer : Birth → Bool
  | .serverInvite _ _ _ _ | .serverCancel _ _ _ _ | .serverNonInvite _ _ _ _ => true
  | _ => false

/-- A server transaction whose request is about to be handed to the TU. -/
structure ServerBirth (b : Birth) (x : ServerEffect) (v : ServerView) : Prop where
  wellFormed : v.WellFormed
  unanswered : v.unanswered
  abandoned : v.abandoned = false
  machine : v.machine = .serverInvite ↔ b.request.method = .invite
  armed : x.armed = [] ∨ x.armed = [.timerTrying]
  wire : ∀ m ∈ x.wire, m.statusCode = 100
  stored : ∀ m, v.next = some m ∨ v.retransmit = some m → m.statusCode = 100
  gone : x.gone = false

/-- The view of a new transaction that holds the 100 it may have to send. -/
def newView (machine : Machine) (reliable : Bool) (m : SipMessage) : ServerView :=
  ⟨machine, .trying, false, reliable, false, some m, none, false, .none⟩

theorem newView_wellFormed {machine : Machine} (reliable : Bool) {m : SipMessage}
    (hm : machine = .serverInvite ∨ machine = .serverNonInvite) (hq : m.isRequest = false) :
    (newView machine reliable m).WellFormed ∧ (newView machine reliable m).unanswered := by
  have hu : (newView machine reliable m).unanswered := ⟨hm, .inl rfl⟩
  refine ⟨⟨.inl hu, ?_, by simp [newView], by simp [newView], by simp [newView],
    by simp [newView], rfl, rfl⟩, hu⟩
  rintro m' ⟨⟩
  exact hq

namespace Frame
variable (cfg : Config) (env : Env) {f : Frame} {x : ServerEffect} {v : ServerView}

/-- The TU is handed the request, or a 503 answers it at once. -/
theorem sendRequestToTU_does (sip : SipMessage) (h : f.ServerShows x v) (hx : x.gone = false)
    (hv : v.WellFormed) (hu : v.unanswered)
    (hm : f.self.mMethod = .invite ↔ v.machine = .serverInvite) :
    (f.sendRequestToTU cfg env sip).ServerShows x v ∨
      ∃ m, (f.sendRequestToTU cfg env sip).ServerDoes x v (.response m) := by
  unfold sendRequestToTU
  split
  · exact .inl (h.postToTU sip)
  · right
    have h₁ := h.assertThat sip.isExternal .sendToTuExternal (by simp)
    dsimp only
    simp only [assertThat_frame]
    split
    · rename_i hi
      exact ⟨_, processServerInvite_sip_does cfg env h₁ hx hv (hm.1 hi) _ fun hq => by cases hq⟩
    · rename_i hi
      exact ⟨_, processServerNonInvite_sip_does cfg env h₁ hx hv
        (hu.1.resolve_left (mt hm.2 hi)) _ (fun hq => by cases hq) fun hq => by cases hq⟩

end Frame

theorem ServerBirth.trying {b : Birth} {machine : Machine} (reliable : Bool) {m : SipMessage}
    (hm : machine = .serverInvite ∨ machine = .serverNonInvite) (hq : m.isRequest = false)
    (hc : m.statusCode = 100) (hb : machine = .serverInvite ↔ b.request.method = .invite) :
    ServerBirth b ⟨[.timerTrying], [], false⟩ (newView machine reliable m) where
  wellFormed := (newView_wellFormed reliable hm hq).1
  unanswered := (newView_wellFormed reliable hm hq).2
  abandoned := rfl
  machine := hb
  armed := .inr rfl
  wire := by simp
  stored := by
    rintro m' (h | h)
    · cases h
      exact hc
    · cases h
  gone := rfl

/-- The 100 is sent at once. -/
theorem ServerBirth.tried {b : Birth} {reliable : Bool} {m : SipMessage} {wire : List SipMessage}
    {v : ServerView} (hq : m.isRequest = false) (hc : m.statusCode = 100)
    (hb : b.request.method = .invite)
    (hsent : (newView .serverInvite reliable m).Sent wire v) :
    ServerBirth b ⟨[], wire, false⟩ { v with state := .proceeding } where
  wellFormed := (ServerStep.tried (.inl rfl) rfl (hsent.setState .proceeding)).wellFormed rfl
    (newView_wellFormed reliable (.inl rfl) hq).1
  unanswered := ⟨.inl hsent.frame.1, .inr rfl⟩
  abandoned := hsent.frame.2.2.1
  machine := by simp [hsent.frame, newView, hb]
  armed := .inl rfl
  wire := by
    cases hsent with
    | resent h => cases h
    | sent _ hn =>
      cases hn
      simpa using hc
    | unsent => simp
  stored := by
    cases hsent with
    | resent h => cases h
    | sent _ hn =>
      cases hn
      rintro m' (h | h)
      · cases h
      · simp only [Option.ite_none_left_eq_some, Option.some.injEq] at h
        exact h.2 ▸ hc
    | unsent _ hn =>
      cases hn
      rintro m' (h | h)
      · cases h
        exact hc
      · cases h
  gone := rfl

/-- A new transaction for a request other than INVITE starts the timer for its 100. -/
theorem Frame.newNonInvite_does (cfg : Config) (env : Env) (sip : SipMessage) {f : Frame}
    {b : Birth} (h : f.ServerShows ⟨[], [], false⟩ ⟨.serverNonInvite, .trying, false,
      f.self.mIsReliable, false, none, none, false, .none⟩)
    (hm : f.self.mMethod ≠ .invite) (hb : b.request.method ≠ .invite) :
    ∃ x v, ServerBirth b x v ∧
      (((f.startServerNonInviteTimerTrying cfg env sip).sendRequestToTU cfg env sip).ServerShows x v ∨
        ∃ m, ((f.startServerNonInviteTimerTrying cfg env sip).sendRequestToTU cfg env sip).ServerDoes
          x v (.response m)) := by
  have h₁ := (h.resetNextTransmission (some (make100 env sip))).addTimer .timerTrying
    (tryingDuration cfg)
  have hbirth : ServerBirth b _ _ := .trying (m := make100 env sip) f.self.mIsReliable (.inr rfl) rfl
    rfl (by simpa using hb)
  refine ⟨_, _, hbirth, sendRequestToTU_does cfg env sip h₁ rfl hbirth.wellFormed
    hbirth.unanswered ?_⟩
  simpa [newView, startServerNonInviteTimerTrying] using hm

theorem Birth.server_birth (cfg : Config) {b : Birth} (hb : b.valid) (hs : b.isServer) :
    ∃ x v, ServerBirth b x v ∧ ((b.frame cfg).ServerShows x v ∨
      ∃ m, (b.frame cfg).ServerDoes x v (.response m)) := by
  cases b with
  | serverInvite env sip tid tu =>
    have hmethod : (Birth.serverInvite env sip tid tu).request.method = .invite := hb.2.2
    have h := (Frame.fresh_start { TransactionState.create .serverInvite .trying tid .invite [] tu with
      mNextTransmission := some (make100 env sip)
      mResponseTarget := responseTarget sip
      mIsReliable := isReliable (responseTarget sip).mTransportType }).serverShows
    simp only [frame, newServerInvite]
    by_cases ht : cfg.timers.T100 = 0
    · rw [if_pos ht]
      obtain ⟨wire, v, hsent, hshows⟩ := h.sent cfg env rfl rfl (.inl nofun) (by rintro m ⟨⟩; rfl)
      have hbirth := ServerBirth.tried (m := make100 env sip) rfl rfl hmethod hsent
      refine ⟨_, _, hbirth, Frame.sendRequestToTU_does cfg env sip (hshows.setState .proceeding) rfl
        hbirth.wellFormed hbirth.unanswered ?_⟩
      simp [hsent.frame, Frame.start, TransactionState.create]
    · rw [if_neg ht]
      have hbirth := ServerBirth.trying (m := make100 env sip)
        (isReliable (responseTarget sip).mTransportType) (.inl rfl) rfl rfl (by simpa using hmethod)
      exact ⟨_, _, hbirth, Frame.sendRequestToTU_does cfg env sip
        (h.addTimer .timerTrying cfg.timers.T100) rfl hbirth.wellFormed hbirth.unanswered (by
          simp [newView, Frame.start, TransactionState.create])⟩
  | serverCancel env sip tid matchingInvite =>
    refine Frame.newNonInvite_does cfg env sip ⟨fun _ => ?_, ?_, ?_, ?_, ?_⟩ ?_ ?_
    · simp [makeCancelTransaction, Frame.start, TransactionState.create,
        TransactionState.serverView]
    · simp [makeCancelTransaction, Frame.processReliability_timers, Frame.start,
        TransactionState.create, startedBy, Outputs.empty]
    · simp [makeCancelTransaction, Frame.start, Outputs.empty]
    · simp [makeCancelTransaction, Frame.start]
    · simp [makeCancelTransaction, Frame.sound, Frame.start, Outputs.empty]
    · simp [makeCancelTransaction, Frame.start, TransactionState.create]
    · have : sip.method = .cancel := hb.2.2
      simp [request, this]
  | serverNonInvite env sip tid tu =>
    refine Frame.newNonInvite_does cfg env sip (Frame.fresh_start
      { TransactionState.create .serverNonInvite .trying tid sip.method sip.methodStr tu with
        mResponseTarget := responseTarget sip
        mIsReliable := isReliable (responseTarget sip).mTransportType }).serverShows ?_ ?_
    · exact hb.2.2.1
    · exact hb.2.2.1
  | _ => simp [isServer] at hs

/-! ### One event -/

/-- The transaction is well formed, and Timer G is only pending over an unreliable transport. -/
def ServerKept (s : Session) : Prop :=
  ∀ st, s.tx = some st → st.serverView.WellFormed ∧
    (s.pending .timerG ≠ 0 → st.serverView.reliable = false)

namespace Session

/-- Every event either puts off a retransmission timer or makes a step of `ServerStep`. -/
theorem apply_server (cfg : Config) {s : Session} {st : TransactionState} {env : Env}
    {ev : SessionEvent} (hk : ServerKept s) (hs : s.tx = some st) (he : s.enabled (env, ev)) :
    (∃ t t', ev = .timer t ∧ TransactionController.postponed cfg env t = some t' ∧
      s.apply cfg (env, ev) = { s with timers := s.timers.erase t ++ [t'] }) ∨
    ∃ f x v, ServerStep st.serverView (serverCause st ev) x v ∧ f.ServerShows x v ∧
      s.apply cfg (env, ev) = (s.pop ev).absorb f := by
  obtain ⟨hv, hg⟩ := hk st hs
  have hserver := st.isClient_of_server hv
  cases ev with
  | message msg =>
    obtain ⟨st', hst, ht⟩ := he
    cases hs.symm.trans hst
    obtain ⟨x, v, hstep, hf⟩ := st.receive_serverDoes cfg env hv ht
    exact .inr ⟨_, x, v, hstep, hf, by simp [apply, pop, hs]⟩
  | timer t =>
    cases hp : TransactionController.postponed cfg env t with
    | some t' => exact .inl ⟨t, t', rfl, hp, by simp [apply, hp]⟩
    | none =>
      obtain ⟨x, v, hstep, hf⟩ := st.receive_timer_serverDoes cfg env hv t fun ht => by
        apply hg
        rw [pending_erase he .timerG, if_pos ht]
        omega
      exact .inr ⟨_, x, v, hstep, hf, by simp [apply, pop, hp, hs]⟩
  | cancelFromTU cancel =>
    obtain ⟨st', hst, ht⟩ := he
    cases hs.symm.trans hst
    simp [TransactionState.takesCancel, hserver] at ht
  | rewriteRequest uri =>
    obtain ⟨st', hst, hc, -⟩ := he
    cases hs.symm.trans hst
    simp [hserver] at hc

/-- The transaction that lives on after a step. -/
theorem absorb_server {s : Session} {f : Frame} {x : ServerEffect} {v : ServerView}
    {st : TransactionState} (hf : f.ServerShows x v) (h : (s.absorb f).tx = some st) :
    x.gone = false ∧ st.serverView = v := by
  simp only [absorb, hf.deleted] at h
  cases hx : x.gone
  · simp only [hx, Bool.false_eq_true, if_false, Option.some.injEq] at h
    exact ⟨rfl, h ▸ hf.view hx⟩
  · simp [hx] at h

theorem pending_server {s : Session} {f : Frame} {x : ServerEffect} {v : ServerView}
    (hf : f.ServerShows x v) (type : TimerType) :
    (s.absorb f).pending type = s.pending type + x.armed.count type := by
  rw [pending_absorb, hf.armed]

/-- Only the timer that fires is taken from the pending ones. -/
theorem pending_pop_server {s : Session} (st : TransactionState) {env : Env} {ev : SessionEvent}
    (he : s.enabled (env, ev)) {type : TimerType} (ht : serverCause st ev ≠ .timer type) :
    (s.pop ev).pending type = s.pending type := by
  cases ev with
  | timer t =>
    have hne : t.type ≠ type := fun h => ht (congrArg ServerCause.timer h)
    rw [pending_erase he type, if_neg hne]
    rfl
  | _ => rfl

theorem pending_pop_le (s : Session) {env : Env} {ev : SessionEvent} (he : s.enabled (env, ev))
    (type : TimerType) : (s.pop ev).pending type ≤ s.pending type := by
  cases ev with
  | timer t =>
    rw [pending_erase he type]
    exact Nat.le_add_right _ _
  | _ => exact le_rfl

end Session

theorem ServerKept.step {s : Session} {st : TransactionState} {env : Env} {ev : SessionEvent}
    {f : Frame} {x : ServerEffect} {v : ServerView} (hk : ServerKept s) (hs : s.tx = some st)
    (he : s.enabled (env, ev)) (hstep : ServerStep st.serverView (serverCause st ev) x v)
    (hf : f.ServerShows x v) : ServerKept ((s.pop ev).absorb f) := by
  intro st' hst'
  obtain ⟨hx, rfl⟩ := Session.absorb_server hf hst'
  obtain ⟨hv, hg⟩ := hk st hs
  obtain ⟨hsame, harmed⟩ := hstep.reliable
  refine ⟨hstep.wellFormed hx hv, fun hp => ?_⟩
  rw [hsame hx]
  rw [Session.pending_server hf] at hp
  by_cases hmem : .timerG ∈ x.armed
  · exact harmed hmem
  · apply hg
    have := s.pending_pop_le he .timerG
    have := List.count_eq_zero_of_not_mem hmem
    omega

/-! ### Runs -/

section Runs

variable {cfg : Config} {b : Birth} {ok : Session → Env × SessionEvent → Prop}

theorem ServerBirth.kept {x y : ServerEffect} {v v' : ServerView} {f : Frame}
    (h : ServerBirth b x v) {m : SipMessage} (hstep : ServerStep v (.response m) y v')
    (hf : f.ServerShows (x.andThen y) v') : ServerKept (Session.born f) := by
  intro st hst
  obtain ⟨hx, rfl⟩ := Session.absorb_server hf hst
  have hx : y.gone = false := hx
  obtain ⟨hsame, harmed⟩ := hstep.reliable
  refine ⟨hstep.wellFormed hx h.wellFormed, fun hp => ?_⟩
  rw [hsame hx]
  apply harmed
  by_contra hmem
  rw [Session.born, Session.pending_server hf] at hp
  have hnone := List.count_eq_zero_of_not_mem hmem
  rcases h.armed with ha | ha <;> simp [Session.pending, ServerEffect.andThen, ha, hnone] at hp

/-- Induction over the runs of a server transaction. A property of sessions is kept if it is
kept by timers that are put off or come too late, and by every step of `ServerStep`; the
request may also be refused when the transaction starts. -/
theorem server_induction (hb : b.valid) (hserver : b.isServer) {P : Session → Prop}
    (hinit : ∀ f x v, ServerBirth b x v → f.ServerShows x v → P (Session.born f))
    (hrefused : ∀ f x v m y v', ServerBirth b x v → ServerStep v (.response m) y v' →
      f.ServerShows (x.andThen y) v' → P (Session.born f))
    (hpost : ∀ s env t t', P s → t ∈ s.timers →
      TransactionController.postponed cfg env t = some t' →
      P { s with timers := s.timers.erase t ++ [t'] })
    (hgone : ∀ s timers, P s → s.tx = none → P { s with timers := timers })
    (hstep : ∀ s st env ev f x v', P s → s.tx = some st → st.serverView.WellFormed →
      s.enabled (env, ev) → ok s (env, ev) → ServerStep st.serverView (serverCause st ev) x v' →
      f.ServerShows x v' → P ((s.pop ev).absorb f))
    {s : Session} (hr : Reach (sessions cfg b) ok s) : P s ∧ ServerKept s := by
  induction hr with
  | init hi =>
    cases hi
    obtain ⟨x, v, hbirth, hshows | ⟨m, y, v', hy, hshows⟩⟩ := b.server_birth cfg hb hserver
    · refine ⟨hinit _ x v hbirth hshows, fun st hst => ?_⟩
      obtain ⟨-, rfl⟩ := Session.absorb_server hshows hst
      refine ⟨hbirth.wellFormed, fun hp => ?_⟩
      rw [Session.born, Session.pending_server hshows] at hp
      rcases hbirth.armed with ha | ha <;> simp [Session.pending, ha] at hp
    · exact ⟨hrefused _ x v m y v' hbirth hy hshows, hbirth.kept hy hshows⟩
  | @step s e _ he hok ih =>
    obtain ⟨env, ev⟩ := e
    obtain ⟨hp, hk⟩ := ih
    show P (s.apply cfg (env, ev)) ∧ ServerKept (s.apply cfg (env, ev))
    cases hs : s.tx with
    | none =>
      obtain ⟨htx, hlog⟩ := Session.apply_gone cfg env ev hs
      have heq : s.apply cfg (env, ev) = { s with timers := (s.apply cfg (env, ev)).timers } := by
        rw [← hlog, hs, ← htx]
      refine ⟨?_, fun st hst => ?_⟩
      · rw [heq]
        exact hgone s _ hp hs
      · cases htx.symm.trans hst
    | some st =>
      rcases Session.apply_server cfg hk hs he with ⟨t, t', rfl, ht, heq⟩ | ⟨f, x, v, hx, hf, heq⟩
      · rw [heq]
        refine ⟨hpost s env t t' hp he ht, fun st' hst' => ?_⟩
        rw [Session.pending_postponed he ht]
        exact hk st' hst'
      · rw [heq]
        exact ⟨hstep s st env ev f x v hp hs (hk st hs).1 he hok hx hf, hk.step hs he hx hf⟩

theorem server_kept (hb : b.valid) (hserver : b.isServer) {s : Session}
    (hr : Reach (sessions cfg b) ok s) : ServerKept s := by
  refine (server_induction (P := fun _ => True) hb hserver ?_ ?_ ?_ ?_ ?_ hr).2 <;> simp

end Runs

end Resiprocate.Transaction
