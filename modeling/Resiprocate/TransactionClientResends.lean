import Resiprocate.TransactionClientTimers

/-! Over which transports the timers of a client transaction resend its request. -/
namespace Resiprocate.Transaction
open ClientView TransitionSystem

/-- A timer of this type would resend the request if it fired now. -/
def ClientView.Pends (v : ClientView) (count : TimerType → ℕ) : Prop :=
  v.machine = .clientInvite ∧ v.state = .calling ∧ v.abandoned = false ∧ count .timerA ≠ 0 ∨
  v.machine = .clientNonInvite ∧ v.state = .trying ∧ count .timerE1 ≠ 0 ∨
  v.machine = .clientNonInvite ∧ v.state = .proceeding ∧ count .timerE2 ≠ 0

/-- No timer that resends is pending while the target is over a reliable transport. -/
structure ClientView.Quiet (v : ClientView) (count : TimerType → ℕ) : Prop where
  reliable : isReliable v.target.mTransportType = true → ¬ v.Pends count
  noE2 : v.machine = .clientNonInvite → v.state = .trying → count .timerE2 = 0

theorem not_lossy_of_isReliable {type : TransportType} (h : isReliable type = true) :
    lossy type = false := by
  cases type <;> simp_all [isReliable, lossy]

namespace ClientView

theorem Pends.mono {v v' : ClientView} {count count' : TimerType → ℕ} (h : v'.Pends count')
    (hm : v'.machine = v.machine) (hs : v'.state = v.state)
    (hb : v'.abandoned = false → v.abandoned = false)
    (hc : ∀ type ∈ [TimerType.timerA, .timerE1, .timerE2], count' type ≤ count type) :
    v.Pends count := by
  have hA := hc .timerA (by simp)
  have hE1 := hc .timerE1 (by simp)
  have hE2 := hc .timerE2 (by simp)
  rw [Pends, hm, hs] at h
  rcases h with ⟨h₁, h₂, h₃, h₄⟩ | ⟨h₁, h₂, h₃⟩ | ⟨h₁, h₂, h₃⟩
  · exact .inl ⟨h₁, h₂, hb h₃, by omega⟩
  · exact .inr (.inl ⟨h₁, h₂, by omega⟩)
  · exact .inr (.inr ⟨h₁, h₂, by omega⟩)

theorem Pends.unanswered {v : ClientView} {count : TimerType → ℕ} (h : v.Pends count) :
    v.unanswered := by
  rcases h with ⟨h₁, h₂, -⟩ | ⟨h₁, h₂, -⟩ | ⟨h₁, h₂, -⟩
  · exact .inl ⟨h₁, .inl h₂⟩
  · exact .inr ⟨h₁, .inl h₂⟩
  · exact .inr ⟨h₁, .inr h₂⟩

namespace Quiet
variable {v v' : ClientView} {count count' : TimerType → ℕ}

/-- Fewer timers, or an abandoned request, do no harm. -/
theorem mono (hq : v.Quiet count) (hm : v'.machine = v.machine) (hs : v'.state = v.state)
    (hb : v'.abandoned = false → v.abandoned = false) (ht : v'.target = v.target)
    (hc : ∀ type ∈ [TimerType.timerA, .timerE1, .timerE2], count' type ≤ count type) :
    v'.Quiet count' where
  reliable h hp := hq.reliable (ht ▸ h) (hp.mono hm hs hb hc)
  noE2 h₁ h₂ := by
    have := hq.noE2 (hm ▸ h₁) (hs ▸ h₂)
    have := hc .timerE2 (by simp)
    omega

/-- The timer that `processReliability` starts for the target does no harm. -/
theorem of_started (reliable : Bool)
    (hc : ∀ type ∈ [TimerType.timerA, .timerE1, .timerE2],
      count type ≤ (startedBy v.machine reliable v.target.mTransportType).count type) :
    v.Quiet count where
  reliable hrel hp := by
    have hl := not_lossy_of_isReliable hrel
    simp only [List.mem_cons, List.not_mem_nil, or_false, count_startedBy, hl] at hc
    simp at hc
    simp [Pends, hc] at hp
  noE2 _ _ := by
    have := hc .timerE2 (by simp)
    simpa [count_startedBy] using this

theorem of_completed (hs : v.state = .completed) : v.Quiet count where
  reliable _ hp := hp.unanswered.state.1 hs
  noE2 _ h := by simp [hs] at h

end Quiet

end ClientView

/-- What a failover or a DNS result must find so that no timer is left that resends over a
reliable transport. -/
structure ResendsFit (env : Env) (v : ClientView) (e : ClientCause) (count : TimerType → ℕ) :
    Prop where
  target : v.takesTarget env e → isReliable env.dnsNext.mTransportType = true →
    ¬ v.Pends count ∧ (v.failsOver e → ¬ v.reverted.Pends count)
  restart : v.failsOver e → env.dnsAvailable ≠ .available → env.dnsAvailable ≠ .finished →
    isReliable v.target.mTransportType = true → ¬ v.reverted.Pends count

theorem ClientStep.quiet {env : Env} {v v' : ClientView} {e : ClientCause} {x : ClientEffect}
    {count rest : TimerType → ℕ} (h : ClientStep env v e x v') (hx : x.gone = false)
    (hv : v.WellFormed) (hr : v.Routed) (hsame : sameDestination v e) (hq : v.Quiet count)
    (hc : ∀ type, type ≠ .tcpConnectTimer → count type = rest type + e.fires type)
    (hfit : ResendsFit env v e rest) : v'.Quiet fun type => rest type + x.armed.count type := by
  have hle : ∀ type ∈ [TimerType.timerA, .timerE1, .timerE2], rest type ≤ count type := by
    simp only [List.mem_cons, List.not_mem_nil, or_false]
    rintro type (rfl | rfl | rfl) <;> rw [hc _ (by simp)] <;> omega
  have hrest : v.machine = .clientNonInvite → v.state = .trying → rest .timerE2 = 0 := by
    intro h₁ h₂
    have := hq.noE2 h₁ h₂
    have := hle .timerE2 (by simp)
    omega
  cases h with
  | ignored => exact hq.mono rfl rfl id rfl (by simpa using hle)
  | connecting => exact hq.mono rfl rfl id rfl (by simpa using hle)
  | abandoned => exact hq.mono rfl rfl nofun rfl (by simpa using hle)
  | cancelled => exact hq.mono rfl rfl id rfl (by simpa using hle)
  | staleSuccess => exact hq.mono rfl rfl id rfl (by simpa using hle)
  | cancelFailed => exact hq.mono rfl rfl id rfl (by simpa using hle)
  | rewritten => exact hq.mono rfl rfl id rfl (by simpa using hle)
  | inviteSuccess => exact .of_completed rfl
  | inviteFailure => exact .of_completed rfl
  | inviteFailureAgain h hs => exact .of_completed hs
  | final => exact .of_completed rfl
  | @resent type _ _ h hs =>
    have hu : v.unanswered := by cases type <;> simp_all [resends, unanswered]
    obtain ⟨rfl, next, retransmit, -, rfl⟩ := hs.kept_of_routed hr hv hu
    refine hq.mono rfl rfl id rfl ?_
    intro t ht
    rw [hc t (by rintro rfl; simp at ht)]
    simp [List.count_singleton, ClientCause.fires]
  | inviteProvisional h => exact ⟨fun _ hp => by simp [Pends, h] at hp, by simp [h]⟩
  | provisional h hu =>
    refine ⟨fun hrel hp => ?_, by simp⟩
    have hl := not_lossy_of_isReliable (show isReliable v.target.mTransportType = true from hrel)
    have hs : v.state = .trying ∨ v.state = .proceeding := by simpa [unanswered, h] using hu
    -- over a reliable transport a provisional arms no timer
    have hnone : rest .timerE2 ≠ 0 := by simpa [Pends, h, hv.reliability, hl] using hp
    rcases hs with hs | hs
    · exact hnone (hrest h hs)
    · have := hle .timerE2 (by simp)
      exact hq.reliable hrel (.inr (.inr ⟨h, hs, by omega⟩))
  | requested h hm hreq hs =>
    obtain ⟨rfl, ht⟩ := requested_kept hv hr h hm hreq hs hsame
    obtain ⟨hmachine, hstate, habandoned, -⟩ := hs.frame
    exact hq.mono hmachine hstate (fun hb => habandoned ▸ hb) ht (by simpa using hle)
  | failover hu hd hn hm hav hs =>
    obtain ⟨rfl, ht⟩ := failover_kept hv hr hu hd hn hs
    obtain ⟨hmachine, hstate, habandoned, -⟩ := hs.frame
    have hfails := failsOver_of hu hd hn hm
    constructor
    · intro hrel hp
      rw [ht] at hrel
      refine (hfit.target ⟨.inl hfails, hav⟩ hrel).2 hfails (hp.mono hmachine hstate
        (fun hb => habandoned ▸ hb) ?_)
      simp [startedBy, not_lossy_of_isReliable hrel]
    · intro h₁ h₂
      have hm' : v.machine = .clientNonInvite := hmachine.symm.trans h₁
      have hs' : v.state = .trying := by
        simpa [reverted, restored, aimed, hm'] using hstate.symm.trans h₂
      simp [count_startedBy, hrest hm' hs']
  | failoverPending hu hd hn hm hav =>
    constructor
    · intro hrel hp
      exact hfit.restart (failsOver_of hu hd hn hm) (by simp [hav]) (by simp [hav]) hrel
        (hp.mono rfl rfl id (by simp))
    · intro h₁ h₂
      have h₁ : v.machine = .clientNonInvite := h₁
      simpa using hrest h₁ (by simpa [reverted, restored, h₁] using h₂)
  | failoverDestroyed hu hd hn hm hav =>
    constructor
    · intro hrel hp
      exact hfit.restart (failsOver_of hu hd hn hm) (by simp [hav]) (by simp [hav]) hrel
        (hp.mono rfl rfl id (by simp))
    · intro h₁ h₂
      have h₁ : v.machine = .clientNonInvite := h₁
      simpa using hrest h₁ (by simpa [reverted, h₁] using h₂)
  | found hp hav hs =>
    obtain ⟨rfl, ht⟩ := found_kept hv hr hp hs
    obtain ⟨hmachine, hstate, habandoned, -⟩ := hs.frame
    constructor
    · intro hrel hp'
      rw [ht] at hrel
      refine (hfit.target ⟨.inr ⟨rfl, hp⟩, hav⟩ hrel).1 (hp'.mono hmachine hstate
        (fun hb => habandoned ▸ hb) ?_)
      simp [startedBy, not_lossy_of_isReliable hrel]
    · intro h₁ h₂
      simp [count_startedBy, hrest (hmachine.symm.trans h₁) (hstate.symm.trans h₂)]
  | _ => simp at hx

/-! ### Runs -/

instance (v : ClientView) (count : TimerType → ℕ) : Decidable (v.Pends count) :=
  inferInstanceAs (Decidable (_ ∨ _))

/-- A timer that resends is pending when a failover or a DNS result leaves the transaction with
a target over a reliable transport, or the TU sends the request again to somewhere else. -/
def TransactionState.leavesTimer (st : TransactionState) (count : TimerType → ℕ)
    (e : Env × SessionEvent) : Prop :=
  (st.takesTarget e ∧ isReliable e.1.dnsNext.mTransportType ∨
    st.failsOver e.2 ∧ e.1.dnsAvailable ≠ .available ∧ e.1.dnsAvailable ≠ .finished ∧
      isReliable st.mTarget.mTransportType) ∧
    (st.clientView.Pends count ∨ st.failsOver e.2 ∧ st.clientView.reverted.Pends count) ∨
  e.2.goesElsewhere st

instance (st : TransactionState) (count : TimerType → ℕ) (e : Env × SessionEvent) :
    Decidable (st.leavesTimer count e) := inferInstanceAs (Decidable (_ ∨ _))

def leavesTimer (s : Session) (e : Env × SessionEvent) : Prop :=
  ∃ st, s.tx = some st ∧ st.leavesTimer s.pending e

instance (s : Session) (e : Env × SessionEvent) : Decidable (leavesTimer s e) :=
  inferInstanceAs (Decidable (∃ st, s.tx = some st ∧ _))

/-- Whenever one of the pending timers A, E1 and E2 fires next and puts something on the wire,
the current target is over an unreliable transport. -/
def ResendsUnreliably (cfg : Config) (s : Session) : Prop :=
  ∀ env, ∀ t ∈ s.timers, t.type ∈ [TimerType.timerA, .timerE1, .timerE2] →
    (s.apply cfg (env, .timer t)).log.wire ≠ s.log.wire →
    ∀ st ∈ (s.apply cfg (env, .timer t)).tx, isReliable st.mTarget.mTransportType = false

theorem resendsFit_of_event {st : TransactionState} {env : Env} {ev : SessionEvent}
    {count rest : TimerType → ℕ} (hv : st.clientView.WellFormed)
    (hle : ∀ type ∈ [TimerType.timerA, .timerE1, .timerE2], rest type ≤ count type)
    (h : ¬ st.leavesTimer count (env, ev)) :
    ResendsFit env st.clientView (clientCause st ev) rest := by
  have hmono : ∀ {v : ClientView}, v.Pends rest → v.Pends count :=
    fun hp => hp.mono rfl rfl id hle
  have hfails : st.clientView.failsOver (clientCause st ev) → st.failsOver ev = true :=
    TransactionState.failsOver_of_view hv
  constructor
  · intro ht hrel
    have htake := TransactionState.takesTarget_of_view hv ht
    constructor
    · intro hp
      exact h (.inl ⟨.inl ⟨htake, hrel⟩, .inl (hmono hp)⟩)
    · intro hf hp
      exact h (.inl ⟨.inl ⟨htake, hrel⟩, .inr ⟨hfails hf, hmono hp⟩⟩)
  · intro hf ha hn hrel hp
    exact h (.inl ⟨.inr ⟨hfails hf, ha, hn, hrel⟩, .inr ⟨hfails hf, hmono hp⟩⟩)

/-- It is settled where the request goes, and no timer resends it over a reliable transport. -/
def ResendsKept (s : Session) : Prop :=
  ∀ st, s.tx = some st → st.clientView.Routed ∧ st.clientView.Quiet s.pending

theorem ResendsKept.step {s : Session} {st : TransactionState} {env : Env} {ev : SessionEvent}
    {f : Frame} {x : ClientEffect} {v' : ClientView} (hp : ResendsKept s) (hs : s.tx = some st)
    (hv : st.clientView.WellFormed) (he : s.enabled (env, ev)) (hok : ¬ leavesTimer s (env, ev))
    (hstep : ClientStep env st.clientView (clientCause st ev) x v') (hf : f.Shows x v') :
    ResendsKept ((s.pop ev).absorb f) := by
  intro st' hst'
  obtain ⟨hx, rfl⟩ := Session.absorb_tx hf hst'
  obtain ⟨hr, hq⟩ := hp st hs
  have hok' : ¬ st.leavesTimer s.pending (env, ev) := fun h => hok ⟨st, hs, h⟩
  have hsame : sameDestination st.clientView (clientCause st ev) := by
    apply sameDestination_of_event
    by_contra hne
    exact hok' (.inr (by simpa using hne))
  have hcount : ∀ type, type ≠ .tcpConnectTimer →
      s.pending type = (s.pop ev).pending type + (clientCause st ev).fires type :=
    fun type ht => Session.pending_pop st he ht
  refine ⟨hstep.routed hx hv hr hsame, ?_⟩
  rw [Session.pending_shown hf]
  refine hstep.quiet hx hv hr hsame hq hcount (resendsFit_of_event hv ?_ hok')
  intro type ht
  have := hcount type (by rintro rfl; simp at ht)
  omega

/-- A timer that puts something on the wire resends the request to the current target. -/
theorem ClientStep.resent_of_sends {env : Env} {v v' : ClientView} {type : TimerType}
    {x : ClientEffect} (h : ClientStep env v (.timer type) x v') (hv : v.WellFormed)
    (hr : v.Routed) (hx : x.sends = true) : v.resends type ∧ v'.target = v.target := by
  cases h with
  | resent h hs =>
    have hu : v.unanswered := by cases type <;> simp_all [resends, unanswered]
    obtain ⟨-, _, _, -, rfl⟩ := hs.kept_of_routed hr hv hu
    exact ⟨h, rfl⟩
  | noTarget he => simp at he
  | _ => simp at hx

/-- A timer that resends is one of those `Pends` counts. -/
theorem ClientView.resends.pends {v : ClientView} {type : TimerType} {count : TimerType → ℕ}
    (h : v.resends type) (hc : count type ≠ 0) : v.Pends count := by
  cases type <;> simp_all [resends, Pends]

theorem ResendsKept.resendsUnreliably {cfg : Config} {s : Session} (hp : ResendsKept s)
    (hw : ∀ st, s.tx = some st → st.clientView.WellFormed) : ResendsUnreliably cfg s := by
  intro env t ht htype hwire st' hst'
  cases hs : s.tx with
  | none => simp [Session.apply_gone cfg env (.timer t) hs] at hwire
  | some st =>
    have hv := hw st hs
    obtain ⟨hr, hq⟩ := hp st hs
    have he : s.enabled (env, .timer t) := ht
    rcases Session.apply_client cfg hs hv he with ⟨_, _, -, -, happ⟩ | ⟨f, ⟨x, v', hstep, hf⟩, happ⟩
    · rw [happ] at hwire
      exact absurd rfl hwire
    · rw [happ] at hwire hst'
      obtain ⟨hx, rfl⟩ := Session.absorb_tx hf hst'
      have htcp : t.type ≠ .tcpConnectTimer := by
        intro h
        simp [h] at htype
      have hsends : x.sends = true := by
        by_contra hno
        have hnone := hf.wire (by simpa using hno)
        simp [Session.absorb, Outputs.append, hnone] at hwire
      rw [show clientCause st (.timer t) = .timer t.type by
        simp [clientCause, Frame.timerCause, htcp]] at hstep
      obtain ⟨hresends, htarget⟩ := hstep.resent_of_sends hv hr hsends
      have hcount : s.pending t.type ≠ 0 := by
        have := Session.pending_erase ht t.type
        rw [if_pos rfl] at this
        omega
      rw [show st'.mTarget = st.mTarget from htarget]
      simpa using mt (hq.reliable ·) (not_not_intro (hresends.pends hcount))

theorem ClientBirth.quiet {cfg : Config} {b : Birth} {v v' : ClientView}
    {armed armed' : List TimerType} (h : ClientBirth cfg b v armed) (hs : v.Sent armed' v') :
    v'.Quiet fun type => (armed ++ armed').count type := by
  apply Quiet.of_started true
  cases h with
  | invite env sip tid tu =>
    cases hs with
    | kept h _ => simp [firstView, Tuple.unset] at h
    | flow _ hm _ _ =>
      cases hm
      simp [firstView, aimed, Tuple.unset, lossy]
    | resolving => simp
  | nonInvite env sip tid tu =>
    cases hs with
    | kept h _ => simp [firstView, Tuple.unset] at h
    | flow _ hm _ _ =>
      cases hm
      simp [firstView, aimed, Tuple.unset, lossy]
    | resolving => simp
  | cancel env cancel invite request =>
    cases hs with
    | kept => simp [firstView]
    | flow ht hm _ _ =>
      cases hm
      have ht : invite.mTarget.mTransportType = .unknownTransport := ht
      simp [firstView, aimed, ht, startedBy, lossy]
    | resolving => simp [firstView]

/-- In every run of a client transaction in which no failover or DNS result leaves it with a
reliable target and a timer that resends, no timer resends over a reliable transport. -/
theorem client_resendsUnreliably (cfg : Config) (b : Birth) (hb : b.valid) (hc : b.isClient)
    {s : Session} (hr : Reach (sessions cfg b) (fun s e => ¬ leavesTimer s e) s) :
    ResendsUnreliably cfg s := by
  obtain ⟨v, armed, hbirth⟩ := Birth.client_birth cfg hc
  have hinv := client_induction (P := ResendsKept) hbirth hb ?_ ?_ ?_ ?_ hr
  · exact hinv.1.resendsUnreliably hinv.2
  · intro f armed' v' hs hf st hst
    obtain ⟨-, rfl⟩ := Session.absorb_tx hf hst
    refine ⟨hbirth.routed hb hs, ?_⟩
    rw [Session.born, Session.pending_shown hf]
    simpa [Session.pending] using hbirth.quiet hs
  · intro s env t t' hp ht hpost st hst
    obtain ⟨hroute, hq⟩ := hp st hst
    refine ⟨hroute, ?_⟩
    rw [funext (Session.pending_postponed ht hpost)]
    exact hq
  · intro s timers hp hnone st hst
    cases hnone.symm.trans hst
  · intro s st env ev f x v' hp hs hv he hok hstep hf
    exact hp.step hs hv he hok hstep hf

/-- An INVITE over UDP whose Timer A fires. -/
theorem client_resendsUnreliably_udp :
    ∃ s : Session, s.pending .timerA = 1 ∧ ResendsUnreliably {} s := by
  have hr : Reach (sessions {} (sampleClientInvite .unset)) (fun s e => ¬ leavesTimer s e) _ :=
    .run (.init rfl) [(sampleDns .udp, .message (.dnsResultMessage sampleBranch true)),
      (sampleEnv, .timer ⟨.timerA, sampleBranch, 500⟩)] (by decide)
  exact ⟨_, by decide, client_resendsUnreliably _ _ (by decide) (by decide) hr⟩

/-- Timer A of a UDP target resends the INVITE after the failover to a TCP target. -/
theorem clientInvite_resends_over_tcp :
    ¬ ∀ s, Reach (sessions {} (sampleClientInvite .unset)) anyStep s → ResendsUnreliably {} s := by
  intro h
  have h := h _ (.run (.init rfl)
    [(sampleDns .udp, .message (.dnsResultMessage sampleBranch true)),
      (sampleDns .tcp, .message (.transportFailure sampleBranch .failure 0))] (by decide))
    sampleEnv ⟨.timerA, sampleBranch, 500⟩
  revert h
  decide

end Resiprocate.Transaction
