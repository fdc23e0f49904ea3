import Resiprocate.TransactionClientRuns

/-! The timers a client transaction has pending, while responses, failures and DNS results
move it from one target to the next. -/
namespace Resiprocate.Transaction
open ClientView TransitionSystem

/-! ### Targets -/

/-- It is settled where the stored request goes: sending it again changes neither the target
nor its reliability, and arms no timer. -/
structure ClientView.Routed (v : ClientView) : Prop where
  noFlow : v.dns = true → ∀ m, v.next = some m → m.destination.mFlowKey = 0
  settled : v.unanswered → v.target.mTransportType ≠ .unknownTransport ∨ v.dns = true ∨
    ∃ m, v.next = some m ∧ m.destination.mFlowKey ≠ 0 ∧ v.target = m.destination

namespace ClientView

theorem Sent.kept_of_routed {v v' : ClientView} {armed : List TimerType} (hs : v.Sent armed v')
    (hr : v.Routed) (hv : v.WellFormed) (hu : v.unanswered) :
    armed = [] ∧ ∃ next retransmit, v.Kept next retransmit ∧
      v' = { v with next := next, retransmit := retransmit } := by
  cases hs with
  | kept _ hk => exact ⟨rfl, _, _, hk, rfl⟩
  | @flow m _ _ ht hm hf hk =>
    rcases hr.settled hu with h | hd | ⟨m', hm', -, htarget⟩
    · exact absurd ht h
    · exact absurd (hr.noFlow hd m hm) hf
    · cases hm.symm.trans hm'
      have haimed : v.aimed m.destination = v := by
        rw [← htarget]
        simp [aimed, ← hv.reliability]
      have hlossy : lossy m.destination.mTransportType = false := by
        rw [← htarget, ht]
        rfl
      rw [haimed] at hk ⊢
      exact ⟨by simp [startedBy, hlossy], _, _, hk, rfl⟩
  | resolving ht hd hm hf =>
    rcases hr.settled hu with h | hd' | ⟨m', hm', hf', -⟩
    · exact absurd ht h
    · simp [hd] at hd'
    · cases hm.symm.trans hm'
      exact absurd hf hf'

/-- Sending the request for the first time settles where it goes. -/
theorem Sent.routed {v v' : ClientView} {armed : List TimerType} {m : SipMessage}
    (hs : v.Sent armed v') (hn : v.next = some m) (hq : m.isRequest = true)
    (hm : m.method ≠ .ack) (hf : v.dns = true → m.destination.mFlowKey = 0)
    (hr : v.retransmit = none ∨ v.dns = true) : v'.Routed := by
  cases hs with
  | kept h hk =>
    have hnext := hk.of_request hn hq hm
    refine ⟨fun hd m' hm' => ?_, fun _ => ?_⟩
    · cases hnext.symm.trans hm'
      exact hf hd
    · rcases h with h | h | h
      · exact .inr (.inl (hr.resolve_left h))
      · exact .inl h
      · exact .inr (.inl h.1)
  | flow ht hm' hf' hk =>
    cases hn.symm.trans hm'
    have hnext := hk.of_request hn hq hm
    refine ⟨fun hd m' hm' => ?_, fun _ => .inr (.inr ⟨m, hnext, hf', rfl⟩)⟩
    cases hnext.symm.trans hm'
    exact hf hd
  | resolving _ _ hm' hf' =>
    refine ⟨fun _ m' hm'' => ?_, fun _ => .inr (.inl rfl)⟩
    cases hm'.symm.trans hm''
    exact hf'

end ClientView

/-- A further request of the TU goes where the one before it went. -/
def sameDestination (v : ClientView) (e : ClientCause) : Prop :=
  ∀ m old, e = .request m → v.next = some old → m.destination = old.destination

theorem ClientStep.routed {env : Env} {v v' : ClientView} {e : ClientCause} {x : ClientEffect}
    (h : ClientStep env v e x v') (hx : x.gone = false) (hv : v.WellFormed) (hr : v.Routed)
    (hsame : sameDestination v e) : v'.Routed := by
  have hdns : v.state = .completed → v.dns = false := hv.noDns
  cases h with
  | ignored => exact hr
  | connecting => exact hr
  | cancelled => exact hr
  | staleSuccess => exact hr
  | cancelFailed => exact hr
  | abandoned => exact ⟨hr.noFlow, hr.settled⟩
  | @resent type _ _ h hs =>
    have hu : v.unanswered := by cases type <;> simp_all [resends, unanswered]
    obtain ⟨m, hn, hq, hm⟩ := hv.request hu
    obtain ⟨-, next, retransmit, hk, rfl⟩ := hs.kept_of_routed hr hv hu
    have hnext := hk.of_request hn hq (hm ▸ hv.not_ack hu)
    refine ⟨fun hd m' hm' => ?_, fun hu' => ?_⟩
    · exact hr.noFlow hd m' (hn.trans (hnext.symm.trans hm'))
    · simpa [hnext, hn] using hr.settled hu
  | inviteProvisional h hu => exact ⟨hr.noFlow, fun _ => hr.settled hu⟩
  | provisional h hu => exact ⟨hr.noFlow, fun _ => hr.settled hu⟩
  | inviteSuccess => exact ⟨by simp [closed], by simp [unanswered, closed]⟩
  | inviteFailure => exact ⟨by simp [closed], by simp [unanswered, closed]⟩
  | inviteFailureAgain h hs => exact ⟨by simp [hdns hs], by simp [unanswered, hs]⟩
  | final => exact ⟨by simp [closed], by simp [unanswered, closed]⟩
  | requested h hm hq hs =>
    rcases hv.states with hu | ⟨hc, -⟩
    · obtain ⟨old, hn, -⟩ := hv.request hu
      refine hs.routed rfl hq (hm ▸ (hv.nonInvite h).2) (fun hd => ?_) (.inl rfl)
      rw [hsame _ _ rfl hn]
      exact hr.noFlow hd old hn
    · have ht := hv.target_of_unreliable (hv.unreliable hc (by simp [h]))
      cases hs with
      | kept _ _ => exact ⟨by simp [hdns hc], by simp [unanswered, hc]⟩
      | flow hu => exact absurd hu ht
      | resolving hu => exact absurd hu ht
  | failover hu hd hn hm ha hs =>
    obtain ⟨m, hn', hq, hmethod⟩ := hv.request hu
    have hk := hr.noFlow hd _ hn
    cases hn.symm.trans hn'
    exact hs.routed rfl hq (hmethod ▸ hv.not_ack hu) (fun _ => hk) (.inl rfl)
  | failoverPending hu hd hn hm ha =>
    have hk := hr.noFlow hd _ hn
    refine ⟨fun _ m' hm' => ?_, fun _ => .inr (.inl hd)⟩
    cases hm'
    exact hk
  | failoverDestroyed hu hd => exact ⟨hr.noFlow, fun _ => .inr (.inl hd)⟩
  | found hp ha hs =>
    have hd := hv.pending hp
    have hu := hv.unanswered_of_dns hd
    obtain ⟨m, hn, hq, hm⟩ := hv.request hu
    exact hs.routed hn hq (hm ▸ hv.not_ack hu) (fun _ => hr.noFlow hd m hn) (.inr hd)
  | rewritten hd hn hq =>
    have hk := hr.noFlow hd _ hn
    refine ⟨fun _ m' hm' => ?_, fun _ => .inr (.inl hd)⟩
    cases hm'
    exact hk
  | _ => simp at hx

/-! ### Counting pending timers -/

/-- How many timers of a type a cause takes from the pending ones. -/
def ClientCause.fires : ClientCause → TimerType → ℕ
  | .timer t, type => if t = type then 1 else 0
  | _, _ => 0

namespace Session

/-- A timer that fires, other than the TCP connect timer, is the cause of the step. -/
theorem pending_pop {s : Session} (st : TransactionState) {env : Env} {ev : SessionEvent}
    (he : s.enabled (env, ev)) {type : TimerType} (ht : type ≠ .tcpConnectTimer) :
    s.pending type = (s.pop ev).pending type + (clientCause st ev).fires type := by
  cases ev with
  | timer t =>
    rw [pending_erase he type]
    have hc : (clientCause st (.timer t)).fires type = if t.type = type then 1 else 0 := by
      by_cases h : t.type = .tcpConnectTimer
      · have hne : t.type ≠ type := fun h' => ht (h'.symm.trans h)
        simp only [clientCause, Frame.timerCause, h, if_true]
        rw [h] at hne
        rw [if_neg hne]
        split <;> rfl
      · simp [clientCause, Frame.timerCause, h, ClientCause.fires]
    rw [hc]
    rfl
  | message msg =>
    cases msg with
    | sip m => cases hq : m.isRequest <;> simp [clientCause, pop, ClientCause.fires, hq]
    | _ => rfl
  | _ => rfl

end Session

/-! ### Timeout and retransmission timers -/

/-- `count` says how many timers of each type are pending. -/
structure ClientView.Armed (v : ClientView) (count : TimerType → ℕ) : Prop where
  inviteTimeout : v.machine = .clientInvite → v.state = .calling → 0 < count .timerB
  inviteResend : v.machine = .clientInvite → v.state = .calling → v.abandoned = false →
    lossy v.target.mTransportType = true → count .timerA = 1
  timeout : v.machine = .clientNonInvite → v.unanswered → 0 < count .timerF
  noE2 : v.machine = .clientNonInvite → v.state = .trying → count .timerE2 = 0
  tryingResend : v.machine = .clientNonInvite → v.state = .trying →
    lossy v.target.mTransportType = true → count .timerE1 = 1
  proceedingResend : v.machine = .clientNonInvite → v.state = .proceeding →
    lossy v.target.mTransportType = true → count .timerE2 = 1

/-- A failure that makes the transaction try another target. -/
def ClientView.failsOver (v : ClientView) (e : ClientCause) : Prop :=
  e = .failure ∧ v.dns = true ∧ v.unanswered ∧
    ∀ m, v.next = some m → ¬ (m.isRequest = true ∧ m.method = .cancel)

/-- A step that takes up the next DNS target. -/
def ClientView.takesTarget (v : ClientView) (env : Env) (e : ClientCause) : Prop :=
  (v.failsOver e ∨ e = .resolved ∧ v.pending = .dns) ∧ env.dnsAvailable = .available

/-- What a failover or a DNS result must find for the timers to fit the new target. -/
structure TimersFit (env : Env) (v : ClientView) (e : ClientCause) (count : TimerType → ℕ) :
    Prop where
  restart : v.failsOver e → v.machine = .clientInvite → v.state = .proceeding →
    env.dnsAvailable ≠ .finished → 0 < count .timerB ∧
      (env.dnsAvailable ≠ .available → lossy v.target.mTransportType = true → count .timerA = 1)
  invite : v.takesTarget env e → lossy env.dnsNext.mTransportType = true →
    v.machine = .clientInvite → (v.failsOver e ∨ v.state = .calling) → v.abandoned = false →
    count .timerA = if v.reliable then 0 else 1
  trying : v.takesTarget env e → lossy env.dnsNext.mTransportType = true →
    v.machine = .clientNonInvite → v.state = .trying →
    count .timerE1 = if v.reliable then 0 else 1
  proceeding : v.takesTarget env e → lossy env.dnsNext.mTransportType = true →
    v.machine = .clientNonInvite → v.state = .proceeding → count .timerE2 = 1

theorem count_startedBy (machine : Machine) (reliable : Bool) (type : TransportType)
    (timer : TimerType) :
    (startedBy machine reliable type).count timer =
      if lossy type = true ∧ reliable = true ∧ (machine = .clientNonInvite ∧ timer = .timerE1 ∨
        machine = .clientInvite ∧ timer = .timerA) then 1 else 0 := by
  unfold startedBy
  cases lossy type <;> cases reliable <;> cases machine <;>
    simp [List.count_singleton, @eq_comm _ timer]

/-- A further request of the TU to the same destination changes no target. -/
theorem requested_kept {v v' : ClientView} {m : SipMessage} {contact : Option Data}
    {armed : List TimerType} (hv : v.WellFormed) (hr : v.Routed)
    (h : v.machine = .clientNonInvite) (hm : m.method = v.method) (hq : m.isRequest = true)
    (hs : { v with next := some m, retransmit := none, contact := contact, via := some m.via }.Sent
      armed v') (hsame : sameDestination v (.request m)) :
    armed = [] ∧ v'.target = v.target := by
  rcases hv.states with hu | ⟨hc, -⟩
  · obtain ⟨old, hn, -⟩ := hv.request hu
    have hd := hsame m old rfl hn
    have hnew : { v with
        next := some m, retransmit := none, contact := contact, via := some m.via }.Routed := by
      refine ⟨fun hdns m' hm' => ?_, fun _ => ?_⟩
      · cases hm'
        rw [hd]
        exact hr.noFlow hdns old hn
      · simpa [hn, hd] using hr.settled hu
    obtain ⟨harmed, next, retransmit, -, rfl⟩ := hs.kept_of_routed hnew
      (.of_unanswered hu hv.invite hv.nonInvite rfl ⟨hq, hm⟩ hv.pending hv.reliability) hu
    exact ⟨harmed, rfl⟩
  · have ht := hv.target_of_unreliable (hv.unreliable hc (by simp [h]))
    cases hs with
    | kept => exact ⟨rfl, rfl⟩
    | flow hu => exact absurd hu ht
    | resolving hu => exact absurd hu ht

/-- After a failover the request goes to the new target, and only `processReliability` arms
a timer. -/
theorem failover_kept {v v' : ClientView} {m : SipMessage} {target : Tuple}
    {armed : List TimerType} (hv : v.WellFormed) (hr : v.Routed) (hu : v.unanswered)
    (hd : v.dns = true) (hn : v.next = some m)
    (hs : ((v.reverted.restored m).aimed target).Sent armed v') :
    armed = [] ∧ v'.target = target := by
  obtain ⟨m', hm', hq⟩ := hv.request hu
  cases hn.symm.trans hm'
  have hk := hr.noFlow hd m hn
  have hnew : ((v.reverted.restored m).aimed target).Routed := by
    refine ⟨fun _ m' hm' => ?_, fun _ => .inr (.inl hd)⟩
    cases hm'
    exact hk
  obtain ⟨harmed, next, retransmit, -, rfl⟩ := hs.kept_of_routed hnew
    (.of_unanswered hu.reverted hv.invite hv.nonInvite rfl hq hv.pending rfl) hu.reverted
  exact ⟨harmed, rfl⟩

/-- The same when DNS comes up with a target. -/
theorem found_kept {v v' : ClientView} {target : Tuple} {armed : List TimerType}
    (hv : v.WellFormed) (hr : v.Routed) (hp : v.pending = .dns)
    (hs : { v.aimed target with pending := .none }.Sent armed v') :
    armed = [] ∧ v'.target = target := by
  have hd := hv.pending hp
  have hu := hv.unanswered_of_dns hd
  obtain ⟨m, hm, hq⟩ := hv.request hu
  obtain ⟨harmed, next, retransmit, -, rfl⟩ := hs.kept_of_routed
    ⟨fun _ => hr.noFlow hd, fun _ => .inr (.inl hd)⟩
    (.of_unanswered hu hv.invite hv.nonInvite hm hq nofun rfl) hu
  exact ⟨harmed, rfl⟩

theorem failsOver_of {v : ClientView} {m : SipMessage} (hu : v.unanswered) (hd : v.dns = true)
    (hn : v.next = some m) (hm : ¬ (m.isRequest = true ∧ m.method = .cancel)) :
    v.failsOver .failure := by
  refine ⟨rfl, hd, hu, fun m' hm' => ?_⟩
  cases hn.symm.trans hm'
  exact hm

namespace ClientView.Armed
variable {v v' : ClientView} {count count' : TimerType → ℕ}

/-- Only the counts of these timers matter, and of the timeouts only that they are there. -/
theorem congr (ha : v.Armed count) (hm : v'.machine = v.machine) (hs : v'.state = v.state)
    (hb : v'.abandoned = false → v.abandoned = false) (ht : v'.target = v.target)
    (hc : ∀ type ∈ [TimerType.timerA, .timerE1, .timerE2], count' type = count type)
    (hle : ∀ type ∈ [TimerType.timerB, .timerF], count type ≤ count' type) : v'.Armed count' where
  inviteTimeout h₁ h₂ :=
    (ha.inviteTimeout (hm ▸ h₁) (hs ▸ h₂)).trans_le (hle _ (by decide))
  inviteResend h₁ h₂ h₃ h₄ := by
    rw [hc _ (by decide)]
    exact ha.inviteResend (hm ▸ h₁) (hs ▸ h₂) (hb h₃) (ht ▸ h₄)
  timeout h₁ h₂ :=
    (ha.timeout (hm ▸ h₁) (by simpa [unanswered, hm, hs] using h₂)).trans_le (hle _ (by decide))
  noE2 h₁ h₂ := by
    rw [hc _ (by decide)]
    exact ha.noE2 (hm ▸ h₁) (hs ▸ h₂)
  tryingResend h₁ h₂ h₃ := by
    rw [hc _ (by decide)]
    exact ha.tryingResend (hm ▸ h₁) (hs ▸ h₂) (ht ▸ h₃)
  proceedingResend h₁ h₂ h₃ := by
    rw [hc _ (by decide)]
    exact ha.proceedingResend (hm ▸ h₁) (hs ▸ h₂) (ht ▸ h₃)

/-- Nothing is asked of a transaction that is neither Calling nor an unanswered non-INVITE. -/
theorem of_quiet (hi : v.machine = .clientInvite → v.state ≠ .calling)
    (hn : v.machine = .clientNonInvite → v.state = .completed) : v.Armed count where
  inviteTimeout h₁ h₂ := absurd h₂ (hi h₁)
  inviteResend h₁ h₂ := absurd h₂ (hi h₁)
  timeout h₁ h₂ := absurd (hn h₁) h₂.state.1
  noE2 h₁ h₂ := by simp [hn h₁] at h₂
  tryingResend h₁ h₂ := by simp [hn h₁] at h₂
  proceedingResend h₁ h₂ := by simp [hn h₁] at h₂

/-- A timer that fires and is not heeded is not missed. -/
theorem ignore {e : ClientCause} (ha : v.Armed count)
    (hc : ∀ type, type ≠ .tcpConnectTimer → count type = count' type + e.fires type)
    (hi : ∀ type, e = .timer type → ¬ v.heeds type) : v.Armed count' := by
  have hsame : ∀ type, type ≠ .tcpConnectTimer → v.heeds type → count' type = count type := by
    intro type ht hh
    have hz : e.fires type = 0 := by
      cases e with
      | timer t =>
        simp only [ClientCause.fires, ite_eq_right_iff]
        rintro rfl
        exact absurd hh (hi t rfl)
      | _ => rfl
    have := hc type ht
    omega
  constructor
  · intro h₁ h₂
    rw [hsame .timerB (by simp) (.inr (.inl ⟨h₁, h₂⟩))]
    exact ha.inviteTimeout h₁ h₂
  · intro h₁ h₂ h₃ h₄
    rw [hsame .timerA (by simp) (.inl ⟨h₁, h₂, h₃⟩)]
    exact ha.inviteResend h₁ h₂ h₃ h₄
  · intro h₁ h₂
    have hs : v.state = .trying ∨ v.state = .proceeding := by simpa [unanswered, h₁] using h₂
    rw [hsame .timerF (by simp) (.inr (.inl ⟨h₁, hs⟩))]
    exact ha.timeout h₁ h₂
  · intro h₁ h₂
    have := hc .timerE2 (by simp)
    have := ha.noE2 h₁ h₂
    omega
  · intro h₁ h₂ h₃
    rw [hsame .timerE1 (by simp) (.inl ⟨h₁, h₂⟩)]
    exact ha.tryingResend h₁ h₂ h₃
  · intro h₁ h₂ h₃
    rw [hsame .timerE2 (by simp) (.inl ⟨h₁, h₂⟩)]
    exact ha.proceedingResend h₁ h₂ h₃

/-- An INVITE that starts anew needs its timers. -/
theorem reverted (ha : v.Armed count)
    (hr : v.machine = .clientInvite → v.state = .proceeding →
      0 < count .timerB ∧ (lossy v.target.mTransportType = true → count .timerA = 1)) :
    v.reverted.Armed count := by
  by_cases h : v.machine = .clientInvite ∧ v.state = .proceeding
  · obtain ⟨hB, hA⟩ := hr h.1 h.2
    refine ⟨fun _ _ => hB, fun _ _ _ => hA, ?_, ?_, ?_, ?_⟩ <;> simp [ClientView.reverted, h]
  · exact ha.congr rfl (by simp [ClientView.reverted, h]) id rfl (by simp) (by simp)

/-- A new target keeps the timeouts; its retransmission timer has to be the one pending. -/
theorem retarget {target : Tuple} (hm : v'.machine = v.machine)
    (hs : v'.state = v.state) (hb : v'.abandoned = v.abandoned) (ht : v'.target = target)
    (hB : v.machine = .clientInvite → v.state = .calling → 0 < count .timerB)
    (hF : v.machine = .clientNonInvite → v.unanswered → 0 < count .timerF)
    (hE2 : v.machine = .clientNonInvite → v.state = .trying → count .timerE2 = 0)
    (hi : v.machine = .clientInvite → v.state = .calling → v.abandoned = false →
      lossy target.mTransportType = true → count .timerA = if v.reliable then 0 else 1)
    (htr : v.machine = .clientNonInvite → v.state = .trying →
      lossy target.mTransportType = true → count .timerE1 = if v.reliable then 0 else 1)
    (hpr : v.machine = .clientNonInvite → v.state = .proceeding →
      lossy target.mTransportType = true → count .timerE2 = 1) :
    v'.Armed fun type => count type +
      (startedBy v.machine v.reliable target.mTransportType).count type where
  inviteTimeout h₁ h₂ := by
    have := hB (hm ▸ h₁) (hs ▸ h₂)
    omega
  inviteResend h₁ h₂ h₃ h₄ := by
    rw [ht] at h₄
    rw [hm] at h₁
    rw [hi h₁ (hs ▸ h₂) (hb ▸ h₃) h₄, count_startedBy]
    cases v.reliable <;> simp [h₁, h₄]
  timeout h₁ h₂ := by
    have := hF (hm ▸ h₁) (by simpa [unanswered, hm, hs] using h₂)
    omega
  noE2 h₁ h₂ := by
    rw [hE2 (hm ▸ h₁) (hs ▸ h₂), count_startedBy]
    simp
  tryingResend h₁ h₂ h₃ := by
    rw [ht] at h₃
    rw [hm] at h₁
    rw [htr h₁ (hs ▸ h₂) h₃, count_startedBy]
    cases v.reliable <;> simp [h₁, h₃]
  proceedingResend h₁ h₂ h₃ := by
    rw [hpr (hm ▸ h₁) (hs ▸ h₂) (ht ▸ h₃), count_startedBy]
    simp

end ClientView.Armed

theorem ClientStep.armed {env : Env} {v v' : ClientView} {e : ClientCause} {x : ClientEffect}
    {count rest : TimerType → ℕ} (h : ClientStep env v e x v') (hx : x.gone = false)
    (hv : v.WellFormed) (hr : v.Routed) (hsame : sameDestination v e) (ha : v.Armed count)
    (hc : ∀ type, type ≠ .tcpConnectTimer → count type = rest type + e.fires type)
    (hfit : TimersFit env v e rest) : v'.Armed fun type => rest type + x.armed.count type := by
  cases h with
  | ignored hi => simpa using ha.ignore hc hi
  | connecting hi =>
    have ha' := ha.ignore hc fun type he => absurd he (hi type)
    exact ha'.congr rfl rfl id rfl (by simp) (by simp)
  | abandoned =>
    have ha' := ha.ignore hc (by simp)
    exact ha'.congr rfl rfl (by simp) rfl (by simp) (by simp)
  | cancelled =>
    have ha' := ha.ignore hc (by simp)
    exact ha'.congr rfl rfl id rfl (by simp) (by simp)
  | staleSuccess => simpa using ha.ignore hc (by simp)
  | cancelFailed => simpa using ha.ignore hc (by simp)
  | @resent type _ _ h hs =>
    have hu : v.unanswered := by cases type <;> simp_all [resends, unanswered]
    obtain ⟨rfl, next, retransmit, -, rfl⟩ := hs.kept_of_routed hr hv hu
    have hsame : ∀ t, t ≠ .tcpConnectTimer → rest t + [type].count t = count t := by
      intro t ht
      rw [hc t ht]
      simp [List.count_singleton, ClientCause.fires]
    refine ha.congr rfl rfl id rfl ?_ ?_
    · simp only [List.mem_cons, List.not_mem_nil, or_false]
      rintro t (rfl | rfl | rfl) <;> exact hsame _ (by simp)
    · simp only [List.mem_cons, List.not_mem_nil, or_false]
      rintro t (rfl | rfl) <;> exact (hsame _ (by simp)).ge
  | inviteProvisional h => exact .of_quiet (by simp) (by simp [h])
  | inviteSuccess => exact .of_quiet (by simp) (by simp)
  | inviteFailure h => exact .of_quiet (by simp [closed]) (by simp [closed])
  | inviteFailureAgain h hs => exact .of_quiet (by simp [hs]) (by simp [hs])
  | final => exact .of_quiet (by simp [closed]) (by simp [closed])
  | rewritten =>
    have ha' := ha.ignore hc (by simp)
    exact ha'.congr rfl rfl id rfl (by simp) (by simp)
  | provisional h hu hcode =>
    have ha' := ha.ignore hc (by simp)
    have hrel := hv.reliability
    refine ⟨by simp [h], by simp [h], fun _ _ => ?_, by simp, by simp, fun _ _ hl => ?_⟩
    · have := ha'.timeout h hu
      omega
    · have hl : lossy v.target.mTransportType = true := hl
      have hreliable : v.reliable = false := by simp [hrel, hl]
      have hs : v.state = .trying ∨ v.state = .proceeding := by simpa [unanswered, h] using hu
      rcases hs with hs | hs
      · simp [hreliable, hs, ha'.noE2 h hs]
      · simp [hs, ha'.proceedingResend h hs hl]
  | requested h hm hq hs =>
    obtain ⟨rfl, ht⟩ := requested_kept hv hr h hm hq hs hsame
    obtain ⟨hmachine, hstate, habandoned, -⟩ := hs.frame
    have ha' := ha.ignore hc (by simp)
    exact ha'.congr hmachine hstate (fun hb => habandoned ▸ hb) ht (by simp) (by simp)
  | failover hu hd hn hm hav hs =>
    obtain ⟨rfl, ht⟩ := failover_kept hv hr hu hd hn hs
    obtain ⟨hmachine, hstate, habandoned, -⟩ := hs.frame
    have ha' := ha.ignore hc (by simp)
    have hfails := failsOver_of hu hd hn hm
    have htakes : v.takesTarget env .failure := ⟨.inl hfails, hav⟩
    have hstate' : v.machine = .clientNonInvite → v.reverted.state = v.state := by
      intro h
      simp [ClientView.reverted, h]
    have hnew := Armed.retarget (v := v.reverted) hmachine hstate habandoned ht
      (fun h₁ h₂ => ?_) (fun h₁ _ => ha'.timeout h₁ hu)
      (fun h₁ h₂ => ha'.noE2 h₁ (hstate' h₁ ▸ h₂))
      (fun h₁ _ h₃ hl => hfit.invite htakes hl h₁ (.inl hfails) h₃)
      (fun h₁ h₂ hl => hfit.trying htakes hl h₁ (hstate' h₁ ▸ h₂))
      (fun h₁ h₂ hl => hfit.proceeding htakes hl h₁ (hstate' h₁ ▸ h₂))
    · simp only [List.append_nil]
      exact hnew
    · by_cases hs : v.state = .proceeding
      · exact (hfit.restart hfails h₁ hs (by simp [hav])).1
      · exact ha'.inviteTimeout h₁ (by simpa [ClientView.reverted, hs] using h₂)
  | failoverPending hu hd hn hm hav =>
    have ha' := (ha.ignore hc (by simp)).reverted fun h₁ h₂ => by
      simpa [hav] using hfit.restart (failsOver_of hu hd hn hm) h₁ h₂
    exact ha'.congr rfl rfl id rfl (by simp) (by simp)
  | failoverDestroyed hu hd hn hm hav =>
    have ha' := (ha.ignore hc (by simp)).reverted fun h₁ h₂ => by
      simpa [hav] using hfit.restart (failsOver_of hu hd hn hm) h₁ h₂
    exact ha'.congr rfl rfl id rfl (by simp) (by simp)
  | found hp hav hs =>
    obtain ⟨rfl, ht⟩ := found_kept hv hr hp hs
    obtain ⟨hmachine, hstate, habandoned, -⟩ := hs.frame
    have htakes : v.takesTarget env .resolved := ⟨.inr ⟨rfl, hp⟩, hav⟩
    have ha' := ha.ignore hc (by simp)
    have hnew := Armed.retarget (v := v) hmachine hstate habandoned ht ha'.inviteTimeout
      ha'.timeout ha'.noE2 (fun h₁ h₂ h₃ hl => hfit.invite htakes hl h₁ (.inr h₂) h₃)
      (fun h₁ h₂ hl => hfit.trying htakes hl h₁ h₂)
      (fun h₁ h₂ hl => hfit.proceeding htakes hl h₁ h₂)
    simpa using hnew
  | _ => simp at hx

/-- A step leaves the target alone or takes up the next one. -/
theorem ClientStep.target {env : Env} {v v' : ClientView} {e : ClientCause} {x : ClientEffect}
    (h : ClientStep env v e x v') (hv : v.WellFormed) (hr : v.Routed)
    (hsame : sameDestination v e) :
    v'.target = v.target ∨ v.takesTarget env e ∧ v'.target = env.dnsNext := by
  cases h with
  | @resent type _ _ h hs =>
    have hu : v.unanswered := by cases type <;> simp_all [resends, unanswered]
    obtain ⟨-, next, retransmit, -, rfl⟩ := hs.kept_of_routed hr hv hu
    exact .inl rfl
  | requested h hm hq hs => exact .inl (requested_kept hv hr h hm hq hs hsame).2
  | failover hu hd hn hm hav hs =>
    exact .inr ⟨⟨.inl (failsOver_of hu hd hn hm), hav⟩, (failover_kept hv hr hu hd hn hs).2⟩
  | found hp hav hs => exact .inr ⟨⟨.inr ⟨rfl, hp⟩, hav⟩, (found_kept hv hr hp hs).2⟩
  | _ => exact .inl rfl

/-! ### Creation -/

/-- The transaction starts over DTLS, which `processReliability` takes for reliable. -/
def Birth.overDtls : Birth → Bool
  | .clientCancel _ cancel invite _ =>
    decide (invite.mTarget.mTransportType = .dtls ∨ cancel.destination.mTransportType = .dtls)
  | b => decide (b.request.destination.mTransportType = .dtls)

theorem ClientBirth.routed {cfg : Config} {b : Birth} {v v' : ClientView}
    {armed armed' : List TimerType} (h : ClientBirth cfg b v armed) (hb : b.valid)
    (hs : v.Sent armed' v') : v'.Routed := by
  obtain ⟨hw, hu, hn⟩ := h.wellFormed hb
  obtain ⟨m, hm, hq, hmethod⟩ := hw.request hu
  cases hn.symm.trans hm
  have hfirst : v.dns = false ∧ v.retransmit = none := by cases h <;> exact ⟨rfl, rfl⟩
  exact hs.routed hn hq (hmethod ▸ hw.not_ack hu) (by simp [hfirst.1]) (.inl hfirst.2)

theorem ClientBirth.armed {cfg : Config} {b : Birth} {v v' : ClientView}
    {armed armed' : List TimerType} (h : ClientBirth cfg b v armed) (hs : v.Sent armed' v') :
    v'.Armed fun type => (armed ++ armed').count type := by
  cases h with
  | invite env sip tid tu =>
    cases hs with
    | kept h _ => simp [firstView, Tuple.unset] at h
    | flow _ hm _ _ =>
      cases hm
      constructor <;> simp +contextual [firstView, aimed, count_startedBy, Tuple.unset, lossy]
    | resolving => constructor <;> simp [firstView, Tuple.unset, lossy]
  | nonInvite env sip tid tu =>
    cases hs with
    | kept h _ => simp [firstView, Tuple.unset] at h
    | flow _ hm _ _ =>
      cases hm
      constructor <;> simp +contextual [firstView, aimed, count_startedBy, Tuple.unset, lossy]
    | resolving => constructor <;> simp [firstView, Tuple.unset, lossy]
  | cancel env cancel invite request =>
    cases hs with
    | kept h _ => constructor <;> simp +contextual [firstView, count_startedBy]
    | flow ht hm _ _ =>
      cases hm
      have ht : invite.mTarget.mTransportType = .unknownTransport := ht
      constructor <;> simp +contextual [firstView, aimed, count_startedBy, ht, lossy]
    | resolving ht =>
      have ht : invite.mTarget.mTransportType = .unknownTransport := ht
      constructor <;> simp [firstView, ht, lossy, count_startedBy]

theorem ClientBirth.target {cfg : Config} {b : Birth} {v v' : ClientView}
    {armed armed' : List TimerType} (h : ClientBirth cfg b v armed) (hd : b.overDtls = false)
    (hs : v.Sent armed' v') : v'.target.mTransportType ≠ .dtls := by
  cases h with
  | invite env sip tid tu =>
    cases hs with
    | flow _ hm _ _ =>
      cases hm
      exact of_decide_eq_false hd
    | _ => simp [firstView, Tuple.unset]
  | nonInvite env sip tid tu =>
    cases hs with
    | flow _ hm _ _ =>
      cases hm
      exact of_decide_eq_false hd
    | _ => simp [firstView, Tuple.unset]
  | cancel env cancel invite request =>
    simp only [Birth.overDtls, decide_eq_false_iff_not, not_or] at hd
    cases hs with
    | flow _ hm _ _ =>
      cases hm
      exact hd.2
    | kept => exact hd.1
    | resolving => exact hd.1

/-! ### Runs -/

def SessionEvent.isDnsResult : SessionEvent → Bool
  | .message (.dnsResultMessage _ _) => true
  | _ => false

/-- The TU uses the id for a request that goes somewhere else. -/
def SessionEvent.goesElsewhere (st : TransactionState) : SessionEvent → Bool
  | .message (.sip m) => m.isRequest && st.mNextTransmission.any fun old =>
      decide (m.destination ≠ old.destination)
  | _ => false

namespace TransactionState

/-- A failure that makes the transaction try another target. -/
def failsOver (st : TransactionState) (ev : SessionEvent) : Bool :=
  ev.isFailure st && st.mDnsResult && !st.failedCancel && st.shouldFailover

/-- An event upon which the transaction takes up the next DNS target. -/
def takesTarget (st : TransactionState) (e : Env × SessionEvent) : Bool :=
  (st.failsOver e.2 || e.2.isDnsResult && decide (st.mPendingOperation = .dns)) &&
    decide (e.1.dnsAvailable = .available)

theorem failsOver_of_view {st : TransactionState} {ev : SessionEvent}
    (hv : st.clientView.WellFormed) (h : st.clientView.failsOver (clientCause st ev)) :
    st.failsOver ev = true := by
  obtain ⟨he, hd, hu, hc⟩ := h
  have hnc : st.failedCancel = false := by
    by_contra hne
    obtain ⟨m, hm, hq, hcancel, -⟩ := (Frame.failedCancel_iff hv).1 (by simpa using hne)
    exact hc m hm ⟨hq, hcancel⟩
  have hdns : st.mDnsResult = true := hd
  simp [failsOver, clientCause_failure.1 he, hdns, hnc, Frame.shouldFailover_of_unanswered hu]

theorem isDnsResult_of_cause {st : TransactionState} {ev : SessionEvent}
    (h : clientCause st ev = .resolved) : ev.isDnsResult = true := by
  cases ev with
  | message msg =>
    cases msg with
    | dnsResultMessage _ _ => rfl
    | sip m => cases hq : m.isRequest <;> simp [clientCause, hq] at h
    | _ => simp [clientCause] at h
  | timer t =>
    simp only [clientCause, Frame.timerCause] at h
    repeat' split at h
    all_goals cases h
  | _ => simp [clientCause] at h

theorem takesTarget_of_view {st : TransactionState} {env : Env} {ev : SessionEvent}
    (hv : st.clientView.WellFormed) (h : st.clientView.takesTarget env (clientCause st ev)) :
    st.takesTarget (env, ev) = true := by
  obtain ⟨h | ⟨he, hp⟩, ha⟩ := h
  · simp [takesTarget, failsOver_of_view hv h, ha]
  · have hp : st.mPendingOperation = .dns := hp
    simp [takesTarget, isDnsResult_of_cause he, hp, ha]

end TransactionState

theorem sameDestination_of_event {st : TransactionState} {ev : SessionEvent}
    (h : ev.goesElsewhere st = false) : sameDestination st.clientView (clientCause st ev) := by
  intro m old he hn
  have hn : st.mNextTransmission = some old := hn
  cases ev with
  | message msg =>
    cases msg with
    | sip m' =>
      simp only [clientCause] at he
      split at he
      · rename_i hq
        cases he
        simpa [SessionEvent.goesElsewhere, hq, hn] using h
      · cases he
    | _ => simp [clientCause] at he
  | timer t =>
    simp only [clientCause, Frame.timerCause] at he
    repeat' split at he
    all_goals cases he
  | _ => simp [clientCause] at he

/-- The current target is over a transport that is not reliable. -/
def TransactionState.overUnreliable (st : TransactionState) : Prop :=
  st.mTarget.mTransportType ≠ .unknownTransport ∧ isReliable st.mTarget.mTransportType = false

instance (st : TransactionState) : Decidable st.overUnreliable :=
  inferInstanceAs (Decidable (_ ∧ _))

/-- A Calling INVITE and an unanswered non-INVITE have a timeout pending, and over an unreliable
transport exactly one timer that resends the request. -/
def TransactionState.TimersPending (st : TransactionState) (count : TimerType → ℕ) : Prop :=
  (st.mMachine = .clientInvite ∧ st.mState = .calling →
    0 < count .timerB ∧ (st.overUnreliable ∧ st.mIsAbandoned = false → count .timerA = 1)) ∧
  (st.mMachine = .clientNonInvite ∧ st.mState = .trying →
    0 < count .timerF ∧ (st.overUnreliable → count .timerE1 = 1 ∧ count .timerE2 = 0)) ∧
  (st.mMachine = .clientNonInvite ∧ st.mState = .proceeding →
    0 < count .timerF ∧ (st.overUnreliable → count .timerE2 = 1))

instance (st : TransactionState) (count : TimerType → ℕ) : Decidable (st.TimersPending count) :=
  inferInstanceAs (Decidable (_ ∧ _))

def Session.TimersPending (s : Session) : Prop := ∀ st ∈ s.tx, st.TimersPending s.pending

instance (s : Session) : Decidable s.TimersPending :=
  inferInstanceAs (Decidable (∀ st ∈ s.tx, _))

/-- A ringing INVITE goes back to Calling after its timeout was used up, or while it waits for
another target without its retransmission timer. -/
def TransactionState.restartsUntimed (st : TransactionState) (count : TimerType → ℕ)
    (e : Env × SessionEvent) : Prop :=
  st.failsOver e.2 ∧ st.mMachine = .clientInvite ∧ st.mState = .proceeding ∧
    e.1.dnsAvailable ≠ .finished ∧ (count .timerB = 0 ∨
      e.1.dnsAvailable ≠ .available ∧ lossy st.mTarget.mTransportType ∧ count .timerA ≠ 1)

/-- The pending retransmission timer is not the one the state needs once `processReliability`
has seen a lossy target. -/
def TransactionState.resendUnfit (st : TransactionState) (count : TimerType → ℕ)
    (ev : SessionEvent) : Prop :=
  st.mMachine = .clientInvite ∧ (st.failsOver ev ∨ st.mState = .calling) ∧
      st.mIsAbandoned = false ∧ (count .timerA ≠ if st.mIsReliable then 0 else 1) ∨
  st.mMachine = .clientNonInvite ∧ st.mState = .trying ∧
      (count .timerE1 ≠ if st.mIsReliable then 0 else 1) ∨
  st.mMachine = .clientNonInvite ∧ st.mState = .proceeding ∧ count .timerE2 ≠ 1

/-- A failover or a DNS result finds timers that do not fit the target it takes up, or takes
up a DTLS target, or the TU sends the request again to somewhere else. -/
def TransactionState.losesTimers (st : TransactionState) (count : TimerType → ℕ)
    (e : Env × SessionEvent) : Prop :=
  st.restartsUntimed count e ∨
  (st.takesTarget e ∧ (e.1.dnsNext.mTransportType = .dtls ∨
    lossy e.1.dnsNext.mTransportType ∧ st.resendUnfit count e.2)) ∨
  e.2.goesElsewhere st

def losesTimers (s : Session) (e : Env × SessionEvent) : Prop :=
  ∃ st, s.tx = some st ∧ st.losesTimers s.pending e

instance (st : TransactionState) (count : TimerType → ℕ) (e : Env × SessionEvent) :
    Decidable (st.restartsUntimed count e) := inferInstanceAs (Decidable (_ ∧ _))

instance (st : TransactionState) (count : TimerType → ℕ) (ev : SessionEvent) :
    Decidable (st.resendUnfit count ev) := inferInstanceAs (Decidable (_ ∨ _))

instance (st : TransactionState) (count : TimerType → ℕ) (e : Env × SessionEvent) :
    Decidable (st.losesTimers count e) := inferInstanceAs (Decidable (_ ∨ _))

instance (s : Session) (e : Env × SessionEvent) : Decidable (losesTimers s e) :=
  inferInstanceAs (Decidable (∃ st, s.tx = some st ∧ _))

theorem timersFit_of_event {st : TransactionState} {env : Env} {ev : SessionEvent}
    {count rest : TimerType → ℕ} (hv : st.clientView.WellFormed)
    (hc : ∀ type, type ≠ .tcpConnectTimer → count type = rest type + (clientCause st ev).fires type)
    (h : ¬ st.losesTimers count (env, ev)) :
    TimersFit env st.clientView (clientCause st ev) rest := by
  simp only [TransactionState.losesTimers, TransactionState.restartsUntimed,
    TransactionState.resendUnfit, not_or] at h
  obtain ⟨hrestart, htakes, -⟩ := h
  -- neither a failure nor a DNS result uses up a timer
  have hsame : ∀ type, type ≠ .tcpConnectTimer →
      (clientCause st ev = .failure ∨ clientCause st ev = .resolved) → rest type = count type := by
    intro type ht he
    rw [hc type ht]
    rcases he with he | he <;> simp [he, ClientCause.fires]
  have hcause : st.clientView.takesTarget env (clientCause st ev) →
      clientCause st ev = .failure ∨ clientCause st ev = .resolved := by
    rintro ⟨hf | hr, -⟩
    · exact .inl hf.1
    · exact .inr hr.1
  constructor
  · intro hf hm hs ha
    have hfails := TransactionState.failsOver_of_view hv hf
    rw [hsame .timerB (by simp) (.inl hf.1), hsame .timerA (by simp) (.inl hf.1)]
    grind [TransactionState.clientView_fields]
  · intro ht hl hm hs ha
    have htake := TransactionState.takesTarget_of_view hv ht
    have hfails : st.clientView.failsOver (clientCause st ev) → st.failsOver ev = true :=
      TransactionState.failsOver_of_view hv
    rw [hsame .timerA (by simp) (hcause ht)]
    grind [TransactionState.clientView_fields]
  · intro ht hl hm hs
    have htake := TransactionState.takesTarget_of_view hv ht
    rw [hsame .timerE1 (by simp) (hcause ht)]
    grind [TransactionState.clientView_fields]
  · intro ht hl hm hs
    have htake := TransactionState.takesTarget_of_view hv ht
    rw [hsame .timerE2 (by simp) (hcause ht)]
    grind [TransactionState.clientView_fields]

/-- It is settled where the request goes, the timers fit, and no target is over DTLS. -/
def TimersKept (s : Session) : Prop :=
  ∀ st, s.tx = some st → st.clientView.Routed ∧ st.clientView.Armed s.pending ∧
    st.clientView.target.mTransportType ≠ .dtls

theorem Session.pending_shown {s : Session} {f : Frame} {x : ClientEffect} {v : ClientView}
    (hf : f.Shows x v) : (s.absorb f).pending = fun type => s.pending type + x.armed.count type := by
  funext type
  rw [Session.pending_absorb, hf.armed]

theorem lossy_of_overUnreliable {st : TransactionState} (h : st.overUnreliable)
    (hd : st.mTarget.mTransportType ≠ .dtls) : lossy st.mTarget.mTransportType = true := by
  obtain ⟨hu, hr⟩ := h
  cases ht : st.mTarget.mTransportType <;> simp_all [isReliable, lossy]

theorem TimersKept.pending {s : Session} (h : TimersKept s) : s.TimersPending := by
  intro st hst
  obtain ⟨-, ha, hd⟩ := h st hst
  refine ⟨fun ⟨hm, hs⟩ => ⟨ha.inviteTimeout hm hs, fun ⟨hu, hb⟩ => ?_⟩,
    fun ⟨hm, hs⟩ => ⟨ha.timeout hm (.inr ⟨hm, .inl hs⟩), fun hu => ⟨?_, ha.noE2 hm hs⟩⟩,
    fun ⟨hm, hs⟩ => ⟨ha.timeout hm (.inr ⟨hm, .inr hs⟩), fun hu => ?_⟩⟩
  · exact ha.inviteResend hm hs hb (lossy_of_overUnreliable hu hd)
  · exact ha.tryingResend hm hs (lossy_of_overUnreliable hu hd)
  · exact ha.proceedingResend hm hs (lossy_of_overUnreliable hu hd)

/-- The step of the invariant: every event that loses no timer keeps it. -/
theorem TimersKept.step {s : Session} {st : TransactionState} {env : Env} {ev : SessionEvent}
    {f : Frame} {x : ClientEffect} {v' : ClientView} (hp : TimersKept s) (hs : s.tx = some st)
    (hv : st.clientView.WellFormed) (he : s.enabled (env, ev)) (hok : ¬ losesTimers s (env, ev))
    (hstep : ClientStep env st.clientView (clientCause st ev) x v') (hf : f.Shows x v') :
    TimersKept ((s.pop ev).absorb f) := by
  intro st' hst'
  obtain ⟨hx, rfl⟩ := Session.absorb_tx hf hst'
  obtain ⟨hr, ha, hd⟩ := hp st hs
  have hok' : ¬ st.losesTimers s.pending (env, ev) := fun h => hok ⟨st, hs, h⟩
  have hsame : sameDestination st.clientView (clientCause st ev) := by
    apply sameDestination_of_event
    by_contra hne
    exact hok' (.inr (.inr (by simpa using hne)))
  have hcount : ∀ type, type ≠ .tcpConnectTimer →
      s.pending type = (s.pop ev).pending type + (clientCause st ev).fires type :=
    fun type ht => Session.pending_pop st he ht
  refine ⟨hstep.routed hx hv hr hsame, ?_, ?_⟩
  · rw [Session.pending_shown hf]
    exact hstep.armed hx hv hr hsame ha hcount (timersFit_of_event hv hcount hok')
  · rcases hstep.target hv hr hsame with ht | ⟨htakes, ht⟩
    · rw [ht]
      exact hd
    · rw [ht]
      intro hdtls
      exact hok' (.inr (.inl ⟨TransactionState.takesTarget_of_view hv htakes, .inl hdtls⟩))

/-- Created for a request of the TU. -/
def Birth.isClient : Birth → Bool
  | .clientInvite _ _ _ _ | .clientNonInvite _ _ _ _ | .clientCancel _ _ _ _ => true
  | _ => false

theorem Birth.client_birth (cfg : Config) {b : Birth} (h : b.isClient) :
    ∃ v armed, ClientBirth cfg b v armed := by
  cases b with
  | clientInvite env sip tid tu => exact ⟨_, _, .invite env sip tid tu⟩
  | clientNonInvite env sip tid tu => exact ⟨_, _, .nonInvite env sip tid tu⟩
  | clientCancel env cancel invite request => exact ⟨_, _, .cancel env cancel invite request⟩
  | _ => simp [isClient] at h

/-- In every run of a client transaction in which each failover and DNS result finds the timers
its target needs and none leads to DTLS, a timeout is pending, and over an unreliable transport
exactly one timer that resends the request. -/
theorem client_timersPending (cfg : Config) (b : Birth) (hb : b.valid) (hc : b.isClient)
    (hd : b.overDtls = false) {s : Session}
    (hr : Reach (sessions cfg b) (fun s e => ¬ losesTimers s e) s) : s.TimersPending := by
  obtain ⟨v, armed, hbirth⟩ := Birth.client_birth cfg hc
  refine TimersKept.pending (client_induction hbirth hb ?_ ?_ ?_ ?_ hr).1
  · intro f armed' v' hs hf st hst
    obtain ⟨-, rfl⟩ := Session.absorb_tx hf hst
    refine ⟨hbirth.routed hb hs, ?_, hbirth.target hd hs⟩
    rw [Session.born, Session.pending_shown hf]
    simpa [Session.pending] using hbirth.armed hs
  · intro s env t t' hp ht hpost st hst
    obtain ⟨hroute, ha, hdtls⟩ := hp st hst
    refine ⟨hroute, ?_, hdtls⟩
    rw [funext (Session.pending_postponed ht hpost)]
    exact ha
  · intro s timers hp hnone st hst
    cases hnone.symm.trans hst
  · intro s st env ev f x v' hp hs hv he hok hstep hf
    exact hp.step hs hv he hok hstep hf

/-- DNS names a target over `type`. -/
def sampleDns (type : TransportType) : Env :=
  { sampleEnv with dnsAvailable := .available, dnsNext := sampleTuple type 0 }

/-- An INVITE that rings at one UDP target and fails over to the next. -/
theorem client_timersPending_failover :
    ∃ s : Session, s.tx.map (·.mState) = some .calling ∧ s.TimersPending := by
  have hr : Reach (sessions {} (sampleClientInvite .unset)) (fun s e => ¬ losesTimers s e) _ :=
    .run (.init rfl) [(sampleDns .udp, .message (.dnsResultMessage sampleBranch true)),
      (sampleEnv, .message (.sip (sampleResponse .invite 180))),
      (sampleDns .udp, .message (.transportFailure sampleBranch .failure 0))] (by decide)
  exact ⟨_, by decide, client_timersPending _ _ (by decide) (by decide) (by decide) hr⟩

/-- The timeout of an INVITE passes while it rings; a failover then puts it back to Calling
without one. -/
theorem clientInvite_calling_without_timeout :
    ¬ ∀ s, Reach (sessions {} (sampleClientInvite .unset)) anyStep s → s.TimersPending := by
  intro h
  have h := h _ (.run (.init rfl)
    [(sampleDns .udp, .message (.dnsResultMessage sampleBranch true)),
      (sampleEnv, .message (.sip (sampleResponse .invite 180))),
      (sampleEnv, .timer ⟨.timerB, sampleBranch, 32000⟩),
      (sampleDns .udp, .message (.transportFailure sampleBranch .failure 0))] (by decide))
  revert h
  decide

end Resiprocate.Transaction
