import Resiprocate.TransactionServerSteps

/-! The server state machines follow `ServerStep`, and always have something to send when
they send. -/
namespace Resiprocate.Transaction
open ServerView

/-- A frame has the effect `x` and leaves a transaction that lives on as `v`. -/
structure Frame.ServerShows (f : Frame) (x : ServerEffect) (v : ServerView) : Prop where
  view : x.gone = false → f.self.serverView = v
  armed : f.out.timers.map (·.type) = x.armed
  wire : f.out.wire.map (·.data) = x.wire
  deleted : f.deleted = x.gone
  sound : f.sound

/-- A step that follows what was done before. -/
def ServerEffect.andThen (x y : ServerEffect) : ServerEffect :=
  ⟨x.armed ++ y.armed, x.wire ++ y.wire, y.gone⟩

theorem ServerEffect.andThen_nil {x : ServerEffect} (hx : x.gone = false) :
    x.andThen ⟨[], [], false⟩ = x := by
  simp [andThen, ← hx]

/-- The frame is the result of a step that `ServerStep` allows, after the effect `x`. -/
def Frame.ServerDoes (f : Frame) (x : ServerEffect) (v : ServerView) (e : ServerCause) : Prop :=
  ∃ y v', ServerStep v e y v' ∧ f.ServerShows (x.andThen y) v'

namespace ServerView.Sent
variable {v v' : ServerView} {wire : List SipMessage}

theorem setState (h : v.Sent wire v') (s : State) :
    { v with state := s }.Sent wire { v' with state := s } := by
  cases h with
  | resent h => exact .resent h
  | sent h hn hq => exact .sent h hn hq
  | unsent h hn => exact .unsent h hn

theorem setMachine (h : v.Sent wire v') (m : Machine) :
    { v with machine := m }.Sent wire { v' with machine := m } := by
  cases h with
  | resent h => exact .resent h
  | sent h hn hq => exact .sent h hn hq
  | unsent h hn => exact .unsent h hn

theorem setAckValid (h : v.Sent wire v') (b : Bool) :
    { v with ackValid := b }.Sent wire { v' with ackValid := b } := by
  cases h with
  | resent h => exact .resent h
  | sent h hn hq => exact .sent h hn hq
  | unsent h hn => exact .unsent h hn

end ServerView.Sent

namespace Frame
variable (cfg : Config) (env : Env) {f : Frame}

theorem fresh.serverShows (hf : f.fresh) : f.ServerShows ⟨[], [], false⟩ f.self.serverView :=
  ⟨fun _ => rfl, by simp [hf.timers], by simp [hf.wire], hf.deleted, hf.sound⟩

namespace ServerShows
variable {x : ServerEffect} {v v' : ServerView}

/-- A change to the record alone. -/
theorem record {g : Frame} (h : f.ServerShows x v)
    (hv : x.gone = false → f.self.serverView = v → g.self.serverView = v')
    (ho : g.out = f.out) (hd : g.deleted = f.deleted) : g.ServerShows x v' :=
  ⟨fun hx => hv hx (h.view hx), by rw [ho]; exact h.armed, by rw [ho]; exact h.wire,
    hd.trans h.deleted, by simpa [Frame.sound, ho] using h.sound⟩

theorem setState (h : f.ServerShows x v) (s : State) :
    (f.setState s).ServerShows x { v with state := s } :=
  h.record (by rintro - rfl; rfl) rfl rfl

theorem setAbandoned (h : f.ServerShows x v) (b : Bool) :
    (f.setAbandoned b).ServerShows x { v with abandoned := b } :=
  h.record (by rintro - rfl; rfl) rfl rfl

theorem setAckIsValid (h : f.ServerShows x v) :
    f.setAckIsValid.ServerShows x { v with ackValid := true } :=
  h.record (by rintro - rfl; rfl) rfl rfl

theorem setMachine (h : f.ServerShows x v) (m : Machine) :
    ({ f with self := { f.self with mMachine := m } } : Frame).ServerShows x
      { v with machine := m } :=
  h.record (by rintro - rfl; rfl) rfl rfl

theorem resetNextTransmission (h : f.ServerShows x v) (m : Option SipMessage) :
    (f.resetNextTransmission m).ServerShows x { v with next := m, retransmit := none } :=
  h.record (by rintro - rfl; rfl) rfl rfl

theorem assertThat (h : f.ServerShows x v) (b : Bool) (site : Site)
    (hs : site ≠ .sendCurrentToWireNothing) : (f.assertThat b site).ServerShows x v :=
  ⟨fun hx => by simpa using h.view hx, by simpa using h.armed, by simpa using h.wire,
    by simpa using h.deleted, h.sound.assertThat b site hs⟩

theorem fault (h : f.ServerShows x v) {y : Fault} (hy : ¬ y.fatal) :
    (f.fault y).ServerShows x v :=
  ⟨fun hx => by simpa using h.view hx, by simpa using h.armed, by simpa using h.wire,
    by simpa using h.deleted, h.sound.fault hy⟩

theorem addTimer (h : f.ServerShows x v) (type : TimerType) (ms : ℕ) :
    (f.addTimer type ms).ServerShows { x with armed := x.armed ++ [type] } v :=
  ⟨fun hx => by simpa using h.view hx, by simp [h.armed], by simpa using h.wire,
    by simpa using h.deleted, by simpa [Frame.sound] using h.sound⟩

theorem startResponseTimers (h : f.ServerShows x v) (hx : x.gone = false) :
    (f.startResponseTimers cfg).ServerShows { x with armed := x.armed ++ v.responseTimers } v := by
  have h₁ := h.addTimer .timerH cfg.timers.TH
  have hr : f.self.mIsReliable = v.reliable := congrArg ServerView.reliable (h.view hx)
  unfold Frame.startResponseTimers responseTimers
  simp only [addTimer_frame, hr]
  cases v.reliable with
  | true => exact h₁
  | false => simpa using h₁.addTimer .timerG cfg.timers.T1

theorem postToTU (h : f.ServerShows x v) (m : SipMessage) : (f.postToTU m).ServerShows x v :=
  ⟨fun hx => by simpa using h.view hx, by simpa using h.armed, by simpa using h.wire,
    by simpa using h.deleted, by simpa [Frame.sound] using h.sound⟩

/-- The end of the transaction. -/
theorem terminate (h : f.ServerShows x v) (v' : ServerView) :
    (f.terminateServerTransaction env).delete.ServerShows { x with gone := true } v' :=
  ⟨nofun, by simpa using h.armed, by simpa using h.wire, by simp,
    by simpa [Frame.sound] using h.sound⟩

end ServerShows

/-! ### Sending -/

theorem transmit_sent {sip : SipMessage} (target : Tuple)
    (hn : f.self.mNextTransmission = some sip) (hr : f.self.mMsgToRetransmit = none)
    (hq : sip.isRequest = false) :
    ∃ wire v', f.self.serverView.Sent wire v' ∧ (f.transmit env sip target).self.serverView = v' ∧
      (f.transmit env sip target).out.wire.map (·.data) = f.out.wire.map (·.data) ++ wire := by
  have hnone : f.self.serverView.retransmit = none := by simp [TransactionState.serverView, hr]
  cases ht : env.findTransport sip target with
  | true =>
    refine ⟨_, _, .sent hnone hn hq, ?_, by simp [transmit_wire, ht]⟩
    cases hrel : f.self.mIsReliable <;>
      simp [transmit_self, ht, hq, hrel, hr, TransactionState.serverView]
  | false =>
    refine ⟨_, _, .unsent hnone hn, ?_, by simp [transmit_wire, ht]⟩
    simp [transmit_self, ht, TransactionState.serverView]

theorem sendFromServer_sent {sip : SipMessage} (hn : f.self.mNextTransmission = some sip)
    (hr : f.self.mMsgToRetransmit = none) (hq : sip.isRequest = false) (hf : f.sound) :
    ∃ wire v', f.self.serverView.Sent wire v' ∧
      (f.sendFromServer env sip).self.serverView = v' ∧
      (f.sendFromServer env sip).out.wire.map (·.data) = f.out.wire.map (·.data) ++ wire ∧
      (f.sendFromServer env sip).out.timers = f.out.timers ∧ (f.sendFromServer env sip).sound := by
  have hsound := hf.assertThat (!f.self.mDnsResult) .serverDns (by simp)
  have key : ∀ (g : Frame) (target : Tuple), g.self.serverView = f.self.serverView →
      g.self.mNextTransmission = some sip → g.self.mMsgToRetransmit = none →
      g.out = (f.assertThat (!f.self.mDnsResult) .serverDns).out →
      ∃ wire v', f.self.serverView.Sent wire v' ∧
        (g.transmit env sip target).self.serverView = v' ∧
        (g.transmit env sip target).out.wire.map (·.data) = f.out.wire.map (·.data) ++ wire ∧
        (g.transmit env sip target).out.timers = f.out.timers ∧
        (g.transmit env sip target).sound := by
    intro g target hv hn hr hout
    obtain ⟨wire, v', hsent, hself, hwire⟩ := transmit_sent env target hn hr hq
    refine ⟨wire, v', hv ▸ hsent, hself, ?_, ?_, ?_⟩
    · rw [hwire, hout]
      simp
    · simp [hout]
    · simpa [Frame.sound, hout] using hsound
  unfold sendFromServer
  dsimp only
  split
  · exact key _ _ (by simp) (by simpa using hn) (by simpa using hr) rfl
  · split
    · exact key _ _ (by simp [TransactionState.serverView]) (by simpa using hn)
        (by simpa using hr) rfl
    · exact key _ _ (by simp) (by simpa using hn) (by simpa using hr) rfl

/-- `sendCurrentToWire` of a server transaction that has something to send. -/
theorem ServerShows.sent {x : ServerEffect} {v : ServerView} (h : f.ServerShows x v)
    (hx : x.gone = false) (hc : v.machine.isClient = false)
    (hw : v.next ≠ none ∨ v.retransmit ≠ none) (hq : ∀ m, v.next = some m → m.isRequest = false) :
    ∃ wire v', v.Sent wire v' ∧
      (f.sendCurrentToWire cfg env).ServerShows { x with wire := x.wire ++ wire } v' := by
  have hv := h.view hx
  subst hv
  have hc' : f.self.isClient = false := hc
  have hd := h.deleted
  unfold sendCurrentToWire
  split
  case h_1 data hdata =>
    refine ⟨_, _, .resent (m := data.data) (by simp [TransactionState.serverView, hdata]),
      fun _ => rfl, by simpa using h.armed, by simp [h.wire], h.deleted, h.sound⟩
  case h_2 hnone =>
    split
    case h_1 sip hn =>
      rw [if_neg (by simp [hc'])]
      obtain ⟨wire, v', hsent, hself, hwire, htimers, hsound⟩ :=
        sendFromServer_sent env hn hnone (hq sip hn) h.sound
      refine ⟨wire, v', hsent, fun _ => hself, by rw [htimers]; exact h.armed, ?_, ?_, hsound⟩
      · rw [hwire, h.wire]
      · have := (sendCurrentToWire_frame cfg env f).1
        simpa [sendCurrentToWire, hnone, hn, hc'] using this.trans hd
    case h_2 hn => simp [TransactionState.serverView, hn, hnone] at hw

/-- A message that replaces the current one is sent. -/
theorem ServerShows.storing_sent {x : ServerEffect} {v : ServerView} (h : f.ServerShows x v)
    (hx : x.gone = false) (hc : v.machine.isClient = false) {m : SipMessage}
    (hq : m.isRequest = false) :
    ∃ wire v', (v.storing m).Sent wire v' ∧
      ((f.resetNextTransmission (some m)).sendCurrentToWire cfg env).ServerShows
        { x with wire := x.wire ++ wire } v' := by
  refine (h.resetNextTransmission (some m)).sent cfg env hx hc (.inl (by simp)) ?_
  rintro m' ⟨⟩
  exact hq

/-- A failure response of an INVITE transaction is sent, and its timers are started. -/
theorem ServerShows.failure_sent {x : ServerEffect} {v : ServerView} (h : f.ServerShows x v)
    (hx : x.gone = false) (hc : v.machine.isClient = false) {m : SipMessage}
    (hq : m.isRequest = false) :
    ∃ wire v', ({ v with state := .completed }.storing m).Sent wire v' ∧
      ((((f.resetNextTransmission (some m)).setState .completed).startResponseTimers
        cfg).sendCurrentToWire cfg env).ServerShows
        ⟨x.armed ++ v.responseTimers, x.wire ++ wire, false⟩ v' := by
  have h₁ := ((h.resetNextTransmission (some m)).setState .completed).startResponseTimers cfg hx
  obtain ⟨wire, v', hsent, hshows⟩ := h₁.sent cfg env hx hc (.inl (by simp)) (by
    rintro m' ⟨⟩
    exact hq)
  exact ⟨wire, v', hsent, hx ▸ hshows⟩

/-! ### The state machines -/

section Handlers

variable {x : ServerEffect} {v : ServerView} (h : f.ServerShows x v) (hx : x.gone = false)
  (hv : v.WellFormed)
include h hx

/-- Nothing is done. -/
theorem ServerShows.idle {e : ServerCause} (he : ¬ v.heeds e) :
    f.ServerDoes x v e := by
  refine ⟨_, _, .ignored he, ?_⟩
  rwa [ServerEffect.andThen_nil hx]

include hv

theorem serverNonInviteRequest_does (hm : v.machine = .serverNonInvite)
    (hr : v.reliable = false) (sip : SipMessage) :
    (f.serverNonInviteRequest cfg env sip).ServerDoes x v .request := by
  obtain rfl := h.view hx
  have hc : f.self.serverView.machine.isClient = false := by rw [hm]; rfl
  have hidle : f.ServerDoes x f.self.serverView .request := h.idle hx id
  unfold serverNonInviteRequest
  by_cases ht : f.self.mState = .trying
  · rwa [if_pos ht]
  rw [if_neg ht]
  by_cases hs : f.self.mState = .proceeding ∨ f.self.mState = .completed
  · rw [if_pos hs]
    by_cases ha : f.self.mIsAbandoned = true
    · rw [if_pos ha]
      have h₁ := (h.assertThat (decide (f.self.mState = .completed)) .serverNonInviteAbandoned
        (by simp)).setAbandoned false
      obtain ⟨wire, v', hsent, hshows⟩ := h₁.storing_sent cfg env hx hc
        (m := makeResponse sip 500 env.computeTag "") rfl
      exact ⟨_, _, .nonInviteForged hm ha hs hr rfl hsent, by
        simpa [ServerEffect.andThen, hx] using hshows⟩
    · rw [if_neg ha]
      -- a 100 is only made up when nothing is stored
      have hstored := hv.stored hr (by rcases hs with hs | hs <;> simp [hs])
      have hne : ¬ (f.self.mMsgToRetransmit = none ∧ f.self.mNextTransmission = none) := by
        rintro ⟨h₁, h₂⟩
        simp [h₁, h₂] at hstored
      dsimp only
      rw [if_neg hne]
      obtain ⟨wire, v', hsent, hshows⟩ := h.sent cfg env hx hc hstored hv.response
      exact ⟨_, _, .answeredAgain (.inr hm) hs (by simpa using ha) hr hsent, by
        simpa [ServerEffect.andThen, hx] using hshows⟩
  · rw [if_neg hs]
    rcases hv.nonInvite_states hm with h | h <;> simp_all

theorem serverNonInviteProvisional_does (hm : v.machine = .serverNonInvite) {sip : SipMessage}
    (hq : sip.isRequest = false) (hcode : sip.statusCode < 200) :
    (f.serverNonInviteProvisional cfg env sip).ServerDoes x v (.response sip) := by
  obtain rfl := h.view hx
  have hc : f.self.serverView.machine.isClient = false := by rw [hm]; rfl
  unfold serverNonInviteProvisional
  by_cases hs : f.self.mState = .trying ∨ f.self.mState = .proceeding
  · rw [if_pos hs]
    change (((f.setState .proceeding).resetNextTransmission (some sip)).sendCurrentToWire cfg
      env).ServerDoes _ _ _
    obtain ⟨wire, v', hsent, hshows⟩ := (h.setState .proceeding).storing_sent cfg env hx hc hq
    exact ⟨_, _, .provisional ⟨.inr hm, hs⟩ hq hcode hsent, by
      simpa [ServerEffect.andThen, hx] using hshows⟩
  · rw [if_neg hs]
    exact h.idle hx id

theorem serverNonInviteFinal_does (hm : v.machine = .serverNonInvite) {sip : SipMessage}
    (hq : sip.isRequest = false) (hcode : 200 ≤ sip.statusCode) :
    (f.serverNonInviteFinal cfg env sip).ServerDoes x v (.response sip) := by
  obtain rfl := h.view hx
  have hc : f.self.serverView.machine.isClient = false := by rw [hm]; rfl
  unfold serverNonInviteFinal
  by_cases hr : f.self.mIsReliable = true
  · rw [if_pos hr]
    obtain ⟨wire, v', hsent, hshows⟩ := h.storing_sent cfg env hx hc hq
    exact ⟨_, _, .finalReliable hm hr hq hcode hsent, by
      simpa [ServerEffect.andThen, hx] using hshows.terminate env v'⟩
  rw [if_neg hr]
  by_cases hs : f.self.mState = .trying ∨ f.self.mState = .proceeding
  · rw [if_pos hs]
    have h₁ := (h.setState .completed).addTimer .timerJ (64 * cfg.timers.T1)
    obtain ⟨wire, v', hsent, hshows⟩ := h₁.storing_sent cfg env hx hc hq
    exact ⟨_, _, .final ⟨.inr hm, hs⟩ hm (by simpa using hr) hq hcode hsent, by
      simpa [ServerEffect.andThen, hx] using hshows⟩
  · rw [if_neg hs]
    exact (h.assertThat _ _ (by simp)).idle hx id

theorem serverNonInviteTimer_does (hm : v.machine = .serverNonInvite) (t : TransactionTimer) :
    (f.serverNonInviteTimer cfg env t).ServerDoes x v (.timer t.type) := by
  obtain rfl := h.view hx
  have hc : f.self.serverView.machine.isClient = false := by rw [hm]; rfl
  have hidle : ∀ type, ¬ f.self.serverView.expires type →
      f.ServerDoes x f.self.serverView (.timer type) := fun type ht => h.idle hx ht
  have hm' : f.self.mMachine = .serverNonInvite := hm
  cases htype : t.type with
  | timerJ =>
    simp only [serverNonInviteTimer, htype]
    by_cases hs : f.self.mState = .completed
    · rw [if_pos hs]
      exact ⟨_, _, .expired ⟨hm, hs⟩, by
        simpa [ServerEffect.andThen, hx] using h.terminate env f.self.serverView⟩
    · rw [if_neg hs]
      exact hidle _ (by simp [expires, hs])
  | timerTrying =>
    simp only [serverNonInviteTimer, htype]
    by_cases hs : f.self.mState = .trying
    · rw [if_pos hs]
      have hn := hv.trying ⟨.inr hm, .inl hs⟩ hs
      obtain ⟨wire, v', hsent, hshows⟩ := h.sent cfg env hx hc (.inl hn) hv.response
      exact ⟨_, _, .tried (.inr hm) hs (hsent.setState .proceeding), by
        simpa [ServerEffect.andThen, hx] using hshows.setState .proceeding⟩
    · rw [if_neg hs]
      exact hidle _ (by simp [expires])
  | _ =>
    simp only [serverNonInviteTimer, htype]
    exact hidle _ (by simp [expires, hm'])

theorem serverNonInviteAbandon_does (hm : v.machine = .serverNonInvite) :
    (f.serverNonInviteAbandon cfg env).ServerDoes x v .abandon := by
  obtain rfl := h.view hx
  unfold serverNonInviteAbandon
  by_cases hs : f.self.mState = .trying ∨ f.self.mState = .proceeding
  · rw [if_pos hs]
    have h₁ := h.setAbandoned true
    by_cases hr : f.self.mIsReliable = true
    · simp only [setAbandoned_self, hr, if_true]
      exact ⟨_, _, .abandonedReliable ⟨.inr hm, hs⟩ hr, by
        simpa [ServerEffect.andThen, hx] using h₁.terminate env f.self.serverView⟩
    · simp only [setAbandoned_self, hr]
      have h₂ := (h₁.setState .completed).addTimer .timerJ (64 * cfg.timers.T1)
      exact ⟨_, _, .abandonedTimed ⟨.inr hm, hs⟩ hm (by simpa using hr), by
        simpa [ServerEffect.andThen, hx] using h₂⟩
  · rw [if_neg hs]
    exact h.idle hx fun ha => hs ha.1.2

theorem serverInviteRetransmission_does (hm : v.machine = .serverInvite)
    (hr : v.reliable = false) (sip : SipMessage) :
    (f.serverInviteRetransmission cfg env sip).ServerDoes x v .request := by
  obtain rfl := h.view hx
  have hc : f.self.serverView.machine.isClient = false := by rw [hm]; rfl
  unfold serverInviteRetransmission
  by_cases ha : f.self.mIsAbandoned = true
  · rw [if_pos ha]
    obtain ⟨wire, v', hsent, hshows⟩ := (h.setAbandoned false).setAckIsValid.failure_sent cfg env
      hx hc (m := makeResponse sip 500 env.computeTag "") rfl
    exact ⟨_, _, .inviteForged hm ha hr rfl rfl hsent, hshows⟩
  rw [if_neg ha]
  by_cases hs : f.self.mState = .proceeding ∨ f.self.mState = .completed
  · rw [if_pos hs]
    have hstored := hv.stored hr (by rcases hs with hs | hs <;> simp [hs])
    have hne : ¬ (f.self.mMsgToRetransmit = none ∧ f.self.mNextTransmission = none) := by
      rintro ⟨h₁, h₂⟩
      simp [h₁, h₂] at hstored
    dsimp only
    rw [if_neg hne]
    obtain ⟨wire, v', hsent, hshows⟩ := h.sent cfg env hx hc hstored hv.response
    exact ⟨_, _, .answeredAgain (.inl hm) hs (by simpa using ha) hr hsent, by
      simpa [ServerEffect.andThen, hx] using hshows⟩
  · rw [if_neg hs]
    exact h.idle hx id

theorem serverInviteAck_does (hm : v.machine = .serverInvite) :
    (f.serverInviteAck cfg env).ServerDoes x v .ack := by
  obtain rfl := h.view hx
  unfold serverInviteAck
  by_cases hs : f.self.mState = .completed
  · rw [if_pos hs]
    by_cases hr : f.self.mIsReliable = true
    · rw [if_pos hr]
      exact ⟨_, _, .ackedReliable hm hs hr, by
        simpa [ServerEffect.andThen, hx] using h.terminate env f.self.serverView⟩
    · rw [if_neg hr]
      have h₁ := ((h.setState .confirmed).addTimer .timerI cfg.timers.T4).resetNextTransmission none
      exact ⟨_, _, .acked hm hs (by simpa using hr), by
        simpa [ServerEffect.andThen, hx] using h₁⟩
  · rw [if_neg hs]
    exact h.idle hx id

theorem serverInviteProvisional_does (hm : v.machine = .serverInvite) {sip : SipMessage}
    (hq : sip.isRequest = false) (hcode : sip.statusCode < 200) :
    (f.serverInviteProvisional cfg env sip).ServerDoes x v (.response sip) := by
  obtain rfl := h.view hx
  have hc : f.self.serverView.machine.isClient = false := by rw [hm]; rfl
  unfold serverInviteProvisional
  by_cases hs : f.self.mState = .trying ∨ f.self.mState = .proceeding
  · rw [if_pos hs]
    change (((f.setState .proceeding).resetNextTransmission (some sip)).sendCurrentToWire cfg
      env).ServerDoes _ _ _
    obtain ⟨wire, v', hsent, hshows⟩ := (h.setState .proceeding).storing_sent cfg env hx hc hq
    exact ⟨_, _, .provisional ⟨.inl hm, hs⟩ hq hcode hsent, by
      simpa [ServerEffect.andThen, hx] using hshows⟩
  · rw [if_neg hs]
    exact h.idle hx id

theorem serverInviteSuccess_does (hm : v.machine = .serverInvite) {sip : SipMessage}
    (hq : sip.isRequest = false) (hcode : 200 ≤ sip.statusCode ∧ sip.statusCode < 300) :
    (f.serverInviteSuccess cfg env sip).ServerDoes x v (.response sip) := by
  obtain rfl := h.view hx
  have hc : f.self.serverView.machine.isClient = false := by rw [hm]; rfl
  unfold serverInviteSuccess
  by_cases hs : f.self.mState = .trying ∨ f.self.mState = .proceeding
  · rw [if_pos hs]
    obtain ⟨wire, v', hsent, hshows⟩ := h.storing_sent cfg env hx hc hq
    exact ⟨_, _, .success ⟨.inl hm, hs⟩ hm hq hcode (hsent.setMachine .serverStale), by
      simpa [ServerEffect.andThen, hx] using
        (hshows.setMachine .serverStale).addTimer .timerStaleServer cfg.timers.TS⟩
  · rw [if_neg hs]
    exact h.idle hx id

theorem serverInviteFailure_does (hm : v.machine = .serverInvite) {sip : SipMessage}
    (hq : sip.isRequest = false) (hcode : 300 ≤ sip.statusCode) :
    (f.serverInviteFailure cfg env sip).ServerDoes x v (.response sip) := by
  obtain rfl := h.view hx
  have hc : f.self.serverView.machine.isClient = false := by rw [hm]; rfl
  unfold serverInviteFailure
  by_cases hs : f.self.mState = .trying ∨ f.self.mState = .proceeding
  · rw [if_pos hs]
    obtain ⟨wire, v', hsent, hshows⟩ := h.setAckIsValid.failure_sent cfg env hx hc hq
    exact ⟨_, _, .failure ⟨.inl hm, hs⟩ hm hq hcode hsent, hshows⟩
  · rw [if_neg hs]
    exact h.idle hx id

theorem serverInviteTimer_does (hm : v.machine = .serverInvite) (t : TransactionTimer)
    (hg : t.type = .timerG → v.reliable = false) :
    (f.serverInviteTimer cfg env t).ServerDoes x v (.timer t.type) := by
  obtain rfl := h.view hx
  have hc : f.self.serverView.machine.isClient = false := by rw [hm]; rfl
  have hidle : ∀ type, ¬ f.self.serverView.expires type →
      f.ServerDoes x f.self.serverView (.timer type) := fun type ht => h.idle hx ht
  have hexpired : ∀ type, f.self.serverView.expires type →
      (f.terminateServerTransaction env).delete.ServerDoes x f.self.serverView (.timer type) := by
    intro type ht
    exact ⟨_, _, .expired ht, by
      simpa [ServerEffect.andThen, hx] using h.terminate env f.self.serverView⟩
  cases htype : t.type with
  | timerG =>
    simp only [serverInviteTimer, htype]
    by_cases hs : f.self.mState = .completed
    · rw [if_pos hs]
      have hstored := hv.stored (hg htype) (by simp [hs])
      obtain ⟨wire, v', hsent, hshows⟩ := h.sent cfg env hx hc hstored hv.response
      exact ⟨_, _, .repeated hm hs (hg htype) hsent, by
        simpa [ServerEffect.andThen, hx] using
          hshows.addTimer .timerG (min cfg.timers.T2 (t.duration * 2))⟩
    · rw [if_neg hs]
      exact hidle _ (by simp [expires])
  | timerH =>
    simp only [serverInviteTimer, htype]
    exact hexpired _ hm
  | timerI =>
    simp only [serverInviteTimer, htype]
    exact hexpired _ hm
  | timerTrying =>
    simp only [serverInviteTimer, htype]
    by_cases hs : f.self.mState = .trying
    · rw [if_pos hs]
      have hn := hv.trying ⟨.inl hm, .inl hs⟩ hs
      obtain ⟨wire, v', hsent, hshows⟩ := h.sent cfg env hx hc (.inl hn) hv.response
      exact ⟨_, _, .tried (.inl hm) hs (hsent.setState .proceeding), by
        simpa [ServerEffect.andThen, hx] using hshows.setState .proceeding⟩
    · rw [if_neg hs]
      exact hidle _ (by simp [expires])
  | _ =>
    have hm' : f.self.mMachine = .serverInvite := hm
    simp only [serverInviteTimer, htype]
    exact (h.fault (by simp [Fault.fatal])).idle hx (by simp [heeds, expires, hm'])

theorem serverInviteAbandon_does (hm : v.machine = .serverInvite) :
    (f.serverInviteAbandon cfg env).ServerDoes x v .abandon := by
  obtain rfl := h.view hx
  have hc : f.self.serverView.machine.isClient = false := by rw [hm]; rfl
  unfold serverInviteAbandon
  by_cases hs : (f.self.mState = .trying ∨ f.self.mState = .proceeding) ∧ !f.self.mIsAbandoned
  · rw [if_pos hs]
    have ha : f.self.mIsAbandoned = false := by simpa using hs.2
    cases hn : f.self.mNextTransmission with
    | some sip =>
      have h₁ := h.assertThat (sip.isResponse && decide (sip.statusCode / 100 = 1))
        .abandonResponse (by simp)
      obtain ⟨wire, v', hsent, hshows⟩ := h₁.storing_sent cfg env hx hc
        (m := { sip with startLine := .response 500 "Server Error" }) rfl
      have h₂ := (hshows.setAckIsValid.setState .completed).startResponseTimers cfg hx
      have hsent' := (hsent.setAckValid true).setState .completed
      have htimers : { v' with ackValid := true, state := .completed }.responseTimers =
          f.self.serverView.responseTimers := by simp [responseTimers, hsent.frame, storing]
      rw [htimers] at h₂
      exact ⟨_, _, .abandonedAnswered ⟨.inl hm, hs.1⟩ hm ha hn rfl rfl hsent', by
        simpa [ServerEffect.andThen, hx] using h₂⟩
    | none =>
      dsimp only
      by_cases hr : f.self.mIsReliable = true
      · rw [if_pos hr]
        exact ⟨_, _, .abandonedReliable ⟨.inl hm, hs.1⟩ hr, by
          simpa [ServerEffect.andThen, hx] using h.terminate env f.self.serverView⟩
      · rw [if_neg hr]
        exact ⟨_, _, .abandonedWaiting ⟨.inl hm, hs.1⟩ hm ha hn (by simpa using hr), by
          rw [ServerEffect.andThen_nil hx]
          exact h.setAbandoned true⟩
  · rw [if_neg hs]
    exact h.idle hx fun ha => hs ⟨ha.1.2, by simpa using ha.2 hm⟩

/-- A DNS result means nothing to a server transaction. -/
theorem handleSync_serverDoes : (f.handleSync cfg env).ServerDoes x v .other := by
  obtain rfl := h.view hx
  have hp : f.self.mPendingOperation = .none := hv.pending
  simp only [handleSync, hp]
  exact h.idle hx id

end Handlers

end Frame

/-- A SIP message as the cause of a step. -/
def serverSipCause (m : SipMessage) : ServerCause :=
  if m.isRequest then (if m.method = .ack then .ack else .request) else .response m

theorem serverSipCause_heeds (v : ServerView) (m : SipMessage) :
    ¬ v.heeds (serverSipCause m) := by
  unfold serverSipCause
  repeat' split
  all_goals exact id

namespace Frame
variable (cfg : Config) (env : Env) {f : Frame} {x : ServerEffect} {v : ServerView}
  (h : f.ServerShows x v) (hx : x.gone = false) (hv : v.WellFormed)
include h hx hv

theorem processServerNonInvite_sip_does (hm : v.machine = .serverNonInvite) (sip : SipMessage)
    (hk : sip.isRequest = true → sip.method ≠ .ack)
    (hr : sip.isRequest = true → v.reliable = false) :
    (f.processServerNonInvite cfg env (.sip sip)).ServerDoes x v (serverSipCause sip) := by
  have hidle : f.ServerDoes x v (serverSipCause sip) :=
    h.idle hx (serverSipCause_heeds v sip)
  cases hq : sip.isRequest with
  | true =>
    simp only [processServerNonInvite, hq, true_and]
    split
    · simp only [serverSipCause, hq, hk hq, if_true, if_false]
      exact serverNonInviteRequest_does cfg env h hx hv hm (hr hq) sip
    · rw [if_neg (by simp [SipMessage.isResponseIn, SipMessage.isResponse, hq])]
      exact hidle
  | false =>
    simp only [processServerNonInvite, hq, Bool.false_eq_true, false_and, if_false]
    have hcause : serverSipCause sip = .response sip := by simp [serverSipCause, hq]
    rw [hcause] at hidle ⊢
    repeat' split
    · exact serverNonInviteProvisional_does cfg env h hx hv hm hq ‹_›
    · exact serverNonInviteFinal_does cfg env h hx hv hm hq (by omega)
    · exact hidle

theorem processServerInvite_sip_does (hm : v.machine = .serverInvite) (sip : SipMessage)
    (hr : sip.isRequest = true → sip.method ≠ .ack → v.reliable = false) :
    (f.processServerInvite cfg env (.sip sip)).ServerDoes x v (serverSipCause sip) := by
  have hidle : f.ServerDoes x v (serverSipCause sip) :=
    h.idle hx (serverSipCause_heeds v sip)
  have hfault : (f.fault (.assertFailed .serverInviteCancel)).ServerDoes x v (serverSipCause sip) :=
    (h.fault (by simp [Fault.fatal])).idle hx (serverSipCause_heeds v sip)
  cases hq : sip.isRequest with
  | true =>
    simp only [processServerInvite, hq, true_and]
    split
    · split
      case h_1 hmethod =>
        simp only [serverSipCause, hq, hmethod, if_true]
        exact serverInviteRetransmission_does cfg env h hx hv hm (hr hq (by simp [hmethod])) sip
      case h_2 hmethod =>
        simp only [serverSipCause, hq, hmethod, if_true]
        exact serverInviteAck_does cfg env h hx hv hm
      case h_3 => exact hfault
      case h_4 => exact hidle
    · rw [if_neg (by simp [SipMessage.isResponseIn, SipMessage.isResponse, hq])]
      exact hidle
  | false =>
    simp only [processServerInvite, hq, Bool.false_eq_true, false_and, if_false]
    have hresponse : serverSipCause sip = .response sip := by simp [serverSipCause, hq]
    split
    · split
      case h_1 =>
        rw [hresponse]
        repeat' split
        · exact serverInviteProvisional_does cfg env h hx hv hm hq ‹_›
        · exact serverInviteSuccess_does cfg env h hx hv hm hq (by omega)
        · exact serverInviteFailure_does cfg env h hx hv hm hq (by omega)
      case h_2 => exact hfault
      case h_3 => exact hidle
    · exact hidle

theorem processServerStale_sip_does (hm : v.machine = .serverStale) (sip : SipMessage)
    (hk : ¬ (sip.isRequest = true ∧ sip.method = .ack)) :
    (f.processServerStale cfg env (.sip sip)).ServerDoes x v (serverSipCause sip) := by
  have hidle : f.ServerDoes x v (serverSipCause sip) :=
    h.idle hx (serverSipCause_heeds v sip)
  simp only [processServerStale, hk, if_false]
  repeat' split
  case isTrue => exact hidle
  case isFalse.isTrue hresp =>
    have hq : sip.isRequest = false := by
      simp only [SipMessage.isResponseIn, SipMessage.isResponse] at hresp
      by_contra hne
      simp [hne] at hresp
    obtain ⟨wire, v', hsent, hshows⟩ := h.storing_sent cfg env hx (by rw [hm]; rfl) hq
    rw [show serverSipCause sip = .response sip by simp [serverSipCause, hq]]
    exact ⟨_, _, .staleResponse hm hq hsent, by simpa [ServerEffect.andThen, hx] using hshows⟩
  case isFalse.isFalse => exact hidle

theorem processServerStale_timer_does (hm : v.machine = .serverStale) (t : TransactionTimer) :
    (f.processServerStale cfg env (.timer t)).ServerDoes x v (.timer t.type) := by
  simp only [processServerStale]
  split
  · rename_i ht
    rw [ht]
    exact ⟨_, _, .expired hm, by simpa [ServerEffect.andThen, hx] using h.terminate env v⟩
  · rename_i ht
    apply h.idle hx
    cases hc : t.type <;> simp_all [heeds, expires]

end Frame

/-! ### A message of the controller -/

/-- What an event means to a server transaction. -/
def serverCause (st : TransactionState) : SessionEvent → ServerCause
  | .message (.sip m) => if st.methodMatches m then serverSipCause m else .other
  | .message (.abandonServerTransaction _) => .abandon
  | .timer t => .timer t.type
  | _ => .other

namespace TransactionState
variable (cfg : Config) (env : Env) (st : TransactionState)

theorem isClient_of_server (hv : st.serverView.WellFormed) : st.isClient = false := by
  have h : st.mMachine = .serverInvite ∨ st.mMachine = .serverNonInvite ∨
      st.mMachine = .serverStale := by
    have := hv.states
    simp only [unanswered, serverView_fields] at this
    tauto
  rcases h with h | h | h <;> simp [isClient, h, Machine.isClient]

theorem receive_sip_serverDoes (hv : st.serverView.WellFormed) {m : SipMessage}
    (ht : st.takes (.sip m)) :
    (st.receive cfg env (.sip m)).ServerDoes ⟨[], [], false⟩ st.serverView
      (serverCause st (.message (.sip m))) := by
  obtain ⟨-, hclient, -, hbad, -⟩ := ht
  have hclient : m.isClientTransaction = false := hclient.trans (st.isClient_of_server hv)
  have hstart := (Frame.fresh_start st).serverShows
  have hexternal : m.isRequest = true → m.isExternal = true := by
    intro hq
    by_contra hne
    simp [SipMessage.isClientTransaction, hq, hne] at hclient
  -- an ACK is only handed to a transaction that has sent a failure response
  have hack : m.isRequest = true → m.method = .ack → st.mMachine = .serverInvite := by
    intro hq hk
    have hvalid : st.mAckIsValid = true := by simpa [isBadAck200, hexternal hq, hq, hk] using hbad
    exact (hv.ack hvalid).1
  have hfix : ¬ (m.isExternal ∧ m.isResponse) := by
    rintro ⟨h₁, h₂⟩
    simp [SipMessage.isClientTransaction, h₁, h₂] at hclient
  simp only [receive, st.fixResponse_eq cfg hfix]
  split
  case isTrue hmatch =>
    rw [show serverCause st (.message (.sip m)) = serverSipCause m from if_pos hmatch.1]
    have hrel : m.isRequest = true → m.method ≠ .ack → st.mIsReliable = false := by
      intro hq hk
      simpa [isReliableRepeat, hexternal hq, hq, hk] using hmatch.2
    have hassert := hstart.assertThat (decide (st.mMachine ≠ .clientInvite) || m.isExternal ||
      !m.isRequest || decide (m.method ≠ .ack)) .clientInviteAck (by simp)
    simp only [Frame.dispatch, Frame.assertThat_frame]
    rw [show (Frame.start st).self = st from rfl]
    have hstates := hv.states
    simp only [unanswered, serverView_fields] at hstates
    split <;> rename_i hmachine
    case h_3 =>
      have hk : m.isRequest = true → m.method ≠ .ack := by
        intro hq hk
        cases hmachine.symm.trans (hack hq hk)
      exact Frame.processServerNonInvite_sip_does cfg env hassert rfl hv hmachine m hk
        fun hq => hrel hq (hk hq)
    case h_4 => exact Frame.processServerInvite_sip_does cfg env hassert rfl hv hmachine m hrel
    case h_7 =>
      refine Frame.processServerStale_sip_does cfg env hassert rfl hv hmachine m ?_
      rintro ⟨hq, hk⟩
      cases hmachine.symm.trans (hack hq hk)
    all_goals simp [hmachine] at hstates
  case isFalse =>
    apply hstart.idle rfl
    simp only [serverCause]
    split
    · exact serverSipCause_heeds _ m
    · exact id

/-- `receive` of any message a server transaction takes. -/
theorem receive_serverDoes (hv : st.serverView.WellFormed) {msg : TransactionMessage}
    (ht : st.takes msg) :
    (st.receive cfg env msg).ServerDoes ⟨[], [], false⟩ st.serverView
      (serverCause st (.message msg)) := by
  have hserver := st.isClient_of_server hv
  have hstart := (Frame.fresh_start st).serverShows
  have hclient : msg.isClientTransaction = false := ht.2.1.trans hserver
  have hstates := hv.states
  simp only [unanswered, serverView_fields] at hstates
  cases msg with
  | sip m => exact st.receive_sip_serverDoes cfg env hv ht
  | abandonServerTransaction tid =>
    simp only [receive, Frame.dispatch, Frame.start]
    split <;> rename_i hmachine
    case h_3 => exact Frame.serverNonInviteAbandon_does cfg env hstart rfl hv hmachine
    case h_4 => exact Frame.serverInviteAbandon_does cfg env hstart rfl hv hmachine
    case h_7 =>
      refine hstart.idle rfl ?_
      rintro ⟨⟨hm, -⟩, -⟩
      have hm : st.mMachine = .serverInvite ∨ st.mMachine = .serverNonInvite := hm
      simp [hmachine] at hm
    all_goals simp [hmachine] at hstates
  | dnsResultMessage tid isClient =>
    simp only [receive, Frame.dispatch, Frame.start]
    split <;> rename_i hmachine
    case h_3 => exact Frame.handleSync_serverDoes cfg env hstart rfl hv
    case h_4 => exact Frame.handleSync_serverDoes cfg env hstart rfl hv
    case h_7 => exact Frame.handleSync_serverDoes cfg env hstart rfl hv
    all_goals simp [hmachine] at hstates
  | timer t => exact absurd ht.2.2 id
  | _ => simp [TransactionMessage.isClientTransaction] at hclient

theorem receive_timer_serverDoes (hv : st.serverView.WellFormed) (t : TransactionTimer)
    (hg : t.type = .timerG → st.mIsReliable = false) :
    (st.receive cfg env (.timer t)).ServerDoes ⟨[], [], false⟩ st.serverView (.timer t.type) := by
  have hstart := (Frame.fresh_start st).serverShows
  have hstates := hv.states
  simp only [unanswered, serverView_fields] at hstates
  simp only [receive, Frame.dispatch, Frame.start]
  split <;> rename_i hmachine
  case h_3 => exact Frame.serverNonInviteTimer_does cfg env hstart rfl hv hmachine t
  case h_4 => exact Frame.serverInviteTimer_does cfg env hstart rfl hv hmachine t hg
  case h_7 => exact Frame.processServerStale_timer_does cfg env hstart rfl hv hmachine t
  all_goals simp [hmachine] at hstates

end TransactionState

end Resiprocate.Transaction
