import Resiprocate.TransactionClientSteps

/-! The client state machines follow `ClientStep`, and run into no null dereference on the
way. -/
namespace Resiprocate.Transaction
open ClientView

/-- A frame has the effect `x` and leaves a transaction that lives on as `v`. -/
structure Frame.Shows (f : Frame) (x : ClientEffect) (v : ClientView) : Prop where
  view : x.gone = false → f.self.clientView = v
  armed : f.out.timers.map (·.type) = x.armed
  handed : (f.out.tu.map (·.statusCode)).Sublist x.handed.toList
  deleted : f.deleted = x.gone
  wire : x.sends = false → f.out.wire = []
  sound : f.sound

/-- The frame is the result of a step that `ClientStep` allows. -/
def Frame.Does (f : Frame) (env : Env) (v : ClientView) (e : ClientCause) : Prop :=
  ∃ x v', ClientStep env v e x v' ∧ f.Shows x v'

namespace Frame
variable (cfg : Config) (env : Env) {f : Frame}

theorem sendToTU_handed (m : SipMessage) (h : f.out.tu = []) :
    ((f.sendToTU cfg env m).out.tu.map (·.statusCode)).Sublist [m.statusCode] := by
  rcases sendToTU_tu cfg env f m with ht | ht
  · simp [ht, h]
  · simp [ht, h, SipMessage.statusCode]

/-! ### Building up an effect -/

theorem fresh.shows (hf : f.fresh) : f.Shows ⟨[], none, false, false⟩ f.self.clientView :=
  ⟨fun _ => rfl, by simp [hf.timers], by simp [hf.tu], hf.deleted, fun _ => hf.wire, hf.sound⟩

namespace Shows
variable {x : ClientEffect} {v v' : ClientView}

/-- A change to the record alone. -/
theorem record {g : Frame} (h : f.Shows x v) (hv : x.gone = false → g.self.clientView = v')
    (ho : g.out = f.out) (hd : g.deleted = f.deleted) : g.Shows x v' :=
  ⟨hv, by rw [ho, h.armed], by rw [ho]; exact h.handed, by rw [hd, h.deleted],
    fun hs => by rw [ho, h.wire hs], by simpa [Frame.sound, ho] using h.sound⟩

theorem setState (h : f.Shows x v) (s : State) : (f.setState s).Shows x { v with state := s } :=
  h.record (fun hx => by rw [← h.view hx]; rfl) rfl rfl

theorem resetNextTransmission (h : f.Shows x v) (m : Option SipMessage) :
    (f.resetNextTransmission m).Shows x { v with next := m, retransmit := none } :=
  h.record (fun hx => by rw [← h.view hx]; rfl) rfl rfl

theorem setAbandoned (h : f.Shows x v) (b : Bool) :
    (f.setAbandoned b).Shows x { v with abandoned := b } :=
  h.record (fun hx => by rw [← h.view hx]; rfl) rfl rfl

theorem clearMsgToRetransmit (h : f.Shows x v) :
    f.clearMsgToRetransmit.Shows x { v with retransmit := none } :=
  h.record (fun hx => by rw [← h.view hx]; rfl) rfl rfl

theorem destroyDnsResult (h : f.Shows x v) (hp : v.pending = .dns → v.dns = true) :
    f.destroyDnsResult.Shows x { v with dns := false, pending := .none } := by
  refine ⟨fun hx => ?_, by simp [h.armed], by simpa using h.handed, by simp [h.deleted],
    fun hs => by simpa using h.wire hs, by simpa [Frame.sound] using h.sound⟩
  rw [← h.view hx] at hp ⊢
  cases hq : f.self.mPendingOperation <;> simp_all [TransactionState.clientView]

theorem assertThat (h : f.Shows x v) (b : Bool) (site : Site)
    (hs : site ≠ .sendCurrentToWireNothing) : (f.assertThat b site).Shows x v :=
  ⟨fun hx => by simpa using h.view hx, by simp [h.armed], by simpa using h.handed,
    by simp [h.deleted], fun hw => by simpa using h.wire hw, h.sound.assertThat b site hs⟩

theorem addTimer (h : f.Shows x v) (type : TimerType) (ms : ℕ) :
    (f.addTimer type ms).Shows { x with armed := x.armed ++ [type] } v :=
  ⟨fun hx => by simpa using h.view hx, by simp [h.armed], by simpa using h.handed,
    by simp [h.deleted], fun hs => by simpa using h.wire hs, by simpa [Frame.sound] using h.sound⟩

theorem sendToTU {armed : List TimerType} {gone sends : Bool}
    (h : f.Shows ⟨armed, none, gone, sends⟩ v) (m : SipMessage) :
    (f.sendToTU cfg env m).Shows ⟨armed, some m.statusCode, gone, sends⟩ v :=
  ⟨fun hx => by simpa using h.view hx, by simp [h.armed],
    sendToTU_handed cfg env m (by simpa using h.handed), by simp [h.deleted],
    fun hs => by simpa using h.wire hs, h.sound.sendToTU cfg env m⟩

/-- The end of the transaction. -/
theorem terminate (h : f.Shows x v) (v' : ClientView) :
    (f.terminateClientTransaction env).delete.Shows { x with gone := true } v' :=
  ⟨nofun, by simp [h.armed], by simpa using h.handed, by simp, fun hs => by simpa using h.wire hs,
    by simpa [Frame.sound] using h.sound⟩

end Shows

/-! ### Sending -/

theorem transmit_kept {sip : SipMessage} (target : Tuple)
    (hn : f.self.mNextTransmission = some sip) :
    ∃ n r, f.self.clientView.Kept n r ∧ (f.transmit env sip target).self.clientView =
      { f.self.clientView with next := n, retransmit := r } := by
  refine ⟨_, _, ⟨?_, ?_⟩, by rw [transmit_self]; rfl⟩
  · by_cases h : env.findTransport sip target ∧ (!sip.isRequest ∨ sip.method = .ack)
    · right
      rw [if_pos h]
      exact ⟨rfl, sip, hn, by simpa [spent] using h.2⟩
    · left
      rw [if_neg h]
      rfl
  · cases hr : f.self.mIsReliable <;> cases env.findTransport sip target <;>
      simp [hn, TransactionState.clientView, hr]

theorem sendFromClient_sent {sip : SipMessage} (hn : f.self.mNextTransmission = some sip)
    (hf : f.sound) :
    ∃ armed v', f.self.clientView.Sent armed v' ∧
      (f.sendFromClient cfg env sip).self.clientView = v' ∧
      (f.sendFromClient cfg env sip).out.timers.map (·.type) =
        f.out.timers.map (·.type) ++ armed ∧
      (f.sendFromClient cfg env sip).sound := by
  unfold sendFromClient
  by_cases ht : f.self.mTarget.mTransportType = .unknownTransport
  · rw [if_neg (not_not_intro ht)]
    by_cases hk : sip.destination.mFlowKey = 0
    · rw [if_neg (not_not_intro hk)]
      by_cases hd : f.self.mDnsResult = true
      · rw [if_pos hd]
        refine ⟨_, _, .kept (.inr (.inr ⟨hd, ?_⟩)) ⟨.inl rfl, .inl ?_⟩, rfl, by simp, hf⟩
        · intro m hm
          cases hn.symm.trans hm
          exact hk
        · simp [TransactionState.clientView, hn]
      · rw [if_neg hd]
        refine ⟨_, _, 
          .resolving ht (by simpa [TransactionState.clientView] using hd) hn hk, ?_, by simp, ?_⟩
        · simp [TransactionState.clientView]
        · have h := (hf.assertThat sip.isRequest .dnsRequest (by simp)).assertThat
            (decide ((f.assertThat sip.isRequest .dnsRequest).self.mMethod ≠ .cancel))
            .dnsCancel (by simp)
          exact h
    · rw [if_pos hk]
      have hs := hf.assertThat (decide (sip.destination.mTransportType ≠ .unknownTransport))
        .flowDestination (by simp)
      dsimp only
      generalize hg : processReliability cfg sip.destination.mTransportType _ = g
      have hview : g.self.clientView = f.self.clientView.aimed sip.destination := by
        simp [← hg, TransactionState.clientView, aimed]
      obtain ⟨n, r, hkept, hself⟩ := transmit_kept env (f := g) sip.destination
        (by simpa [← hg] using hn)
      rw [hview] at hkept hself
      refine ⟨_, _, .flow ht hn hk hkept, hself, ?_, ?_⟩
      · simp [← hg, processReliability_timers, TransactionState.clientView, Function.comp_def]
      · simpa [sound, ← hg] using hs
  · rw [if_pos ht]
    obtain ⟨n, r, hk, hself⟩ := transmit_kept env f.self.mTarget hn
    exact ⟨_, _, .kept (.inr (.inl ht)) hk, hself, by simp, by simpa [sound] using hf⟩

/-- `sendCurrentToWire` of a client transaction that has something to send. -/
theorem sendCurrentToWire_sent (hc : f.self.isClient = true)
    (hw : f.self.mNextTransmission ≠ none ∨ f.self.mMsgToRetransmit ≠ none) (hf : f.sound) :
    ∃ armed v', f.self.clientView.Sent armed v' ∧
      (f.sendCurrentToWire cfg env).self.clientView = v' ∧
      (f.sendCurrentToWire cfg env).out.timers.map (·.type) =
        f.out.timers.map (·.type) ++ armed ∧
      (f.sendCurrentToWire cfg env).sound := by
  unfold sendCurrentToWire
  split
  case h_1 data hd =>
    refine ⟨_, _, .kept (.inl ?_) ⟨.inl rfl, .inr (.inl ?_)⟩, rfl, by simp, hf⟩ <;>
      simp [TransactionState.clientView, hd]
  case h_2 hd =>
    split
    case h_1 sip hn =>
      rw [if_pos hc]
      exact sendFromClient_sent cfg env hn hf
    case h_2 hn => simp [hn, hd] at hw

/-- Sending adds to an effect. -/
theorem Shows.sent {x : ClientEffect} {v : ClientView} (h : f.Shows x v) (hx : x.gone = false)
    (hc : f.self.isClient = true)
    (hw : f.self.mNextTransmission ≠ none ∨ f.self.mMsgToRetransmit ≠ none) :
    ∃ armed v', v.Sent armed v' ∧ (f.sendCurrentToWire cfg env).Shows
      { x with armed := x.armed ++ armed, sends := true } v' := by
  obtain ⟨armed, v', hs, hself, htimers, hsound⟩ := sendCurrentToWire_sent cfg env hc hw h.sound
  rw [h.view hx] at hs
  refine ⟨armed, v', hs, fun _ => hself, ?_, ?_, ?_, nofun, hsound⟩
  · rw [htimers, h.armed]
  · simpa using h.handed
  · simpa using h.deleted

/-- Sending over a transport that is known keeps the target and arms nothing. -/
theorem Shows.sendCurrentToWire {x : ClientEffect} {v : ClientView} (h : f.Shows x v)
    (hx : x.gone = false) (hc : f.self.isClient = true)
    (hw : f.self.mNextTransmission ≠ none ∨ f.self.mMsgToRetransmit ≠ none)
    (ht : v.target.mTransportType ≠ .unknownTransport) :
    ∃ n r, v.Kept n r ∧ (f.sendCurrentToWire cfg env).Shows { x with sends := true }
      { v with next := n, retransmit := r } := by
  obtain ⟨armed, v', hs, hshows⟩ := h.sent cfg env hx hc hw
  cases hs with
  | kept _ hk => exact ⟨_, _, hk, by simpa using hshows⟩
  | flow hu => exact absurd hu ht
  | resolving hu => exact absurd hu ht

theorem useTarget_sent (target : Tuple) (hc : f.self.isClient = true)
    (hn : f.self.mNextTransmission ≠ none) (hf : f.sound) :
    ∃ armed v', (f.self.clientView.aimed target).Sent armed v' ∧
      (f.useTarget cfg env target).self.clientView = v' ∧
      (f.useTarget cfg env target).out.timers.map (·.type) = f.out.timers.map (·.type) ++
        (startedBy f.self.mMachine f.self.mIsReliable target.mTransportType ++ armed) ∧
      (f.useTarget cfg env target).sound := by
  simp only [useTarget]
  generalize hg : processReliability cfg target.mTransportType _ = g
  have hview : g.self.clientView = f.self.clientView.aimed target := by
    simp [← hg, TransactionState.clientView, aimed]
  obtain ⟨armed, v', hs, hself, ht, hsound⟩ := sendCurrentToWire_sent cfg env
    (f := g) (by simpa [← hg, TransactionState.isClient] using hc) (by simp [← hg, hn])
    (by simpa [sound, ← hg] using hf)
  rw [hview] at hs
  refine ⟨armed, v', hs, hself, ?_, hsound⟩
  rw [ht, ← hg, processReliability_timers]
  simp [Function.comp_def]

@[simp] theorem useTarget_frame (target : Tuple) :
    (f.useTarget cfg env target).deleted = f.deleted ∧
    (f.useTarget cfg env target).out.tu = f.out.tu := by simp [useTarget]

/-! ### Failures -/

theorem fresh.assertThat (hf : f.fresh) (b : Bool) (site : Site)
    (hs : site ≠ .sendCurrentToWireNothing) : (f.assertThat b site).fresh :=
  ⟨by simp [hf.timers], by simp [hf.tu], by simp [hf.wire], by simp [hf.deleted],
    hf.sound.assertThat b site hs⟩

theorem fresh.fault (hf : f.fresh) {x : Fault} (hx : ¬ x.fatal) : (f.fault x).fresh :=
  ⟨by simp [hf.timers], by simp [hf.tu], by simp [hf.wire], by simp [hf.deleted],
    hf.sound.fault hx⟩

theorem fresh.dnsCommand (hf : f.fresh) (c : DnsCommand) : (f.dnsCommand c).fresh :=
  ⟨by simp [hf.timers], by simp [hf.tu], by simp [hf.wire], by simp [hf.deleted],
    by simpa [Frame.sound] using hf.sound⟩

theorem fresh.noteFailure (hf : f.fresh) (reason : FailureReason) (subCode : ℤ) :
    (f.noteFailure reason subCode).fresh := by
  unfold Frame.noteFailure
  split <;> exact ⟨hf.timers, hf.tu, hf.wire, hf.deleted, hf.sound⟩

@[simp] theorem noteFailure_view (reason : FailureReason) (subCode : ℤ) :
    (f.noteFailure reason subCode).self.clientView = f.self.clientView := by
  unfold noteFailure
  split <;> rfl

/-- A fresh frame whose record still shows `v` has done nothing. -/
theorem fresh.idle (hf : f.fresh) {v : ClientView} (hv : f.self.clientView = v) {e : ClientCause}
    (he : ∀ type, e = .timer type → ¬ v.heeds type) : f.Does env v e :=
  ⟨_, _, .ignored he, fun _ => hv, by simp [hf.timers], by simp [hf.tu], hf.deleted,
    fun _ => hf.wire, hf.sound⟩

@[simp] theorem restoreOriginalContactAndVia_frame :
    f.restoreOriginalContactAndVia.deleted = f.deleted ∧
    f.restoreOriginalContactAndVia.out.timers = f.out.timers ∧
    f.restoreOriginalContactAndVia.out.tu = f.out.tu ∧
    f.restoreOriginalContactAndVia.out.wire = f.out.wire := by
  unfold restoreOriginalContactAndVia
  repeat' split
  all_goals simp

theorem restoreOriginalContactAndVia_view {sip : SipMessage}
    (hn : f.self.mNextTransmission = some sip) :
    f.restoreOriginalContactAndVia.clearMsgToRetransmit.self.clientView =
        f.self.clientView.restored sip ∧
      f.restoreOriginalContactAndVia.out = f.out := by
  simp [restoreOriginalContactAndVia, hn, TransactionState.clientView, restored]

theorem noDnsResponse_statusCode (st : TransactionState) (request : SipMessage) :
    300 ≤ (noDnsResponse cfg env st request).statusCode := by
  cases h : st.mFailureReason <;> simp only [noDnsResponse, h, SipMessage.statusCode]
  case transportNoExistConn => split <;> omega
  all_goals omega

/-- Without a target left a stored request is answered with a failure and the transaction
ends. -/
theorem processNoDnsResults_gone {m : SipMessage} (hf : f.fresh)
    (hn : f.self.mNextTransmission = some m) (hm : m.method ≠ .ack)
    (hs : f.self.mMachine ≠ .stateless) (v : ClientView) :
    ∃ code, 300 ≤ code ∧ (f.processNoDnsResults cfg env).Shows ⟨[], some code, true, false⟩ v := by
  simp only [processNoDnsResults, hn, hm, if_false]
  have h₁ := hf.assertThat (!f.self.mDnsResult || decide (env.dnsAvailable = .finished))
    .noDnsFinished (by simp)
  generalize hg : f.assertThat _ _ = g at h₁
  have hself : g.self = f.self := by simp [← hg]
  refine ⟨_, noDnsResponse_statusCode cfg env g.self m, nofun, ?_, ?_, ?_, ?_, ?_⟩
  all_goals simp only [terminateClientTransaction_eq, tellTermination_frame, sendToTU_frame, hself, hs, if_false, delete_frame]
  · simp [h₁.timers]
  · simpa [hself] using sendToTU_handed cfg env (noDnsResponse cfg env g.self m) h₁.tu
  · simp [h₁.wire]
  · have := h₁.sound.sendToTU cfg env (noDnsResponse cfg env g.self m)
    simpa [sound, hself] using this

end Frame

theorem ClientView.WellFormed.isClient {st : TransactionState}
    (hv : st.clientView.WellFormed) : st.isClient = true := by
  have h : st.mMachine = .clientInvite ∨ st.mMachine = .clientNonInvite ∨
      st.mMachine = .clientStale := by
    rcases hv.states with (⟨h, -⟩ | ⟨h, -⟩) | ⟨-, h⟩
    · exact .inl h
    · exact .inr (.inl h)
    · exact h
  rcases h with h | h | h <;> simp [TransactionState.isClient, h, Machine.isClient]

theorem ClientView.WellFormed.not_stateless {st : TransactionState}
    (hv : st.clientView.WellFormed) : st.mMachine ≠ .stateless := by
  intro h
  rcases hv.states with (⟨hm, -⟩ | ⟨hm, -⟩) | ⟨-, hm | hm | hm⟩ <;>
    simp [TransactionState.clientView, h] at hm

namespace Frame
variable (cfg : Config) (env : Env) {f : Frame}

theorem failedCancel_iff {st : TransactionState} (hw : st.clientView.WellFormed) :
    st.failedCancel = true ↔ ∃ m, st.mNextTransmission = some m ∧ m.isRequest = true ∧
      m.method = .cancel ∧ st.mState ≠ .completed := by
  have ht : st.mState ≠ .terminated := hw.not_terminated
  unfold TransactionState.failedCancel
  cases st.mNextTransmission <;> simp [and_assoc, ht]

theorem shouldFailover_of_unanswered {st : TransactionState} (hu : st.clientView.unanswered) :
    st.shouldFailover = true := by
  rcases hu with ⟨hm, hs | hs⟩ | ⟨hm, hs | hs⟩ <;> 
    simp_all [TransactionState.shouldFailover, TransactionState.clientView]

theorem fresh.revertToCalling (hf : f.fresh) : f.revertToCalling.fresh := by
  unfold Frame.revertToCalling
  split
  · exact ⟨hf.timers, hf.tu, hf.wire, hf.deleted, hf.sound⟩
  · exact hf

theorem revertToCalling_view : f.revertToCalling.self.clientView = f.self.clientView.reverted := by
  by_cases h : f.self.mMachine = .clientInvite ∧ f.self.mState = .proceeding <;>
    simp [revertToCalling, TransactionState.clientView, reverted, h]

/-- `processNoDnsResults` of a transaction that did not wait for DNS. -/
theorem processNoDnsResults_does (hf : f.fresh) (hv : f.self.clientView.WellFormed)
    {e : ClientCause} (he : e = .failure) :
    (f.processNoDnsResults cfg env).Does env f.self.clientView e := by
  have hi : ∀ type, e = .timer type → ¬ f.self.clientView.heeds type := by simp [he]
  cases hn : f.self.mNextTransmission with
  | none =>
    simp only [processNoDnsResults, hn]
    exact hf.idle env rfl hi
  | some m =>
    by_cases hm : m.method = .ack
    · simp only [processNoDnsResults, hn, hm, if_true]
      exact hf.idle env rfl hi
    · obtain ⟨code, hc, hs⟩ := processNoDnsResults_gone cfg env hf hn hm
        hv.not_stateless f.self.clientView
      exact ⟨_, _, .noTarget (.inl he) hn hm hc, hs⟩

/-- The failover of an unanswered request. `v` is the transaction as the failure found it;
the frame has already gone back to Calling. -/
theorem failover_does {v : ClientView} {m : SipMessage} (hf : f.fresh)
    (hv : f.self.clientView = v.reverted) (hw : f.self.clientView.WellFormed)
    (hu : v.unanswered) (hd : v.dns = true) (hn : v.next = some m) (ha : m.method ≠ .ack)
    (hm : ¬ (m.isRequest = true ∧ m.method = .cancel)) :
    (f.failover cfg env).Does env v .failure := by
  simp only [failover]
  have hf := hf.assertThat (decide (f.self.mMethod ≠ .cancel)) .failoverCancel (by simp)
  have hself : (f.assertThat (decide (f.self.mMethod ≠ .cancel)) .failoverCancel).self = f.self := by
    simp
  generalize f.assertThat (decide (f.self.mMethod ≠ .cancel)) .failoverCancel = g at hf hself ⊢
  rw [← hself] at hv hw
  clear hself
  have hnext : g.self.mNextTransmission = some m := by
    rw [← hn]
    exact congrArg ClientView.next hv
  cases hav : env.dnsAvailable with
  | available =>
    obtain ⟨hview, hout⟩ := restoreOriginalContactAndVia_view hnext
    rw [hv] at hview
    generalize hh : g.restoreOriginalContactAndVia.clearMsgToRetransmit = h at hview ⊢
    have hmachine : h.self.mMachine = g.self.mMachine := by
      have h₁ := congrArg ClientView.machine hview
      have h₂ := congrArg ClientView.machine hv
      exact h₁.trans h₂.symm
    have hreliable : h.self.mIsReliable = v.reliable := congrArg ClientView.reliable hview
    have hnone : h.self.mNextTransmission ≠ none := by
      have h₁ := congrArg ClientView.next hview
      simp_all [TransactionState.clientView, restored]
    obtain ⟨armed, v', hs, hself, ht, hsound⟩ := useTarget_sent cfg env
      (f := h) env.dnsNext (by simpa [TransactionState.isClient, hmachine] using hw.isClient) hnone
      (by simpa [sound, hout, ← hh] using hf.sound)
    rw [hview] at hs
    refine ⟨_, _, .failover hu hd hn hm hav hs, fun _ => hself, ?_, ?_, ?_, by simp, hsound⟩
    · have hm' : g.self.mMachine = v.machine := congrArg ClientView.machine hv
      rw [ht, hmachine, hreliable, hm', ← hh]
      simp [hf.timers]
    · simp [← hh, hf.tu]
    · simp [← hh, hf.deleted]
  | pending =>
    have hnext' : ({ g with self := { g.self with mPendingOperation := .dns } } :
      Frame).self.mNextTransmission = some m := hnext
    obtain ⟨hview, hout⟩ := restoreOriginalContactAndVia_view hnext'
    refine ⟨_, _, .failoverPending hu hd hn hm hav, fun _ => hview.trans ?_, ?_, ?_, ?_,
      fun _ => ?_, ?_⟩
    · rw [← hv]
      rfl
    · simp [hf.timers]
    · simp [hf.tu]
    · simp [hf.deleted]
    · simp [hf.wire]
    · exact (sound_congr (f := g) (congrArg Outputs.faults hout)).2 hf.sound
  | finished => 
    obtain ⟨code, hc, hs⟩ := processNoDnsResults_gone cfg env hf hnext ha
      hw.not_stateless v
    exact ⟨_, _, .noTarget (.inl rfl) hn ha hc, hs⟩
  | destroyed =>
    refine ⟨_, _, .failoverDestroyed hu hd hn hm hav, fun _ => by simpa using hv, ?_, ?_, ?_, fun _ => ?_, ?_⟩
    all_goals simp [hf.timers, hf.tu, hf.deleted, hf.wire, hf.sound.fault, Fault.fatal]

theorem processTransportFailure_does (reason : FailureReason) (subCode : ℤ) (hf : f.fresh)
    (hv : f.self.clientView.WellFormed) :
    (f.processTransportFailure cfg env reason subCode).Does env f.self.clientView .failure := by
  have hg := hf.noteFailure reason subCode
  have hview := noteFailure_view (f := f) reason subCode
  simp only [processTransportFailure]
  generalize f.noteFailure reason subCode = g at hg hview ⊢
  rw [← hview] at hv ⊢
  split
  case isTrue hc =>
    -- a CANCEL that could not be delivered: the TU is told, the transaction stays
    obtain ⟨m, hn, hq, hm, hs⟩ := (failedCancel_iff hv).1 hc
    have ha := hg.assertThat (decide (g.self.mMethod = .cancel)) .failedCancelMethod
      (by simp)
    simp only [assertThat_frame, hn]
    refine ⟨_, _, .cancelFailed hn hq hm (hv.unanswered_of_state hs), ?_⟩
    have h := ha.shows.sendToTU cfg env (failedCancelResponse cfg env m)
    have hcode : (failedCancelResponse cfg env m).statusCode = 503 := rfl
    simpa [hcode] using h
  case isFalse hc =>
    split
    case isTrue hd => exact processNoDnsResults_does cfg env hg hv rfl
    case isFalse hd =>
      have hd : g.self.clientView.dns = true := by simpa [TransactionState.clientView] using hd
      have hu := hv.unanswered_of_dns hd
      obtain ⟨m, hn, hq, hm⟩ := hv.request hu
      have hnc : ¬ (m.isRequest = true ∧ m.method = .cancel) := by
        rintro ⟨h₁, h₂⟩
        exact hc ((failedCancel_iff hv).2 ⟨m, hn, h₁, h₂, hu.state.1⟩)
      have hs := hg.dnsCommand (.greylistLast (env.nowMs + cfg.dnsGreylistDurationMs))
      rw [if_pos (by simpa using shouldFailover_of_unanswered hu)]
      have hr := revertToCalling_view (f := g.dnsCommand
        (.greylistLast (env.nowMs + cfg.dnsGreylistDurationMs)))
      exact failover_does cfg env hs.revertToCalling hr (hr ▸ hv.reverted hu) hu hd hn
        (hm ▸ hv.not_ack hu) hnc

theorem tcpConnectTimeout_does (hf : f.fresh) (hv : f.self.clientView.WellFormed) :
    (f.tcpConnectTimeout cfg env).Does env f.self.clientView
      (if f.self.mTcpConnectTimerStarted then .failure else .other) := by
  unfold tcpConnectTimeout
  split
  · exact processTransportFailure_does cfg env _ _ hf hv
  · exact hf.idle env rfl (by simp)

theorem processTcpConnectState_does (state : TcpConnect) (hf : f.fresh) :
    (f.processTcpConnectState cfg state).Does env f.self.clientView .other := by
  unfold processTcpConnectState
  split
  · cases state with
    | connectStarted =>
      simp only
      split
      · refine ⟨_, _, .connecting (by simp), fun _ => rfl, ?_, ?_, ?_, fun _ => ?_, ?_⟩
        · simp [hf.timers]
        · simp [hf.tu]
        · simp [hf.deleted]
        · simp [hf.wire]
        · simpa [sound] using hf.sound
      · exact hf.idle env rfl (by simp)
    | connected =>
      dsimp only
      apply fresh.idle
      · exact ⟨hf.timers, hf.tu, hf.wire, hf.deleted, hf.sound⟩
      · rfl
      · simp
  · exact hf.idle env rfl (by simp)

theorem handleSync_does (hf : f.fresh) (hv : f.self.clientView.WellFormed) :
    (f.handleSync cfg env).Does env f.self.clientView .resolved := by
  unfold handleSync
  split
  case isFalse => exact hf.idle env rfl (by simp)
  case isTrue hp =>
    have hd := hv.pending hp
    have hu := hv.unanswered_of_dns hd
    obtain ⟨m, hn, hq, hm⟩ := hv.request hu
    have hg := hf.assertThat f.self.mDnsResult .handleSyncState (by simp)
    have hself : (f.assertThat f.self.mDnsResult .handleSyncState).self = f.self := by simp
    simp only
    generalize f.assertThat f.self.mDnsResult .handleSyncState = g at hg hself ⊢
    rw [← hself] at hp hd hu hn hm hv ⊢
    clear hself
    have hnext : g.self.mNextTransmission = some m := hn
    cases ha : env.dnsAvailable with
    | available =>
      dsimp only
      split
      case h_1 h => simp [hnext] at h
      obtain ⟨armed, v', hs, hself, ht, hsound⟩ := useTarget_sent cfg env
        (f := { g with self := { g.self with mPendingOperation := .none } }) env.dnsNext
        hv.isClient (by simp [hnext]) hg.sound
      refine ⟨_, _, .found hp ha hs, fun _ => hself, ?_, ?_, ?_, nofun, hsound⟩
      · rw [ht]
        simp [hg.timers, TransactionState.clientView]
      · simp [hg.tu]
      · simp [hg.deleted]
    | finished =>
      have hg' : ({ g with self := { g.self with mPendingOperation := .none } } : Frame).fresh :=
        ⟨hg.timers, hg.tu, hg.wire, hg.deleted, hg.sound⟩
      obtain ⟨code, hc, hs⟩ := processNoDnsResults_gone cfg env hg' hnext
        (hm ▸ hv.not_ack hu) hv.not_stateless g.self.clientView
      exact ⟨_, _, .noTarget (.inr ⟨rfl, hp⟩) hn (hm ▸ hv.not_ack hu) hc, hs⟩
    | pending => exact hg.idle env rfl (by simp)
    | destroyed =>
      refine fresh.idle env ?_ (by simp) (by simp)
      exact ⟨by simp [hg.timers], by simp [hg.tu], by simp [hg.wire], by simp [hg.deleted],
        hg.sound.fault (by simp [Fault.fatal])⟩

theorem rewriteRequest_does (uri : Uri) (hf : f.fresh) (hv : f.self.clientView.WellFormed)
    (hd : f.self.mDnsResult = true) :
    (f.rewriteRequest uri).Does env f.self.clientView .other := by
  obtain ⟨m, hn, hq, hm⟩ := hv.request (hv.unanswered_of_dns hd)
  have hnext : f.self.mNextTransmission = some m := hn
  simp only [rewriteRequest, hnext]
  cases hl : m.startLine with
  | response code reason => simp [SipMessage.isRequest, hl] at hq
  | request uri' =>
    simp only
    split
    · exact hf.idle env rfl (by simp)
    · refine ⟨_, _, .rewritten hd hn hq, fun _ => rfl, ?_, ?_, ?_, fun _ => ?_, ?_⟩
      · simp [hf.timers]
      · simp [hf.tu]
      · simp [hf.deleted]
      · simp [hf.wire]
      · simpa [sound] using hf.sound

/-! ### Non-INVITE -/

theorem Shows.saveOriginalContactAndVia {x : ClientEffect} {v : ClientView} (h : f.Shows x v)
    (m : SipMessage) :
    (f.saveOriginalContactAndVia m).Shows x { v with
      contact := if m.hContact.isSome then m.hContact else v.contact
      via := some m.via } :=
  h.record (fun hx => by rw [← h.view hx]; rfl) rfl rfl

theorem clientNonInviteRequest_does {m : SipMessage} (hf : f.fresh)
    (hi : f.self.mMachine = .clientNonInvite) (hm : m.method = f.self.mMethod)
    (hq : m.isRequest = true) :
    (f.clientNonInviteRequest cfg env m).Does env f.self.clientView (.request m) := by
  have h := ((hf.shows.resetNextTransmission (some m)).saveOriginalContactAndVia m).addTimer .timerF
    cfg.timers.TF
  obtain ⟨armed, v', hs, hsent⟩ := h.sent cfg env rfl
    (by simp [TransactionState.isClient, saveOriginalContactAndVia, hi, Machine.isClient])
    (.inl (by simp [saveOriginalContactAndVia]))
  exact ⟨_, _, .requested hi hm hq hs, hsent⟩

theorem clientNonInviteProvisional_does {m : SipMessage} (hf : f.fresh)
    (hi : f.self.mMachine = .clientNonInvite) (hc : m.statusCode < 200) :
    (f.clientNonInviteProvisional cfg env m).Does env f.self.clientView
      (.response m.statusCode) := by
  unfold clientNonInviteProvisional
  split
  case isFalse => exact hf.idle env rfl (by simp)
  case isTrue hs =>
    refine ⟨_, _, .provisional hi (.inr ⟨hi, hs⟩) hc, Shows.sendToTU cfg env ?_ m⟩
    by_cases h : f.self.mIsReliable = false ∧ f.self.mState = .trying
    · have := hf.shows.addTimer .timerE2 cfg.timers.T2
      simpa [h, TransactionState.clientView] using this.setState .proceeding
    · have := hf.shows.setState .proceeding
      simpa [h, TransactionState.clientView] using this

theorem clientNonInviteFinal_does {m : SipMessage} (hf : f.fresh)
    (hv : f.self.clientView.WellFormed) (hi : f.self.mMachine = .clientNonInvite)
    (hc : 200 ≤ m.statusCode) :
    (f.clientNonInviteFinal cfg env m).Does env f.self.clientView (.response m.statusCode) := by
  simp only [clientNonInviteFinal]
  by_cases hs : f.self.mState = .trying ∨ f.self.mState = .proceeding
  · have hne : f.self.mState ≠ .completed := by rcases hs with hs | hs <;> simp [hs]
    have h := hf.shows.sendToTU cfg env m
    cases hr : f.self.mIsReliable
    · refine ⟨_, _, .final hi (.inr ⟨hi, hs⟩) hr hc, ?_⟩
      simp only [hs, if_true, sendToTU_frame, hr, hne, if_false, Bool.false_eq_true]
      exact (((h.setState .completed).addTimer .timerK cfg.timers.T4).destroyDnsResult
        hv.pending).resetNextTransmission none
    · refine ⟨_, _, .finalReliable hi (.inr ⟨hi, hs⟩) hr hc, ?_⟩
      simp only [hs, if_true, sendToTU_frame, hr]
      exact h.terminate env _
  · have hu : ¬ f.self.clientView.unanswered := by
      simpa [unanswered, TransactionState.clientView, hi] using hs
    have hcomp : f.self.mState = .completed := by
      by_contra h
      exact hu (hv.unanswered_of_state h)
    have hr : f.self.mIsReliable = false := by
      apply hv.unreliable hcomp
      simp [TransactionState.clientView, hi]
    refine fresh.idle env ?_ ?_ (by simp)
    · simpa [hcomp, hr] using hf.assertThat true .finalResponseState (by simp)
    · simp [hcomp, hr]

/-- Why a timer makes a client transaction act. -/
def timerCause (st : TransactionState) (type : TimerType) : ClientCause :=
  if type = .tcpConnectTimer then
    if st.mTcpConnectTimerStarted then .failure else .other
  else .timer type

theorem timeoutResponse_statusCode (st : TransactionState) (m : SipMessage) :
    300 ≤ (timeoutResponse env st m).statusCode := by
  unfold timeoutResponse
  split <;> simp [makeResponse, SipMessage.statusCode]

/-- A client transaction that sends its request again when a timer fires. -/
theorem resend_does {type : TimerType} (d : ℕ) (hf : f.fresh) (hv : f.self.clientView.WellFormed)
    (hu : f.self.clientView.unanswered) (hr : f.self.clientView.resends type) :
    ((f.addTimer type d).sendCurrentToWire cfg env).Does env f.self.clientView (.timer type) := by
  obtain ⟨m, hn, -⟩ := hv.request hu
  have hnext : f.self.mNextTransmission = some m := hn
  obtain ⟨armed, v', hs, hsent⟩ := (hf.shows.addTimer type d).sent cfg env rfl
    (by simpa using hv.isClient) (by simp [hnext])
  exact ⟨_, _, .resent hr hs, hsent⟩

theorem clientNonInviteTimer_does (t : TransactionTimer) (hf : f.fresh)
    (hv : f.self.clientView.WellFormed) (hi : f.self.mMachine = .clientNonInvite) :
    (f.clientNonInviteTimer cfg env t).Does env f.self.clientView
      (timerCause f.self t.type) := by
  unfold clientNonInviteTimer
  cases ht : t.type
  case timerE1 =>
    dsimp only
    split
    case isTrue h => exact resend_does cfg env _ hf hv (.inr ⟨hi, .inl h⟩) ⟨hi, h⟩
    case isFalse h =>
      exact hf.idle env rfl (by simpa [timerCause, heeds, resends, timesOut, expires] using fun _ => h)
  case timerE2 =>
    dsimp only
    split
    case isTrue h => exact resend_does cfg env _ hf hv (.inr ⟨hi, .inr h⟩) ⟨hi, h⟩
    case isFalse h =>
      exact hf.idle env rfl (by simpa [timerCause, heeds, resends, timesOut, expires] using fun _ => h)
  case tcpConnectTimer => exact tcpConnectTimeout_does cfg env hf hv
  case timerF =>
    dsimp only
    split
    case isTrue h =>
      obtain ⟨m, hn, -⟩ := hv.request (.inr ⟨hi, h⟩)
      have hnext : f.self.mNextTransmission = some m := hn
      split
      case h_1 hnone => simp [hnext] at hnone
      case h_2 sip _ =>
        refine ⟨_, _, .timedOut ⟨hi, h⟩ (timeoutResponse_statusCode env f.self sip), ?_⟩
        exact (hf.shows.sendToTU cfg env _).terminate env _
    case isFalse h =>
      exact hf.idle env rfl (by simpa [timerCause, heeds, resends, timesOut, expires] using fun _ => h)
  case timerK => exact ⟨_, _, .expired hi, hf.shows.terminate env _⟩
  all_goals
    exact hf.idle env rfl (by simp [timerCause, heeds, resends, timesOut, expires, hi])

/-! ### INVITE -/

theorem Shows.handleInternalCancel {x : ClientEffect} {v : ClientView} (h : f.Shows x v)
    (hn : f.self.mNextTransmission ≠ none) (cancel : SipMessage) :
    (f.handleInternalCancel cfg env cancel).Shows { x with armed := x.armed ++ [.timerCleanUp] }
      v := by
  unfold Frame.handleInternalCancel
  split
  case h_1 hnone => exact absurd hnone hn
  case h_2 m hm =>
    refine Shows.addTimer (v := v) (x := x) ?_ _ _
    exact ⟨h.view, h.armed, h.handed, h.deleted, h.wire, h.sound⟩

theorem Shows.sendCancel {x : ClientEffect} {v : ClientView} (h : f.Shows x v)
    (hn : f.self.mNextTransmission ≠ none) (reasons : Option Data) :
    (f.sendCancel cfg env reasons).Shows { x with armed := x.armed ++ [.timerCleanUp] } v := by
  unfold Frame.sendCancel
  split
  case h_1 hnone => exact absurd hnone hn
  case h_2 m hm => exact h.handleInternalCancel cfg env hn _

theorem clientInviteRequest_does {m : SipMessage} (hf : f.fresh)
    (hv : f.self.clientView.WellFormed) (hi : f.self.mMachine = .clientInvite) :
    (f.clientInviteRequest cfg env m).Does env f.self.clientView (.request m) := by
  unfold clientInviteRequest
  split
  case h_1 =>
    split
    case isTrue h =>
      obtain ⟨m, hm, -⟩ := hv.request (.inl ⟨hi, .inl h.1⟩)
      simp [h.2.1] at hm
    case isFalse => exact hf.idle env rfl (by simp)
  case h_2 => exact (hf.fault (by simp [Fault.fatal])).idle env (by simp) (by simp)
  case h_3 => exact hf.idle env rfl (by simp)

theorem clientInviteProvisional_does {m : SipMessage} (hf : f.fresh)
    (hv : f.self.clientView.WellFormed) (hi : f.self.mMachine = .clientInvite)
    (hc : m.statusCode < 200) :
    (f.clientInviteProvisional cfg env m).Does env f.self.clientView
      (.response m.statusCode) := by
  unfold clientInviteProvisional
  split
  case isFalse => exact hf.idle env rfl (by simp)
  case isTrue hs =>
    have hu : f.self.clientView.unanswered := .inl ⟨hi, hs⟩
    obtain ⟨m', hn, -⟩ := hv.request hu
    have hnext : f.self.mNextTransmission = some m' := hn
    refine ⟨_, _, .inviteProvisional hi hu hc, Shows.sendToTU cfg env ?_ m⟩
    have h := hf.shows.setState .proceeding
    dsimp only
    by_cases ha : f.self.mIsAbandoned = true
    · have ha' : f.self.clientView.abandoned = true := ha
      have hb : (f.setState .proceeding).self.mIsAbandoned = true := ha
      rw [if_pos ha', if_pos hb]
      have h₁ : Shows { f.setState .proceeding with
          self := { (f.setState .proceeding).self with mPendingCancelReasons := none } }
          ⟨[], none, false, false⟩ { f.self.clientView with state := .proceeding } :=
        h.record (fun hx => h.view hx) rfl rfl
      exact ((h₁.sendCancel cfg env (by simp [hnext]) _).setAbandoned false).clearMsgToRetransmit
    · have hav : f.self.mIsAbandoned = false := by simpa using ha
      simp only [TransactionState.clientView_fields, setState_self, ha]
      simpa [TransactionState.clientView, hav] using h.clearMsgToRetransmit

theorem clientInviteSuccess_does {m : SipMessage} (hf : f.fresh)
    (hv : f.self.clientView.WellFormed) (hi : f.self.mMachine = .clientInvite)
    (hc : 200 ≤ m.statusCode ∧ m.statusCode < 300) :
    (f.clientInviteSuccess cfg env m).Does env f.self.clientView (.response m.statusCode) := by
  refine ⟨_, _, .inviteSuccess hi hc, ?_⟩
  have h := (hf.shows.setAbandoned false).sendToTU cfg env m
  have h₁ : Shows { (f.setAbandoned false).sendToTU cfg env m with
      self := { ((f.setAbandoned false).sendToTU cfg env m).self with
        mMachine := .clientStale, mState := .completed } } ⟨[], some m.statusCode, false, false⟩
      { f.self.clientView with
        abandoned := false, machine := .clientStale, state := .completed } :=
    h.record (fun hx => by simp [TransactionState.clientView]) rfl rfl
  exact ((h₁.resetNextTransmission none).destroyDnsResult hv.pending).addTimer .timerStaleClient
    cfg.timers.TS

theorem Shows.forgeAck {x : ClientEffect} {v : ClientView} {request : SipMessage}
    (h : f.Shows x v) (hn : f.self.mNextTransmission = some request) (sip : SipMessage) :
    (f.forgeAck sip).Shows x
      { v with next := some (makeFailureAck request sip), retransmit := none } := by
  simp only [Frame.forgeAck, hn]
  exact h.resetNextTransmission _

@[simp] theorem forgeAck_self {request : SipMessage}
    (hn : f.self.mNextTransmission = some request) (sip : SipMessage) :
    (f.forgeAck sip).self = { f.self with
      mNextTransmission := some (makeFailureAck request sip), mMsgToRetransmit := none } := by
  simp [forgeAck, hn]

theorem clientInviteFailure_reliable {m : SipMessage} (hf : f.fresh)
    (hv : f.self.clientView.WellFormed) (hi : f.self.mMachine = .clientInvite)
    (hr : f.self.mIsReliable = true) (hc : 300 ≤ m.statusCode) :
    (f.clientInviteFailure cfg env m).Does env f.self.clientView (.response m.statusCode) := by
  have hu : f.self.clientView.unanswered := by
    apply hv.unanswered_of_state
    intro hs
    have := hv.unreliable hs
    simp [hi, hr] at this
  obtain ⟨request, hn, -⟩ := hv.request hu
  have hnext : (f.setAbandoned false).self.mNextTransmission = some request := hn
  refine ⟨_, _, .inviteFailureReliable hi hr hc, ?_⟩
  simp only [clientInviteFailure, setAbandoned_self, hr, if_true]
  have h := ((hf.shows.setAbandoned false).forgeAck hnext m).assertThat
    (decide (((f.setAbandoned false).forgeAck m).self.mTarget.mTransportType ≠
      .unknownTransport)) .failureAckTarget (by simp)
  obtain ⟨armed, v', hs, hsent⟩ := h.sent cfg env rfl
    (by simpa [forgeAck_self hnext, TransactionState.isClient] using hv.isClient)
    (by simp [forgeAck_self hnext])
  have harmed : armed = [] := by
    cases hs with
    | kept => rfl
    | resolving => rfl
    | flow _ hm hk =>
      -- the forged ACK names no flow
      cases hm
      exact absurd rfl hk
  subst harmed
  exact (hsent.sendToTU cfg env m).terminate env _

theorem clientInviteFailure_does {m : SipMessage} (hf : f.fresh)
    (hv : f.self.clientView.WellFormed) (hi : f.self.mMachine = .clientInvite)
    (hc : 300 ≤ m.statusCode) :
    (f.clientInviteFailure cfg env m).Does env f.self.clientView (.response m.statusCode) := by
  cases hr : f.self.mIsReliable
  case true => exact clientInviteFailure_reliable cfg env hf hv hi hr hc
  have ht : f.self.mTarget.mTransportType ≠ .unknownTransport := hv.target_of_unreliable hr
  have hclient : f.self.isClient = true := hv.isClient
  have hstart := hf.shows.setAbandoned false
  by_cases hs : f.self.mState = .calling ∨ f.self.mState = .proceeding
  · obtain ⟨request, hn, -⟩ := hv.request (.inl ⟨hi, hs⟩)
    have hnext : (((f.setAbandoned false).setState .completed).addTimer .timerD
      cfg.timers.TD).self.mNextTransmission = some request := hn
    have h := ((hstart.setState .completed).addTimer .timerD cfg.timers.TD).forgeAck hnext m
    obtain ⟨n, r, hk, hsent⟩ := h.sendCurrentToWire cfg env rfl
      (by simpa [forgeAck_self hnext, TransactionState.isClient] using hclient)
      (by simp [forgeAck_self hnext]) ht
    have hk' : { f.self.clientView with next := some (makeFailureAck request m) }.Kept n r := hk
    refine ⟨_, _, .inviteFailure hi (.inl ⟨hi, hs⟩) hr hc rfl hk', ?_⟩
    simp only [clientInviteFailure, setAbandoned_self, hr, hs, if_true, Bool.false_eq_true,
      if_false]
    exact (hsent.sendToTU cfg env m).destroyDnsResult hv.pending
  · have hcomp : f.self.mState = .completed := by
      by_contra h
      rcases hv.unanswered_of_state h with ⟨-, h⟩ | ⟨h, -⟩
      · exact hs h
      · simp [hi] at h
    obtain ⟨n, r, hk, hsent⟩ := hstart.sendCurrentToWire cfg env rfl
      (by simpa [TransactionState.isClient] using hclient) (by simpa using (hv.ack hi hcomp).1)
      ht
    refine ⟨_, _, .inviteFailureAgain hi hcomp hr hk, ?_⟩
    simp only [clientInviteFailure, setAbandoned_self, hr, hcomp, if_true, Bool.false_eq_true, if_false]
    exact hsent

theorem clientInviteTimeout_does {type : TimerType} (site : Site)
    (hsite : site ≠ .sendCurrentToWireNothing) (hf : f.fresh) (hv : f.self.clientView.WellFormed)
    (hu : f.self.clientView.unanswered) (ht : f.self.clientView.timesOut type) :
    (f.clientInviteTimeout cfg env site).Does env f.self.clientView (.timer type) := by
  obtain ⟨m, hn, -⟩ := hv.request hu
  have hnext : f.self.mNextTransmission = some m := hn
  unfold clientInviteTimeout
  split
  case h_1 hnone => simp [hnext] at hnone
  case h_2 sip _ =>
    refine ⟨_, _, .timedOut ht (timeoutResponse_statusCode env f.self sip), ?_⟩
    have h := hf.shows.assertThat (sip.isRequest && decide (sip.method = .invite)) site hsite
    simpa using (h.sendToTU cfg env (timeoutResponse env f.self sip)).terminate env _

theorem clientInviteTimer_does (t : TransactionTimer) (hf : f.fresh)
    (hv : f.self.clientView.WellFormed) (hi : f.self.mMachine = .clientInvite) :
    (f.clientInviteTimer cfg env t).Does env f.self.clientView (timerCause f.self t.type) := by
  unfold clientInviteTimer
  cases ht : t.type
  case timerA =>
    dsimp only
    split
    case isTrue h =>
      exact resend_does cfg env _ hf hv (.inl ⟨hi, .inl h.1⟩) ⟨hi, h.1, by simpa using h.2⟩
    case isFalse h =>
      refine hf.idle env rfl ?_
      simpa [timerCause, heeds, resends, timesOut, expires, hi] using h
  case tcpConnectTimer => exact tcpConnectTimeout_does cfg env hf hv
  case timerB =>
    dsimp only
    split
    case isTrue h =>
      exact clientInviteTimeout_does cfg env _ (by simp) hf hv (.inl ⟨hi, .inl h⟩) ⟨hi, h⟩
    case isFalse h =>
      refine hf.idle env rfl ?_
      simpa [timerCause, heeds, resends, timesOut, expires, hi] using h
  case timerD => exact ⟨_, _, .expired hi, hf.shows.terminate env _⟩
  case timerCleanUp =>
    dsimp only
    split
    case isTrue h =>
      exact clientInviteTimeout_does cfg env _ (by simp) hf hv (.inl ⟨hi, .inr h⟩) ⟨hi, h⟩
    case isFalse h =>
      refine hf.idle env rfl ?_
      simpa [timerCause, heeds, resends, timesOut, expires, hi] using h
  all_goals
    exact hf.idle env rfl (by simp [timerCause, heeds, resends, timesOut, expires, hi])

theorem clientInviteCancel_does (reasons : Option Data) (hf : f.fresh)
    (hv : f.self.clientView.WellFormed) (hi : f.self.mMachine = .clientInvite) :
    (f.clientInviteCancel cfg env reasons).Does env f.self.clientView .cancel := by
  unfold clientInviteCancel
  split
  case isTrue hs =>
    have hu : f.self.clientView.unanswered := .inl ⟨hi, .inr hs⟩
    obtain ⟨m, hn, -⟩ := hv.request hu
    have hnext : f.self.mNextTransmission = some m := hn
    exact ⟨_, _, .cancelled hu, hf.shows.sendCancel cfg env (by simp [hnext]) reasons⟩
  case isFalse =>
    split
    case isTrue hs => exact ⟨_, _, .abandoned hs, hf.shows.record (fun _ => rfl) rfl rfl⟩
    case isFalse => exact hf.idle env rfl (by simp)

end Frame

/-- Why an event makes a client transaction act. -/
def clientCause (st : TransactionState) : SessionEvent → ClientCause
  | .message (.sip m) => if m.isRequest then .request m else .response m.statusCode
  | .message (.transportFailure _ _ _) => .failure
  | .message (.dnsResultMessage _ _) => .resolved
  | .message (.cancelClientInviteTransaction _ _) => .cancel
  | .message _ => .other
  | .timer t => Frame.timerCause st t.type
  | .cancelFromTU _ => .cancel
  | .rewriteRequest _ => .other

namespace Frame
variable (cfg : Config) (env : Env) {f : Frame}

theorem processClientNonInvite_does (msg : TransactionMessage) (hf : f.fresh)
    (hv : f.self.clientView.WellFormed) (hi : f.self.mMachine = .clientNonInvite)
    (hm : ∀ m, msg = .sip m → m.isRequest = true → m.method = f.self.mMethod)
    (ht : ∀ t, msg ≠ .timer t) :
    (f.processClientNonInvite cfg env msg).Does env f.self.clientView
      (clientCause f.self (.message msg)) := by
  unfold processClientNonInvite
  cases msg with
  | sip m =>
    dsimp only
    split
    case isTrue h =>
      simp only [clientCause, h.1, if_true]
      exact clientNonInviteRequest_does cfg env hf hi (hm m rfl h.1) h.1
    case isFalse h =>
      split
      case isTrue hr =>
        have hq : m.isRequest = false := by
          have := hr.1
          simp [SipMessage.isResponseIn, SipMessage.isResponse] at this
          exact this.1
        simp only [clientCause, hq, Bool.false_eq_true, if_false]
        split
        case isTrue hc => exact clientNonInviteProvisional_does cfg env hf hi hc
        case isFalse hc => exact clientNonInviteFinal_does cfg env hf hv hi (by omega)
      case isFalse => exact hf.idle env rfl (by simp [clientCause]; split <;> simp)
  | timer t => exact absurd rfl (ht t)
  | transportFailure _ reason subCode => exact processTransportFailure_does cfg env _ _ hf hv
  | tcpConnectState _ state => exact processTcpConnectState_does cfg env state hf
  | dnsResultMessage _ _ => exact handleSync_does cfg env hf hv
  | _ => exact hf.idle env rfl (by simp [clientCause])

theorem processClientInvite_does (msg : TransactionMessage) (hf : f.fresh)
    (hv : f.self.clientView.WellFormed) (hi : f.self.mMachine = .clientInvite)
    (ht : ∀ t, msg ≠ .timer t) :
    (f.processClientInvite cfg env msg).Does env f.self.clientView
      (clientCause f.self (.message msg)) := by
  unfold processClientInvite
  cases msg with
  | sip m =>
    have hidle : ∀ type, clientCause f.self (.message (.sip m)) = .timer type →
        ¬ f.self.clientView.heeds type := by
      simp only [clientCause]
      split <;> simp
    dsimp only
    split
    case isTrue h =>
      simp only [clientCause, h.1, if_true]
      exact clientInviteRequest_does cfg env hf hv hi
    case isFalse h =>
      split
      case isTrue hr =>
        have hq : m.isRequest = false := by
          have := hr.1
          simp only [SipMessage.isResponseIn, SipMessage.isResponse, Bool.and_eq_true,
            Bool.not_eq_true'] at this
          exact this.1
        split
        case h_1 =>
          simp only [clientCause, hq, Bool.false_eq_true, if_false]
          split
          case isTrue hc => exact clientInviteProvisional_does cfg env hf hv hi hc
          case isFalse hc =>
            split
            case isTrue hc' => exact clientInviteSuccess_does cfg env hf hv hi ⟨by omega, hc'⟩
            case isFalse hc' => exact clientInviteFailure_does cfg env hf hv hi (by omega)
        case h_2 => exact (hf.fault (by simp [Fault.fatal])).idle env (by simp) hidle
        case h_3 => exact hf.idle env rfl hidle
      case isFalse => exact hf.idle env rfl hidle
  | timer t => exact absurd rfl (ht t)
  | transportFailure _ reason subCode => exact processTransportFailure_does cfg env _ _ hf hv
  | tcpConnectState _ state => exact processTcpConnectState_does cfg env state hf
  | cancelClientInviteTransaction _ reasons =>
    exact clientInviteCancel_does cfg env reasons hf hv hi
  | dnsResultMessage _ _ => exact handleSync_does cfg env hf hv
  | _ => exact hf.idle env rfl (by simp [clientCause])

theorem processClientStale_does (msg : TransactionMessage) (hf : f.fresh)
    (hv : f.self.clientView.WellFormed) (hi : f.self.mMachine = .clientStale)
    (ht : ∀ t, msg ≠ .timer t) :
    (f.processClientStale cfg env msg).Does env f.self.clientView
      (clientCause f.self (.message msg)) := by
  unfold processClientStale
  cases msg with
  | sip m =>
    dsimp only
    split
    case isTrue h =>
      simp only [SipMessage.isResponseIn, SipMessage.isResponse, Bool.and_eq_true,
        Bool.not_eq_true', decide_eq_true_eq] at h
      simp only [clientCause, h.1, Bool.false_eq_true, if_false]
      refine ⟨_, _, .staleSuccess hi ⟨h.2.1, by omega⟩, ?_⟩
      exact (hf.shows.assertThat m.isExternal .clientStaleWire (by simp)).sendToTU cfg env m
    case isFalse h =>
      refine hf.idle env rfl ?_
      simp only [clientCause]
      split <;> simp
  | timer t => exact absurd rfl (ht t)
  | transportFailure _ reason subCode => exact processTransportFailure_does cfg env _ _ hf hv
  | dnsResultMessage _ _ => exact handleSync_does cfg env hf hv
  | _ => exact hf.idle env rfl (by simp [clientCause])

theorem processClientStale_timer_does (t : TransactionTimer) (hf : f.fresh)
    (hi : f.self.mMachine = .clientStale) :
    (f.processClientStale cfg env (.timer t)).Does env f.self.clientView
      (timerCause f.self t.type) := by
  simp only [processClientStale]
  split
  case isTrue h =>
    simp only [h, timerCause]
    exact ⟨_, _, .expired hi, hf.shows.terminate env _⟩
  case isFalse h =>
    refine hf.idle env rfl ?_
    unfold timerCause
    cases hty : t.type <;>
      simp_all [heeds, resends, timesOut, expires]
    split <;> simp

end Frame

/-! ### A step of the transaction -/

theorem TransactionState.methodMatches_method {st : TransactionState} {m : SipMessage}
    (h : st.methodMatches m) (hi : st.mMethod ≠ .invite)
    (ht : st.mMethodText = some m.methodStr → m.method = .unknown) : m.method = st.mMethod := by
  unfold methodMatches at h
  split at h <;> simp_all

theorem clientMachine {st : TransactionState} (hv : st.clientView.WellFormed) :
    st.mMachine = .clientInvite ∨ st.mMachine = .clientNonInvite ∨ st.mMachine = .clientStale := by
  rcases hv.states with (⟨h, -⟩ | ⟨h, -⟩) | ⟨-, h⟩
  · exact .inl h
  · exact .inr (.inl h)
  · exact h

theorem dispatch_does (cfg : Config) (env : Env) (msg : TransactionMessage) {f : Frame}
    (hf : f.fresh) (hv : f.self.clientView.WellFormed)
    (hm : ∀ m, msg = .sip m → m.isRequest = true → f.self.mMethod ≠ .invite →
      m.method = f.self.mMethod) (ht : ∀ t, msg ≠ .timer t) :
    (f.dispatch cfg env msg).Does env f.self.clientView (clientCause f.self (.message msg)) := by
  unfold Frame.dispatch
  rcases clientMachine hv with h | h | h <;> simp only [h]
  · exact Frame.processClientInvite_does cfg env msg hf hv h ht
  · exact Frame.processClientNonInvite_does cfg env msg hf hv h
      (fun m he hq => hm m he hq (hv.nonInvite h).1) ht
  · exact Frame.processClientStale_does cfg env msg hf hv h ht

/-- A client transaction that is handed a message follows `ClientStep`. -/
theorem TransactionState.receive_does (cfg : Config) (env : Env) {st : TransactionState}
    {msg : TransactionMessage} (hv : st.clientView.WellFormed) (ht : st.takes msg) :
    (st.receive cfg env msg).Does env st.clientView (clientCause st (.message msg)) := by
  have hf := Frame.fresh_start st
  unfold receive
  cases msg with
  | sip m =>
    obtain ⟨hline, hmethod, htext, -⟩ := st.fixResponse_fields cfg m
    have hcause : clientCause st (.message (.sip (st.fixResponse cfg m))) =
        clientCause st (.message (.sip m)) := by
      have hr : m.isRequest = (st.fixResponse cfg m).isRequest := by simp [SipMessage.isRequest, hline]
      by_cases hq : m.isRequest = true
      · simp [st.fixResponse_eq cfg (by simp [SipMessage.isResponse, hq] : ¬ (m.isExternal ∧ m.isResponse))]
      · simp_all [clientCause, SipMessage.statusCode]
    rw [← hcause]
    dsimp only
    split
    case isFalse =>
      refine hf.idle env rfl ?_
      simp only [clientCause]
      split <;> simp
    case isTrue h =>
      have hd := dispatch_does cfg env (.sip (st.fixResponse cfg m)) (hf.assertThat
        (decide (st.mMachine ≠ .clientInvite) || (st.fixResponse cfg m).isExternal ||
          !(st.fixResponse cfg m).isRequest || decide ((st.fixResponse cfg m).method ≠ .ack))
        .clientInviteAck (by simp)) (by simpa [Frame.start] using hv) ?_ (by simp)
      · simpa [Frame.start] using hd
      · intro m' he hq hi
        cases he
        have hi' : st.mMethod ≠ .invite := by simpa [Frame.start] using hi
        have htu := ht.2.2.2.2
        rw [← htext, ← hmethod] at htu
        simpa [Frame.start] using methodMatches_method h.1 hi' htu
  | timer t => exact absurd ht.2.2 (by simp)
  | _ => exact dispatch_does cfg env _ hf hv (by simp) (by simp)

/-- A client transaction one of whose timers fires follows `ClientStep`. -/
theorem TransactionState.receive_timer_does (cfg : Config) (env : Env) {st : TransactionState}
    (t : TransactionTimer) (hv : st.clientView.WellFormed) :
    (st.receive cfg env (.timer t)).Does env st.clientView (clientCause st (.timer t)) := by
  have hf := Frame.fresh_start st
  simp only [receive, Frame.dispatch]
  rcases clientMachine hv with h | h | h
  · have h' : (Frame.start st).self.mMachine = .clientInvite := h
    simp only [h']
    exact Frame.clientInviteTimer_does cfg env t hf hv h
  · have h' : (Frame.start st).self.mMachine = .clientNonInvite := h
    simp only [h']
    exact Frame.clientNonInviteTimer_does cfg env t hf hv h
  · have h' : (Frame.start st).self.mMachine = .clientStale := h
    simp only [h']
    exact Frame.processClientStale_timer_does cfg env t hf h

theorem TransactionState.cancelFromTU_does (cfg : Config) (env : Env) {st : TransactionState}
    (cancel : SipMessage) (hv : st.clientView.WellFormed) (ht : st.mState ≠ .completed) :
    ((Frame.start st).cancelFromTU cfg env cancel).Does env st.clientView .cancel := by
  have hf := Frame.fresh_start st
  unfold Frame.cancelFromTU
  split
  case isTrue hs => exact ⟨_, _, .abandoned hs, hf.shows.record (fun _ => rfl) rfl rfl⟩
  case isFalse =>
    split
    case isTrue hc => exact absurd hc ht
    case isFalse =>
      have hu : st.clientView.unanswered := hv.unanswered_of_state ht
      obtain ⟨m, hn, -⟩ := hv.request hu
      have hnext : (Frame.start st).self.mNextTransmission = some m := hn
      exact ⟨_, _, .cancelled hu, hf.shows.handleInternalCancel cfg env (by simp [hnext]) cancel⟩

end Resiprocate.Transaction
