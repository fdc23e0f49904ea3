import Resiprocate.TransactionSession

/-! What a client INVITE or non-INVITE transaction can do, said once: a relation between
the parts of its record that matter, the cause of a step and its effect. Invariants are
proved over this relation; the state machines are shown to follow it. -/
namespace Resiprocate.Transaction

/-- The part of the record that decides what a client transaction does next. -/
structure ClientView where
  machine : Machine
  state : State
  abandoned : Bool
  reliable : Bool
  next : Option SipMessage
  retransmit : Option SendData
  dns : Bool
  pending : PendingOperation
  target : Tuple
  contact : Option Data
  via : Option Via
  method : MethodTypes

def TransactionState.clientView (st : TransactionState) : ClientView :=
  ⟨st.mMachine, st.mState, st.mIsAbandoned, st.mIsReliable, st.mNextTransmission,
    st.mMsgToRetransmit, st.mDnsResult, st.mPendingOperation, st.mTarget, st.mOriginalContact,
    st.mOriginalVia, st.mMethod⟩

@[simp] theorem TransactionState.clientView_fields (st : TransactionState) :
    st.clientView.machine = st.mMachine ∧ st.clientView.state = st.mState ∧
    st.clientView.abandoned = st.mIsAbandoned ∧ st.clientView.reliable = st.mIsReliable ∧
    st.clientView.next = st.mNextTransmission ∧
    st.clientView.retransmit = st.mMsgToRetransmit ∧ st.clientView.dns = st.mDnsResult ∧
    st.clientView.pending = st.mPendingOperation ∧ st.clientView.target = st.mTarget ∧
    st.clientView.method = st.mMethod := by simp [clientView]

/-- Why a client transaction takes a step. `failure` is a transport failure or a TCP
connection that did not come up in time. -/
inductive ClientCause
  | timer (type : TimerType)
  | response (code : ℕ)
  | request (m : SipMessage)
  | failure
  | resolved
  | cancel
  | other

/-- What a step does besides changing the record. `handed` is the status code of a
response offered to the TU, which congestion may drop. -/
structure ClientEffect where
  armed : List TimerType
  handed : Option ℕ
  gone : Bool
  sends : Bool

namespace ClientView

/-- No final response has come and none was made up. -/
def unanswered (v : ClientView) : Prop :=
  v.machine = .clientInvite ∧ (v.state = .calling ∨ v.state = .proceeding) ∨
  v.machine = .clientNonInvite ∧ (v.state = .trying ∨ v.state = .proceeding)

/-- The timers that resend the request. -/
def resends (v : ClientView) : TimerType → Prop
  | .timerA => v.machine = .clientInvite ∧ v.state = .calling ∧ v.abandoned = false
  | .timerE1 => v.machine = .clientNonInvite ∧ v.state = .trying
  | .timerE2 => v.machine = .clientNonInvite ∧ v.state = .proceeding
  | _ => False

/-- The timers that end the transaction with a response of its own. -/
def timesOut (v : ClientView) : TimerType → Prop
  | .timerB => v.machine = .clientInvite ∧ v.state = .calling
  | .timerCleanUp => v.machine = .clientInvite ∧ v.state = .proceeding
  | .timerF => v.machine = .clientNonInvite ∧ (v.state = .trying ∨ v.state = .proceeding)
  | _ => False

/-- The timers that end the transaction and say nothing to the TU. -/
def expires (v : ClientView) : TimerType → Prop
  | .timerD => v.machine = .clientInvite
  | .timerK => v.machine = .clientNonInvite
  | .timerStaleClient => v.machine = .clientStale
  | _ => False

def heeds (v : ClientView) (type : TimerType) : Prop :=
  v.resends type ∨ v.timesOut type ∨ v.expires type

/-- A message that is not kept once it is sent. -/
def spent (m : SipMessage) : Prop := m.isRequest = false ∨ m.method = .ack

/-- What sending the current message may do to the two stored messages. -/
def Kept (v : ClientView) (next : Option SipMessage) (retransmit : Option SendData) : Prop :=
  (next = v.next ∨ next = none ∧ ∃ m, v.next = some m ∧ spent m) ∧
  (next ≠ none ∨ retransmit ≠ none ∨ v.reliable = true)

/-- The message goes to a target that becomes the current one. -/
def aimed (v : ClientView) (target : Tuple) : ClientView :=
  { v with target := target, reliable := !lossy target.mTransportType }

/-- Sending the current message: what was sent before is sent again; otherwise it goes to
the current target, to the flow it names, or waits for a DNS query. -/
inductive Sent (v : ClientView) : List TimerType → ClientView → Prop
  | kept {next retransmit}
      (h : v.retransmit ≠ none ∨ v.target.mTransportType ≠ .unknownTransport ∨
        v.dns = true ∧ ∀ m, v.next = some m → m.destination.mFlowKey = 0)
      (hk : v.Kept next retransmit) :
      Sent v [] { v with next := next, retransmit := retransmit }
  | flow {m next retransmit} (ht : v.target.mTransportType = .unknownTransport)
      (hm : v.next = some m) (hf : m.destination.mFlowKey ≠ 0)
      (hk : (v.aimed m.destination).Kept next retransmit) :
      Sent v (startedBy v.machine v.reliable m.destination.mTransportType)
        { v.aimed m.destination with next := next, retransmit := retransmit }
  | resolving {m} (ht : v.target.mTransportType = .unknownTransport) (hd : v.dns = false)
      (hm : v.next = some m) (hf : m.destination.mFlowKey = 0) :
      Sent v [] { v with dns := true, pending := .dns }

/-- Puts the TU's Contact and Via back, with the next transport sequence. -/
def restored (v : ClientView) (m : SipMessage) : ClientView :=
  let via := v.via.map fun w => { w with branchTransportSeq := w.branchTransportSeq + 1 }
  { v with
    next := some { m with
      hContact := if v.contact.isSome then v.contact else m.hContact
      via := via.getD m.via }
    via := via
    retransmit := none }

/-- An INVITE that fails over starts anew in Calling. -/
def reverted (v : ClientView) : ClientView :=
  { v with state := if v.machine = .clientInvite ∧ v.state = .proceeding then .calling else v.state }

/-- The record of a transaction that has its final response. -/
def closed (v : ClientView) : ClientView :=
  { v with state := .completed, dns := false, pending := .none }

end ClientView

open ClientView

inductive ClientStep (env : Env) (v : ClientView) :
    ClientCause → ClientEffect → ClientView → Prop
  | ignored {e} (h : ∀ type, e = .timer type → ¬ v.heeds type) :
      ClientStep env v e ⟨[], none, false, false⟩ v
  | connecting {e} (h : ∀ type, e ≠ .timer type) :
      ClientStep env v e ⟨[.tcpConnectTimer], none, false, false⟩ v
  | abandoned (h : v.state = .calling) :
      ClientStep env v .cancel ⟨[], none, false, false⟩ { v with abandoned := true }
  | cancelled (h : v.unanswered) : ClientStep env v .cancel ⟨[.timerCleanUp], none, false, false⟩ v
  | resent {type armed v'} (h : v.resends type) (hs : v.Sent armed v') :
      ClientStep env v (.timer type) ⟨type :: armed, none, false, true⟩ v'
  | timedOut {type code} (h : v.timesOut type) (hc : 300 ≤ code) :
      ClientStep env v (.timer type) ⟨[], some code, true, false⟩ v
  | expired {type} (h : v.expires type) : ClientStep env v (.timer type) ⟨[], none, true, false⟩ v
  | inviteProvisional {code} (h : v.machine = .clientInvite) (hu : v.unanswered)
      (hc : code < 200) :
      ClientStep env v (.response code)
        ⟨if v.abandoned then [.timerCleanUp] else [], some code, false, false⟩
        { v with state := .proceeding, abandoned := false, retransmit := none }
  | inviteSuccess {code} (h : v.machine = .clientInvite) (hc : 200 ≤ code ∧ code < 300) :
      ClientStep env v (.response code) ⟨[.timerStaleClient], some code, false, false⟩
        { v.closed with
          machine := .clientStale, abandoned := false, next := none, retransmit := none }
  | staleSuccess {code} (h : v.machine = .clientStale) (hc : 200 ≤ code ∧ code < 300) :
      ClientStep env v (.response code) ⟨[], some code, false, false⟩ v
  | inviteFailureReliable {code} (h : v.machine = .clientInvite) (hr : v.reliable = true)
      (hc : 300 ≤ code) : ClientStep env v (.response code) ⟨[], some code, true, true⟩ v
  | inviteFailure {code ack next retransmit} (h : v.machine = .clientInvite) (hu : v.unanswered)
      (hr : v.reliable = false) (hc : 300 ≤ code) (ha : ack.method = .ack)
      (hk : { v with next := some ack }.Kept next retransmit) :
      ClientStep env v (.response code) ⟨[.timerD], some code, false, true⟩
        { v.closed with abandoned := false, next := next, retransmit := retransmit }
  | inviteFailureAgain {code next retransmit} (h : v.machine = .clientInvite)
      (hs : v.state = .completed) (hr : v.reliable = false) (hk : v.Kept next retransmit) :
      ClientStep env v (.response code) ⟨[], none, false, true⟩
        { v with abandoned := false, next := next, retransmit := retransmit }
  | provisional {code} (h : v.machine = .clientNonInvite) (hu : v.unanswered) (hc : code < 200) :
      ClientStep env v (.response code)
        ⟨if v.reliable = false ∧ v.state = .trying then [.timerE2] else [], some code, false, false⟩
        { v with state := .proceeding }
  | finalReliable {code} (h : v.machine = .clientNonInvite) (hu : v.unanswered)
      (hr : v.reliable = true) (hc : 200 ≤ code) :
      ClientStep env v (.response code) ⟨[], some code, true, false⟩ v
  | final {code} (h : v.machine = .clientNonInvite) (hu : v.unanswered)
      (hr : v.reliable = false) (hc : 200 ≤ code) :
      ClientStep env v (.response code) ⟨[.timerK], some code, false, false⟩
        { v.closed with next := none, retransmit := none }
  | requested {m contact armed v'} (h : v.machine = .clientNonInvite) (hm : m.method = v.method)
      (hq : m.isRequest = true)
      (hs : { v with next := some m, retransmit := none, contact := contact, via := some m.via }.Sent
        armed v') :
      ClientStep env v (.request m) ⟨.timerF :: armed, none, false, true⟩ v'
  | cancelFailed {m} (hn : v.next = some m) (hq : m.isRequest = true) (hm : m.method = .cancel)
      (hu : v.unanswered) : ClientStep env v .failure ⟨[], some 503, false, false⟩ v
  | noTarget {e code m} (he : e = .failure ∨ e = .resolved ∧ v.pending = .dns)
      (hn : v.next = some m) (hm : m.method ≠ .ack) (hc : 300 ≤ code) :
      ClientStep env v e ⟨[], some code, true, false⟩ v
  | failover {m armed v'} (hu : v.unanswered) (hd : v.dns = true) (hn : v.next = some m)
      (hm : ¬ (m.isRequest = true ∧ m.method = .cancel)) (ha : env.dnsAvailable = .available)
      (hs : ((v.reverted.restored m).aimed env.dnsNext).Sent armed v') :
      ClientStep env v .failure
        ⟨startedBy v.machine v.reliable env.dnsNext.mTransportType ++ armed, none, false, true⟩ v'
  | failoverPending {m} (hu : v.unanswered) (hd : v.dns = true) (hn : v.next = some m)
      (hm : ¬ (m.isRequest = true ∧ m.method = .cancel)) (ha : env.dnsAvailable = .pending) :
      ClientStep env v .failure ⟨[], none, false, false⟩
        { v.reverted.restored m with pending := .dns }
  | failoverDestroyed {m} (hu : v.unanswered) (hd : v.dns = true) (hn : v.next = some m)
      (hm : ¬ (m.isRequest = true ∧ m.method = .cancel)) (ha : env.dnsAvailable = .destroyed) :
      ClientStep env v .failure ⟨[], none, false, false⟩ v.reverted
  | found {armed v'} (hp : v.pending = .dns) (ha : env.dnsAvailable = .available)
      (hs : { v.aimed env.dnsNext with pending := .none }.Sent armed v') :
      ClientStep env v .resolved
        ⟨startedBy v.machine v.reliable env.dnsNext.mTransportType ++ armed, none, false, true⟩ v'
  | rewritten {m uri} (hd : v.dns = true) (hn : v.next = some m) (hq : m.isRequest = true) :
      ClientStep env v .other ⟨[], none, false, false⟩
        { v with next := some { m with startLine := .request uri }, retransmit := none }

/-- What holds of every client INVITE, non-INVITE or stale transaction. -/
structure ClientView.WellFormed (v : ClientView) : Prop where
  states : v.unanswered ∨ v.state = .completed ∧
    (v.machine = .clientInvite ∨ v.machine = .clientNonInvite ∨ v.machine = .clientStale)
  invite : v.machine = .clientInvite → v.method = .invite
  nonInvite : v.machine = .clientNonInvite → v.method ≠ .invite ∧ v.method ≠ .ack
  request : v.unanswered → ∃ m, v.next = some m ∧ m.isRequest = true ∧ m.method = v.method
  noDns : v.state = .completed → v.dns = false
  unreliable : v.state = .completed → v.machine ≠ .clientStale → v.reliable = false
  ack : v.machine = .clientInvite → v.state = .completed →
    (v.next ≠ none ∨ v.retransmit ≠ none) ∧ ∀ m, v.next = some m → m.method = .ack
  again : v.machine = .clientNonInvite → ∀ m, v.next = some m →
    m.isRequest = true ∧ m.method = v.method
  stale : v.machine = .clientStale → v.next = none ∧ v.retransmit = none
  pending : v.pending = .dns → v.dns = true
  reliability : v.reliable = !lossy v.target.mTransportType

namespace ClientView

theorem Kept.of_request {v : ClientView} {next retransmit} {m} (hk : v.Kept next retransmit)
    (hn : v.next = some m) (hq : m.isRequest = true) (hm : m.method ≠ .ack) : next = some m := by
  obtain ⟨hk | ⟨-, m', hm', hs⟩, -⟩ := hk
  · rw [hk, hn]
  · rw [hn] at hm'
    cases hm'
    simp_all [spent]

theorem unanswered.state {v : ClientView} (hu : v.unanswered) :
    v.state ≠ .completed ∧ v.machine ≠ .clientStale := by
  unfold unanswered at hu
  constructor <;> intro h <;> simp_all

theorem unanswered.reverted {v : ClientView} (hu : v.unanswered) : v.reverted.unanswered := by
  simp only [unanswered, ClientView.reverted] at hu ⊢
  split <;> simp_all

namespace WellFormed

/-- Well-formedness of a transaction that waits for its final response. -/
theorem of_unanswered {v : ClientView} {m : SipMessage} (hu : v.unanswered)
    (hi : v.machine = .clientInvite → v.method = .invite)
    (hn : v.machine = .clientNonInvite → v.method ≠ .invite ∧ v.method ≠ .ack)
    (hm : v.next = some m) (hq : m.isRequest = true ∧ m.method = v.method)
    (hp : v.pending = .dns → v.dns = true)
    (hr : v.reliable = !lossy v.target.mTransportType) : v.WellFormed where
  states := .inl hu
  invite := hi
  nonInvite := hn
  request _ := ⟨m, hm, hq⟩
  noDns h := absurd h hu.state.1
  unreliable h := absurd h hu.state.1
  ack _ h := absurd h hu.state.1
  again _ m' hm' := by
    rw [hm] at hm'
    cases hm'
    exact hq
  stale h := absurd h hu.state.2
  pending := hp
  reliability := hr

/-- Well-formedness of a transaction in Completed. -/
theorem of_completed {v : ClientView} (hs : v.state = .completed)
    (hm : v.machine = .clientInvite ∨ v.machine = .clientNonInvite)
    (hi : v.machine = .clientInvite → v.method = .invite)
    (hn : v.machine = .clientNonInvite → v.method ≠ .invite ∧ v.method ≠ .ack)
    (hd : v.dns = false) (hp : v.pending = .dns → v.dns = true) (hu : v.reliable = false)
    (hr : v.reliable = !lossy v.target.mTransportType)
    (ha : v.machine = .clientInvite →
      (v.next ≠ none ∨ v.retransmit ≠ none) ∧ ∀ m, v.next = some m → m.method = .ack)
    (hg : v.machine = .clientNonInvite → ∀ m, v.next = some m →
      m.isRequest = true ∧ m.method = v.method) : v.WellFormed where
  states := .inr ⟨hs, hm.imp_right .inl⟩
  invite := hi
  nonInvite := hn
  request h := absurd hs h.state.1
  noDns _ := hd
  unreliable _ _ := hu
  ack h _ := ha h
  again := hg
  stale h := by simp [h] at hm
  pending := hp
  reliability := hr

variable {v : ClientView} (hv : v.WellFormed)
include hv

theorem not_ack (hu : v.unanswered) : v.method ≠ .ack := by
  rcases hu with ⟨hm, -⟩ | ⟨hm, -⟩
  · simp [hv.invite hm]
  · exact (hv.nonInvite hm).2

theorem unanswered_of_state (hs : v.state ≠ .completed) : v.unanswered := by
  rcases hv.states with hu | ⟨hc, -⟩
  · exact hu
  · exact absurd hc hs

theorem unanswered_of_dns (hd : v.dns = true) : v.unanswered := by
  apply hv.unanswered_of_state
  intro hc
  simp [hv.noDns hc] at hd

theorem not_terminated : v.state ≠ .terminated := by
  intro h
  rcases hv.states with (⟨-, hs | hs⟩ | ⟨-, hs | hs⟩) | ⟨hs, -⟩ <;> simp [h] at hs

theorem reverted (hu : v.unanswered) : v.reverted.WellFormed := by
  obtain ⟨m, hm, hq⟩ := hv.request hu
  exact .of_unanswered hu.reverted hv.invite hv.nonInvite hm hq hv.pending hv.reliability

/-- The target of a transaction over a lossy transport is known. -/
theorem target_of_unreliable (hr : v.reliable = false) :
    v.target.mTransportType ≠ .unknownTransport := by
  intro ht
  have := hv.reliability
  simp [hr, ht, lossy] at this

end WellFormed

theorem Sent.frame {v v' : ClientView} {armed : List TimerType} (h : v.Sent armed v') :
    v'.machine = v.machine ∧ v'.state = v.state ∧ v'.abandoned = v.abandoned ∧
    v'.contact = v.contact ∧ v'.via = v.via ∧ v'.method = v.method := by
  cases h <;> simp [aimed]

/-- Sending a stored request keeps it. -/
theorem Sent.wellFormed {v v' : ClientView} {armed : List TimerType} (hs : v.Sent armed v')
    (hv : v.WellFormed) (hu : v.unanswered) : v'.WellFormed := by
  obtain ⟨m, hm, hq⟩ := hv.request hu
  have ha : m.method ≠ .ack := hq.2 ▸ hv.not_ack hu
  cases hs with
  | kept _ hk =>
    exact .of_unanswered hu hv.invite hv.nonInvite (hk.of_request hm hq.1 ha) hq hv.pending
      hv.reliability
  | flow _ _ _ hk =>
    exact .of_unanswered hu hv.invite hv.nonInvite (hk.of_request hm hq.1 ha) hq hv.pending rfl
  | resolving =>
    exact .of_unanswered hu hv.invite hv.nonInvite hm hq (fun _ => rfl) hv.reliability

end ClientView

theorem ClientStep.wellFormed {env : Env} {v v' : ClientView} {e : ClientCause}
    {x : ClientEffect} (h : ClientStep env v e x v') (hx : x.gone = false) (hv : v.WellFormed) :
    v'.WellFormed := by
  cases h with
  | ignored => exact hv
  | connecting => exact hv
  | cancelled => exact hv
  | staleSuccess => exact hv
  | cancelFailed => exact hv
  | abandoned h =>
    have hu : v.unanswered := hv.unanswered_of_state (by simp [h])
    obtain ⟨m, hm, hq⟩ := hv.request hu
    exact .of_unanswered hu hv.invite hv.nonInvite hm hq hv.pending hv.reliability
  | @resent type _ _ h hs =>
    have hu : v.unanswered := by
      cases type <;> simp_all [resends, unanswered]
    exact hs.wellFormed hv hu
  | inviteProvisional h hu =>
    obtain ⟨m, hm, hq⟩ := hv.request hu
    exact .of_unanswered (by simp [unanswered, h]) hv.invite hv.nonInvite hm hq hv.pending
      hv.reliability
  | provisional h hu =>
    obtain ⟨m, hm, hq⟩ := hv.request hu
    exact .of_unanswered (by simp [unanswered, h]) hv.invite hv.nonInvite hm hq hv.pending
      hv.reliability
  | rewritten hd hn hq =>
    have hu := hv.unanswered_of_dns hd
    obtain ⟨m, hm, hq⟩ := hv.request hu
    rw [hn] at hm
    cases hm
    exact .of_unanswered hu hv.invite hv.nonInvite rfl ⟨rfl, hq.2⟩ hv.pending hv.reliability
  | failover hu hd hn hm ha hs =>
    obtain ⟨m, hm', hq⟩ := hv.request hu
    rw [hn] at hm'
    cases hm'
    exact hs.wellFormed
      (.of_unanswered hu.reverted hv.invite hv.nonInvite rfl hq hv.pending rfl) hu.reverted
  | failoverPending hu hd hn hm ha =>
    obtain ⟨m, hm', hq⟩ := hv.request hu
    rw [hn] at hm'
    cases hm'
    exact .of_unanswered hu.reverted hv.invite hv.nonInvite rfl hq (fun _ => hd) hv.reliability
  | failoverDestroyed hu => exact hv.reverted hu
  | found hp ha hs =>
    have hu : v.unanswered := hv.unanswered_of_dns (hv.pending hp)
    obtain ⟨m, hm, hq⟩ := hv.request hu
    exact hs.wellFormed (.of_unanswered hu hv.invite hv.nonInvite hm hq nofun rfl) hu
  | inviteSuccess h hc =>
    refine ⟨.inr ⟨rfl, by simp⟩, nofun, nofun, ?_, fun _ => rfl, fun _ h => absurd rfl h, nofun,
      nofun, fun _ => ⟨rfl, rfl⟩, nofun, hv.reliability⟩
    simp [unanswered]
  | inviteFailure h hu hr hc ha hk =>
    refine .of_completed rfl (.inl h) hv.invite hv.nonInvite rfl nofun hr hv.reliability ?_ ?_
    · intro _
      obtain ⟨hn, hne⟩ := hk
      constructor
      · simpa [hr] using hne
      · grind
    · simp [closed, h]
  | inviteFailureAgain h hs hr hk =>
    refine .of_completed hs (.inl h) hv.invite hv.nonInvite (hv.noDns hs) hv.pending hr
      hv.reliability ?_ ?_
    · intro _
      obtain ⟨hn, hne⟩ := hk
      have ha := (hv.ack h hs).2
      constructor
      · simpa [hr] using hne
      · grind
    · simp [h]
  | final h hu hr hc =>
    exact .of_completed rfl (.inr h) hv.invite hv.nonInvite rfl nofun hr hv.reliability
      (by simp [closed, h]) (by simp)
  | requested h hm hq hs =>
    rcases hv.states with hu | ⟨hc, -⟩
    · refine hs.wellFormed ?_ hu
      exact .of_unanswered hu hv.invite hv.nonInvite rfl ⟨hq, hm⟩ hv.pending hv.reliability
    · have hr := hv.unreliable hc (by simp [h])
      have ht := hv.target_of_unreliable hr
      cases hs with
      | kept hd hk =>
        have hn := hk.of_request rfl hq (hm ▸ (hv.nonInvite h).2)
        refine .of_completed hc (.inr h) hv.invite hv.nonInvite (hv.noDns hc) hv.pending hr
          hv.reliability (by simp [h]) ?_
        simp [hn, hm, hq]
      | flow hu => exact absurd hu ht
      | resolving hu => exact absurd hu ht
  | _ => simp at hx

end Resiprocate.Transaction
