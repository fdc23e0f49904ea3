import Resiprocate.TransactionSession

/-! What a server transaction can do, said once, in the manner of the client side: the part
of the record that matters, the cause of a step, and its effect. -/
namespace Resiprocate.Transaction

/-- The part of the record that decides what a server transaction does next. -/
structure ServerView where
  machine : Machine
  state : State
  abandoned : Bool
  reliable : Bool
  ackValid : Bool
  next : Option SipMessage
  retransmit : Option SipMessage
  dns : Bool
  pending : PendingOperation

def TransactionState.serverView (st : TransactionState) : ServerView :=
  ⟨st.mMachine, st.mState, st.mIsAbandoned, st.mIsReliable, st.mAckIsValid, st.mNextTransmission,
    st.mMsgToRetransmit.map (·.data), st.mDnsResult, st.mPendingOperation⟩

@[simp] theorem TransactionState.serverView_fields (st : TransactionState) :
    st.serverView.machine = st.mMachine ∧ st.serverView.state = st.mState ∧
    st.serverView.abandoned = st.mIsAbandoned ∧ st.serverView.reliable = st.mIsReliable ∧
    st.serverView.ackValid = st.mAckIsValid ∧ st.serverView.next = st.mNextTransmission ∧
    st.serverView.retransmit = st.mMsgToRetransmit.map (·.data) ∧
    st.serverView.dns = st.mDnsResult ∧ st.serverView.pending = st.mPendingOperation := by
  simp [serverView]

/-- Why a server transaction takes a step: a retransmission of its request, an ACK, a response
or an abandonment by the TU, or a timer. -/
inductive ServerCause
  | request
  | ack
  | response (m : SipMessage)
  | abandon
  | timer (type : TimerType)
  | other

structure ServerEffect where
  armed : List TimerType
  wire : List SipMessage
  gone : Bool

namespace ServerView

/-- The TU has sent no final response yet. -/
def unanswered (v : ServerView) : Prop :=
  (v.machine = .serverInvite ∨ v.machine = .serverNonInvite) ∧
    (v.state = .trying ∨ v.state = .proceeding)

/-- The timers that end the transaction. -/
def expires (v : ServerView) : TimerType → Prop
  | .timerH | .timerI => v.machine = .serverInvite
  | .timerJ => v.machine = .serverNonInvite ∧ v.state = .completed
  | .timerStaleServer => v.machine = .serverStale
  | _ => False

/-- An abandonment by the TU changes something. -/
def accepts (v : ServerView) : Prop :=
  v.unanswered ∧ (v.machine = .serverInvite → v.abandoned = false)

/-- The timers and abandonments that do something for certain. -/
def heeds (v : ServerView) : ServerCause → Prop
  | .timer type => v.expires type
  | .abandon => v.accepts
  | _ => False

/-- The current message, replaced. -/
def storing (v : ServerView) (m : SipMessage) : ServerView :=
  { v with next := some m, retransmit := none }

/-- The record of an INVITE transaction that answers with a failure. -/
def failed (v : ServerView) : ServerView := { v with state := .completed, ackValid := true }

/-- Timer H, and Timer G where the transport may lose the response. -/
def responseTimers (v : ServerView) : List TimerType :=
  .timerH :: if v.reliable then [] else [.timerG]

/-- Sending the current message: what was sent before is sent again; otherwise the stored
message goes out, or is kept because no transport was found for it. -/
inductive Sent (v : ServerView) : List SipMessage → ServerView → Prop
  | resent {m} (h : v.retransmit = some m) : Sent v [m] v
  | sent {m} (h : v.retransmit = none) (hn : v.next = some m) (hq : m.isRequest = false) :
      Sent v [m] { v with next := none, retransmit := if v.reliable then none else some m }
  | unsent {m} (h : v.retransmit = none) (hn : v.next = some m) : Sent v [] v

end ServerView

open ServerView

inductive ServerStep (v : ServerView) : ServerCause → ServerEffect → ServerView → Prop
  | ignored {e} (h : ¬ v.heeds e) : ServerStep v e ⟨[], [], false⟩ v
  | answeredAgain {wire v'} (hu : v.machine = .serverInvite ∨ v.machine = .serverNonInvite)
      (hs : v.state = .proceeding ∨ v.state = .completed) (ha : v.abandoned = false)
      (hr : v.reliable = false) (hsent : v.Sent wire v') :
      ServerStep v .request ⟨[], wire, false⟩ v'
  | inviteForged {m wire v'} (h : v.machine = .serverInvite) (ha : v.abandoned = true)
      (hr : v.reliable = false) (hm : m.isRequest = false) (hc : m.statusCode = 500)
      (hsent : ({ v.failed with abandoned := false }.storing m).Sent wire v') :
      ServerStep v .request ⟨v.responseTimers, wire, false⟩ v'
  | nonInviteForged {m wire v'} (h : v.machine = .serverNonInvite) (ha : v.abandoned = true)
      (hs : v.state = .proceeding ∨ v.state = .completed)
      (hr : v.reliable = false) (hm : m.isRequest = false)
      (hsent : ({ v with abandoned := false }.storing m).Sent wire v') :
      ServerStep v .request ⟨[], wire, false⟩ v'
  | ackedReliable (h : v.machine = .serverInvite) (hs : v.state = .completed)
      (hr : v.reliable = true) : ServerStep v .ack ⟨[], [], true⟩ v
  | acked (h : v.machine = .serverInvite) (hs : v.state = .completed) (hr : v.reliable = false) :
      ServerStep v .ack ⟨[.timerI], [], false⟩
        { v with state := .confirmed, next := none, retransmit := none }
  | provisional {m wire v'} (hu : v.unanswered) (hm : m.isRequest = false) (hc : m.statusCode < 200)
      (hsent : ({ v with state := .proceeding }.storing m).Sent wire v') :
      ServerStep v (.response m) ⟨[], wire, false⟩ v'
  | success {m wire v'} (hu : v.unanswered) (h : v.machine = .serverInvite)
      (hm : m.isRequest = false) (hc : 200 ≤ m.statusCode ∧ m.statusCode < 300)
      (hsent : ({ v with machine := .serverStale }.storing m).Sent wire v') :
      ServerStep v (.response m) ⟨[.timerStaleServer], wire, false⟩ v'
  | failure {m wire v'} (hu : v.unanswered) (h : v.machine = .serverInvite)
      (hm : m.isRequest = false) (hc : 300 ≤ m.statusCode)
      (hsent : (v.failed.storing m).Sent wire v') :
      ServerStep v (.response m) ⟨v.responseTimers, wire, false⟩ v'
  | finalReliable {m wire v'} (h : v.machine = .serverNonInvite) (hr : v.reliable = true)
      (hm : m.isRequest = false) (hc : 200 ≤ m.statusCode) (hsent : (v.storing m).Sent wire v') :
      ServerStep v (.response m) ⟨[], wire, true⟩ v'
  | final {m wire v'} (hu : v.unanswered) (h : v.machine = .serverNonInvite)
      (hr : v.reliable = false) (hm : m.isRequest = false) (hc : 200 ≤ m.statusCode)
      (hsent : ({ v with state := .completed }.storing m).Sent wire v') :
      ServerStep v (.response m) ⟨[.timerJ], wire, false⟩ v'
  | staleResponse {m wire v'} (h : v.machine = .serverStale) (hm : m.isRequest = false)
      (hsent : (v.storing m).Sent wire v') : ServerStep v (.response m) ⟨[], wire, false⟩ v'
  | repeated {wire v'} (h : v.machine = .serverInvite) (hs : v.state = .completed)
      (hr : v.reliable = false) (hsent : v.Sent wire v') : ServerStep v (.timer .timerG) ⟨[.timerG], wire, false⟩ v'
  | tried {wire v'} (h : v.machine = .serverInvite ∨ v.machine = .serverNonInvite)
      (hs : v.state = .trying) (hsent : { v with state := .proceeding }.Sent wire v') :
      ServerStep v (.timer .timerTrying) ⟨[], wire, false⟩ v'
  | expired {type} (h : v.expires type) : ServerStep v (.timer type) ⟨[], [], true⟩ v
  | abandonedAnswered {m m' wire v'} (hu : v.unanswered) (h : v.machine = .serverInvite)
      (ha : v.abandoned = false) (hn : v.next = some m) (hm : m'.isRequest = false)
      (hc : m'.statusCode = 500) (hsent : (v.failed.storing m').Sent wire v') :
      ServerStep v .abandon ⟨v.responseTimers, wire, false⟩ v'
  | abandonedReliable (hu : v.unanswered) (hr : v.reliable = true) :
      ServerStep v .abandon ⟨[], [], true⟩ v
  | abandonedWaiting (hu : v.unanswered) (h : v.machine = .serverInvite)
      (ha : v.abandoned = false) (hn : v.next = none) (hr : v.reliable = false) :
      ServerStep v .abandon ⟨[], [], false⟩ { v with abandoned := true }
  | abandonedTimed (hu : v.unanswered) (h : v.machine = .serverNonInvite)
      (hr : v.reliable = false) :
      ServerStep v .abandon ⟨[.timerJ], [], false⟩
        { v with abandoned := true, state := .completed }

/-- What holds of every server transaction. -/
structure ServerView.WellFormed (v : ServerView) : Prop where
  states : v.unanswered ∨
    v.machine = .serverInvite ∧ (v.state = .completed ∨ v.state = .confirmed) ∨
    v.machine = .serverNonInvite ∧ v.state = .completed ∧ v.reliable = false ∨
    v.machine = .serverStale ∧ (v.state = .trying ∨ v.state = .proceeding)
  response : ∀ m, v.next = some m → m.isRequest = false
  trying : v.unanswered → v.state = .trying → v.next ≠ none
  stored : v.reliable = false → v.state ≠ .confirmed → v.next ≠ none ∨ v.retransmit ≠ none
  ack : v.ackValid = true →
    v.machine = .serverInvite ∧ (v.state = .completed ∨ v.state = .confirmed)
  abandoned : v.machine = .serverNonInvite → v.abandoned = true → v.state = .completed
  dns : v.dns = false
  pending : v.pending = .none

namespace ServerView

theorem Sent.frame {v v' : ServerView} {wire : List SipMessage} (h : v.Sent wire v') :
    v'.machine = v.machine ∧ v'.state = v.state ∧ v'.abandoned = v.abandoned ∧
    v'.reliable = v.reliable ∧ v'.ackValid = v.ackValid ∧ v'.dns = v.dns ∧
    v'.pending = v.pending := by
  cases h <;> simp

theorem Sent.next {v v' : ServerView} {wire : List SipMessage} (h : v.Sent wire v') :
    v'.next = none ∨ v'.next = v.next := by
  cases h <;> simp

/-- Over a transport that may lose it, what was sent or is to be sent is stored. -/
theorem Sent.stored {v v' : ServerView} {wire : List SipMessage} (h : v.Sent wire v')
    (hr : v.reliable = false) : v'.next ≠ none ∨ v'.retransmit ≠ none := by
  cases h with
  | resent h => simp [h]
  | sent => simp [hr]
  | unsent _ hn => simp [hn]

/-- A step that ends with sending is well formed if the rest of the record is. -/
theorem Sent.wellFormed {v v' : ServerView} {wire : List SipMessage} (hsent : v.Sent wire v')
    (hstates : v.unanswered ∧ v.state = .proceeding ∨
      v.machine = .serverInvite ∧ v.state = .completed ∨
      v.machine = .serverNonInvite ∧ v.state = .completed ∧ v.reliable = false ∨
      v.machine = .serverStale ∧ (v.state = .trying ∨ v.state = .proceeding))
    (hresponse : ∀ m, v.next = some m → m.isRequest = false)
    (hack : v.ackValid = true →
      v.machine = .serverInvite ∧ (v.state = .completed ∨ v.state = .confirmed))
    (habandoned : v.machine = .serverNonInvite → v.abandoned = true → v.state = .completed)
    (hdns : v.dns = false) (hpending : v.pending = .none) : v'.WellFormed := by
  obtain ⟨hm, hs, ha, hr, hk, hd, hp⟩ := hsent.frame
  refine ⟨?_, ?_, ?_, ?_, ?_, ?_, hd.trans hdns, hp.trans hpending⟩
  · rw [unanswered, hm, hs, hr]
    exact hstates.imp_left And.left |>.imp_right fun h => h.imp_left fun h => ⟨h.1, .inl h.2⟩
  · intro m hn
    rcases hsent.next with h | h
    · simp [h] at hn
    · exact hresponse m (h ▸ hn)
  · rintro ⟨hu, -⟩ ht
    rw [hm] at hu
    rw [hs] at ht
    rcases hstates with ⟨-, h⟩ | ⟨-, h⟩ | ⟨-, h, -⟩ | ⟨h, -⟩
    · simp [h] at ht
    · simp [h] at ht
    · simp [h] at ht
    · simp [h] at hu
  · intro hrel _
    exact hsent.stored (hr ▸ hrel)
  · rw [hm, hs, hk]
    exact hack
  · rw [hm, hs, ha]
    exact habandoned

namespace WellFormed
variable {v : ServerView} (hv : v.WellFormed)
include hv

/-- No failure response has been sent, so no ACK is expected. -/
theorem ackValid_of_unanswered (hu : v.unanswered) : v.ackValid ≠ true := by
  intro h
  obtain ⟨-, hc⟩ := hv.ack h
  rcases hu.2 with hs | hs <;> simp [hs] at hc

theorem abandoned_of_unanswered (hu : v.unanswered) (h : v.machine = .serverNonInvite) :
    v.abandoned ≠ true := by
  intro ha
  have hc := hv.abandoned h ha
  rcases hu.2 with hs | hs <;> simp [hs] at hc

theorem nonInvite_states (h : v.machine = .serverNonInvite) :
    (v.state = .trying ∨ v.state = .proceeding) ∨ v.state = .completed ∧ v.reliable = false := by
  simpa [unanswered, h] using hv.states

theorem invite_states (h : v.machine = .serverInvite) :
    (v.state = .trying ∨ v.state = .proceeding) ∨ v.state = .completed ∨ v.state = .confirmed := by
  simpa [unanswered, h] using hv.states

end WellFormed

end ServerView

theorem ServerStep.wellFormed {v v' : ServerView} {e : ServerCause} {x : ServerEffect}
    (h : ServerStep v e x v') (hx : x.gone = false) (hv : v.WellFormed) : v'.WellFormed := by
  have hstoring : ∀ m m' : SipMessage, m.isRequest = false → some m = some m' →
      m'.isRequest = false := by
    rintro m m' hm ⟨⟩
    exact hm
  cases h with
  | ignored => exact hv
  | answeredAgain hu hs ha hr hsent =>
    refine hsent.wellFormed ?_ hv.response hv.ack hv.abandoned hv.dns hv.pending
    rcases hs with hs | hs
    · exact .inl ⟨⟨hu, .inr hs⟩, hs⟩
    · rcases hu with hu | hu
      · exact .inr (.inl ⟨hu, hs⟩)
      · exact .inr (.inr (.inl ⟨hu, hs, hr⟩))
  | inviteForged h ha hr hm hc hsent =>
    exact hsent.wellFormed (.inr (.inl ⟨h, rfl⟩)) (hstoring _ · hm) (fun _ => ⟨h, .inl rfl⟩)
      (fun _ => by simp [storing]) hv.dns hv.pending
  | nonInviteForged h ha hs hr hm hsent =>
    have hc := hv.abandoned h ha
    exact hsent.wellFormed (.inr (.inr (.inl ⟨h, hc, hr⟩))) (hstoring _ · hm) hv.ack
      (fun _ => by simp [storing]) hv.dns hv.pending
  | acked h hs hr =>
    exact ⟨.inr (.inl ⟨h, .inr rfl⟩), by simp, by simp [unanswered], by simp,
      fun _ => ⟨h, .inr rfl⟩, by simp [h], hv.dns, hv.pending⟩
  | provisional hu hm hc hsent =>
    exact hsent.wellFormed (.inl ⟨⟨hu.1, .inr rfl⟩, rfl⟩) (hstoring _ · hm)
      (absurd · (hv.ackValid_of_unanswered hu))
      (fun h ha => absurd ha (hv.abandoned_of_unanswered hu h)) hv.dns hv.pending
  | success hu h hm hc hsent =>
    exact hsent.wellFormed (.inr (.inr (.inr ⟨rfl, hu.2⟩))) (hstoring _ · hm)
      (absurd · (hv.ackValid_of_unanswered hu)) (by simp [storing]) hv.dns hv.pending
  | failure hu h hm hc hsent =>
    refine hsent.wellFormed (.inr (.inl ⟨h, rfl⟩)) (hstoring _ · hm) (fun _ => ⟨h, .inl rfl⟩)
      (fun hn => ?_) hv.dns hv.pending
    simp [storing, failed, h] at hn
  | final hu h hr hm hc hsent =>
    exact hsent.wellFormed (.inr (.inr (.inl ⟨h, rfl, hr⟩))) (hstoring _ · hm)
      (absurd · (hv.ackValid_of_unanswered hu)) (fun _ _ => rfl) hv.dns hv.pending
  | staleResponse h hm hsent =>
    have hs : v.state = .trying ∨ v.state = .proceeding := by
      simpa [h, unanswered] using hv.states
    exact hsent.wellFormed (.inr (.inr (.inr ⟨h, hs⟩))) (hstoring _ · hm) hv.ack hv.abandoned
      hv.dns hv.pending
  | repeated h hs hr hsent =>
    exact hsent.wellFormed (.inr (.inl ⟨h, hs⟩)) hv.response hv.ack hv.abandoned hv.dns hv.pending
  | tried h hs hsent =>
    have hu : v.unanswered := ⟨h, .inl hs⟩
    exact hsent.wellFormed (.inl ⟨⟨h, .inr rfl⟩, rfl⟩) hv.response
      (absurd · (hv.ackValid_of_unanswered hu))
      (fun hn ha => absurd ha (hv.abandoned_of_unanswered hu hn)) hv.dns hv.pending
  | abandonedAnswered hu h ha hn hm hc hsent =>
    refine hsent.wellFormed (.inr (.inl ⟨h, rfl⟩)) (hstoring _ · hm) (fun _ => ⟨h, .inl rfl⟩)
      (fun hn => ?_) hv.dns hv.pending
    simp [storing, failed, h] at hn
  | abandonedWaiting hu h ha hn hr =>
    exact ⟨.inl hu, hv.response, hv.trying, hv.stored, hv.ack, by simp [h], hv.dns, hv.pending⟩
  | abandonedTimed hu h hr =>
    refine ⟨.inr (.inr (.inl ⟨h, rfl, hr⟩)), hv.response, by simp [unanswered], fun _ _ => ?_,
      (absurd · (hv.ackValid_of_unanswered hu)), fun _ _ => rfl, hv.dns, hv.pending⟩
    apply hv.stored hr
    rcases hu.2 with hs | hs <;> simp [hs]
  | _ => simp at hx

/-- A transaction keeps its reliability, and Timer G is for unreliable transports. -/
theorem ServerStep.reliable {v v' : ServerView} {e : ServerCause} {x : ServerEffect}
    (h : ServerStep v e x v') :
    (x.gone = false → v'.reliable = v.reliable) ∧ (.timerG ∈ x.armed → v.reliable = false) := by
  cases h with
  | repeated _ _ hr hsent => exact ⟨fun _ => hsent.frame.2.2.2.1, fun _ => hr⟩
  | inviteForged _ _ hr _ _ hsent => exact ⟨fun _ => hsent.frame.2.2.2.1, fun _ => hr⟩
  | failure _ _ _ _ hsent =>
    exact ⟨fun _ => hsent.frame.2.2.2.1, by simp [responseTimers]⟩
  | abandonedAnswered _ _ _ _ _ _ hsent =>
    exact ⟨fun _ => hsent.frame.2.2.2.1, by simp [responseTimers]⟩
  | answeredAgain _ _ _ _ hsent => exact ⟨fun _ => hsent.frame.2.2.2.1, by simp⟩
  | nonInviteForged _ _ _ _ _ hsent => exact ⟨fun _ => hsent.frame.2.2.2.1, by simp⟩
  | provisional _ _ _ hsent => exact ⟨fun _ => hsent.frame.2.2.2.1, by simp⟩
  | success _ _ _ _ hsent => exact ⟨fun _ => hsent.frame.2.2.2.1, by simp⟩
  | finalReliable _ _ _ _ hsent => exact ⟨fun _ => hsent.frame.2.2.2.1, by simp⟩
  | final _ _ _ _ _ hsent => exact ⟨fun _ => hsent.frame.2.2.2.1, by simp⟩
  | staleResponse _ _ hsent => exact ⟨fun _ => hsent.frame.2.2.2.1, by simp⟩
  | tried _ _ hsent => exact ⟨fun _ => hsent.frame.2.2.2.1, by simp⟩
  | _ => simp

end Resiprocate.Transaction
