import Resiprocate.TransitionSystem
import Resiprocate.TransactionFrame

/-! The life of one transaction under its id: how it is created, the messages, timers and
callbacks that reach it in any order, the timers it has pending and all it hands out. -/
namespace Resiprocate.Transaction
open TransitionSystem

def Outputs.append (a b : Outputs) : Outputs :=
  ⟨a.timers ++ b.timers, a.tu ++ b.tu, a.terminations ++ b.terminations, a.wire ++ b.wire,
    a.dns ++ b.dns, a.faults ++ b.faults⟩

/-- `tx = none` once the transaction has deleted itself. Timers are never cancelled, so
they may outlive it. -/
structure Session where
  tx : Option TransactionState
  timers : List TransactionTimer
  log : Outputs

inductive SessionEvent
  | message (msg : TransactionMessage)
  | timer (t : TransactionTimer)
  | cancelFromTU (cancel : SipMessage)
  | rewriteRequest (rewrite : Uri)

/-- The messages the controller looks up this transaction for and hands to it. A method's
text names one method, so what matches an extension method is no other method. -/
def TransactionState.takes (st : TransactionState) (msg : TransactionMessage) : Prop :=
  branchKey msg.tid = branchKey st.mId ∧ msg.isClientTransaction = st.isClient ∧
    match msg with
    | .control _ | .badTid | .timer _ => False
    | .sip m =>
      ¬ (m.isRequest ∧ m.method ≠ .ack ∧ m.isInvalid) ∧ st.isBadAck200 m = false ∧
        (st.mMethodText = some m.methodStr → m.method = .unknown)
    | _ => True

instance (st : TransactionState) : (msg : TransactionMessage) → Decidable (st.takes msg)
  | .control _ | .badTid | .timer _ => .isFalse fun h => h.2.2
  | .sip _ => inferInstanceAs (Decidable (_ ∧ _ ∧ _ ∧ _ ∧ _))
  | .invokeAfterSocketCreationFunc _ | .transportFailure _ _ _ | .tcpConnectState _ _
  | .abandonServerTransaction _ | .cancelClientInviteTransaction _ _ | .dnsResultMessage _ _ =>
    inferInstanceAs (Decidable (_ ∧ _ ∧ True))

/-- A CANCEL of the TU for this transaction; in Completed it is answered without it. -/
def TransactionState.takesCancel (st : TransactionState) (cancel : SipMessage) : Prop :=
  st.isClient ∧ cancel.isRequest ∧ !cancel.isExternal ∧ cancel.method = .cancel ∧
    branchKey cancel.getTransactionId = branchKey st.mId ∧ st.mState ≠ .completed

instance (st : TransactionState) (cancel : SipMessage) : Decidable (st.takesCancel cancel) :=
  inferInstanceAs (Decidable (_ ∧ _))

namespace Session

/-- Takes in what a step did: the record, the armed timers and the outputs. -/
def absorb (s : Session) (f : Frame) : Session :=
  ⟨if f.deleted then none else some f.self, s.timers ++ f.out.timers, s.log.append f.out⟩

def born (f : Frame) : Session := absorb ⟨none, [], .empty⟩ f

def apply (cfg : Config) (s : Session) : Env × SessionEvent → Session
  | (env, .message msg) =>
    match s.tx with
    | none => s
    | some st => s.absorb (st.receive cfg env msg)
  | (env, .timer t) =>
    let s := { s with timers := s.timers.erase t }
    match TransactionController.postponed cfg env t with
    | some t' => { s with timers := s.timers ++ [t'] }
    | none =>
      match s.tx with
      | none => s
      | some st => s.absorb (st.receive cfg env (.timer t))
  | (env, .cancelFromTU cancel) =>
    match s.tx with
    | none => s
    | some st => s.absorb ((Frame.start st).cancelFromTU cfg env cancel)
  | (_, .rewriteRequest rewrite) =>
    match s.tx with
    | none => s
    | some st => s.absorb ((Frame.start st).rewriteRequest rewrite)

def enabled (s : Session) : Env × SessionEvent → Prop
  | (_, .message msg) => ∃ st, s.tx = some st ∧ st.takes msg
  | (_, .timer t) => t ∈ s.timers
  | (_, .cancelFromTU cancel) => ∃ st, s.tx = some st ∧ st.takesCancel cancel
  | (_, .rewriteRequest _) =>
    ∃ st, s.tx = some st ∧ st.isClient ∧ st.mDnsResult ∧ st.mPendingOperation = .dns

end Session

/-- Conditions on a transaction that may be gone. -/
instance decideSome {α : Type*} (p : α → Prop) [DecidablePred p] :
    (o : Option α) → Decidable (∃ a, o = some a ∧ p a)
  | none => .isFalse nofun
  | some a => decidable_of_iff (p a) ⟨fun h => ⟨a, rfl, h⟩, fun ⟨_, ha, h⟩ => Option.some.inj ha ▸ h⟩

instance (s : Session) : (e : Env × SessionEvent) → Decidable (s.enabled e)
  | (_, .message msg) => inferInstanceAs (Decidable (∃ st, s.tx = some st ∧ st.takes msg))
  | (_, .timer t) => inferInstanceAs (Decidable (t ∈ s.timers))
  | (_, .cancelFromTU cancel) =>
    inferInstanceAs (Decidable (∃ st, s.tx = some st ∧ st.takesCancel cancel))
  | (_, .rewriteRequest _) =>
    inferInstanceAs (Decidable
      (∃ st, s.tx = some st ∧ st.isClient ∧ st.mDnsResult ∧ st.mPendingOperation = .dns))

/-- How a transaction comes about. -/
inductive Birth
  | serverInvite (env : Env) (sip : SipMessage) (tid : Data) (tu : Option ℕ)
  | serverCancel (env : Env) (sip : SipMessage) (tid : Data) (matchingInvite : TransactionState)
  | serverNonInvite (env : Env) (sip : SipMessage) (tid : Data) (tu : Option ℕ)
  | clientInvite (env : Env) (sip : SipMessage) (tid : Data) (tu : Option ℕ)
  | clientNonInvite (env : Env) (sip : SipMessage) (tid : Data) (tu : Option ℕ)
  | clientCancel (env : Env) (cancel : SipMessage) (invite : TransactionState)
      (request : SipMessage)
  | stateless (env : Env) (sip : SipMessage) (tid : Data) (tu : Option ℕ)

namespace Birth

def frame (cfg : Config) : Birth → Frame
  | .serverInvite env sip tid tu => newServerInvite cfg env sip tid tu
  | .serverCancel env sip tid matchingInvite => newServerCancel cfg env sip tid matchingInvite
  | .serverNonInvite env sip tid tu => newServerNonInvite cfg env sip tid tu
  | .clientInvite env sip tid tu => newClientInvite cfg env sip tid tu
  | .clientNonInvite env sip tid tu => newClientNonInvite cfg env sip tid tu
  | .clientCancel env cancel invite request => newClientCancel cfg env cancel invite request
  | .stateless env sip tid tu => newStateless cfg env sip tid tu

/-- The request, or stray response, that creates the transaction. A CANCEL gets the
branch of the request it cancels. -/
def request : Birth → SipMessage
  | .serverInvite _ sip _ _ | .serverCancel _ sip _ _ | .serverNonInvite _ sip _ _
  | .clientInvite _ sip _ _ | .clientNonInvite _ sip _ _ | .stateless _ sip _ _ => sip
  | .clientCancel _ cancel _ request => cancel.onBranchOf request

/-- The methods a transaction of each kind is created for. -/
def valid : Birth → Prop
  | .serverInvite _ sip _ _ => sip.isRequest ∧ sip.isExternal ∧ sip.method = .invite
  | .serverCancel _ sip _ _ => sip.isRequest ∧ sip.isExternal ∧ sip.method = .cancel
  | .serverNonInvite _ sip _ _ => sip.isRequest ∧ sip.isExternal ∧
      sip.method ≠ .invite ∧ sip.method ≠ .ack ∧ sip.method ≠ .cancel
  | .clientInvite _ sip _ _ => sip.isRequest ∧ !sip.isExternal ∧ sip.method = .invite
  | .clientNonInvite _ sip _ _ => sip.isRequest ∧ !sip.isExternal ∧
      sip.method ≠ .invite ∧ sip.method ≠ .ack ∧ sip.method ≠ .cancel
  | .clientCancel _ cancel _ _ => cancel.isRequest ∧ !cancel.isExternal ∧ cancel.method = .cancel
  | .stateless _ sip _ _ => sip.isResponse ∨ !sip.isExternal ∧ sip.method = .ack

instance : (b : Birth) → Decidable b.valid
  | .serverInvite _ _ _ _ | .serverCancel _ _ _ _ | .serverNonInvite _ _ _ _
  | .clientInvite _ _ _ _ | .clientNonInvite _ _ _ _ | .clientCancel _ _ _ _ =>
    inferInstanceAs (Decidable (_ ∧ _))
  | .stateless _ _ _ _ => inferInstanceAs (Decidable (_ ∨ _))

end Birth

/-- Runs of one transaction. -/
def sessions (cfg : Config) (b : Birth) : System Session (Env × SessionEvent) where
  init s := s = Session.born (b.frame cfg)
  enabled := Session.enabled
  next := Session.apply cfg

instance (cfg : Config) (b : Birth) (s : Session) (e : Env × SessionEvent) :
    Decidable ((sessions cfg b).enabled s e) :=
  inferInstanceAs (Decidable (s.enabled e))

/-- The TU uses the id of the transaction for a further request. An ACK that goes where the
first one went is the same ACK again. -/
def reusesId (b : Birth) (_ : Session) : Env × SessionEvent → Prop
  | (_, .message (.sip m)) => m.isRequest ∧ !m.isExternal ∧
      ¬ (m.method = .ack ∧ m.destination = b.request.destination)
  | _ => False

instance (b : Birth) (s : Session) : (e : Env × SessionEvent) → Decidable (reusesId b s e)
  | (_, .message (.sip _)) => inferInstanceAs (Decidable (_ ∧ _))
  | (_, .message (.control _)) | (_, .message .badTid) | (_, .message (.timer _))
  | (_, .message (.invokeAfterSocketCreationFunc _)) | (_, .message (.transportFailure _ _ _))
  | (_, .message (.tcpConnectState _ _)) | (_, .message (.abandonServerTransaction _))
  | (_, .message (.cancelClientInviteTransaction _ _)) | (_, .message (.dnsResultMessage _ _))
  | (_, .timer _) | (_, .cancelFromTU _) | (_, .rewriteRequest _) => .isFalse id

/-! ### Events and pending timers -/

/-- The timer that an event takes from the pending ones. -/
def Session.pop (s : Session) : SessionEvent → Session
  | .timer t => { s with timers := s.timers.erase t }
  | _ => s

/-- A transaction that is gone takes no more steps. -/
theorem Session.apply_gone (cfg : Config) (env : Env) (ev : SessionEvent) {s : Session}
    (hs : s.tx = none) :
    (s.apply cfg (env, ev)).tx = none ∧ (s.apply cfg (env, ev)).log = s.log := by
  cases ev with
  | timer t => cases hp : TransactionController.postponed cfg env t <;> simp [apply, hs, hp]
  | _ => simp [apply, hs]

@[simp] theorem Session.pop_frame (s : Session) (ev : SessionEvent) :
    (s.pop ev).tx = s.tx ∧ (s.pop ev).log = s.log := by
  cases ev <;> simp [pop]

namespace Session

/-- How many timers of a type are pending. -/
def pending (s : Session) (type : TimerType) : ℕ := (s.timers.map (·.type)).count type

theorem pending_absorb (s : Session) (f : Frame) (type : TimerType) :
    (s.absorb f).pending type = s.pending type + (f.out.timers.map (·.type)).count type := by
  simp [pending, absorb, List.count_append]

theorem pending_erase {s : Session} {t : TransactionTimer} (ht : t ∈ s.timers)
    (type : TimerType) :
    s.pending type = ((s.timers.erase t).map (·.type)).count type +
      if t.type = type then 1 else 0 := by
  have hp := (List.perm_cons_erase ht).map (·.type)
  rw [pending, hp.count_eq, List.map_cons, List.count_cons]
  simp

theorem pending_postponed {s : Session} {cfg : Config} {env : Env} {t t' : TransactionTimer}
    (ht : t ∈ s.timers) (hp : TransactionController.postponed cfg env t = some t')
    (type : TimerType) :
    ({ s with timers := s.timers.erase t ++ [t'] } : Session).pending type = s.pending type := by
  have htype : t'.type = t.type := by
    unfold TransactionController.postponed at hp
    repeat' split at hp
    all_goals cases hp
    all_goals rfl
  rw [pending_erase ht type]
  simp [pending, List.count_append, List.count_singleton, htype]

end Session

/-! ### Sample messages -/

/-- A stack whose transports take every message and whose DNS has not answered yet. -/
def sampleEnv : Env where
  findTransport _ _ := true
  dnsAvailable := .pending
  dnsNext := .unset
  nowMs := 0
  controllerRejection := .normal
  tuRejection := .normal
  tuExpectedWait := 0
  tuResponsesMandatory := false
  tuStillRegistered := true
  tuRegisteredForTermination := false
  selectTransactionUser _ := none
  computeTag := [116]

def sampleTuple (type : TransportType) (flow : ℕ) : Tuple := ⟨[192, 0, 2, 1], 5060, type, flow⟩

def sampleBranch : Data := [98, 49]

/-- A request of the TU that goes to `destination`. -/
def sampleRequest (method : MethodTypes) (destination : Tuple) : SipMessage where
  startLine := .request ⟨[98, 111, 98], [98], 5060, .unknownTransport⟩
  method := method
  methodStr := []
  via := ⟨.udp, [97], 5060, none, sampleBranch, 1⟩
  hFrom := ⟨true, [97], some [49]⟩
  hTo := ⟨true, [98], none⟩
  hCallId := ⟨true, [99]⟩
  hCSeq := 1
  hContact := none
  hRoutes := []
  hReasons := none
  hRetryAfter := none
  hWarnings := []
  contents := []
  isExternal := false
  receivedTransport := .unknownTransport
  source := .unset
  destination := destination
  forceTarget := none
  invalidReason := none
  transactionUser := none

/-- The same request as it comes in from `source`. -/
def sampleWireRequest (method : MethodTypes) (source : Tuple) : SipMessage :=
  { sampleRequest method .unset with
    isExternal := true, receivedTransport := source.mTransportType, source := source }

def sampleClientInvite (destination : Tuple) : Birth :=
  .clientInvite sampleEnv (sampleRequest .invite destination) sampleBranch none

def sampleClientNonInvite (method : MethodTypes) (destination : Tuple) : Birth :=
  .clientNonInvite sampleEnv (sampleRequest method destination) sampleBranch none

/-- A CANCEL for an INVITE that went out over `type` and got a provisional. -/
def sampleClientCancel (type : TransportType) : Birth :=
  let request := sampleRequest .invite .unset
  .clientCancel sampleEnv (makeCancel request)
    { TransactionState.create .clientInvite .proceeding sampleBranch .invite [] none with
      mTarget := sampleTuple type 0, mIsReliable := isReliable type
      mNextTransmission := some request } request

/-- A response to a request of the TU, as the wire delivers it. -/
def sampleResponse (method : MethodTypes) (code : ℕ) : SipMessage :=
  { makeResponse (sampleRequest method .unset) code [116] "" with receivedTransport := .udp }

end Resiprocate.Transaction
