import Resiprocate.TransactionServer

/-! The controller: the two transaction maps and the timer queue, how a message or a
timer finds its transaction, and how new transactions come about. -/
namespace Resiprocate.Transaction

/-! ### A message and the transaction it was matched to -/

/-- An ACK that matches an INVITE transaction which sent no failure response
acknowledges a 200: it belongs to no transaction. -/
def TransactionState.isBadAck200 (st : TransactionState) (sip : SipMessage) : Bool :=
  sip.isExternal && sip.isRequest && decide (sip.method = .ack) && !st.mAckIsValid

def TransactionState.methodMatches (st : TransactionState) (sip : SipMessage) : Bool :=
  match st.mMethod with
  | .invite => decide (sip.method = .invite ∨ sip.method = .ack)
  | .unknown => decide (st.mMethodText = some sip.methodStr)
  | method => decide (method = sip.method)

/-- A request with a repeated transaction id over a reliable transport is discarded. -/
def TransactionState.isReliableRepeat (st : TransactionState) (sip : SipMessage) : Bool :=
  sip.isExternal && sip.isRequest && decide (sip.method ≠ .ack) && st.mIsReliable

/-- Gives a response the tag of the request's header: From always, To only when set. -/
def fixTag (ours theirs : NameAddr) (removeExtra : Bool) : NameAddr :=
  if theirs.wellFormed then
    match ours.tag with
    | some tag => { theirs with tag := some tag }
    | none => if removeExtra then { theirs with tag := none } else theirs
  else ours

/-- Responses from the wire get the Call-ID, tags and CSeq number of the request. -/
def TransactionState.fixResponse (cfg : Config) (st : TransactionState) (sip : SipMessage) :
    SipMessage :=
  match st.mNextTransmission with
  | none => sip
  | some next =>
    if sip.isExternal ∧ sip.isResponse then
      let sip := if cfg.mFixBadDialogIdentifiers then
          { sip with
            hCallId := if sip.hCallId.wellFormed ∧ sip.hCallId = next.hCallId
              then sip.hCallId else next.hCallId
            hFrom := fixTag next.hFrom sip.hFrom true
            hTo := fixTag next.hTo sip.hTo false }
        else sip
      if cfg.mFixBadCSeqNumbers then { sip with hCSeq := next.hCSeq } else sip
    else sip

namespace Frame

def dispatch (cfg : Config) (env : Env) (msg : TransactionMessage) (f : Frame) : Frame :=
  match f.self.mMachine with
  | .clientNonInvite => f.processClientNonInvite cfg env msg
  | .clientInvite => f.processClientInvite cfg env msg
  | .serverNonInvite => f.processServerNonInvite cfg env msg
  | .serverInvite => f.processServerInvite cfg env msg
  | .stateless => f.processStateless cfg env msg
  | .clientStale => f.processClientStale cfg env msg
  | .serverStale => f.processServerStale cfg env msg

/-- A CANCEL request of the TU, applied to the transaction it names. -/
def cancelFromTU (cfg : Config) (env : Env) (cancel : SipMessage) (f : Frame) : Frame :=
  if f.self.mState = .calling then
    { f with self := { f.self with
        mIsAbandoned := true
        mPendingCancelReasons := if cancel.hReasons.isSome then cancel.hReasons
          else f.self.mPendingCancelReasons } }
  else if f.self.mState = .completed then f
  else f.handleInternalCancel cfg env cancel

/-- `while (duration*2 < T2) duration = duration*2`, at most `fuel` times. -/
def doubleBelow (T2 : ℕ) : ℕ → ℕ → ℕ
  | 0, duration => duration
  | fuel + 1, duration =>
    if duration * 2 < T2 then doubleBelow T2 fuel (duration * 2) else duration

/-- How long Timer E takes to reach T2: 3500 ms for the usual T1. -/
def tryingDuration (cfg : Config) : ℕ :=
  if cfg.timers.T1 = 500 then 3500 else doubleBelow cfg.timers.T2 cfg.timers.T2 cfg.timers.T1

def startServerNonInviteTimerTrying (cfg : Config) (env : Env) (sip : SipMessage) (f : Frame) :
    Frame :=
  (f.resetNextTransmission (some (make100 env sip))).addTimer .timerTrying (tryingDuration cfg)

end Frame

/-- `process` once the transaction is found and the message is not an ACK for a 200. -/
def TransactionState.receive (cfg : Config) (env : Env) (msg : TransactionMessage)
    (st : TransactionState) : Frame :=
  match msg with
  | .sip m =>
    let m := st.fixResponse cfg m
    if st.methodMatches m ∧ !st.isReliableRepeat m then
      let f := Frame.start st
      let f := f.assertThat
        (decide (st.mMachine ≠ .clientInvite) || m.isExternal || !m.isRequest ||
          decide (m.method ≠ .ack)) .clientInviteAck
      f.dispatch cfg env (.sip m)
    else Frame.start st
  | msg => (Frame.start st).dispatch cfg env msg

/-! ### New transactions -/

/-- Where responses to a request go: its source, at the port for replies. -/
def responseTarget (sip : SipMessage) : Tuple := { sip.source with port := getPortForReply sip }

def newServerInvite (cfg : Config) (env : Env) (sip : SipMessage) (tid : Data) (tu : Option ℕ) :
    Frame :=
  let f := Frame.start { TransactionState.create .serverInvite .trying tid .invite [] tu with
    mNextTransmission := some (make100 env sip)
    mResponseTarget := responseTarget sip
    mIsReliable := isReliable (responseTarget sip).mTransportType }
  let f := if cfg.timers.T100 = 0 then (f.sendCurrentToWire cfg env).setState .proceeding
    else f.addTimer .timerTrying cfg.timers.T100
  f.sendRequestToTU cfg env sip

def newServerCancel (cfg : Config) (env : Env) (sip : SipMessage) (tid : Data)
    (matchingInvite : TransactionState) : Frame :=
  let f := makeCancelTransaction cfg matchingInvite .serverNonInvite tid
  (f.startServerNonInviteTimerTrying cfg env sip).sendRequestToTU cfg env sip

def newServerNonInvite (cfg : Config) (env : Env) (sip : SipMessage) (tid : Data)
    (tu : Option ℕ) : Frame :=
  let f := Frame.start
    { TransactionState.create .serverNonInvite .trying tid sip.method sip.methodStr tu with
      mResponseTarget := responseTarget sip
      mIsReliable := isReliable (responseTarget sip).mTransportType }
  (f.startServerNonInviteTimerTrying cfg env sip).sendRequestToTU cfg env sip

def newClientInvite (cfg : Config) (env : Env) (sip : SipMessage) (tid : Data) (tu : Option ℕ) :
    Frame :=
  (Frame.start (.create .clientInvite .calling tid .invite [] tu)).processClientInvite cfg env
    (.sip sip)

def newClientNonInvite (cfg : Config) (env : Env) (sip : SipMessage) (tid : Data)
    (tu : Option ℕ) : Frame :=
  (Frame.start (.create .clientNonInvite .trying tid sip.method sip.methodStr tu)).processClientNonInvite
    cfg env (.sip sip)

def newStateless (cfg : Config) (env : Env) (sip : SipMessage) (tid : Data) (tu : Option ℕ) :
    Frame :=
  let f := Frame.start (.create .stateless .calling tid sip.method sip.methodStr tu)
  (f.addTimer .timerStateless cfg.timers.TS).processStateless cfg env (.sip sip)

/-! ### The controller -/

/-- A transaction map, keyed by the branch id without regard to case. -/
abbrev TransactionMap := Data → Option TransactionState

namespace TransactionMap

def find (m : TransactionMap) (tid : Data) : Option TransactionState := m (branchKey tid)

def set (m : TransactionMap) (tid : Data) (st : Option TransactionState) : TransactionMap :=
  Function.update m (branchKey tid) st

end TransactionMap

structure TransactionController where
  mClientTransactionMap : TransactionMap
  mServerTransactionMap : TransactionMap
  mTimers : List TransactionTimer
  statelessIdCounter : ℕ

/-- What one step of the controller lets out: a transaction added to a map, the outputs
of a transaction, a message sent or passed to the TU without one, or a control message
passed on. -/
inductive Emission
  | registered (isClient : Bool) (tid : Data)
  | transaction (tid : Data) (out : Outputs)
  | stateless (data : SendData)
  | toTU (msg : SipMessage)
  | control (c : ControlMessage)
  | afterSocketCreation (type : TransportType)

namespace TransactionController

def empty : TransactionController := ⟨fun _ => none, fun _ => none, [], 0⟩

def map (c : TransactionController) (isClient : Bool) : TransactionMap :=
  if isClient then c.mClientTransactionMap else c.mServerTransactionMap

def setMap (c : TransactionController) (isClient : Bool) (m : TransactionMap) :
    TransactionController :=
  if isClient then { c with mClientTransactionMap := m } else { c with mServerTransactionMap := m }

/-- `TransactionMap::add`, which replaces what is there, and the removal by the destructor. -/
def store (c : TransactionController) (st : TransactionState) (deleted : Bool) :
    TransactionController :=
  c.setMap st.isClient ((c.map st.isClient).set st.mId (if deleted then none else some st))

/-- Carries out a step of one transaction. -/
def install (c : TransactionController) (f : Frame) : TransactionController × List Emission :=
  let c := c.store f.self f.deleted
  let c := { c with mTimers := c.mTimers ++ f.out.timers }
  match f.spawned with
  | none => (c, [.transaction f.self.mId f.out])
  | some (child, out) =>
    let c := c.store child false
    ({ c with mTimers := c.mTimers ++ out.timers },
      [.transaction f.self.mId f.out, .registered child.isClient child.mId,
        .transaction child.mId out])

/-- A new transaction adds itself to its map when it is constructed. -/
def register (c : TransactionController) (f : Frame) : TransactionController × List Emission :=
  let r := c.install f
  (r.1, .registered f.self.isClient f.self.mId :: r.2)

/-- `TransportSelector::transmit` outside any transaction. -/
def transmitStateless (env : Env) (sip : SipMessage) (target : Tuple) : List Emission :=
  if env.findTransport sip target then [.stateless ⟨sip, target⟩] else []

def handleBadRequest (env : Env) (badReq : SipMessage) : List Emission :=
  let error := makeResponse badReq 400 env.computeTag ""
  let error := match badReq.invalidReason with
    | some (some reason) => { error with
        startLine := .response 400 (responseCodeReason 400 ++ "(" ++ reason ++ ")") }
    | _ => error
  if badReq.isExternal then transmitStateless env error badReq.source else []

/-- Decimal digits, as `Data(uint32_t)` writes them. -/
def decimal (n : ℕ) : Data := (Nat.toDigits 10 n).map fun c => c.toNat.toUInt8

/-- A new request from the wire; `tu` is the transaction user chosen for it. -/
def newFromWire (cfg : Config) (env : Env) (c : TransactionController) (sip : SipMessage)
    (tid : Data) (tu : Option ℕ) : TransactionController × List Emission :=
  match sip.method with
  | .invite => c.register (newServerInvite cfg env sip tid tu)
  | .cancel =>
    match c.mServerTransactionMap.find sip.getTransactionId with
    | none => (c, transmitStateless env (makeResponse sip 481 env.computeTag "") sip.source)
    | some matchingInvite => c.register (newServerCancel cfg env sip tid matchingInvite)
  | .ack => (c, [.toTU { sip with transactionUser := tu }])
  | _ => c.register (newServerNonInvite cfg env sip tid tu)

/-- A new request from the TU. -/
def newFromTU (cfg : Config) (env : Env) (c : TransactionController) (sip : SipMessage)
    (tid : Data) (tu : Option ℕ) : TransactionController × List Emission :=
  match sip.method with
  | .invite => c.register (newClientInvite cfg env sip tid tu)
  | .ack => c.register (newStateless cfg env sip tid tu)
  | .cancel =>
    match c.mClientTransactionMap.find sip.getTransactionId with
    | none =>
      (c, [.toTU { makeResponse sip 481 env.computeTag "" with transactionUser := tu }])
    | some matchingInvite =>
      if matchingInvite.mState = .completed then
        -- the 200 answers the CANCEL; the matching transaction only lends its TU
        (c, [.transaction tid ((Frame.start matchingInvite).sendToTU cfg env
          (makeResponse sip 200 env.computeTag "")).out])
      else c.install ((Frame.start matchingInvite).cancelFromTU cfg env sip)
  | _ => c.register (newClientNonInvite cfg env sip tid tu)

def processSipMessageAsNew (cfg : Config) (env : Env) (c : TransactionController)
    (sip : SipMessage) (tid : Data) : TransactionController × List Emission :=
  if sip.isRequest then
    if sip.isExternal then
      if cfg.haveTransactionUsers then
        match env.selectTransactionUser sip with
        | none => (c, transmitStateless env (makeResponse sip 500 env.computeTag "") sip.source)
        | some tu => c.newFromWire cfg env sip tid (some tu)
      else c.newFromWire cfg env sip tid none
    else c.newFromTU cfg env sip tid sip.transactionUser
  else if cfg.mDiscardStrayResponses then (c, [])
  else
    let tu := if sip.isExternal then none else sip.transactionUser
    let f := newStateless cfg env sip (decimal c.statelessIdCounter) tu
    ({ c with statelessIdCounter := (c.statelessIdCounter + 1) % 2 ^ 32 } : TransactionController).register f

/-- `TransactionState::process` after the control messages: find the transaction and
hand the message to it, or treat it as new. -/
def deliver (cfg : Config) (env : Env) (c : TransactionController) (msg : TransactionMessage) :
    TransactionController × List Emission :=
  match (c.map msg.isClientTransaction).find msg.tid, msg with
  | some st, .sip m =>
    if st.isBadAck200 m then c.processSipMessageAsNew cfg env m msg.tid
    else c.install (st.receive cfg env msg)
  | some st, msg => c.install (st.receive cfg env msg)
  | none, .sip m => c.processSipMessageAsNew cfg env m msg.tid
  | none, _ => (c, [])

/-- `TransactionState::process`. -/
def process (cfg : Config) (env : Env) (c : TransactionController) (msg : TransactionMessage) :
    TransactionController × List Emission :=
  match msg with
  | .control m => (c, [.control m])
  | .badTid => (c, [])
  | .invokeAfterSocketCreationFunc type =>
    let r := c.deliver cfg env msg
    (r.1, .afterSocketCreation type :: r.2)
  | .sip m =>
    if m.isRequest ∧ m.method ≠ .ack ∧ m.isInvalid then (c, handleBadRequest env m)
    else c.deliver cfg env msg
  | msg => c.deliver cfg env msg

/-- While the fifo is backed up, retransmission timers are put off and not acted on. -/
def postponed (cfg : Config) (env : Env) (t : TransactionTimer) : Option TransactionTimer :=
  if env.controllerRejection = .rejectingNonEssential then
    match t.type with
    | .timerA => some { t with duration := t.duration * 2 }
    | .timerE1 | .timerG => some { t with duration := min (t.duration * 2) cfg.timers.T2 }
    | .timerE2 => some { t with duration := cfg.timers.T2 }
    | _ => none
  else none

/-- The timer queue gives up `t`, and `TransactionState::processTimer` takes it. -/
def processTimer (cfg : Config) (env : Env) (c : TransactionController) (t : TransactionTimer) :
    TransactionController × List Emission :=
  let c := { c with mTimers := c.mTimers.erase t }
  match postponed cfg env t with
  | some t' => ({ c with mTimers := c.mTimers ++ [t'] }, [])
  | none =>
    match (c.map t.type.isClientTransaction).find t.transactionId with
    | some st => c.install (st.receive cfg env (.timer t))
    | none => (c, [])

/-- `rewriteRequest`, called back by the DNS result of a transaction. -/
def rewriteRequest (c : TransactionController) (tid : Data) (uri : Uri) :
    TransactionController × List Emission :=
  match c.mClientTransactionMap.find tid with
  | some st => c.install ((Frame.start st).rewriteRequest uri)
  | none => (c, [])

end TransactionController

end Resiprocate.Transaction
