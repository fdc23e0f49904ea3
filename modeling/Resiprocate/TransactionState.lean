import Resiprocate.TransactionTypes

/-! The transaction record and the operations the state machines share. A step of one
transaction threads a `Frame`: the record, whether it has deleted itself, what it has
handed to the timer queue, the TU, the wire and DNS, and the CANCEL transaction it may
have created. A failed `resip_assert` is recorded and the code after it still runs, as
in a release build; a null dereference is recorded as a fault. -/
namespace Resiprocate.Transaction

inductive Machine
  | clientNonInvite | clientInvite | serverNonInvite | serverInvite
  | clientStale | serverStale | stateless
  deriving DecidableEq, Repr

inductive State
  | calling | trying | proceeding | completed | confirmed | terminated | bogus
  deriving DecidableEq, Repr

inductive PendingOperation
  | none | dns
  deriving DecidableEq, Repr

/-- An encoded message and where it goes. -/
structure SendData where
  data : SipMessage
  destination : Tuple
  deriving DecidableEq

/-- `mDnsResult` says whether there is a DNS result object; `mMsgToRetransmit = none`
is the empty `SendData`. -/
structure TransactionState where
  mMachine : Machine
  mState : State
  mIsAbandoned : Bool
  mPendingCancelReasons : Option Data
  mIsReliable : Bool
  mNextTransmission : Option SipMessage
  mMsgToRetransmit : Option SendData
  mDnsResult : Bool
  mTarget : Tuple
  mResponseTarget : Tuple
  mOriginalContact : Option Data
  mOriginalVia : Option Via
  mId : Data
  mMethod : MethodTypes
  mMethodText : Option Data
  mAckIsValid : Bool
  mPendingOperation : PendingOperation
  mTransactionUser : Option ℕ
  mFailureReason : FailureReason
  mFailureSubCode : ℤ
  mTcpConnectTimerStarted : Bool
  deriving DecidableEq

/-- The constructor of the source. -/
def TransactionState.create (m : Machine) (s : State) (id : Data) (method : MethodTypes)
    (methodText : Data) (tu : Option ℕ) : TransactionState :=
  { mMachine := m
    mState := s
    mIsAbandoned := false
    mPendingCancelReasons := none
    mIsReliable := true
    mNextTransmission := none
    mMsgToRetransmit := none
    mDnsResult := false
    mTarget := .unset
    mResponseTarget := .unset
    mOriginalContact := none
    mOriginalVia := none
    mId := id
    mMethod := method
    mMethodText := if method = .unknown then some methodText else none
    mAckIsValid := false
    mPendingOperation := .none
    mTransactionUser := tu
    mFailureReason := .none
    mFailureSubCode := 0
    mTcpConnectTimerStarted := false }

def Machine.isClient : Machine → Bool
  | .clientNonInvite | .clientInvite | .clientStale | .stateless => true
  | .serverNonInvite | .serverInvite | .serverStale => false

def TransactionState.isClient (st : TransactionState) : Bool := st.mMachine.isClient

/-- Where an assertion stands or `mNextTransmission` is dereferenced. -/
inductive Site
  | sendCurrentToWireNothing | flowDestination | dnsRequest | dnsCancel | serverDns
  | sendToTuExternal | finalResponseState | failureAckTarget | failureAckState
  | clientInviteCancel | clientInviteAck | timerB | timerF | timerCleanUp | failureAck
  | makeCancel | internalCancel | restoreOriginal | handleSync | handleSyncState
  | rewriteRequest | failedCancelMethod | failoverCancel | failoverDestroyed | noDnsFinished
  | serverNonInviteAbandoned | serverNonInviteState | serverInviteCancel | serverInviteTimer
  | abandonResponse | clientStaleWire | serverStaleWire | statelessTimer | statelessMessage
  deriving DecidableEq, Repr

inductive Fault
  | assertFailed (site : Site)
  | nullDereference (site : Site)
  deriving DecidableEq, Repr

inductive DnsCommand
  | resolve (sip : SipMessage)
  | destroy
  | blacklistLast (untilMs : ℕ)
  | greylistLast (untilMs : ℕ)
  | whitelistLast
  deriving DecidableEq

/-- What a transaction hands out, each kind in the order it was handed out. `wire`
holds what a transport was given; `tu` the SIP messages posted to the TU. -/
structure Outputs where
  timers : List TransactionTimer
  tu : List SipMessage
  terminations : List Bool
  wire : List SendData
  dns : List DnsCommand
  faults : List Fault

def Outputs.empty : Outputs := ⟨[], [], [], [], [], []⟩

structure Frame where
  self : TransactionState
  deleted : Bool
  out : Outputs
  spawned : Option (TransactionState × Outputs)

def Frame.start (st : TransactionState) : Frame := ⟨st, false, .empty, none⟩

namespace Frame

def fault (x : Fault) (f : Frame) : Frame :=
  { f with out := { f.out with faults := f.out.faults ++ [x] } }

def assertThat (b : Bool) (site : Site) (f : Frame) : Frame :=
  if b then f else f.fault (.assertFailed site)

/-- `delete this`. -/
def delete (f : Frame) : Frame := { f with deleted := true }

/-- `mTimers.add(type, mId, ms)`. -/
def addTimer (type : TimerType) (ms : ℕ) (f : Frame) : Frame :=
  { f with out := { f.out with timers := f.out.timers ++ [⟨type, f.self.mId, ms⟩] } }

def dnsCommand (c : DnsCommand) (f : Frame) : Frame :=
  { f with out := { f.out with dns := f.out.dns ++ [c] } }

def setState (s : State) (f : Frame) : Frame := { f with self := { f.self with mState := s } }

def resetNextTransmission (msg : Option SipMessage) (f : Frame) : Frame :=
  { f with self := { f.self with mNextTransmission := msg, mMsgToRetransmit := none } }

def clearMsgToRetransmit (f : Frame) : Frame :=
  { f with self := { f.self with mMsgToRetransmit := none } }

def setAbandoned (b : Bool) (f : Frame) : Frame :=
  { f with self := { f.self with mIsAbandoned := b } }

/-- `mDnsResult->destroy(); mDnsResult=0; mPendingOperation=None`, when there is one. -/
def destroyDnsResult (f : Frame) : Frame :=
  if f.self.mDnsResult then
    { f with
      self := { f.self with mDnsResult := false, mPendingOperation := .none }
      out := { f.out with dns := f.out.dns ++ [.destroy] } }
  else f

/-- `TransactionState::sendToTU(tu, controller, msg)`. -/
def postToTU (msg : SipMessage) (f : Frame) : Frame :=
  { f with out := { f.out with
      tu := f.out.tu ++ [{ msg with transactionUser := f.self.mTransactionUser }] } }

/-- The whitelisting rules at the head of `sendToTU`. -/
def markDns (cfg : Config) (env : Env) (msg : SipMessage) (f : Frame) : Frame :=
  if msg.isResponse ∧ f.self.mDnsResult then
    if msg.statusCode = 503 then
      match msg.hRetryAfter with
      | some n => if n = 0 then f else f.dnsCommand (.blacklistLast (env.nowMs + n * 1000))
      | none => f
    else if msg.statusCode = 408 then
      if !msg.isFromWire ∧ (f.self.mState = .trying ∨ f.self.mState = .calling) then
        f.dnsCommand (.greylistLast (env.nowMs + cfg.dnsGreylistDurationMs))
      else f
    else f.dnsCommand .whitelistLast
  else f

/-- `sendToTU` for responses and for ACK. Requests that would be refused with a 503
are treated where server transactions are created. -/
def sendToTU (cfg : Config) (env : Env) (msg : SipMessage) (f : Frame) : Frame :=
  let f := f.markDns cfg env msg
  if env.tuRejection = .normal then f.postToTU msg
  else
    let f := f.assertThat msg.isExternal .sendToTuExternal
    if env.tuRejection = .rejectingNonEssential ∧
        (msg.isRequest ∨ (f.self.mTransactionUser.isSome ∧ !env.tuResponsesMandatory)) then f
    else f.postToTU msg

def tellTermination (env : Env) (isClient : Bool) (f : Frame) : Frame :=
  let f := f.setState .terminated
  if env.tuStillRegistered && env.tuRegisteredForTermination then
    { f with out := { f.out with terminations := f.out.terminations ++ [isClient] } }
  else f

def terminateClientTransaction (env : Env) (f : Frame) : Frame := f.tellTermination env true

def terminateServerTransaction (env : Env) (f : Frame) : Frame := f.tellTermination env false

def processReliability (cfg : Config) (type : TransportType) (f : Frame) : Frame :=
  if type = .udp ∨ type = .dccp then
    if f.self.mIsReliable then
      let f : Frame := { f with self := { f.self with mIsReliable := false } }
      match f.self.mMachine with
      | .clientNonInvite => f.addTimer .timerE1 cfg.timers.T1
      | .clientInvite => f.addTimer .timerA cfg.timers.T1
      | _ => f
    else f
  else { f with self := { f.self with mIsReliable := true } }

/-- Once sent, a response or an ACK need not be kept in full. -/
def onSendSuccess (sip : SipMessage) (f : Frame) : Frame :=
  if !sip.isRequest ∨ sip.method = .ack then
    { f with self := { f.self with mNextTransmission := none } }
  else f

/-- `TransportSelector::transmit(sip, target, mIsReliable ? 0 : &mMsgToRetransmit)` and,
when it answers Sent, `onSendSuccess`. -/
def transmit (env : Env) (sip : SipMessage) (target : Tuple) (f : Frame) : Frame :=
  if env.findTransport sip target then
    let f : Frame := { f with out := { f.out with wire := f.out.wire ++ [⟨sip, target⟩] } }
    let f := if f.self.mIsReliable then f
      else { f with self := { f.self with mMsgToRetransmit := some ⟨sip, target⟩ } }
    f.onSendSuccess sip
  else f

/-- The client half of `sendCurrentToWire`. -/
def sendFromClient (cfg : Config) (env : Env) (sip : SipMessage) (f : Frame) : Frame :=
  if f.self.mTarget.mTransportType ≠ .unknownTransport then f.transmit env sip f.self.mTarget
  else if sip.destination.mFlowKey ≠ 0 then
    let f := f.assertThat (sip.destination.mTransportType ≠ .unknownTransport) .flowDestination
    let f : Frame := { f with self := { f.self with mTarget := sip.destination } }
    let f := f.processReliability cfg sip.destination.mTransportType
    f.transmit env sip sip.destination
  else if f.self.mDnsResult then f
  else
    let f := f.assertThat sip.isRequest .dnsRequest
    let f := f.assertThat (f.self.mMethod ≠ .cancel) .dnsCancel
    { f with
      self := { f.self with mDnsResult := true, mPendingOperation := .dns }
      out := { f.out with dns := f.out.dns ++ [.resolve sip] } }

/-- The server half of `sendCurrentToWire`. -/
def sendFromServer (env : Env) (sip : SipMessage) (f : Frame) : Frame :=
  let f := f.assertThat (!f.self.mDnsResult) .serverDns
  match sip.forceTarget with
  | some uri => f.transmit env sip (simpleTupleForUri uri)
  | none =>
    match sip.via.rport with
    | some (some port) =>
      let f : Frame := { f with self := { f.self with
        mResponseTarget := { f.self.mResponseTarget with port := port } } }
      f.transmit env sip f.self.mResponseTarget
    | _ => f.transmit env sip f.self.mResponseTarget

def sendCurrentToWire (cfg : Config) (env : Env) (f : Frame) : Frame :=
  match f.self.mMsgToRetransmit with
  | some data => { f with out := { f.out with wire := f.out.wire ++ [data] } }
  | none =>
    match f.self.mNextTransmission with
    | some sip => if f.self.isClient then f.sendFromClient cfg env sip else f.sendFromServer env sip
    | none => f.fault (.assertFailed .sendCurrentToWireNothing)

end Frame

end Resiprocate.Transaction
