import Mathlib

/-! Messages, tuples, timers and the questions the transaction layer puts to the
rest of the stack. Header fields that no transaction function reads or writes are
left out of `SipMessage`. -/
namespace Resiprocate.Transaction

/-- Byte strings, as `resip::Data` holds them. -/
abbrev Data := List UInt8

/-- The token `"cancel"` appended to the id of a CANCEL transaction. -/
def cancelToken : Data := [99, 97, 110, 99, 101, 108]

/-- ASCII lower case of one byte. -/
def toLower (b : UInt8) : UInt8 := if 65 ≤ b ∧ b ≤ 90 then b + 32 else b

/-- Transaction maps compare branch ids without regard to case. -/
def branchKey (tid : Data) : Data := tid.map toLower

inductive TransportType
  | unknownTransport | tls | tcp | udp | sctp | dccp | dtls | ws | wss
  deriving DecidableEq, Repr

def isReliable : TransportType → Bool
  | .tls | .tcp | .sctp | .ws | .wss => true
  | .udp | .dccp | .dtls | .unknownTransport => false

inductive MethodTypes
  | unknown | ack | bye | cancel | invite | notify | options | refer | register
  | subscribe | response | message | info | prack | publish | service | update
  deriving DecidableEq, Repr

/-- A network address. `mFlowKey = 0` means that no flow is named. -/
structure Tuple where
  address : Data
  port : ℕ
  mTransportType : TransportType
  mFlowKey : ℕ
  deriving DecidableEq, Repr

/-- The default tuple `Tuple()`. -/
def Tuple.unset : Tuple := ⟨[], 0, .unknownTransport, 0⟩

structure Uri where
  user : Data
  host : Data
  port : ℕ
  transport : TransportType
  deriving DecidableEq, Repr

/-- Topmost Via. `rport` is absent, present without a value, or has a value. -/
structure Via where
  transport : TransportType
  sentHost : Data
  sentPort : ℕ
  rport : Option (Option ℕ)
  branchTid : Data
  branchTransportSeq : ℕ
  deriving DecidableEq, Repr

structure NameAddr where
  wellFormed : Bool
  addr : Data
  tag : Option Data
  deriving DecidableEq, Repr

structure CallId where
  wellFormed : Bool
  value : Data
  deriving DecidableEq, Repr

inductive StartLine
  | request (uri : Uri)
  | response (statusCode : ℕ) (reason : String)
  deriving DecidableEq, Repr

structure Warning where
  code : ℕ
  hostname : String
  text : String
  deriving DecidableEq, Repr

/-- `receivedTransport` is the type of the transport a message came in on, and
unknown for messages made inside the stack. -/
structure SipMessage where
  startLine : StartLine
  method : MethodTypes
  methodStr : Data
  via : Via
  hFrom : NameAddr
  hTo : NameAddr
  hCallId : CallId
  hCSeq : ℕ
  hContact : Option Data
  hRoutes : List Data
  hReasons : Option Data
  hRetryAfter : Option ℕ
  hWarnings : List Warning
  contents : Data
  isExternal : Bool
  receivedTransport : TransportType
  source : Tuple
  destination : Tuple
  forceTarget : Option Uri
  invalidReason : Option (Option String)
  transactionUser : Option ℕ
  deriving DecidableEq

namespace SipMessage

def isRequest (m : SipMessage) : Bool :=
  match m.startLine with
  | .request _ => true
  | .response _ _ => false

def isResponse (m : SipMessage) : Bool := !m.isRequest

/-- Status code of a response, 0 for a request. -/
def statusCode (m : SipMessage) : ℕ :=
  match m.startLine with
  | .request _ => 0
  | .response code _ => code

def isInvalid (m : SipMessage) : Bool := m.invalidReason.isSome

def isFromWire (m : SipMessage) : Bool := m.receivedTransport ≠ .unknownTransport

/-- The branch of the topmost Via. -/
def getTransactionId (m : SipMessage) : Data := m.via.branchTid

def isClientTransaction (m : SipMessage) : Bool :=
  (m.isExternal && m.isResponse) || (!m.isExternal && m.isRequest)

end SipMessage

/-- `Helper::getResponseCodeReason`. -/
def responseCodeReason : ℕ → String
  | 100 => "Trying"
  | 180 => "Ringing"
  | 181 => "Call Is Being Forwarded"
  | 182 => "Queued"
  | 183 => "Session Progress"
  | 200 => "OK"
  | 202 => "Accepted"
  | 300 => "Multiple Choices"
  | 301 => "Moved Permanently"
  | 302 => "Moved Temporarily"
  | 305 => "Use Proxy"
  | 380 => "Alternative Service"
  | 400 => "Bad Request"
  | 401 => "Unauthorized"
  | 402 => "Payment Required"
  | 403 => "Forbidden"
  | 404 => "Not Found"
  | 405 => "Method Not Allowed"
  | 406 => "Not Acceptable"
  | 407 => "Proxy Authentication Required"
  | 408 => "Request Timeout"
  | 410 => "Gone"
  | 412 => "Precondition Failed"
  | 413 => "Request Entity Too Large"
  | 414 => "Request-URI Too Long"
  | 415 => "Unsupported Media Type"
  | 416 => "Unsupported URI Scheme"
  | 420 => "Bad Extension"
  | 421 => "Extension Required"
  | 422 => "Session Interval Too Small"
  | 423 => "Interval Too Brief"
  | 430 => "Flow failed"
  | 439 => "First Hop Lacks Outbound Support"
  | 480 => "Temporarily Unavailable"
  | 481 => "Call/Transaction Does Not Exist"
  | 482 => "Loop Detected"
  | 483 => "Too Many Hops"
  | 484 => "Address Incomplete"
  | 485 => "Ambiguous"
  | 486 => "Busy Here"
  | 487 => "Request Terminated"
  | 488 => "Not Acceptable Here"
  | 489 => "Event Package Not Supported"
  | 491 => "Request Pending"
  | 493 => "Undecipherable"
  | 500 => "Server Internal Error"
  | 501 => "Not Implemented"
  | 502 => "Bad Gateway"
  | 503 => "Service Unavailable"
  | 504 => "Server Time-out"
  | 505 => "Version Not Supported"
  | 513 => "Message Too Large"
  | 600 => "Busy Everywhere"
  | 603 => "Decline"
  | 604 => "Does Not Exist Anywhere"
  | 606 => "Not Acceptable"
  | _ => ""

/-- `Helper::makeResponse`. `tag` is the To tag `computeTag` draws. A response to a
request of the TU is marked external, so that it looks as if it came from outside. -/
def makeResponse (request : SipMessage) (responseCode : ℕ) (tag : Data) (reason : String) :
    SipMessage :=
  { startLine := .response responseCode
      (if reason = "" then responseCodeReason responseCode else reason)
    method := request.method
    methodStr := request.methodStr
    via := request.via
    hFrom := request.hFrom
    hTo := if 100 < responseCode ∧ request.hTo.wellFormed ∧ request.hTo.tag = none then
        { request.hTo with tag := some tag } else request.hTo
    hCallId := request.hCallId
    hCSeq := request.hCSeq
    hContact := if responseCode / 100 = 2 ∧ request.method ≠ .cancel then some [] else none
    hRoutes := []
    hReasons := none
    hRetryAfter := none
    hWarnings := []
    contents := []
    isExternal := !request.isExternal
    receivedTransport := .unknownTransport
    source := .unset
    destination := .unset
    forceTarget := none
    invalidReason := none
    transactionUser := none }

/-- What `makeCancel` and `makeFailureAck` share: the request line's URI, the dialog
identifiers, the routes and the topmost Via of the request. -/
def makeFollowUp (request : SipMessage) (method : MethodTypes) (toHeader : NameAddr) :
    SipMessage :=
  { startLine := request.startLine
    method := method
    methodStr := []
    via := request.via
    hFrom := request.hFrom
    hTo := toHeader
    hCallId := request.hCallId
    hCSeq := request.hCSeq
    hContact := none
    hRoutes := request.hRoutes
    hReasons := none
    hRetryAfter := none
    hWarnings := []
    contents := []
    isExternal := false
    receivedTransport := .unknownTransport
    source := .unset
    destination := .unset
    forceTarget := none
    invalidReason := none
    transactionUser := none }

def makeCancel (request : SipMessage) : SipMessage := makeFollowUp request .cancel request.hTo

def makeFailureAck (request response : SipMessage) : SipMessage :=
  makeFollowUp request .ack response.hTo

def defaultSipPort : ℕ := 5060
def defaultSipsPort : ℕ := 5061

/-- `Helper::getPortForReply`. -/
def getPortForReply (request : SipMessage) : ℕ :=
  let port :=
    if isReliable request.via.transport then
      if request.source.port = 0 then request.via.sentPort else request.source.port
    else if request.via.rport.isSome then request.source.port
    else request.via.sentPort
  if port = 0 ∨ 65535 < port then
    if request.via.transport = .tls ∨ request.via.transport = .dtls then defaultSipsPort
    else defaultSipPort
  else port

/-- `simpleTupleForUri`: where a response with a force target goes. -/
def simpleTupleForUri (uri : Uri) : Tuple :=
  let transport := if uri.transport = .unknownTransport then .udp else uri.transport
  let port :=
    if uri.port = 0 then (if transport = .tls then defaultSipsPort else defaultSipPort)
    else uri.port
  ⟨uri.host, port, transport, 0⟩

inductive TimerType
  | timerA | timerB | timerC | timerD | timerE1 | timerE2 | timerF | timerG | timerH
  | timerI | timerJ | timerK | timerTrying | timerStaleClient | timerStaleServer
  | timerStateless | timerCleanUp | applicationTimer | tcpConnectTimer
  deriving DecidableEq, Repr

/-- Which transaction map `TimerMessage::isClientTransaction` sends a timer to. The
source asserts on Timer C and application timers and then answers false. -/
def TimerType.isClientTransaction : TimerType → Bool
  | .timerA | .timerB | .timerD | .timerE1 | .timerE2 | .timerF | .timerK
  | .timerStaleClient | .timerCleanUp | .timerStateless | .tcpConnectTimer => true
  | .timerG | .timerH | .timerI | .timerJ | .timerStaleServer | .timerTrying
  | .timerC | .applicationTimer => false

structure TransactionTimer where
  type : TimerType
  transactionId : Data
  duration : ℕ
  deriving DecidableEq, Repr

/-- `TransportFailure::FailureReason`, in the order of the source's enumeration. -/
inductive FailureReason
  | none | transportNoExistConn | failure | transportNoSocket | transportBadConnect
  | transportShutdown | connectionUnknown | connectionException | noTransport | noRoute
  | certNameMismatch | certValidationFailure
  deriving DecidableEq, Repr

def FailureReason.toNat (r : FailureReason) : ℕ := r.ctorIdx

inductive TcpConnect
  | connectStarted | connected
  deriving DecidableEq, Repr

/-- Messages of the state machine fifo that name no transaction: each is passed to
the component it is meant for. -/
inductive ControlMessage
  | keepAlive (destination : Tuple)
  | keepAlivePong (flow : Tuple)
  | connectionTerminated (flow : Tuple)
  | terminateFlow (flow : Tuple)
  | enableFlowTimer (flow : Tuple)
  | zeroOutStatistics
  | pollStatistics
  | addTransport (key : ℕ)
  | removeTransport (key : ℕ)
  deriving DecidableEq, Repr

/-- What the state machines are given. `badTid` is a message whose `getTransactionId`
throws; timers come from the timer queue and not from the state machine fifo. -/
inductive TransactionMessage
  | control (c : ControlMessage)
  | badTid
  | invokeAfterSocketCreationFunc (type : TransportType)
  | sip (m : SipMessage)
  | transportFailure (tid : Data) (reason : FailureReason) (subCode : ℤ)
  | tcpConnectState (tid : Data) (state : TcpConnect)
  | abandonServerTransaction (tid : Data)
  | cancelClientInviteTransaction (tid : Data) (reasons : Option Data)
  | dnsResultMessage (tid : Data) (isClient : Bool)
  | timer (t : TransactionTimer)
  deriving DecidableEq

namespace TransactionMessage

/-- The id a message is looked up by; CANCEL requests and responses form
transactions of their own. -/
def tid : TransactionMessage → Data
  | .control _ | .badTid | .invokeAfterSocketCreationFunc _ => []
  | .sip m => if m.method = .cancel then m.getTransactionId ++ cancelToken else m.getTransactionId
  | .transportFailure t _ _ | .tcpConnectState t _ | .abandonServerTransaction t
  | .cancelClientInviteTransaction t _ | .dnsResultMessage t _ => t
  | .timer t => t.transactionId

def isClientTransaction : TransactionMessage → Bool
  | .sip m => m.isClientTransaction
  | .abandonServerTransaction _ => false
  | .dnsResultMessage _ isClient => isClient
  | .timer t => t.type.isClientTransaction
  | .control _ | .badTid | .invokeAfterSocketCreationFunc _ | .transportFailure _ _ _
  | .tcpConnectState _ _ | .cancelClientInviteTransaction _ _ => true

end TransactionMessage

/-- Timer values in milliseconds. -/
structure TimerConfig where
  T1 : ℕ := 500
  T2 : ℕ := 4000
  T4 : ℕ := 5000
  T100 : ℕ := 80
  TB : ℕ := 32000
  TD : ℕ := 32000
  TF : ℕ := 32000
  TH : ℕ := 32000
  TS : ℕ := 32000
  tcpConnectTimeout : ℕ := 0
  deriving Repr

structure Config where
  timers : TimerConfig := {}
  mDiscardStrayResponses : Bool := true
  mFixBadDialogIdentifiers : Bool := true
  mFixBadCSeqNumbers : Bool := true
  mHostname : String := ""
  haveTransactionUsers : Bool := false
  outboundVersion : ℕ := 11
  dnsGreylistDurationMs : ℕ := 32000
  deriving Repr

inductive RejectionBehavior
  | normal | rejectingNewWork | rejectingNonEssential
  deriving DecidableEq, Repr

inductive DnsAvailability
  | available | pending | finished | destroyed
  deriving DecidableEq, Repr

/-- Answers the rest of the stack gives during one step. They are unconstrained and
may differ from step to step. `findTransport` decides whether `TransportSelector::transmit`
finds a transport for a message and a target. -/
structure Env where
  findTransport : SipMessage → Tuple → Bool
  dnsAvailable : DnsAvailability
  dnsNext : Tuple
  nowMs : ℕ
  controllerRejection : RejectionBehavior
  tuRejection : RejectionBehavior
  tuExpectedWait : ℕ
  tuResponsesMandatory : Bool
  tuStillRegistered : Bool
  tuRegisteredForTermination : Bool
  selectTransactionUser : SipMessage → Option ℕ
  computeTag : Data

end Resiprocate.Transaction
