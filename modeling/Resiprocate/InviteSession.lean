import Resiprocate.TransactionTypes

/-! The state of an `InviteSession`, as a caller or as a callee, and the functions that its two
subclasses share. A handler that goes on after it has called the application back stops there, in a
`Frame` that says what it has left to do; the application may call the session before that is
resumed. A run ends with an assertion that fails or a null pointer that is followed. An exception
is an effect: the application or the user agent catches it, and the session stays as it is.

Encryption levels, alternative offers, the fields of RFC 4028 and non-INVITE requests inside of the
session are left out. -/
namespace Resiprocate.Dum
open Transaction (MethodTypes)

/-- The ways in which a step of a session can go wrong. -/
inductive Failure
  | assertion
  | nullPointer
  /-- A second ACK for one INVITE. -/
  | ackExists
  /-- A second reliable provisional before the PRACK of the first. -/
  | unacknowledgedProvisional
  deriving DecidableEq

abbrev Outcome (σ : Type*) := Except Failure σ

/-- The value behind a pointer. -/
def dereference {α : Type*} (p : Option α) : Outcome α :=
  match p with
  | some a => .ok a
  | none => .error .nullPointer

inductive SessionState
  | Undefined | Connected | SentUpdate | SentUpdateGlare | SentReinvite | SentReinviteGlare
  | SentReinviteNoOffer | SentReinviteAnswered | SentReinviteNoOfferGlare | ReceivedUpdate
  | ReceivedReinvite | ReceivedReinviteNoOffer | ReceivedReinviteSentOffer | Answered
  | WaitingToOffer | WaitingToRequestOffer | WaitingToTerminate | WaitingToHangup | Terminated
  | UAC_Start | UAC_Early | UAC_EarlyWithOffer | UAC_EarlyWithAnswer | UAC_Answered
  | UAC_SentUpdateEarly | UAC_SentUpdateEarlyGlare | UAC_ReceivedUpdateEarly | UAC_SentAnswer
  | UAC_QueuedUpdate | UAC_Cancelled
  | UAS_Start | UAS_Offer | UAS_OfferProvidedAnswer | UAS_EarlyOffer | UAS_EarlyProvidedAnswer
  | UAS_NoOffer | UAS_ProvidedOffer | UAS_EarlyNoOffer | UAS_EarlyProvidedOffer | UAS_Accepted
  | UAS_WaitingToOffer | UAS_WaitingToRequestOffer | UAS_AcceptedWaitingAnswer | UAS_OfferReliable
  | UAS_OfferReliableProvidedAnswer | UAS_NoOfferReliable | UAS_ProvidedOfferReliable
  | UAS_FirstSentOfferReliable | UAS_FirstSentAnswerReliable | UAS_NoAnswerReliableWaitingPrack
  | UAS_NegotiatedReliable | UAS_NoAnswerReliable | UAS_SentUpdate | UAS_SentUpdateAccepted
  | UAS_SentUpdateGlare | UAS_ReceivedUpdate | UAS_ReceivedUpdateWaitingAnswer
  | UAS_WaitingToHangup
  deriving DecidableEq, Repr

inductive ReliableProvisionalMode
  | Never | SupportedEssential | Supported | Required
  deriving DecidableEq

/-- What the profiles say that a session asks them for. The two times are those between
retransmissions of a provisional response, 0 for none. -/
structure SessionProfile where
  uasReliableProvisionalMode : ReliableProvisionalMode
  uacReliableProvisionalMode : ReliableProvisionalMode
  updateSupported : Bool
  handle491AsGeneralFailure : Bool
  retransmissionTime1xx : ℕ
  resubmitTime1xxRel : ℕ
  deriving DecidableEq

structure RAck where
  rSequence : ℕ
  cSequence : ℕ
  method : MethodTypes
  deriving DecidableEq

/-- A message dispatched to a session. The status code of a request is 0. `body` is its offer or
answer, `allows` says whether its Allow header, if it has one, lists UPDATE. -/
structure SessionMessage (γ : Type*) where
  method : MethodTypes
  statusCode : ℕ
  sequence : ℕ
  transactionId : ℕ
  body : Option γ
  supports100rel : Bool
  requires100rel : Bool
  rSeq : Option ℕ
  rAck : RAck
  minSE : Option ℕ
  allows : Option Bool
  deriving DecidableEq

def SessionMessage.isRequest {γ : Type*} (msg : SessionMessage γ) : Bool := msg.statusCode = 0

/-- A request received in the session, as far as a response is made from it. -/
structure LaterRequest where
  method : MethodTypes
  sequence : ℕ
  deriving DecidableEq

/-- The request a response is made from: the INVITE that created the session, or a later one. -/
inductive RequestRef
  | first
  | later (request : LaterRequest)
  deriving DecidableEq

def SessionMessage.request {γ : Type*} (msg : SessionMessage γ) : LaterRequest :=
  ⟨msg.method, msg.sequence⟩

def SessionMessage.ref {γ : Type*} (msg : SessionMessage γ) : RequestRef := .later msg.request

structure SentResponse (γ : Type*) where
  request : RequestRef
  statusCode : ℕ
  body : Option γ
  rSeq : Option ℕ
  deriving DecidableEq

inductive Callback (γ : Type*)
  | onNewSession | onOffer (offer : γ) | onAnswer (answer : γ) | onOfferRequired
  | onOfferRejected | onOfferRequestRejected | onIllegalNegotiation | onRemoteAnswerChanged
  | onConnected | onConnectedConfirmed | onTerminated | onPrack | onAckReceived
  | onAckNotReceived | onStaleReInviteTimeout | onSessionExpired | onProvisional | onEarlyMedia
  | onFailure | onStaleCallTimeout | onForkDestroyed
  deriving DecidableEq

/-- What the application and the peer see of a session. -/
inductive Effect (γ : Type*)
  | response (r : SentResponse γ)
  | request (method : MethodTypes) (sequence : ℕ) (body : Option γ)
  | callback (c : Callback γ)
  | exception
  deriving DecidableEq

inductive SessionEvent
  | OnRedirect | OnGeneralFailure | OnInvite | OnInviteOffer | OnInviteReliableOffer
  | OnInviteReliable | OnCancel | OnBye | On200Bye | On1xx | On1xxEarly | On1xxOffer | On1xxAnswer
  | On2xx | On2xxOffer | On2xxAnswer | On422Invite | On487Invite | On491Invite | OnInviteFailure
  | OnAck | OnAckAnswer | On200Cancel | OnCancelFailure | OnUpdate | OnUpdateOffer
  | OnUpdateRejected | On422Update | On491Update | On200Update | OnPrack | On200Prack | Unknown
  deriving DecidableEq

inductive TimerType
  | Retransmit1xx | Resubmit1xxRel | Retransmit1xxRel | Retransmit200 | WaitForAck | CanDiscardAck
  | Glare | StaleReInvite | SessionExpiration | SessionRefresh
  deriving DecidableEq

/-- `secondarySeq` is the time since a reliable provisional was first sent, in units of T1. A
CanDiscardAck timer has the transaction for its `seq`. -/
structure SessionTimer where
  type : TimerType
  seq : ℕ
  secondarySeq : ℕ
  deriving DecidableEq

/-- The request last made in `mLastLocalSessionModification`. -/
structure LocalModification (γ : Type*) where
  method : MethodTypes
  sequence : ℕ
  transactionId : ℕ
  body : Option γ
  deriving DecidableEq

/-- What a handler has left to do after a callback. -/
inductive Frame (γ : Type*)
  | newSession (offer : Option γ)
  | connectAfterAnswer
  | answerAfterPrack (answer : γ)
  | offerAfterPrack (offer : γ)
  | notAcceptable (prack : LaterRequest)
  | offerInPrack (prack : LaterRequest) (offer : γ)
  | sendUpdate
  | prackCheckQueue
  | clearQueue
  | updateCheckQueue
  | popQueue
  | negotiatedReliable (msg : SessionMessage γ)
  | provideProposedOffer
  | requestOffer
  | glare (msg : SessionMessage γ)
  | resetProposed
  deriving DecidableEq

structure SentAck (γ : Type*) where
  transactionId : ℕ
  sequence : ℕ
  body : Option γ
  deriving DecidableEq

/-- The fields of the base class. `creator` is the last request of the dialog set's creator, which
only a caller has. The rests of handlers wait in `frames`, the innermost first; the trace has the
latest effect first. -/
structure InviteSession (γ : Type*) where
  profile : SessionProfile
  creator : Option (LocalModification γ)
  mState : SessionState
  mCurrentLocalOfferAnswer : Option γ
  mProposedLocalOfferAnswer : Option γ
  mCurrentRemoteOfferAnswer : Option γ
  mProposedRemoteOfferAnswer : Option γ
  mLastLocalSessionModification : LocalModification γ
  mLastRemoteSessionModification : RequestRef × ℕ
  mLocalCSeq : ℕ
  mInvite200 : Option (SentResponse γ)
  mCurrentRetransmit200 : Bool
  mStaleReInviteTimerSeq : ℕ
  mSessionRefreshReInvite : Bool
  mAcks : List (SentAck γ)
  peerAllowsUpdate : Bool
  timers : List SessionTimer
  destroying : Bool
  frames : List (Frame γ)
  trace : List (Effect γ)

namespace InviteSession
variable {γ : Type*}

@[simps] def transition (s : InviteSession γ) (target : SessionState) : InviteSession γ :=
  { s with mState := target }

@[simps] def emit (s : InviteSession γ) (e : Effect γ) : InviteSession γ :=
  { s with trace := e :: s.trace }

@[simp] def callback (s : InviteSession γ) (c : Callback γ) : InviteSession γ :=
  s.emit (.callback c)

/-- A response that carries no reliable provisional number. -/
@[simp] def respond (s : InviteSession γ) (request : RequestRef) (statusCode : ℕ)
    (body : Option γ) : InviteSession γ :=
  s.emit (.response ⟨request, statusCode, body, none⟩)

/-- The rest of a handler waits for the callback to return. -/
@[simps] def suspend (s : InviteSession γ) (f : Frame γ) : InviteSession γ :=
  { s with frames := f :: s.frames }

@[simp] def throwException (s : InviteSession γ) : InviteSession γ := s.emit .exception

@[simps] def destroy (s : InviteSession γ) : InviteSession γ := { s with destroying := true }

@[simps] def addTimer (s : InviteSession γ) (type : TimerType) (seq secondarySeq : ℕ) :
    InviteSession γ :=
  { s with timers := ⟨type, seq, secondarySeq⟩ :: s.timers }

/-- `makeRequest` in an object of its own, and `send`. -/
@[simps] def sendRequest (s : InviteSession γ) (method : MethodTypes) (body : Option γ) :
    InviteSession γ :=
  { s with
    mLocalCSeq := s.mLocalCSeq + 1
    trace := .request method (s.mLocalCSeq + 1) body :: s.trace }

/-- `makeRequest` in `mLastLocalSessionModification`, with this body, and `send`. A transaction is
named by the number of its request. -/
@[simps] def sendModification (s : InviteSession γ) (method : MethodTypes) (body : Option γ) :
    InviteSession γ :=
  { s with
    mLocalCSeq := s.mLocalCSeq + 1
    mLastLocalSessionModification := ⟨method, s.mLocalCSeq + 1, s.mLocalCSeq + 1, body⟩
    trace := .request method (s.mLocalCSeq + 1) body :: s.trace }

@[simp] def sendBye (s : InviteSession γ) : InviteSession γ := s.sendRequest .bye none

/-- BYE, state Terminated and the callback for it. -/
@[simp] def hangUp (s : InviteSession γ) : InviteSession γ :=
  (s.sendBye.transition .Terminated).callback .onTerminated

def isConnected (s : InviteSession γ) : Bool :=
  match s.mState with
  | .Connected | .SentUpdate | .SentUpdateGlare | .SentReinvite | .SentReinviteGlare
  | .SentReinviteNoOffer | .SentReinviteAnswered | .SentReinviteNoOfferGlare | .ReceivedUpdate
  | .ReceivedReinvite | .ReceivedReinviteNoOffer | .ReceivedReinviteSentOffer | .Answered
  | .WaitingToOffer | .WaitingToRequestOffer => true
  | _ => false

def isTerminated (s : InviteSession γ) : Bool :=
  match s.mState with
  | .Terminated | .WaitingToTerminate | .WaitingToHangup | .UAC_Cancelled
  | .UAS_WaitingToHangup => true
  | _ => false

def updateMethodSupported (s : InviteSession γ) : Bool :=
  s.profile.updateSupported && s.peerAllowsUpdate

def isReliable (s : InviteSession γ) (msg : SessionMessage γ) : Bool :=
  if msg.method ≠ .invite then false
  else if msg.isRequest then
    s.profile.uasReliableProvisionalMode ≠ .Never && (msg.supports100rel || msg.requires100rel)
  else
    s.profile.uacReliableProvisionalMode ≠ .Never && msg.requires100rel && msg.rSeq.isSome

def toEvent (s : InviteSession γ) (msg : SessionMessage γ) : SessionEvent :=
  let code := msg.statusCode
  let reliable := s.isReliable msg
  let sentOffer := s.mProposedLocalOfferAnswer.isSome
  let offerAnswer := msg.body.isSome
  if code = 481 ∨ code = 408 then .OnGeneralFailure
  else if 300 ≤ code ∧ code ≤ 399 then .OnRedirect
  else match msg.method with
  | .invite =>
    if code = 0 then
      if offerAnswer then (if reliable then .OnInviteReliableOffer else .OnInviteOffer)
      else (if reliable then .OnInviteReliable else .OnInvite)
    else if 100 < code ∧ code < 200 then
      if reliable then
        if offerAnswer then (if sentOffer then .On1xxAnswer else .On1xxOffer) else .On1xx
      else if offerAnswer then .On1xxEarly else .On1xx
    else if 200 ≤ code ∧ code < 300 then
      if offerAnswer then (if sentOffer then .On2xxAnswer else .On2xxOffer) else .On2xx
    else if code = 422 then .On422Invite
    else if code = 487 then .On487Invite
    else if code = 491 ∧ ¬s.profile.handle491AsGeneralFailure then .On491Invite
    else if 400 ≤ code then .OnInviteFailure
    else .Unknown
  | .ack => if offerAnswer then .OnAckAnswer else .OnAck
  | .cancel =>
    if code = 0 then .OnCancel else if code / 200 = 1 then .On200Cancel
    else if 400 ≤ code then .OnCancelFailure else .Unknown
  | .bye => if code = 0 then .OnBye else if code / 200 = 1 then .On200Bye else .Unknown
  | .prack => if code = 0 then .OnPrack else if code / 200 = 1 then .On200Prack else .Unknown
  | .update =>
    if code = 0 then (if offerAnswer then .OnUpdateOffer else .OnUpdate)
    else if code / 200 = 1 then .On200Update
    else if code = 422 then .On422Update
    else if code = 491 ∧ ¬s.profile.handle491AsGeneralFailure then .On491Update
    else if 400 ≤ code then .OnUpdateRejected
    else .Unknown
  | _ => .Unknown

/-! ### Pieces of the handlers -/

@[simps] def stop200 (s : InviteSession γ) : InviteSession γ :=
  { s with mCurrentRetransmit200 := false }

@[simps] def startRetransmit200Timer (s : InviteSession γ) : InviteSession γ :=
  { s with
    mCurrentRetransmit200 := true
    timers := ⟨.WaitForAck, s.mLastRemoteSessionModification.2, 0⟩ ::
      ⟨.Retransmit200, s.mLastRemoteSessionModification.2, 0⟩ :: s.timers }

@[simp] def start491Timer (s : InviteSession γ) : InviteSession γ :=
  s.addTimer .Glare s.mLastLocalSessionModification.sequence 0

@[simps] def startStaleReInviteTimer (s : InviteSession γ) : InviteSession γ :=
  { s with
    mStaleReInviteTimerSeq := s.mStaleReInviteTimerSeq + 1
    timers := ⟨.StaleReInvite, s.mStaleReInviteTimerSeq + 1, 0⟩ :: s.timers }

@[simps] def nextStaleReInvite (s : InviteSession γ) : InviteSession γ :=
  { s with mStaleReInviteTimerSeq := s.mStaleReInviteTimerSeq + 1 }

/-- Build and send the response that `mInvite200` keeps for retransmission. -/
@[simps] def sendInvite200 (s : InviteSession γ) (request : RequestRef) (code : ℕ)
    (body : Option γ) : InviteSession γ :=
  { s with
    mInvite200 := some ⟨request, code, body, none⟩
    trace := .response ⟨request, code, body, none⟩ :: s.trace }

@[simps] def rememberRemote (s : InviteSession γ) (msg : SessionMessage γ) : InviteSession γ :=
  { s with mLastRemoteSessionModification := (msg.ref, msg.sequence) }

@[simps] def storePeerCapabilities (s : InviteSession γ) (msg : SessionMessage γ) :
    InviteSession γ :=
  { s with peerAllowsUpdate := msg.allows.getD s.peerAllowsUpdate }

def setCurrentLocalOfferAnswer (s : InviteSession γ) : Outcome (InviteSession γ) :=
  match s.mProposedLocalOfferAnswer with
  | none => .error .assertion
  | some offer => .ok { s with
      mCurrentLocalOfferAnswer := some offer
      mProposedLocalOfferAnswer := none }

/-- The answer to the offer of the peer that was not answered yet. -/
@[simps] def answerRemote (s : InviteSession γ) (answer : γ) : InviteSession γ :=
  { s with
    mCurrentLocalOfferAnswer := some answer
    mCurrentRemoteOfferAnswer := s.mProposedRemoteOfferAnswer
    mProposedRemoteOfferAnswer := none }

@[simps] def setCurrentRemote (s : InviteSession γ) (answer : Option γ) : InviteSession γ :=
  { s with mCurrentRemoteOfferAnswer := answer }

@[simps] def setProposedRemote (s : InviteSession γ) (offer : Option γ) : InviteSession γ :=
  { s with mProposedRemoteOfferAnswer := offer }

@[simps] def setProposedLocal (s : InviteSession γ) (offer : Option γ) : InviteSession γ :=
  { s with mProposedLocalOfferAnswer := offer }

/-- The ACK is made from the last INVITE sent: the last local modification, or if that is an UPDATE
the request of the creator. -/
def sendAck (s : InviteSession γ) (answer : Option γ) : Outcome (InviteSession γ) := do
  let source ← dereference (if s.mLastLocalSessionModification.method = .update then s.creator
    else some s.mLastLocalSessionModification)
  if s.mAcks.any (·.transactionId = source.transactionId) then .error .ackExists
  else return ({ s with
    mAcks := ⟨source.transactionId, source.sequence, answer⟩ :: s.mAcks }.addTimer
      .CanDiscardAck source.transactionId 0).emit (.request .ack source.sequence answer)

/-- A re-INVITE with the current local description, or an UPDATE without one. -/
def sessionRefresh (s : InviteSession γ) : Outcome (InviteSession γ) :=
  if s.updateMethodSupported then
    .ok ((s.transition .SentUpdate).sendModification .update none)
  else do
    let offer ← dereference s.mCurrentLocalOfferAnswer
    return { (s.transition .SentReinvite).startStaleReInviteTimer with
      mProposedLocalOfferAnswer := some offer
      mSessionRefreshReInvite := true }.sendModification .invite (some offer)

/-! ### Calls of the application -/

def provideOffer (s : InviteSession γ) (offer : γ) : Outcome (InviteSession γ) :=
  match s.mState with
  | .Connected | .WaitingToOffer | .UAS_WaitingToOffer =>
    .ok ((((s.transition .SentReinvite).startStaleReInviteTimer).setProposedLocal
      (some offer)).sendModification .invite (some offer))
  | .Answered => .ok ((s.transition .WaitingToOffer).setProposedLocal (some offer))
  | .ReceivedReinviteNoOffer =>
    if s.mProposedRemoteOfferAnswer.isSome then .error .assertion
    else .ok ((((s.transition .ReceivedReinviteSentOffer).setProposedLocal
      (some offer)).sendInvite200 s.mLastRemoteSessionModification.1 200
      (some offer)).startRetransmit200Timer)
  | _ => .ok s.throwException

def provideProposedOffer (s : InviteSession γ) : Outcome (InviteSession γ) := do
  provideOffer s (← dereference s.mProposedLocalOfferAnswer)

def requestOffer (s : InviteSession γ) : Outcome (InviteSession γ) :=
  match s.mState with
  | .Connected | .WaitingToRequestOffer | .UAS_WaitingToRequestOffer =>
    .ok (((s.transition .SentReinviteNoOffer).startStaleReInviteTimer).sendModification
      .invite none)
  | .Answered => .ok (s.transition .WaitingToRequestOffer)
  | _ => .ok s.throwException

def provideAnswer (s : InviteSession γ) (answer : γ) : Outcome (InviteSession γ) :=
  match s.mState with
  | .ReceivedReinvite =>
    .ok ((((s.transition .Connected).sendInvite200 s.mLastRemoteSessionModification.1 200
      (some answer)).answerRemote answer).startRetransmit200Timer)
  | .ReceivedUpdate =>
    .ok (((s.transition .Connected).respond s.mLastRemoteSessionModification.1 200
      (some answer)).answerRemote answer)
  | .SentReinviteAnswered => do
    let s ← (s.transition .Connected).sendAck (some answer)
    return s.answerRemote answer
  | _ => .ok s.throwException

/-- `end` without a reason. -/
def endSession (s : InviteSession γ) : Outcome (InviteSession γ) :=
  match s.mState with
  | .Connected | .SentUpdate | .SentUpdateGlare | .SentReinviteGlare | .SentReinviteNoOfferGlare
  | .SentReinviteAnswered => .ok s.hangUp
  | .SentReinvite | .SentReinviteNoOffer => .ok (s.transition .WaitingToTerminate)
  | .Answered | .WaitingToOffer | .WaitingToRequestOffer | .ReceivedReinviteSentOffer =>
    -- while the 200 is retransmitted its ACK may still come
    .ok (if s.mCurrentRetransmit200 then s.transition .WaitingToHangup else s.hangUp)
  | .ReceivedUpdate | .ReceivedReinvite | .ReceivedReinviteNoOffer =>
    .ok (s.respond s.mLastRemoteSessionModification.1 488 none).hangUp
  | .WaitingToTerminate => .ok s.hangUp
  | .Terminated => .ok s
  | _ => .error .assertion

def reject (s : InviteSession γ) (statusCode : ℕ) : Outcome (InviteSession γ) :=
  let s := s.setProposedRemote none
  match s.mState with
  | .ReceivedUpdate | .ReceivedReinvite | .ReceivedReinviteNoOffer =>
    .ok ((s.transition .Connected).respond s.mLastRemoteSessionModification.1 statusCode none)
  | .SentReinviteAnswered => (s.transition .Connected).sendAck none
  | _ => .error .assertion

def targetRefresh (s : InviteSession γ) : Outcome (InviteSession γ) :=
  if s.isConnected then s.sessionRefresh else .ok s.throwException

/-! ### Messages of the peer -/

def dispatchBye (s : InviteSession γ) (msg : SessionMessage γ) : Outcome (InviteSession γ) :=
  if msg.isRequest then
    .ok (((s.respond msg.ref 200 none).transition .Terminated).callback .onTerminated).destroy
  else .error .assertion

def dispatchCancel (s : InviteSession γ) (msg : SessionMessage γ) : Outcome (InviteSession γ) :=
  if msg.isRequest then .ok (s.respond msg.ref 200 none).hangUp else .error .assertion

def dispatchPrack (s : InviteSession γ) (msg : SessionMessage γ) : InviteSession γ :=
  if msg.isRequest then (s.respond msg.ref 481 none).hangUp else s

def dispatchOthers (s : InviteSession γ) (msg : SessionMessage γ) : Outcome (InviteSession γ) :=
  match msg.method with
  | .invite | .update => .ok (if msg.isRequest then s.respond msg.ref 491 none else s)
  | .prack => .ok (dispatchPrack s msg)
  | .cancel => dispatchCancel s msg
  | .bye => dispatchBye s msg
  | .info | .message | .ack => .ok s
  | _ => .error .assertion

/-- An offer of the peer is remembered and handed to the application. -/
def receiveOffer (s : InviteSession γ) (msg : SessionMessage γ) (target : SessionState) :
    Outcome (InviteSession γ) := do
  let offer ← dereference msg.body
  return (((s.rememberRemote msg).transition target).setProposedRemote (some offer)).callback
    (.onOffer offer)

def dispatchConnected (s : InviteSession γ) (msg : SessionMessage γ) : Outcome (InviteSession γ) :=
  match s.toEvent msg with
  | .OnInvite | .OnInviteReliable =>
    .ok (((s.rememberRemote msg).transition .ReceivedReinviteNoOffer).callback .onOfferRequired)
  | .OnInviteOffer | .OnInviteReliableOffer => receiveOffer s msg .ReceivedReinvite
  | .On2xx | .On2xxOffer | .On2xxAnswer => s.sendAck none
  | .OnUpdateOffer => receiveOffer s msg .ReceivedUpdate
  | .OnUpdate => .ok (s.respond msg.ref 200 none)
  | .OnUpdateRejected | .On200Update => .error .assertion
  | .OnAck | .OnAckAnswer => .ok (s.stop200.callback .onAckReceived)
  | _ => dispatchOthers s msg

/-- Another session timer, if the 422 says which. -/
def intervalTooSmall (s : InviteSession γ) (msg : SessionMessage γ) : Outcome (InviteSession γ) :=
  if msg.minSE.isSome then s.sessionRefresh
  else .ok ((s.transition .Connected).setProposedLocal none)

def dispatchSentUpdate (s : InviteSession γ) (msg : SessionMessage γ) :
    Outcome (InviteSession γ) :=
  match s.toEvent msg with
  | .OnInvite | .OnInviteReliable | .OnInviteOffer | .OnInviteReliableOffer | .OnUpdate
  | .OnUpdateOffer => .ok (s.respond msg.ref 491 none)
  | .On200Update =>
    let s := s.transition .Connected
    match msg.body, s.mProposedLocalOfferAnswer with
    | some answer, some _ => do
      let s ← s.setCurrentLocalOfferAnswer
      return (s.setCurrentRemote (some answer)).callback (.onAnswer answer)
    | none, some _ => .ok ((s.callback .onIllegalNegotiation).suspend .resetProposed)
    | _, none => .ok s
  | .On491Update => .ok (s.transition .SentUpdateGlare).start491Timer
  | .On422Update => intervalTooSmall s msg
  | .OnUpdateRejected =>
    .ok (((s.transition .Connected).setProposedLocal none).callback .onOfferRejected)
  | .OnGeneralFailure => .ok s.hangUp
  | _ => dispatchOthers s msg

/-- The answer to a session refresh is not handed to the application, unless it is a new one. -/
def reinviteAnswered [DecidableEq γ] (s : InviteSession γ) (msg : SessionMessage γ) :
    Outcome (InviteSession γ) := do
  let answer ← dereference msg.body
  if s.mSessionRefreshReInvite then
    let s := { s with mSessionRefreshReInvite := false }
    let current ← dereference s.mCurrentRemoteOfferAnswer
    if current = answer then return s
    else return (s.setCurrentRemote (some answer)).callback .onRemoteAnswerChanged
  else return (s.setCurrentRemote (some answer)).callback (.onAnswer answer)

/-- The messages that `dispatchSentReinvite` and `dispatchSentReinviteNoOffer` treat alike. -/
def dispatchReinviteResponse (s : InviteSession γ) (msg : SessionMessage γ)
    (glare : SessionState) : Outcome (InviteSession γ) :=
  match s.toEvent msg with
  | .OnInvite | .OnInviteReliable | .OnInviteOffer | .OnInviteReliableOffer | .OnUpdate
  | .OnUpdateOffer => .ok (s.respond msg.ref 491 none)
  | .On1xx | .On1xxEarly => .ok s
  | .On2xx => do
    let s ← s.nextStaleReInvite.sendAck none
    return ((s.transition .Connected).callback .onIllegalNegotiation).suspend .resetProposed
  | .On422Invite => intervalTooSmall s.nextStaleReInvite msg
  | .On491Invite => .ok (s.nextStaleReInvite.transition glare).start491Timer
  | .OnGeneralFailure => .ok s.nextStaleReInvite.hangUp
  | .OnInviteFailure | .On487Invite =>
    .ok (((s.nextStaleReInvite.transition .Connected).setProposedLocal none).callback
      .onOfferRejected)
  | _ => dispatchOthers s msg

def dispatchSentReinvite [DecidableEq γ] (s : InviteSession γ) (msg : SessionMessage γ) :
    Outcome (InviteSession γ) :=
  match s.toEvent msg with
  | .On2xxAnswer | .On2xxOffer => do
    let s ← (s.nextStaleReInvite.transition .Connected).setCurrentLocalOfferAnswer
    let s ← s.sendAck none
    reinviteAnswered s msg
  | _ => dispatchReinviteResponse s msg .SentReinviteGlare

def dispatchSentReinviteNoOffer (s : InviteSession γ) (msg : SessionMessage γ) :
    Outcome (InviteSession γ) :=
  match s.toEvent msg with
  | .On2xxAnswer | .On2xxOffer => do
    let offer ← dereference msg.body
    return ((s.nextStaleReInvite.transition .SentReinviteAnswered).setProposedRemote
      (some offer)).callback (.onOffer offer)
  | _ => dispatchReinviteResponse s msg .SentReinviteNoOfferGlare

def dispatchReceivedReinviteSentOffer (s : InviteSession γ) (msg : SessionMessage γ) :
    Outcome (InviteSession γ) :=
  match s.toEvent msg with
  | .OnInvite | .OnInviteReliable | .OnInviteOffer | .OnInviteReliableOffer | .OnUpdate
  | .OnUpdateOffer => .ok (s.respond msg.ref 491 none)
  | .OnAckAnswer => do
    let s ← (s.transition .Connected).setCurrentLocalOfferAnswer
    let answer ← dereference msg.body
    return (s.setCurrentRemote (some answer)).stop200.callback (.onAnswer answer)
  | .OnAck =>
    .ok (if msg.sequence < s.mLastRemoteSessionModification.2 then s
      else ((s.transition .Connected).setProposedLocal none).stop200.callback .onOfferRejected)
  | _ => dispatchOthers s msg

def dispatchTerminated (s : InviteSession γ) (msg : SessionMessage γ) : InviteSession γ :=
  if msg.isRequest then s.respond msg.ref (if msg.method = .bye then 200 else 481) none
  else s.destroy

/-- A request of the peer while ours waits to be sent again; `rejected` tells the application. -/
def dispatchGlare (s : InviteSession γ) (msg : SessionMessage γ) (rejected : Callback γ) :
    Outcome (InviteSession γ) :=
  if msg.isRequest ∧ (msg.method = .invite ∨ msg.method = .update) then
    .ok ((s.callback rejected).suspend (.glare msg))
  else dispatchOthers s msg

def dispatchReceivedUpdateOrReinvite (s : InviteSession γ) (msg : SessionMessage γ) :
    Outcome (InviteSession γ) :=
  match s.toEvent msg with
  | .OnInvite | .OnInviteReliable | .OnInviteOffer | .OnInviteReliableOffer | .OnUpdate
  | .OnUpdateOffer => .ok (s.respond msg.ref 500 none)
  | .OnBye => dispatchBye (s.respond s.mLastRemoteSessionModification.1 487 none) msg
  | _ => dispatchOthers s msg

def dispatchAnswered (s : InviteSession γ) (msg : SessionMessage γ) : Outcome (InviteSession γ) :=
  if msg.isRequest ∧ msg.method = .ack then .ok (s.stop200.transition .Connected)
  else dispatchOthers s msg

def dispatchSentReinviteAnswered (s : InviteSession γ) (msg : SessionMessage γ) :
    Outcome (InviteSession γ) :=
  if ¬msg.isRequest ∧ msg.method = .invite ∧ msg.statusCode / 200 = 1 then .ok s
  else dispatchOthers s msg

def dispatchWaitingToOffer (s : InviteSession γ) (msg : SessionMessage γ) :
    Outcome (InviteSession γ) :=
  if msg.isRequest ∧ msg.method = .ack then provideProposedOffer s.stop200
  else dispatchOthers s msg

def dispatchWaitingToRequestOffer (s : InviteSession γ) (msg : SessionMessage γ) :
    Outcome (InviteSession γ) :=
  if msg.isRequest ∧ msg.method = .ack then requestOffer s.stop200
  else dispatchOthers s msg

def dispatchWaitingToTerminate (s : InviteSession γ) (msg : SessionMessage γ) :
    Outcome (InviteSession γ) :=
  if ¬msg.isRequest ∧ msg.method = .invite then do
    let s ← if msg.statusCode / 200 = 1 then s.sendAck none else .ok s
    return s.hangUp
  else if msg.isRequest then
    if msg.method = .bye then dispatchBye s msg else .ok (s.respond msg.ref 400 none)
  else .ok s

def dispatchWaitingToHangup (s : InviteSession γ) (msg : SessionMessage γ) : InviteSession γ :=
  match s.toEvent msg with
  | .OnAck | .OnAckAnswer => s.stop200.hangUp
  | _ => s

/-- The ACK of a 2xx is sent again for a retransmission of it. -/
def dispatch [DecidableEq γ] (s : InviteSession γ) (msg : SessionMessage γ) :
    Outcome (InviteSession γ) :=
  match (if msg.method = .invite ∧ ¬msg.isRequest ∧ msg.statusCode / 100 = 2
    then s.mAcks.find? (·.transactionId = msg.transactionId) else none) with
  | some ack => .ok (s.emit (.request .ack ack.sequence ack.body))
  | none =>
    match s.mState with
    | .Connected => dispatchConnected s msg
    | .SentUpdate => dispatchSentUpdate s msg
    | .SentReinvite => dispatchSentReinvite s msg
    | .SentReinviteNoOffer => dispatchSentReinviteNoOffer s msg
    | .SentReinviteAnswered => dispatchSentReinviteAnswered s msg
    | .SentUpdateGlare | .SentReinviteGlare => dispatchGlare s msg .onOfferRejected
    | .SentReinviteNoOfferGlare => dispatchGlare s msg .onOfferRequestRejected
    | .ReceivedUpdate | .ReceivedReinvite | .ReceivedReinviteNoOffer =>
      dispatchReceivedUpdateOrReinvite s msg
    | .ReceivedReinviteSentOffer => dispatchReceivedReinviteSentOffer s msg
    | .Answered => dispatchAnswered s msg
    | .WaitingToOffer => dispatchWaitingToOffer s msg
    | .WaitingToRequestOffer => dispatchWaitingToRequestOffer s msg
    | .WaitingToTerminate => dispatchWaitingToTerminate s msg
    | .WaitingToHangup => .ok (dispatchWaitingToHangup s msg)
    | .Terminated => .ok (dispatchTerminated s msg)
    | _ => .error .assertion

/-! ### Timers, and the rests of handlers -/

/-- The ACK of a 200 did not come. -/
def waitForAckExpired (s : InviteSession γ) : Outcome (InviteSession γ) :=
  let s := s.stop200
  match s.mState with
  | .UAS_WaitingToHangup | .WaitingToHangup => .ok s.hangUp
  | .ReceivedReinviteSentOffer =>
    .ok (((s.transition .Connected).setProposedLocal none).callback .onOfferRejected)
  | .WaitingToOffer | .UAS_WaitingToOffer =>
    if s.mProposedLocalOfferAnswer.isSome then
      .ok ((s.callback .onAckNotReceived).suspend .provideProposedOffer)
    else .error .assertion
  | .WaitingToRequestOffer | .UAS_WaitingToRequestOffer =>
    .ok ((s.callback .onAckNotReceived).suspend .requestOffer)
  | _ => .ok (s.callback .onAckNotReceived)

/-- Our request is made and sent again after a 491. -/
def glareExpired (s : InviteSession γ) : InviteSession γ :=
  let body := s.mLastLocalSessionModification.body
  match s.mState with
  | .SentUpdateGlare => (s.transition .SentUpdate).sendModification .update body
  | .SentReinviteGlare =>
    (s.transition .SentReinvite).startStaleReInviteTimer.sendModification .invite body
  | .SentReinviteNoOfferGlare =>
    (s.transition .SentReinviteNoOffer).startStaleReInviteTimer.sendModification .invite body
  | _ => s

def staleReInviteExpired (s : InviteSession γ) : InviteSession γ :=
  match s.mState with
  | .WaitingToTerminate => s.hangUp
  | .SentReinvite | .SentReinviteNoOffer =>
    ((s.transition .Connected).setProposedLocal none).callback .onStaleReInviteTimeout
  | _ => s

/-- The two session timers are taken to be current. -/
def dispatchTimer (s : InviteSession γ) (timeout : SessionTimer) : Outcome (InviteSession γ) :=
  match timeout.type with
  | .Retransmit200 =>
    match s.mCurrentRetransmit200, s.mInvite200 with
    | true, some r => .ok ((s.emit (.response r)).addTimer .Retransmit200 timeout.seq 0)
    | _, _ => .ok s
  | .WaitForAck =>
    if s.mCurrentRetransmit200 ∧ timeout.seq = s.mLastRemoteSessionModification.2 then
      waitForAckExpired s
    else .ok s
  | .CanDiscardAck =>
    .ok { s with mAcks := s.mAcks.filter (·.transactionId ≠ timeout.seq) }
  | .Glare => .ok (glareExpired s)
  | .StaleReInvite =>
    .ok (if timeout.seq = s.mStaleReInviteTimerSeq then staleReInviteExpired s else s)
  | .SessionExpiration => .ok (s.callback .onSessionExpired)
  | .SessionRefresh => if s.mState = .Connected then s.sessionRefresh else .ok s
  | .Retransmit1xx | .Resubmit1xxRel | .Retransmit1xxRel => .ok s

/-- The rest of a handler of this class, which is in `frames` no more. -/
def resume (s : InviteSession γ) (f : Frame γ) : Outcome (InviteSession γ) :=
  match f with
  | .provideProposedOffer => if s.isTerminated then .ok s else provideProposedOffer s
  | .requestOffer => if s.isTerminated then .ok s else requestOffer s
  | .glare msg =>
    if s.isTerminated then .ok (dispatchTerminated s msg) else dispatchConnected s msg
  | .resetProposed => .ok (s.setProposedLocal none)
  | _ => .ok s

end InviteSession

end Resiprocate.Dum
