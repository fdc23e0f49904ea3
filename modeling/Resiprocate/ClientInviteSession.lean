import Resiprocate.InviteSession

/-! The caller's session, from the first response to its INVITE on. -/
namespace Resiprocate.Dum
open Transaction (MethodTypes)

/-- What a handler of the caller has left to do after a callback. -/
inductive ClientFrame (γ : Type*)
  | newProvisional (msg : SessionMessage γ)
  | newEarlyMedia (msg : SessionMessage γ)
  | newOffer1xx (msg : SessionMessage γ) (offer : γ)
  | newAnswer1xx (msg : SessionMessage γ) (answer : γ)
  | newOffer2xx (offer : γ)
  | newAnswer2xx (answer : γ)
  | sendPrackIfNeeded (msg : SessionMessage γ)
  | earlyMedia
  | offer1xx (offer : γ)
  | answer1xx (msg : SessionMessage γ) (answer : γ)
  | firstPrack (msg : SessionMessage γ)
  | connected
  | failed (destroy : Bool)
  | endSession
  | earlyWithAnswer (msg : SessionMessage γ)
  deriving DecidableEq

inductive ClientTimerType
  | Cancelled | StaleCall | WaitingForForked2xx
  deriving DecidableEq

structure ClientTimer where
  type : ClientTimerType
  seq : ℕ
  deriving DecidableEq

/-- The rests of handlers of this class wait in `rests`, the innermost first. -/
structure ClientInviteSession (γ : Type*) extends InviteSession γ where
  mRelRespInfo : RAck
  mStaleCallTimerSeq : ℕ
  mCancelledTimerSeq : ℕ
  mAllowOfferInPrack : Bool
  clientTimers : List ClientTimer
  rests : List (ClientFrame γ)

namespace ClientInviteSession
variable {γ : Type*}

/-- The session for the INVITE in a dialog that the response makes. -/
def create (profile : SessionProfile) (request : LocalModification γ) (response : SessionMessage γ) :
    ClientInviteSession γ where
  profile := profile
  creator := some request
  mState := .UAC_Start
  mCurrentLocalOfferAnswer := none
  mProposedLocalOfferAnswer := request.body
  mCurrentRemoteOfferAnswer := none
  mProposedRemoteOfferAnswer := none
  mLastLocalSessionModification := request
  mLastRemoteSessionModification := (.first, 0)
  mLocalCSeq := response.sequence
  mInvite200 := none
  mCurrentRetransmit200 := false
  mStaleReInviteTimerSeq := 0
  mSessionRefreshReInvite := false
  mAcks := []
  peerAllowsUpdate := false
  timers := []
  destroying := false
  frames := []
  trace := []
  mRelRespInfo := ⟨0, 0, .unknown⟩
  mStaleCallTimerSeq := 1
  mCancelledTimerSeq := 1
  mAllowOfferInPrack := false
  clientTimers := []
  rests := []

/-- A step of the base class that succeeds. -/
@[simp] def onBase (s : ClientInviteSession γ) (f : InviteSession γ → InviteSession γ) :
    ClientInviteSession γ :=
  { s with toInviteSession := f s.toInviteSession }

/-- A function of the base class. -/
@[simp] def inherited (s : ClientInviteSession γ) (r : Outcome (InviteSession γ)) :
    Outcome (ClientInviteSession γ) :=
  r.map fun b => { s with toInviteSession := b }

@[simp] def transition (s : ClientInviteSession γ) (target : SessionState) : ClientInviteSession γ :=
  s.onBase (·.transition target)

@[simp] def callback (s : ClientInviteSession γ) (c : Callback γ) : ClientInviteSession γ :=
  s.onBase (·.callback c)

@[simp] def respond (s : ClientInviteSession γ) (request : RequestRef) (statusCode : ℕ)
    (body : Option γ) : ClientInviteSession γ :=
  s.onBase (·.respond request statusCode body)

@[simp] def throwException (s : ClientInviteSession γ) : ClientInviteSession γ := s.onBase (·.throwException)

@[simp] def destroy (s : ClientInviteSession γ) : ClientInviteSession γ := s.onBase (·.destroy)

@[simp] def setProposedLocal (s : ClientInviteSession γ) (offer : Option γ) : ClientInviteSession γ :=
  s.onBase (·.setProposedLocal offer)

@[simp] def setProposedRemote (s : ClientInviteSession γ) (offer : Option γ) : ClientInviteSession γ :=
  s.onBase (·.setProposedRemote offer)

@[simp] def answerRemote (s : ClientInviteSession γ) (answer : γ) : ClientInviteSession γ :=
  s.onBase (·.answerRemote answer)

@[simp] def sendAck (s : ClientInviteSession γ) (answer : Option γ) : Outcome (ClientInviteSession γ) :=
  s.inherited (s.toInviteSession.sendAck answer)

/-- The rest of a handler waits for the callback to return. -/
@[simp] def wait (s : ClientInviteSession γ) (f : ClientFrame γ) : ClientInviteSession γ :=
  { s with rests := f :: s.rests }

@[simp] def addClientTimer (s : ClientInviteSession γ) (type : ClientTimerType) (seq : ℕ) :
    ClientInviteSession γ :=
  { s with clientTimers := ⟨type, seq⟩ :: s.clientTimers }

@[simp] def startCancelTimer (s : ClientInviteSession γ) : ClientInviteSession γ :=
  { s with mCancelledTimerSeq := s.mCancelledTimerSeq + 1 }.addClientTimer .Cancelled (s.mCancelledTimerSeq + 1)

@[simp] def startStaleCallTimer (s : ClientInviteSession γ) : ClientInviteSession γ :=
  { s with mStaleCallTimerSeq := s.mStaleCallTimerSeq + 1 }.addClientTimer .StaleCall (s.mStaleCallTimerSeq + 1)

/-- A PRACK for the last reliable response, with this offer or answer. -/
@[simp] def sendPrack (s : ClientInviteSession γ) (body : Option γ) : ClientInviteSession γ :=
  s.onBase (·.sendRequest .prack body)

def sendPrackIfNeeded (s : ClientInviteSession γ) (msg : SessionMessage γ) : ClientInviteSession γ :=
  if s.isReliable msg then s.sendPrack none else s

/-! ### Calls of the application -/

def provideOffer (s : ClientInviteSession γ) (offer : γ) : Outcome (ClientInviteSession γ) :=
  match s.mState with
  | .UAC_EarlyWithAnswer =>
    -- while the answer is handed over, the offer can still go into the first PRACK
    .ok (if s.mAllowOfferInPrack then s.setProposedLocal (some offer)
      else ((s.transition .UAC_SentUpdateEarly).setProposedLocal (some offer)).onBase
        (·.sendModification .update (some offer)))
  | .UAC_SentAnswer => .ok ((s.transition .UAC_QueuedUpdate).setProposedLocal (some offer))
  | .UAC_Start | .UAC_Early | .UAC_EarlyWithOffer | .UAC_Answered | .UAC_SentUpdateEarly
  | .UAC_ReceivedUpdateEarly | .UAC_Cancelled | .UAC_QueuedUpdate | .Terminated => .ok s.throwException
  | _ => s.inherited (s.toInviteSession.provideOffer offer)

def requestOffer (s : ClientInviteSession γ) : Outcome (ClientInviteSession γ) :=
  s.inherited s.toInviteSession.requestOffer

def provideAnswer (s : ClientInviteSession γ) (answer : γ) : Outcome (ClientInviteSession γ) :=
  match s.mState with
  | .UAC_EarlyWithOffer =>
    .ok (((s.transition .UAC_SentAnswer).answerRemote answer).sendPrack (some answer))
  | .UAC_Answered => do
    let s ← (s.transition .Connected).sendAck (some answer)
    return s.answerRemote answer
  | .UAC_ReceivedUpdateEarly =>
    .ok (((s.transition .UAC_EarlyWithAnswer).answerRemote answer).respond
      s.mLastRemoteSessionModification.1 200 (some answer))
  | .UAC_Start | .UAC_Early | .UAC_EarlyWithAnswer | .UAC_SentUpdateEarly | .UAC_SentAnswer
  | .UAC_Cancelled | .UAC_QueuedUpdate | .Terminated => .ok s.throwException
  | _ => s.inherited (s.toInviteSession.provideAnswer answer)

/-- `end` without a reason. -/
def endSession (s : ClientInviteSession γ) : Outcome (ClientInviteSession γ) :=
  match s.mState with
  | .UAC_Early | .UAC_EarlyWithOffer | .UAC_EarlyWithAnswer | .UAC_Answered | .UAC_SentUpdateEarly
  | .UAC_ReceivedUpdateEarly | .UAC_SentAnswer | .UAC_QueuedUpdate | .UAC_Cancelled =>
    .ok (s.onBase (·.hangUp))
  | .UAC_Start => .error .assertion
  | .Terminated => .ok s
  | _ => s.inherited s.toInviteSession.endSession

def reject (s : ClientInviteSession γ) (statusCode : ℕ) : Outcome (ClientInviteSession γ) :=
  match s.mState with
  | .UAC_ReceivedUpdateEarly =>
    .ok ((s.respond s.mLastRemoteSessionModification.1 statusCode none).transition .UAC_EarlyWithAnswer)
  | .UAC_Answered => do
    let s ← s.sendAck none
    return s.onBase (·.hangUp)
  | .UAC_Start | .UAC_Early | .UAC_EarlyWithOffer | .UAC_EarlyWithAnswer | .UAC_SentUpdateEarly
  | .UAC_SentAnswer | .UAC_Cancelled => .error .assertion
  | _ => s.inherited (s.toInviteSession.reject statusCode)

def targetRefresh (s : ClientInviteSession γ) : Outcome (ClientInviteSession γ) :=
  s.inherited s.toInviteSession.targetRefresh

/-- The dialog set is ended by the application before it is established. -/
def cancel (s : ClientInviteSession γ) : Outcome (ClientInviteSession γ) :=
  match s.mState with
  | .UAC_Early | .UAC_EarlyWithOffer | .UAC_EarlyWithAnswer | .UAC_SentUpdateEarly
  | .UAC_ReceivedUpdateEarly | .UAC_SentAnswer => .ok (s.startCancelTimer.transition .UAC_Cancelled)
  | .UAC_Cancelled | .Terminated => .ok s
  | _ => .error .assertion

/-- Another dialog of the set has received a 2xx. -/
def onForkAccepted (s : ClientInviteSession γ) : ClientInviteSession γ :=
  match s.mState with
  | .UAC_Early | .UAC_EarlyWithOffer | .UAC_EarlyWithAnswer | .UAC_SentUpdateEarly
  | .UAC_ReceivedUpdateEarly => s.addClientTimer .WaitingForForked2xx 1
  | _ => s

/-! ### Responses to the INVITE -/

/-- A provisional that is not for the INVITE ends the session; what its caller has left to do is done
nevertheless. -/
def handleProvisional (s : ClientInviteSession γ) (msg : SessionMessage γ) (rest : ClientFrame γ) :
    Outcome (ClientInviteSession γ) := do
  let request ← dereference s.creator
  let s := s.wait rest
  return if msg.sequence ≠ request.sequence ∨ (s.isReliable msg ∧ msg.rSeq = none) then
      (s.callback .onFailure).wait .endSession
    else s.startStaleCallTimer.callback .onProvisional

/-- The stale call timer is disabled. -/
def handleFinalResponse (s : ClientInviteSession γ) (msg : SessionMessage γ) : ClientInviteSession γ :=
  { s with mStaleCallTimerSeq := s.mStaleCallTimerSeq + 1 }.onBase (·.storePeerCapabilities msg)

def handle1xxOffer (s : ClientInviteSession γ) (msg : SessionMessage γ) (offer : γ) :
    Outcome (ClientInviteSession γ) :=
  s.handleProvisional msg (.offer1xx offer)

/-- The answer to an offer of ours. -/
def receiveAnswer (s : ClientInviteSession γ) (answer : γ) : Outcome (ClientInviteSession γ) := do
  let s ← s.inherited s.toInviteSession.setCurrentLocalOfferAnswer
  return s.onBase (·.setCurrentRemote (some answer))

def handle1xxAnswer (s : ClientInviteSession γ) (msg : SessionMessage γ) (answer : γ) :
    Outcome (ClientInviteSession γ) := do
  let s ← s.receiveAnswer answer
  s.handleProvisional msg (.answer1xx msg answer)

/-- The INVITE has failed. -/
def fail (s : ClientInviteSession γ) : ClientInviteSession γ :=
  ((s.transition .Terminated).callback .onFailure).wait (.failed true)

/-- A 2xx that breaks off the negotiation. -/
def refuse2xx (s : ClientInviteSession γ) : Outcome (ClientInviteSession γ) := do
  let s ← s.sendAck none
  return (((s.onBase (·.sendBye)).transition .Terminated).callback .onFailure).wait (.failed false)

/-- A 2xx whose body is not looked at. -/
def connect (s : ClientInviteSession γ) (msg : SessionMessage γ) : Outcome (ClientInviteSession γ) := do
  let s ← (s.transition .Connected).sendAck none
  return (s.handleFinalResponse msg).callback .onConnected

/-- A 2xx with the answer to our offer. -/
def connectAnswered (s : ClientInviteSession γ) (msg : SessionMessage γ) (answer : γ) :
    Outcome (ClientInviteSession γ) := do
  let s ← (s.transition .Connected).sendAck none
  (s.handleFinalResponse msg).receiveAnswer answer

def dispatchBye (s : ClientInviteSession γ) (msg : SessionMessage γ) : Outcome (ClientInviteSession γ) :=
  s.inherited (s.toInviteSession.dispatchBye msg)

def dispatchStart (s : ClientInviteSession γ) (msg : SessionMessage γ) : Outcome (ClientInviteSession γ) :=
  if msg.isRequest ∨ msg.statusCode ≤ 100 ∨ msg.method ≠ .invite then .error .assertion
  else match s.toEvent msg with
  | .On1xx => .ok (((s.transition .UAC_Early).callback .onNewSession).wait (.newProvisional msg))
  | .On1xxEarly => .ok (((s.transition .UAC_Early).callback .onNewSession).wait (.newEarlyMedia msg))
  | .On1xxOffer => do
    let offer ← dereference msg.body
    return ((s.transition .UAC_EarlyWithOffer).callback .onNewSession).wait (.newOffer1xx msg offer)
  | .On1xxAnswer => do
    let answer ← dereference msg.body
    return ((s.transition .UAC_EarlyWithAnswer).callback .onNewSession).wait (.newAnswer1xx msg answer)
  | .On2xxOffer => do
    let offer ← dereference msg.body
    return ((((s.transition .UAC_Answered).handleFinalResponse msg).setProposedRemote (some offer)).callback
      .onNewSession).wait (.newOffer2xx offer)
  | .On2xxAnswer => do
    let answer ← dereference msg.body
    let s ← s.connectAnswered msg answer
    return (s.callback .onNewSession).wait (.newAnswer2xx answer)
  | .On2xx => s.refuse2xx
  | .OnRedirect | .OnInviteFailure | .OnGeneralFailure | .On422Invite | .On487Invite | .On491Invite =>
    .ok s.fail
  | .OnBye => s.dispatchBye msg
  | _ => .ok s

/-- An UPDATE with an offer in an early dialog. -/
def receiveUpdate (s : ClientInviteSession γ) (msg : SessionMessage γ) : Outcome (ClientInviteSession γ) :=
  s.inherited (s.toInviteSession.receiveOffer msg .UAC_ReceivedUpdateEarly)

def dispatchEarly (s : ClientInviteSession γ) (msg : SessionMessage γ) : Outcome (ClientInviteSession γ) :=
  match s.toEvent msg with
  | .On1xx => (s.transition .UAC_Early).handleProvisional msg (.sendPrackIfNeeded msg)
  | .On1xxEarly => (s.transition .UAC_Early).handleProvisional msg .earlyMedia
  | .On1xxOffer => do (s.transition .UAC_EarlyWithOffer).handle1xxOffer msg (← dereference msg.body)
  | .On1xxAnswer => do (s.transition .UAC_EarlyWithAnswer).handle1xxAnswer msg (← dereference msg.body)
  | .On2xxOffer => do
    let offer ← dereference msg.body
    if s.mProposedLocalOfferAnswer.isSome then .error .assertion
    return ((((s.transition .UAC_Answered).handleFinalResponse msg).setProposedRemote (some offer)).callback
      (.onOffer offer)).wait .connected
  | .On2xxAnswer => do
    let answer ← dereference msg.body
    let s ← s.connectAnswered msg answer
    return (s.callback (.onAnswer answer)).wait .connected
  | .On2xx => s.refuse2xx
  | .OnRedirect | .OnInviteFailure | .OnGeneralFailure | .On422Invite | .On487Invite => .ok s.fail
  | .OnBye => s.dispatchBye msg
  | .OnUpdateOffer =>
    if s.mProposedLocalOfferAnswer.isSome then .ok (s.respond msg.ref 500 none) else s.receiveUpdate msg
  | .OnUpdate => .ok (s.respond msg.ref 200 none)
  | _ => .ok s

/-- Nothing but a BYE is looked at before the answer to the 2xx. -/
def dispatchAnswered (s : ClientInviteSession γ) (msg : SessionMessage γ) : Outcome (ClientInviteSession γ) :=
  match s.toEvent msg with
  | .OnBye => s.dispatchBye msg
  | _ => .ok s

def dispatchEarlyWithOffer (s : ClientInviteSession γ) (msg : SessionMessage γ) :
    Outcome (ClientInviteSession γ) :=
  match s.toEvent msg with
  | .On1xx => s.handleProvisional msg (.sendPrackIfNeeded msg)
  | .On2xx | .On2xxAnswer => s.refuse2xx
  | .OnRedirect | .OnInviteFailure | .OnGeneralFailure | .On422Invite | .On487Invite | .On491Invite =>
    .ok s.fail
  | .OnBye => s.dispatchBye msg
  | .OnUpdateOffer => .ok (s.respond msg.ref 500 none)
  | .OnUpdate => .ok (s.respond msg.ref 200 none)
  | _ => .ok s

def dispatchSentAnswer (s : ClientInviteSession γ) (msg : SessionMessage γ) :
    Outcome (ClientInviteSession γ) :=
  match s.toEvent msg with
  | .On200Prack => .ok (s.transition .UAC_EarlyWithAnswer)
  | .On2xx | .On2xxOffer => s.connect msg
  | .On2xxAnswer | .On1xxAnswer => s.refuse2xx
  | .On1xxOffer | .On1xx => s.handleProvisional msg (.sendPrackIfNeeded msg)
  | .OnRedirect | .OnInviteFailure | .OnGeneralFailure | .On422Invite | .On487Invite | .On491Invite =>
    .ok s.fail
  | .OnBye => s.dispatchBye msg
  | _ => .ok s

/-- The UPDATE goes out after the PRACK or the 2xx. -/
def dispatchQueuedUpdate (s : ClientInviteSession γ) (msg : SessionMessage γ) :
    Outcome (ClientInviteSession γ) :=
  match s.toEvent msg with
  | .On200Prack =>
    .ok ((s.transition .UAC_SentUpdateEarly).onBase (·.sendModification .update s.mProposedLocalOfferAnswer))
  | .On2xx => do
    let s' ← (s.transition .SentUpdate).sendAck none
    let s' := s'.onBase (·.sendRequest .update s.mProposedLocalOfferAnswer)
    return (s'.handleFinalResponse msg).callback .onConnected
  | .On2xxOffer => s.connect msg
  | .On2xxAnswer | .On1xxAnswer => s.refuse2xx
  | .On1xxOffer | .On1xx => s.handleProvisional msg (.sendPrackIfNeeded msg)
  | .OnRedirect | .OnInviteFailure | .OnGeneralFailure | .On422Invite | .On487Invite | .On491Invite =>
    .ok s.fail
  | .OnBye => s.dispatchBye msg
  | _ => .ok s

def dispatchEarlyWithAnswer (s : ClientInviteSession γ) (msg : SessionMessage γ) :
    Outcome (ClientInviteSession γ) :=
  match s.toEvent msg with
  | .On1xxOffer | .On1xx => s.handleProvisional msg (.sendPrackIfNeeded msg)
  | .On2xx | .On2xxOffer => s.connect msg
  | .On2xxAnswer => s.refuse2xx
  | .OnUpdateOffer => s.receiveUpdate msg
  | .OnUpdate => .ok (s.respond msg.ref 200 none)
  | .OnRedirect | .OnInviteFailure | .OnGeneralFailure | .On422Invite | .On487Invite | .On491Invite =>
    .ok s.fail
  | .OnBye => s.dispatchBye msg
  | .On200Prack =>
    -- the PRACK may have had an offer
    match msg.body, s.mProposedLocalOfferAnswer with
    | some answer, some _ => do
      let s ← s.receiveAnswer answer
      return s.callback (.onAnswer answer)
    | _, _ => .ok s
  | _ => .ok s

def dispatchSentUpdateEarly (s : ClientInviteSession γ) (msg : SessionMessage γ) :
    Outcome (ClientInviteSession γ) :=
  match s.toEvent msg with
  | .On200Update => do
    let answer ← dereference msg.body
    let s ← (s.transition .UAC_EarlyWithAnswer).receiveAnswer answer
    return s.callback (.onAnswer answer)
  | .OnUpdateOffer => .ok (s.respond msg.ref 491 none)
  | .OnUpdate => .ok (s.respond msg.ref 200 none)
  | .On491Update => .ok ((s.transition .UAC_SentUpdateEarlyGlare).onBase (·.start491Timer))
  | .On2xx => (s.transition .SentUpdate).sendAck none
  | .OnRedirect | .OnInviteFailure | .OnGeneralFailure | .On422Invite | .On487Invite => .ok s.fail
  | _ => .ok s

def dispatchSentUpdateEarlyGlare (s : ClientInviteSession γ) (msg : SessionMessage γ) :
    Outcome (ClientInviteSession γ) :=
  match s.toEvent msg with
  | .OnUpdateOffer => .ok ((s.callback .onOfferRejected).wait (.earlyWithAnswer msg))
  | .On2xx => (s.transition .SentUpdateGlare).sendAck none
  | .OnRedirect | .OnInviteFailure | .OnGeneralFailure | .On422Invite | .On487Invite => .ok s.fail
  | _ => .ok s

def dispatchReceivedUpdateEarly (s : ClientInviteSession γ) (msg : SessionMessage γ) :
    ClientInviteSession γ :=
  match s.toEvent msg with
  | .OnUpdate | .OnUpdateOffer => s.respond msg.ref 500 none
  | _ => s

def dispatchCancelled (s : ClientInviteSession γ) (msg : SessionMessage γ) :
    Outcome (ClientInviteSession γ) :=
  match s.toEvent msg with
  | .OnGeneralFailure | .OnCancelFailure | .On487Invite | .OnRedirect | .On422Invite | .On491Invite
  | .OnInviteFailure => .ok ((s.transition .Terminated).callback .onTerminated).destroy
  | .On2xx | .On2xxOffer | .On2xxAnswer => do
    -- the 2xx crosses the CANCEL
    let s ← s.sendAck none
    return { s.onBase (·.hangUp) with mCancelledTimerSeq := s.mCancelledTimerSeq + 1 }
  | .OnBye => s.dispatchBye msg
  | _ => .ok (if msg.isRequest then s.respond msg.ref 481 none else s)

/-- Whether a provisional is ignored, and what is remembered of it. -/
def isBadRseq (s : ClientInviteSession γ) (msg : SessionMessage γ) : Bool × RAck :=
  match msg.rSeq with
  | some rseq =>
    if msg.method = .invite ∧ 100 < msg.statusCode ∧ msg.statusCode < 200 then
      if rseq = s.mRelRespInfo.rSequence then (true, s.mRelRespInfo)
      else if s.mRelRespInfo.rSequence ≠ 0 ∧ s.mRelRespInfo.rSequence + 1 < rseq then (true, s.mRelRespInfo)
      else (false, ⟨rseq, msg.sequence, .invite⟩)
    else (false, s.mRelRespInfo)
  | none => (false, s.mRelRespInfo)

def dispatchByState [DecidableEq γ] (s : ClientInviteSession γ) (msg : SessionMessage γ) :
    Outcome (ClientInviteSession γ) :=
  match s.mState with
  | .UAC_Start => s.dispatchStart msg
  | .UAC_Early => s.dispatchEarly msg
  | .UAC_EarlyWithOffer => s.dispatchEarlyWithOffer msg
  | .UAC_EarlyWithAnswer => s.dispatchEarlyWithAnswer msg
  | .UAC_Answered => s.dispatchAnswered msg
  | .UAC_SentUpdateEarly => s.dispatchSentUpdateEarly msg
  | .UAC_SentUpdateEarlyGlare => s.dispatchSentUpdateEarlyGlare msg
  | .UAC_ReceivedUpdateEarly => .ok (s.dispatchReceivedUpdateEarly msg)
  | .UAC_SentAnswer => s.dispatchSentAnswer msg
  | .UAC_QueuedUpdate => s.dispatchQueuedUpdate msg
  | .UAC_Cancelled => s.dispatchCancelled msg
  | _ => s.inherited (s.toInviteSession.dispatch msg)

def dispatch [DecidableEq γ] (s : ClientInviteSession γ) (msg : SessionMessage γ) :
    Outcome (ClientInviteSession γ) :=
  if msg.isRequest ∧ (msg.method = .info ∨ msg.method = .message) then .ok s
  else if (s.isBadRseq msg).1 then .ok s
  else { s with mRelRespInfo := (s.isBadRseq msg).2 }.dispatchByState msg

/-! ### Timers, and the rests of handlers -/

/-- After the callback for a stale call the dialog set is ended, which calls `cancel` or `end`. -/
def dispatchClientTimer (s : ClientInviteSession γ) (timer : ClientTimer) : ClientInviteSession γ :=
  match timer.type with
  | .Cancelled =>
    if timer.seq = s.mCancelledTimerSeq then ((s.transition .Terminated).callback .onTerminated).destroy
    else s
  | .StaleCall => if timer.seq = s.mStaleCallTimerSeq then s.callback .onStaleCallTimeout else s
  | .WaitingForForked2xx => ((s.transition .Terminated).callback .onForkDestroyed).destroy

def dispatchTimer (s : ClientInviteSession γ) (timeout : SessionTimer) : Outcome (ClientInviteSession γ) :=
  if timeout.type = .Glare ∧ s.mState = .UAC_SentUpdateEarlyGlare then
    .ok ((s.transition .UAC_SentUpdateEarly).onBase fun b =>
      b.sendModification .update b.mLastLocalSessionModification.body)
  else s.inherited (s.toInviteSession.dispatchTimer timeout)

/-- What a handler does after a callback, with the check that most make first. -/
def resumeRest (s : ClientInviteSession γ) (f : ClientFrame γ) : Outcome (ClientInviteSession γ) :=
  match f with
  | .newProvisional msg =>
    if s.isTerminated then .ok s else s.handleProvisional msg (.sendPrackIfNeeded msg)
  | .newEarlyMedia msg => if s.isTerminated then .ok s else s.handleProvisional msg .earlyMedia
  | .newOffer1xx msg offer => if s.isTerminated then .ok s else s.handle1xxOffer msg offer
  | .newAnswer1xx msg answer => if s.isTerminated then .ok s else s.handle1xxAnswer msg answer
  | .newOffer2xx offer =>
    if s.mProposedLocalOfferAnswer.isSome then .error .assertion
    else .ok (if s.isTerminated then s else (s.callback (.onOffer offer)).wait .connected)
  | .newAnswer2xx answer =>
    .ok (if s.isTerminated then s else (s.callback (.onAnswer answer)).wait .connected)
  | .sendPrackIfNeeded msg => .ok (s.sendPrackIfNeeded msg)
  | .earlyMedia => .ok (if s.isTerminated then s else s.callback .onEarlyMedia)
  | .offer1xx offer => .ok ((s.setProposedRemote (some offer)).callback (.onOffer offer))
  | .answer1xx msg answer =>
    .ok (({ s with mAllowOfferInPrack := true }.callback (.onAnswer answer)).wait (.firstPrack msg))
  | .firstPrack msg =>
    let s := { s with mAllowOfferInPrack := false }
    .ok (match s.mProposedLocalOfferAnswer with
      | some offer => s.sendPrack (some offer)
      | none => s.sendPrackIfNeeded msg)
  | .connected => .ok (if s.isTerminated then s else s.callback .onConnected)
  | .failed destroy => .ok (if destroy then (s.callback .onTerminated).destroy else s.callback .onTerminated)
  | .endSession => s.endSession
  | .earlyWithAnswer msg => s.dispatchEarlyWithAnswer msg

/-- The callback on top has returned. A rest of the base class is never below one of this class. -/
def resume (s : ClientInviteSession γ) : Outcome (ClientInviteSession γ) :=
  match s.rests, s.frames with
  | f :: rest, _ => { s with rests := rest }.resumeRest f
  | [], f :: rest => do
    let s := s.onBase fun b => { b with frames := rest }
    s.inherited (s.toInviteSession.resume f)
  | [], [] => .error .assertion

end ClientInviteSession

end Resiprocate.Dum
