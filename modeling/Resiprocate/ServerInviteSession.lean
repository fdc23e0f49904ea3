import Resiprocate.InviteSession
import Resiprocate.ProgramLogic

/-! The callee's session, up to the final response to the INVITE that created it. -/
namespace Resiprocate.Dum
open ProgramLogic
open Transaction (MethodTypes)

/-- The `SipMessage` in which all provisional responses are built. -/
structure Provisional (γ : Type*) where
  statusCode : ℕ
  body : Option γ
  rSeq : Option ℕ
  deriving DecidableEq

/-- The pointer `mUnacknowledgedReliableProvisional` is null or `m1xx`. -/
structure ServerInviteSession (γ : Type*) extends InviteSession γ where
  mFirstRequest : SessionMessage γ
  m1xx : Provisional γ
  mUnacknowledgedReliableProvisional : Bool
  mCurrentRetransmit1xxSeq : ℕ
  mLocalRSeq : ℕ
  mAnswerSentReliably : Bool
  mQueuedResponses : List (ℕ × Bool)
  mPrackWithOffer : Option LaterRequest

namespace ServerInviteSession
variable {γ : Type*}

def create (profile : SessionProfile) (request : SessionMessage γ) : ServerInviteSession γ where
  profile := profile
  creator := none
  mState := .UAS_Start
  mCurrentLocalOfferAnswer := none
  mProposedLocalOfferAnswer := none
  mCurrentRemoteOfferAnswer := none
  mProposedRemoteOfferAnswer := none
  mLastLocalSessionModification := ⟨.unknown, 0, 0, none⟩
  mLastRemoteSessionModification := (.first, 0)
  mLocalCSeq := 0
  mInvite200 := none
  mCurrentRetransmit200 := false
  mStaleReInviteTimerSeq := 0
  mSessionRefreshReInvite := false
  mAcks := []
  peerAllowsUpdate := false
  timers := []
  destroying := false
  frames := []
  trace := []
  mFirstRequest := request
  m1xx := ⟨0, none, none⟩
  mUnacknowledgedReliableProvisional := false
  mCurrentRetransmit1xxSeq := 0
  mLocalRSeq := 0
  mAnswerSentReliably := false
  mQueuedResponses := []
  mPrackWithOffer := none

/-- A step of the base class that succeeds. -/
@[simp] def onBase (s : ServerInviteSession γ) (f : InviteSession γ → InviteSession γ) :
    ServerInviteSession γ :=
  { s with toInviteSession := f s.toInviteSession }

/-- A function of the base class. -/
@[simp] def inherited (s : ServerInviteSession γ) (r : Outcome (InviteSession γ)) :
    Outcome (ServerInviteSession γ) :=
  r.map fun b => { s with toInviteSession := b }

@[simp] def transition (s : ServerInviteSession γ) (target : SessionState) :
    ServerInviteSession γ :=
  s.onBase (·.transition target)

@[simp] def callback (s : ServerInviteSession γ) (c : Callback γ) : ServerInviteSession γ :=
  s.onBase (·.callback c)

@[simp] def respond (s : ServerInviteSession γ) (request : RequestRef) (statusCode : ℕ)
    (body : Option γ) : ServerInviteSession γ :=
  s.onBase (·.respond request statusCode body)

@[simp] def suspend (s : ServerInviteSession γ) (f : Frame γ) : ServerInviteSession γ :=
  s.onBase (·.suspend f)

@[simp] def throwException (s : ServerInviteSession γ) : ServerInviteSession γ :=
  s.onBase (·.throwException)

@[simp] def destroy (s : ServerInviteSession γ) : ServerInviteSession γ := s.onBase (·.destroy)

@[simp] def addTimer (s : ServerInviteSession γ) (type : TimerType) (seq secondarySeq : ℕ) :
    ServerInviteSession γ :=
  s.onBase (·.addTimer type seq secondarySeq)

@[simp] def setProposedLocal (s : ServerInviteSession γ) (offer : Option γ) :
    ServerInviteSession γ :=
  s.onBase (·.setProposedLocal offer)

@[simp] def setProposedRemote (s : ServerInviteSession γ) (offer : Option γ) :
    ServerInviteSession γ :=
  s.onBase (·.setProposedRemote offer)

@[simp] def answerRemote (s : ServerInviteSession γ) (answer : γ) : ServerInviteSession γ :=
  s.onBase (·.answerRemote answer)

/-! ### Responses to the first INVITE -/

@[simp] def startRetransmit1xxTimer (s : ServerInviteSession γ) : ServerInviteSession γ :=
  let start := 0 < s.profile.retransmissionTime1xx ∧ 100 < s.m1xx.statusCode
  { s with
    mCurrentRetransmit1xxSeq :=
      if start then s.mCurrentRetransmit1xxSeq + 1 else s.mCurrentRetransmit1xxSeq
    timers := if start then ⟨.Retransmit1xx, s.mCurrentRetransmit1xxSeq + 1, 0⟩ :: s.timers
      else s.timers }

@[simp] def startResubmit1xxRelTimer (s : ServerInviteSession γ) : ServerInviteSession γ :=
  let start := 0 < s.profile.resubmitTime1xxRel ∧ 100 < s.m1xx.statusCode
  { s with
    mCurrentRetransmit1xxSeq :=
      if start then s.mCurrentRetransmit1xxSeq + 1 else s.mCurrentRetransmit1xxSeq
    timers := if start then ⟨.Resubmit1xxRel, s.mCurrentRetransmit1xxSeq + 1, 0⟩ :: s.timers
      else s.timers }

/-- A provisional that has to be sent reliably whatever it carries. -/
def requiresReliable (s : ServerInviteSession γ) (code : ℕ) : Bool :=
  100 < code && (s.mFirstRequest.requires100rel ||
    s.profile.uasReliableProvisionalMode = .Required ||
    (s.mFirstRequest.supports100rel && s.profile.uasReliableProvisionalMode = .Supported))

/-- The body of a provisional, and whether it is sent reliably. -/
def provisionalContents (s : ServerInviteSession γ) (code : ℕ) (earlyFlag : Bool) :
    Option γ × Bool :=
  let sendReliably := requiresReliable s code
  match s.mState with
  | .UAS_OfferProvidedAnswer | .UAS_EarlyProvidedAnswer =>
    (if 100 < code ∧ earlyFlag then s.mCurrentLocalOfferAnswer else none, sendReliably)
  | .UAS_FirstSentAnswerReliable | .UAS_OfferReliableProvidedAnswer =>
    let answer := if 100 < code ∧ earlyFlag ∧ ¬s.mAnswerSentReliably
      then s.mCurrentLocalOfferAnswer else none
    (answer, sendReliably || answer.isSome)
  | .UAS_ProvidedOfferReliable =>
    -- the first reliable response has to have the offer
    let offer := if 100 < code ∧ (earlyFlag ∨ sendReliably)
      then s.mProposedLocalOfferAnswer else none
    (offer, sendReliably || offer.isSome)
  | .UAS_ProvidedOffer | .UAS_EarlyProvidedOffer =>
    (if 100 < code ∧ earlyFlag then s.mProposedLocalOfferAnswer else none, sendReliably)
  | _ => (none, sendReliably)

/-- The states in which a reliable provisional carries the answer. -/
def answersReliably : SessionState → Bool
  | .UAS_FirstSentAnswerReliable | .UAS_OfferReliableProvidedAnswer => true
  | _ => false

/-- Send `m1xx` as it is. -/
@[simp] def send1xx (s : ServerInviteSession γ) : ServerInviteSession γ :=
  s.onBase (·.emit (.response ⟨.first, s.m1xx.statusCode, s.m1xx.body, s.m1xx.rSeq⟩))

@[simp] def sendReliable (s : ServerInviteSession γ) (code : ℕ) (body : Option γ) :
    ServerInviteSession γ :=
  ({ s with
    m1xx := ⟨code, body, some (s.mLocalRSeq + 1)⟩
    mLocalRSeq := s.mLocalRSeq + 1
    mAnswerSentReliably := s.mAnswerSentReliably || (answersReliably s.mState && body.isSome)
    mUnacknowledgedReliableProvisional := true }.addTimer .Retransmit1xxRel
      (s.mLocalRSeq + 1) 1).startResubmit1xxRelTimer.send1xx

@[simp] def sendUnreliable (s : ServerInviteSession γ) (code : ℕ) (body : Option γ) :
    ServerInviteSession γ :=
  { s with m1xx := ⟨code, body, none⟩ }.startRetransmit1xxTimer.send1xx

def sendProvisional (s : ServerInviteSession γ) (code : ℕ) (earlyFlag : Bool) :
    Outcome (ServerInviteSession γ) :=
  match provisionalContents s code earlyFlag with
  | (body, true) =>
    if s.mState = .UAS_NoOfferReliable then .error .assertion
    else if s.mUnacknowledgedReliableProvisional then .error .unacknowledgedProvisional
    else .ok (s.sendReliable code body)
  | (body, false) => .ok (s.sendUnreliable code body)

lemma sendProvisional_spec (s : ServerInviteSession γ) (code : ℕ) (earlyFlag : Bool) :
    Yields (s.sendProvisional code earlyFlag) fun s' =>
      (∃ body, s.provisionalContents code earlyFlag = (body, true) ∧
        s.mState ≠ .UAS_NoOfferReliable ∧ s.mUnacknowledgedReliableProvisional = false ∧
        s' = s.sendReliable code body) ∨
      ∃ body, s.provisionalContents code earlyFlag = (body, false) ∧
        s' = s.sendUnreliable code body := by
  unfold sendProvisional
  split
  case h_1 body hc =>
    split_ifs with hs hu
    · exact Yields.of_error _
    · exact Yields.of_error _
    · exact Yields.ok_iff.mpr (.inl ⟨body, hc, hs, by simpa using hu, rfl⟩)
  case h_2 body hc => exact Yields.ok_iff.mpr (.inr ⟨body, hc, rfl⟩)

@[simp] def queueResponse (s : ServerInviteSession γ) (code : ℕ) (earlyFlag : Bool) :
    ServerInviteSession γ :=
  { s with mQueuedResponses := s.mQueuedResponses ++ [(code, earlyFlag)] }

/-- The 2xx, with this answer or offer if none went out reliably. -/
@[simp] def sendAccept (s : ServerInviteSession γ) (code : ℕ) (offerAnswer : Option γ) :
    ServerInviteSession γ :=
  let body := if s.mAnswerSentReliably then none else offerAnswer
  { s with
    mAnswerSentReliably := s.mAnswerSentReliably || body.isSome
    mCurrentRetransmit1xxSeq := s.mCurrentRetransmit1xxSeq + 1 }.onBase
      (·.startRetransmit200Timer.sendInvite200 .first code body)

/-- The 2xx, in the state that waits for its ACK, and the callback for it. -/
@[simp] def connect (s : ServerInviteSession γ) (code : ℕ) (offerAnswer : Option γ) :
    ServerInviteSession γ :=
  ((s.transition .UAS_Accepted).sendAccept code offerAnswer).callback .onConnected

def sendUpdate (s : ServerInviteSession γ) (offer : γ) : ServerInviteSession γ :=
  if s.updateMethodSupported then s.onBase (·.sendModification .update (some offer))
  else s.throwException

/-- A final response that ends the session. -/
@[simp] def refuse (s : ServerInviteSession γ) (code : ℕ) : ServerInviteSession γ :=
  (((s.respond .first code none).transition .Terminated).callback .onTerminated).destroy

/-- One response of the queue, after a PRACK. -/
def prackCheckQueue (s : ServerInviteSession γ) : Outcome (ServerInviteSession γ) :=
  match s.mQueuedResponses with
  | (code, earlyFlag) :: rest =>
    if code < 200 then do
      let s ← s.sendProvisional code earlyFlag
      return { s with mQueuedResponses := rest }
    else if code < 300 then
      .ok ((s.connect code (if s.mAnswerSentReliably then none
        else s.mCurrentLocalOfferAnswer)).suspend .clearQueue)
    else .ok s
  | [] => .ok s

/-- A 2xx at the head of the queue, after an UPDATE. -/
def updateCheckQueue (s : ServerInviteSession γ) : ServerInviteSession γ :=
  match s.mQueuedResponses with
  | (code, _) :: _ =>
    if 200 ≤ code ∧ code < 300 then (s.connect code none).suspend .popQueue else s
  | [] => s

/-! ### Calls of the application -/

def redirect (s : ServerInviteSession γ) (code : ℕ) : Outcome (ServerInviteSession γ) :=
  match s.mState with
  | .UAS_EarlyNoOffer | .UAS_EarlyOffer | .UAS_EarlyProvidedAnswer | .UAS_EarlyProvidedOffer
  | .UAS_NegotiatedReliable | .UAS_FirstSentAnswerReliable | .UAS_FirstSentOfferReliable
  | .UAS_NoOffer | .UAS_NoOfferReliable | .UAS_ProvidedOfferReliable
  | .UAS_OfferReliableProvidedAnswer | .UAS_NoAnswerReliableWaitingPrack | .UAS_NoAnswerReliable
  | .UAS_Offer | .UAS_OfferProvidedAnswer | .UAS_OfferReliable | .UAS_ProvidedOffer
  | .UAS_ReceivedUpdate | .UAS_SentUpdate => .ok (s.refuse code)
  | _ => .error .assertion

/-- Sent at once, unless the PRACK of a reliable one is still to come. -/
def provisionalOrQueue (s : ServerInviteSession γ) (code : ℕ) (earlyFlag : Bool) :
    Outcome (ServerInviteSession γ) :=
  if s.mUnacknowledgedReliableProvisional then .ok (s.queueResponse code earlyFlag)
  else s.sendProvisional code earlyFlag

/-- Sent at once, with this state afterwards if it went out reliably. -/
def provisionalThen (s : ServerInviteSession γ) (code : ℕ) (earlyFlag : Bool)
    (target : SessionState) : Outcome (ServerInviteSession γ) := do
  let s' ← s.sendProvisional code earlyFlag
  return if (s.provisionalContents code earlyFlag).2 then s'.transition target else s'

def provisional (s : ServerInviteSession γ) (code : ℕ) (earlyFlag : Bool) :
    Outcome (ServerInviteSession γ) :=
  match s.mState with
  | .UAS_Offer | .UAS_EarlyOffer => (s.transition .UAS_EarlyOffer).sendProvisional code earlyFlag
  | .UAS_OfferProvidedAnswer | .UAS_EarlyProvidedAnswer =>
    (s.transition .UAS_EarlyProvidedAnswer).sendProvisional code earlyFlag
  | .UAS_ProvidedOffer | .UAS_EarlyProvidedOffer =>
    (s.transition .UAS_EarlyProvidedOffer).sendProvisional code earlyFlag
  | .UAS_NoOffer | .UAS_EarlyNoOffer =>
    (s.transition .UAS_EarlyNoOffer).sendProvisional code earlyFlag
  | .UAS_NoOfferReliable | .UAS_NegotiatedReliable | .UAS_FirstSentAnswerReliable
  | .UAS_NoAnswerReliableWaitingPrack | .UAS_FirstSentOfferReliable =>
    s.provisionalOrQueue code earlyFlag
  | .UAS_NoAnswerReliable | .UAS_OfferReliable =>
    s.provisionalThen code earlyFlag .UAS_NoAnswerReliableWaitingPrack
  | .UAS_ProvidedOfferReliable => s.provisionalThen code earlyFlag .UAS_FirstSentOfferReliable
  | .UAS_OfferReliableProvidedAnswer =>
    if s.mUnacknowledgedReliableProvisional ∨ ¬earlyFlag then s.provisionalOrQueue code earlyFlag
    else s.provisionalThen code earlyFlag .UAS_FirstSentAnswerReliable
  | _ => .error .assertion

def provideOffer (s : ServerInviteSession γ) (offer : γ) (sendOfferAtAccept : Bool) :
    Outcome (ServerInviteSession γ) :=
  match s.mState with
  | .UAS_NoOffer => .ok ((s.transition .UAS_ProvidedOffer).setProposedLocal (some offer))
  | .UAS_EarlyNoOffer => .ok ((s.transition .UAS_EarlyProvidedOffer).setProposedLocal (some offer))
  | .UAS_NoOfferReliable =>
    .ok ((s.transition .UAS_ProvidedOfferReliable).setProposedLocal (some offer))
  | .UAS_NegotiatedReliable =>
    let s := s.setProposedLocal (some offer)
    .ok (if sendOfferAtAccept then s.transition .UAS_ProvidedOffer
      else (s.transition .UAS_SentUpdate).sendUpdate offer)
  | .UAS_Accepted => .ok ((s.transition .UAS_WaitingToOffer).setProposedLocal (some offer))
  -- the offer goes out after the PRACK
  | .UAS_FirstSentAnswerReliable => .ok (s.setProposedLocal (some offer))
  | .UAS_EarlyProvidedAnswer | .UAS_EarlyProvidedOffer | .UAS_FirstSentOfferReliable | .UAS_Offer
  | .UAS_EarlyOffer | .UAS_OfferReliable | .UAS_OfferProvidedAnswer | .UAS_ProvidedOffer
  | .UAS_ProvidedOfferReliable | .UAS_ReceivedUpdate | .UAS_ReceivedUpdateWaitingAnswer
  | .UAS_SentUpdate | .UAS_SentUpdateAccepted | .UAS_Start | .UAS_WaitingToHangup
  | .UAS_WaitingToRequestOffer | .UAS_AcceptedWaitingAnswer => .ok s.throwException
  | _ => s.inherited (s.toInviteSession.provideOffer offer)

/-- `provideProposedOffer` of the base class, which calls this class back. -/
def provideProposedOffer (s : ServerInviteSession γ) : Outcome (ServerInviteSession γ) := do
  s.provideOffer (← dereference s.mProposedLocalOfferAnswer) false

def requestOffer (s : ServerInviteSession γ) : Outcome (ServerInviteSession γ) :=
  match s.mState with
  | .UAS_Accepted => .ok (s.transition .UAS_WaitingToRequestOffer)
  | _ => s.inherited s.toInviteSession.requestOffer

def provideAnswer (s : ServerInviteSession γ) (answer : γ) : Outcome (ServerInviteSession γ) :=
  let s := { s with mAnswerSentReliably := false }
  match s.mState with
  | .UAS_Offer => .ok ((s.transition .UAS_OfferProvidedAnswer).answerRemote answer)
  | .UAS_EarlyOffer => .ok ((s.transition .UAS_EarlyProvidedAnswer).answerRemote answer)
  | .UAS_OfferReliable | .UAS_NoAnswerReliable =>
    .ok ((s.answerRemote answer).transition .UAS_OfferReliableProvidedAnswer)
  | .UAS_NoAnswerReliableWaitingPrack => .ok (s.answerRemote answer)
  | .UAS_ReceivedUpdate =>
    .ok (((s.transition .UAS_NegotiatedReliable).answerRemote answer).respond
      s.mLastRemoteSessionModification.1 200 (some answer))
  | .UAS_ReceivedUpdateWaitingAnswer =>
    .ok ((s.answerRemote answer).respond s.mLastRemoteSessionModification.1 200
      (some answer)).updateCheckQueue
  | .UAS_NegotiatedReliable =>
    -- the offer came in a PRACK
    match s.mPrackWithOffer with
    | some prack => .ok { (s.answerRemote answer).respond (.later prack) 200 (some answer) with
        mAnswerSentReliably := true
        mPrackWithOffer := none }
    | none => .error .assertion
  | .UAS_Accepted | .UAS_WaitingToOffer | .UAS_WaitingToRequestOffer | .UAS_EarlyNoOffer
  | .UAS_EarlyProvidedAnswer | .UAS_EarlyProvidedOffer | .UAS_FirstSentAnswerReliable
  | .UAS_FirstSentOfferReliable | .UAS_NoOffer | .UAS_NoOfferReliable | .UAS_OfferProvidedAnswer
  | .UAS_ProvidedOffer | .UAS_ProvidedOfferReliable | .UAS_SentUpdate | .UAS_SentUpdateAccepted
  | .UAS_Start | .UAS_WaitingToHangup | .UAS_AcceptedWaitingAnswer => .ok s.throwException
  | _ => s.inherited (s.toInviteSession.provideAnswer answer)

def reject (s : ServerInviteSession γ) (code : ℕ) : Outcome (ServerInviteSession γ) :=
  match s.mState with
  | .UAS_EarlyNoOffer | .UAS_EarlyOffer | .UAS_EarlyProvidedAnswer | .UAS_EarlyProvidedOffer
  | .UAS_NoOffer | .UAS_Offer | .UAS_OfferProvidedAnswer | .UAS_ProvidedOffer
  | .UAS_ProvidedOfferReliable | .UAS_AcceptedWaitingAnswer | .UAS_NegotiatedReliable
  | .UAS_FirstSentAnswerReliable | .UAS_NoAnswerReliableWaitingPrack | .UAS_NoAnswerReliable
  | .UAS_FirstSentOfferReliable | .UAS_NoOfferReliable | .UAS_OfferReliable
  | .UAS_OfferReliableProvidedAnswer | .UAS_ReceivedUpdate | .UAS_ReceivedUpdateWaitingAnswer
  | .UAS_SentUpdate | .UAS_SentUpdateGlare | .UAS_SentUpdateAccepted => .ok (s.refuse code)
  | .UAS_Accepted | .UAS_WaitingToOffer | .UAS_WaitingToRequestOffer | .UAS_Start
  | .UAS_WaitingToHangup => .error .assertion
  | _ => s.inherited (s.toInviteSession.reject code)

/-- `end` without a reason. -/
def endSession (s : ServerInviteSession γ) : Outcome (ServerInviteSession γ) :=
  match s.mState with
  | .UAS_EarlyNoOffer | .UAS_EarlyOffer | .UAS_EarlyProvidedAnswer | .UAS_EarlyProvidedOffer
  | .UAS_NoOffer | .UAS_Offer | .UAS_OfferProvidedAnswer | .UAS_ProvidedOffer
  | .UAS_ProvidedOfferReliable | .UAS_OfferReliable | .UAS_OfferReliableProvidedAnswer
  | .UAS_NegotiatedReliable | .UAS_FirstSentOfferReliable | .UAS_FirstSentAnswerReliable
  | .UAS_NoAnswerReliableWaitingPrack | .UAS_NoAnswerReliable | .UAS_NoOfferReliable
  | .UAS_ReceivedUpdate | .UAS_ReceivedUpdateWaitingAnswer | .UAS_SentUpdate
  | .UAS_SentUpdateGlare | .UAS_SentUpdateAccepted => s.reject 480
  | .UAS_Start => .error .assertion
  | .UAS_Accepted | .UAS_WaitingToOffer | .UAS_WaitingToRequestOffer
  | .UAS_AcceptedWaitingAnswer =>
    -- while the 200 is retransmitted its ACK may still come
    .ok (if s.mCurrentRetransmit200 then s.transition .UAS_WaitingToHangup
      else s.onBase (·.hangUp))
  | .UAS_WaitingToHangup => .ok s
  | _ => s.inherited s.toInviteSession.endSession

def accept (s : ServerInviteSession γ) (code : ℕ) : Outcome (ServerInviteSession γ) :=
  match s.mState with
  | .UAS_OfferProvidedAnswer | .UAS_EarlyProvidedAnswer | .UAS_OfferReliableProvidedAnswer =>
    .ok (s.connect code s.mCurrentLocalOfferAnswer)
  | .UAS_ProvidedOffer | .UAS_ProvidedOfferReliable | .UAS_EarlyProvidedOffer =>
    .ok ((s.transition .UAS_AcceptedWaitingAnswer).sendAccept code s.mProposedLocalOfferAnswer)
  | .UAS_FirstSentAnswerReliable | .UAS_NoAnswerReliableWaitingPrack =>
    .ok (s.queueResponse code false)
  | .UAS_NegotiatedReliable =>
    .ok (if s.mUnacknowledgedReliableProvisional then s.queueResponse code false
      else s.connect code none)
  | .UAS_SentUpdate => .ok ((s.transition .UAS_SentUpdateAccepted).queueResponse code false)
  | .UAS_ReceivedUpdate =>
    .ok ((s.transition .UAS_ReceivedUpdateWaitingAnswer).queueResponse code false)
  | _ => .error .assertion

def targetRefresh (s : ServerInviteSession γ) : Outcome (ServerInviteSession γ) :=
  s.inherited s.toInviteSession.targetRefresh

/-! ### Messages of the peer -/

def dispatchCancel (s : ServerInviteSession γ) (msg : SessionMessage γ) : ServerInviteSession γ :=
  (s.respond msg.ref 200 none).refuse 487

def dispatchBye (s : ServerInviteSession γ) (msg : SessionMessage γ) : ServerInviteSession γ :=
  (s.respond msg.ref 200 none).refuse 487

/-- A request that its state has no case for. -/
def dispatchUnknown (s : ServerInviteSession γ) (msg : SessionMessage γ) : ServerInviteSession γ :=
  (s.respond msg.ref 500 none).refuse 400

/-- The last case of most states: other responses are ignored. -/
def dispatchUnknownRequest (s : ServerInviteSession γ) (msg : SessionMessage γ) :
    ServerInviteSession γ :=
  if msg.isRequest then s.dispatchUnknown msg else s

/-- The BYE of the peer, once the 2xx went out. -/
def dispatchByeAccepted (s : ServerInviteSession γ) (msg : SessionMessage γ) :
    ServerInviteSession γ :=
  (((s.respond msg.ref 200 none).transition .Terminated).callback .onTerminated).destroy

def dispatchStart (s : ServerInviteSession γ) (msg : SessionMessage γ) :
    Outcome (ServerInviteSession γ) :=
  let s := s.onBase (·.storePeerCapabilities msg)
  let start (target : SessionState) : ServerInviteSession γ :=
    (({ s with mLastRemoteSessionModification := (.first, msg.sequence) }.transition
      target).callback .onNewSession).suspend (.newSession msg.body)
  match s.toEvent msg with
  | .OnInviteOffer => .ok ((start .UAS_Offer).setProposedRemote msg.body)
  | .OnInvite => .ok (start .UAS_NoOffer)
  | .OnInviteReliableOffer => .ok ((start .UAS_OfferReliable).setProposedRemote msg.body)
  | .OnInviteReliable => .ok (start .UAS_NoOfferReliable)
  | _ => .error .assertion

def dispatchOfferOrEarly (s : ServerInviteSession γ) (msg : SessionMessage γ) :
    ServerInviteSession γ :=
  match s.toEvent msg with
  | .OnCancel => s.dispatchCancel msg
  | .OnBye => s.dispatchBye msg
  | .OnUpdate => s.respond msg.ref 200 none
  | _ => s.dispatchUnknownRequest msg

/-- The messages that the states after the 2xx treat alike. -/
def dispatchAfter2xx (s : ServerInviteSession γ) (msg : SessionMessage γ) : ServerInviteSession γ :=
  match s.toEvent msg with
  | .OnInvite | .OnInviteReliable | .OnInviteOffer | .OnInviteReliableOffer | .OnUpdate
  | .OnUpdateOffer => s.respond msg.ref 491 none
  | .OnCancel => s.respond msg.ref 200 none
  | _ => s.dispatchUnknownRequest msg

def dispatchAccepted (s : ServerInviteSession γ) (msg : SessionMessage γ) : ServerInviteSession γ :=
  match s.toEvent msg with
  | .OnAck | .OnAckAnswer =>
    ((s.onBase (·.stop200)).transition .Connected).callback .onConnectedConfirmed
  | .OnBye => s.dispatchByeAccepted msg
  | .OnPrack => s.respond msg.ref 481 none
  | _ => s.dispatchAfter2xx msg

def dispatchWaitingToOffer (s : ServerInviteSession γ) (msg : SessionMessage γ) :
    Outcome (ServerInviteSession γ) :=
  match s.toEvent msg with
  | .OnAck =>
    if s.mProposedLocalOfferAnswer.isSome then (s.onBase (·.stop200)).provideProposedOffer
    else .error .assertion
  | .OnAckAnswer => .ok (s.onBase (·.stop200.hangUp))
  | .OnBye => .ok (s.dispatchByeAccepted msg)
  | _ => .ok (s.dispatchAfter2xx msg)

def dispatchWaitingToRequestOffer (s : ServerInviteSession γ) (msg : SessionMessage γ) :
    Outcome (ServerInviteSession γ) :=
  match s.toEvent msg with
  | .OnAck => (s.onBase (·.stop200)).requestOffer
  | .OnAckAnswer => .ok (s.onBase (·.stop200.hangUp))
  | .OnBye => .ok (s.dispatchByeAccepted msg)
  | _ => .ok (s.dispatchAfter2xx msg)

/-- The answer to an offer of ours. -/
def receiveAnswer (s : ServerInviteSession γ) (answer : γ) : Outcome (ServerInviteSession γ) := do
  let s ← s.inherited s.toInviteSession.setCurrentLocalOfferAnswer
  return s.onBase (·.setCurrentRemote (some answer))

lemma receiveAnswer_spec (s : ServerInviteSession γ) (answer : γ) :
    Yields (s.receiveAnswer answer) fun s' => ∃ offer, s.mProposedLocalOfferAnswer = some offer ∧
      s' = { s with
        mCurrentLocalOfferAnswer := some offer
        mProposedLocalOfferAnswer := none
        mCurrentRemoteOfferAnswer := some answer } := by
  simp only [receiveAnswer, InviteSession.setCurrentLocalOfferAnswer]
  split
  · exact Yields.of_error _
  · simp_all [InviteSession.setCurrentRemote]

def dispatchAcceptedWaitingAnswer (s : ServerInviteSession γ) (msg : SessionMessage γ) :
    Outcome (ServerInviteSession γ) :=
  match s.toEvent msg with
  | .OnAckAnswer => do
    let answer ← dereference msg.body
    let s ← ((s.onBase (·.stop200)).transition .Connected).receiveAnswer answer
    return (s.callback (.onAnswer answer)).suspend .connectAfterAnswer
  | .OnAck => .ok (s.onBase (·.stop200.hangUp))
  | .OnPrack => .ok (s.respond msg.ref 481 none)
  | _ => .ok (s.dispatchAfter2xx msg)

/-- The PRACK is for the provisional that is not acknowledged yet. -/
def matchesPrack (s : ServerInviteSession γ) (msg : SessionMessage γ) : Bool :=
  s.mUnacknowledgedReliableProvisional && s.m1xx.rSeq.getD 0 = msg.rAck.rSequence &&
    s.mFirstRequest.sequence = msg.rAck.cSequence && msg.rAck.method = .invite

/-- `handlePrack`, and what is done with a PRACK that matches. -/
def handlePrack (s : ServerInviteSession γ) (msg : SessionMessage γ)
    (k : ServerInviteSession γ → Outcome (ServerInviteSession γ)) :
    Outcome (ServerInviteSession γ) :=
  if s.matchesPrack msg then k { s with mUnacknowledgedReliableProvisional := false }
  else .ok (s.respond msg.ref 481 none)

/-- A PRACK that breaks off the negotiation. -/
def illegalPrack (s : ServerInviteSession γ) (msg : SessionMessage γ) : ServerInviteSession γ :=
  ((s.transition .Terminated).callback .onTerminated).suspend (.notAcceptable msg.request)

def dispatchFirstSentOfferReliable (s : ServerInviteSession γ) (msg : SessionMessage γ) :
    Outcome (ServerInviteSession γ) :=
  match s.toEvent msg with
  | .OnPrack => s.handlePrack msg fun s =>
    match msg.body with
    | some answer => do
      let s ← ((s.transition .UAS_NegotiatedReliable).respond msg.ref 200 none).receiveAnswer answer
      return (s.callback .onPrack).suspend (.answerAfterPrack answer)
    | none => .ok (s.illegalPrack msg)
  | _ => .ok (s.dispatchOfferOrEarly msg)

/-- The response to a PRACK without a body, the callback for it, and what comes then. -/
def acknowledgePrack (s : ServerInviteSession γ) (msg : SessionMessage γ) (target : SessionState)
    (f : Frame γ) : ServerInviteSession γ :=
  (((s.respond msg.ref 200 none).transition target).callback .onPrack).suspend f

/-- An early answer is next in the queue. -/
def earlyAnswerQueued (s : ServerInviteSession γ) : Bool :=
  match s.mQueuedResponses with
  | (code, earlyFlag) :: _ => code < 200 && earlyFlag
  | [] => false

def dispatchOfferReliableProvidedAnswer (s : ServerInviteSession γ) (msg : SessionMessage γ) :
    Outcome (ServerInviteSession γ) :=
  match s.toEvent msg with
  | .OnPrack => s.handlePrack msg fun s =>
    .ok (if msg.body.isSome then s.illegalPrack msg
      else s.acknowledgePrack msg (if s.earlyAnswerQueued then .UAS_FirstSentAnswerReliable
        else s.mState) .prackCheckQueue)
  | _ => .ok (s.dispatchOfferOrEarly msg)

/-- The offer of a PRACK is handed to the application, which answers it in the 200. -/
def offerInPrack (s : ServerInviteSession γ) (prack : LaterRequest) (offer : γ) :
    ServerInviteSession γ :=
  ((({ s with mPrackWithOffer := some prack }).setProposedRemote (some offer)).callback
    .onPrack).suspend (.offerAfterPrack offer)

def dispatchFirstSentAnswerReliable (s : ServerInviteSession γ) (msg : SessionMessage γ) :
    Outcome (ServerInviteSession γ) :=
  match s.toEvent msg with
  | .OnPrack => s.handlePrack msg fun s =>
    .ok (match msg.body, s.mProposedLocalOfferAnswer with
    | some offer, some _ => (s.callback .onOfferRejected).suspend (.offerInPrack msg.request offer)
    | some offer, none => (s.transition .UAS_NegotiatedReliable).offerInPrack msg.request offer
    | none, some _ => s.acknowledgePrack msg .UAS_SentUpdate .sendUpdate
    | none, none => s.acknowledgePrack msg .UAS_NegotiatedReliable .prackCheckQueue)
  | _ => .ok (s.dispatchOfferOrEarly msg)

def dispatchNoAnswerReliableWaitingPrack (s : ServerInviteSession γ) (msg : SessionMessage γ) :
    Outcome (ServerInviteSession γ) :=
  match s.toEvent msg with
  | .OnPrack => s.handlePrack msg fun s =>
    .ok (if msg.body.isSome then s.illegalPrack msg
      else s.acknowledgePrack msg .UAS_NoAnswerReliable .prackCheckQueue)
  | _ => .ok (s.dispatchOfferOrEarly msg)

def dispatchSentUpdate (s : ServerInviteSession γ) (msg : SessionMessage γ) :
    Outcome (ServerInviteSession γ) :=
  match s.toEvent msg with
  | .OnCancel => .ok (s.dispatchCancel msg)
  | .OnBye => .ok (s.dispatchBye msg)
  | .OnUpdate | .OnUpdateOffer => .ok (s.respond msg.ref 491 none)
  | .On200Update =>
    let s := s.transition .UAS_NegotiatedReliable
    match msg.body with
    | some answer => do
      let s ← s.receiveAnswer answer
      return (s.callback (.onAnswer answer)).suspend .prackCheckQueue
    | none => s.prackCheckQueue
  | .OnUpdateRejected | .OnGeneralFailure =>
    .ok ((((s.transition .UAS_NegotiatedReliable).setProposedLocal none).callback
      .onOfferRejected).suspend .prackCheckQueue)
  | .On491Update => .ok ((s.transition .UAS_SentUpdateGlare).onBase (·.start491Timer))
  | _ => .ok (s.dispatchUnknownRequest msg)

def dispatchSentUpdateGlare (s : ServerInviteSession γ) (msg : SessionMessage γ) :
    ServerInviteSession γ :=
  match s.toEvent msg with
  | .OnCancel => s.dispatchCancel msg
  | .OnBye => s.dispatchBye msg
  | .OnUpdate | .OnUpdateOffer => (s.callback .onOfferRejected).suspend (.negotiatedReliable msg)
  | _ => s.dispatchUnknownRequest msg

def dispatchSentUpdateAccepted (s : ServerInviteSession γ) (msg : SessionMessage γ) :
    Outcome (ServerInviteSession γ) :=
  match s.toEvent msg with
  | .OnCancel => .ok (s.dispatchCancel msg)
  | .OnBye => .ok (s.dispatchBye msg)
  | .OnUpdate => .ok (s.respond msg.ref 200 none)
  | .On200Update =>
    let s := s.transition .UAS_Accepted
    match msg.body with
    | some answer => do
      let s ← s.receiveAnswer answer
      return (s.callback (.onAnswer answer)).suspend .updateCheckQueue
    | none => .ok s.updateCheckQueue
  | .OnUpdateRejected | .OnGeneralFailure | .On491Update =>
    .ok ((((s.transition .UAS_Accepted).setProposedLocal none).callback
      .onOfferRejected).suspend .updateCheckQueue)
  | _ => .ok (s.dispatchUnknownRequest msg)

/-- A second UPDATE before the response to the first. -/
def dispatchReceivedUpdate (s : ServerInviteSession γ) (msg : SessionMessage γ) :
    ServerInviteSession γ :=
  match s.toEvent msg with
  | .OnCancel => s.dispatchCancel msg
  | .OnBye => s.dispatchBye msg
  | .OnUpdate | .OnUpdateOffer => s.respond msg.ref 500 none
  | _ => s.dispatchUnknownRequest msg

def dispatchReceivedUpdateWaitingAnswer (s : ServerInviteSession γ) (msg : SessionMessage γ) :
    ServerInviteSession γ :=
  s.dispatchReceivedUpdate msg

def dispatchNegotiatedReliable (s : ServerInviteSession γ) (msg : SessionMessage γ) :
    Outcome (ServerInviteSession γ) :=
  match s.toEvent msg with
  | .OnPrack => s.handlePrack msg fun s =>
    .ok (match msg.body with
    | some offer => s.offerInPrack msg.request offer
    | none => s.acknowledgePrack msg s.mState .prackCheckQueue)
  | .OnUpdateOffer => s.inherited (s.toInviteSession.receiveOffer msg .UAS_ReceivedUpdate)
  | _ => .ok (s.dispatchOfferOrEarly msg)

def dispatchWaitingToHangup (s : ServerInviteSession γ) (msg : SessionMessage γ) :
    ServerInviteSession γ :=
  s.onBase (·.dispatchWaitingToHangup msg)

def dispatch [DecidableEq γ] (s : ServerInviteSession γ) (msg : SessionMessage γ) :
    Outcome (ServerInviteSession γ) :=
  if msg.isRequest ∧ (msg.method = .info ∨ msg.method = .message) then .ok s
  else match s.mState with
  | .UAS_Start => s.dispatchStart msg
  | .UAS_Offer | .UAS_EarlyOffer | .UAS_EarlyProvidedAnswer | .UAS_NoOffer | .UAS_ProvidedOffer
  | .UAS_ProvidedOfferReliable | .UAS_EarlyNoOffer | .UAS_EarlyProvidedOffer
  | .UAS_OfferProvidedAnswer | .UAS_NoOfferReliable | .UAS_OfferReliable
  | .UAS_NoAnswerReliable => .ok (s.dispatchOfferOrEarly msg)
  | .UAS_OfferReliableProvidedAnswer => s.dispatchOfferReliableProvidedAnswer msg
  | .UAS_Accepted => .ok (s.dispatchAccepted msg)
  | .UAS_WaitingToOffer => s.dispatchWaitingToOffer msg
  | .UAS_WaitingToRequestOffer => s.dispatchWaitingToRequestOffer msg
  | .UAS_AcceptedWaitingAnswer => s.dispatchAcceptedWaitingAnswer msg
  | .UAS_FirstSentAnswerReliable => s.dispatchFirstSentAnswerReliable msg
  | .UAS_NoAnswerReliableWaitingPrack => s.dispatchNoAnswerReliableWaitingPrack msg
  | .UAS_FirstSentOfferReliable => s.dispatchFirstSentOfferReliable msg
  | .UAS_ReceivedUpdate => .ok (s.dispatchReceivedUpdate msg)
  | .UAS_ReceivedUpdateWaitingAnswer => .ok (s.dispatchReceivedUpdateWaitingAnswer msg)
  | .UAS_SentUpdate => s.dispatchSentUpdate msg
  | .UAS_SentUpdateGlare => .ok (s.dispatchSentUpdateGlare msg)
  | .UAS_WaitingToHangup => .ok (s.dispatchWaitingToHangup msg)
  | .UAS_SentUpdateAccepted => s.dispatchSentUpdateAccepted msg
  | .UAS_NegotiatedReliable => s.dispatchNegotiatedReliable msg
  | _ => s.inherited (s.toInviteSession.dispatch msg)

/-! ### Timers, and the rests of handlers -/

def dispatchTimer (s : ServerInviteSession γ) (timeout : SessionTimer) :
    Outcome (ServerInviteSession γ) :=
  match timeout.type with
  | .Retransmit1xx =>
    .ok (if timeout.seq = s.mCurrentRetransmit1xxSeq then s.send1xx.startRetransmit1xxTimer else s)
  | .Resubmit1xxRel =>
    match s.m1xx.rSeq with
    | some rSeq =>
      -- a new provisional, not a retransmission
      .ok (if timeout.seq = s.mCurrentRetransmit1xxSeq then
        { s with
          m1xx := ⟨s.m1xx.statusCode, none, some (rSeq + 1)⟩
          mUnacknowledgedReliableProvisional := true }.send1xx.startResubmit1xxRelTimer
        else s)
    | none => .ok s
  | .Retransmit1xxRel =>
    .ok (if s.mUnacknowledgedReliableProvisional ∧ s.m1xx.rSeq.getD 0 = timeout.seq then
      if 64 ≤ 2 * timeout.secondarySeq then s.refuse 504
      else s.send1xx.addTimer .Retransmit1xxRel timeout.seq (2 * timeout.secondarySeq)
      else s)
  | .Glare =>
    if s.mState = .UAS_SentUpdateGlare then
      .ok ((s.transition .UAS_SentUpdate).onBase fun b =>
        b.sendModification .update b.mLastLocalSessionModification.body)
    else s.inherited (s.toInviteSession.dispatchTimer timeout)
  | _ => s.inherited (s.toInviteSession.dispatchTimer timeout)

/-- What a handler does after a callback. -/
def resumeFrame (s : ServerInviteSession γ) (f : Frame γ) : Outcome (ServerInviteSession γ) :=
  match f with
  | .newSession offer => .ok (if s.isTerminated then s else
      match offer with
      | some offer => s.callback (.onOffer offer)
      | none => s.callback .onOfferRequired)
  | .connectAfterAnswer => .ok (if s.isTerminated then s else s.callback .onConnected)
  | .answerAfterPrack answer => .ok (s.callback (.onAnswer answer))
  | .offerAfterPrack offer => .ok (if s.isTerminated then s else s.callback (.onOffer offer))
  | .notAcceptable prack => .ok ((s.respond (.later prack) 406 none).respond .first 406 none).destroy
  | .offerInPrack prack offer =>
    .ok ((s.transition .UAS_NegotiatedReliable).offerInPrack prack offer)
  | .sendUpdate => do return s.sendUpdate (← dereference s.mProposedLocalOfferAnswer)
  | .prackCheckQueue => s.prackCheckQueue
  | .clearQueue => .ok { s with mQueuedResponses := [] }
  | .updateCheckQueue => .ok s.updateCheckQueue
  | .popQueue => .ok { s with mQueuedResponses := s.mQueuedResponses.tail }
  | .negotiatedReliable msg => s.dispatchNegotiatedReliable msg
  | .provideProposedOffer => if s.isTerminated then .ok s else s.provideProposedOffer
  | .requestOffer => if s.isTerminated then .ok s else s.requestOffer
  | f => s.inherited (s.toInviteSession.resume f)

/-- The callback on top has returned. -/
def resume (s : ServerInviteSession γ) : Outcome (ServerInviteSession γ) :=
  match s.frames with
  | f :: rest => { s with frames := rest }.resumeFrame f
  | [] => .error .assertion

end ServerInviteSession

end Resiprocate.Dum
