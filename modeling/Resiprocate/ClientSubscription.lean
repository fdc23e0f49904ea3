import Mathlib

/-! A subscription of a client. It queues the NOTIFYs that it receives and hands them to the
application one by one, and it queues a refresh that is asked for while another one is under way. -/
namespace Resiprocate.Dum

/-- The value of a `Subscription-State` header; `terminated` tells whether its reason is `timeout`. -/
inductive SubscriptionStateValue
  | active
  | pending
  | terminated (timedOut : Bool)
  | extension
  deriving DecidableEq

/-- The status line that a `message/sipfrag` body starts with; `none` is a request line. -/
abbrev FragStatus := Option ℕ

structure NotifyMessage where
  cseq : ℕ
  subscriptionState : Option SubscriptionStateValue
  stateExpires : Option ℕ
  eventIsRefer : Bool
  sipFrag : Option FragStatus
  deriving DecidableEq

structure QueuedNotify where
  notify : NotifyMessage
  outOfOrder : Bool
  deriving DecidableEq

structure SubscribeResponse where
  cseq : ℕ
  statusCode : ℕ
  expires : Option ℕ
  minExpires : Option ℕ
  retryAfter : Option ℕ
  hasToTag : Bool
  isFromWire : Bool
  /-- It has an `Event` header that is the one of the subscription. -/
  matchesEvent : Bool
  deriving DecidableEq

inductive SubscriptionTimer
  | WaitForNotify
  | SubscriptionRetry
  | Subscription
  | SendNextNotify
  deriving DecidableEq

/-- A `DumTimeout`. -/
@[ext] structure SubscriptionTimeout where
  type : SubscriptionTimer
  seq : ℕ
  deriving DecidableEq

inductive SubscriptionCallback
  | onNewSubscription
  | onUpdateActive (notify : NotifyMessage)
  | onUpdatePending (notify : NotifyMessage)
  | onUpdateExtension (notify : NotifyMessage)
  | onRequestRetry (retryAfter : ℕ)
  | onNotifyNotReceived
  | onTerminated
  deriving DecidableEq

/-- The response to a NOTIFY. -/
structure NotifyAnswer where
  notify : NotifyMessage
  statusCode : ℕ
  reason : Option String
  deriving DecidableEq

/-- What the application may call. -/
inductive SubscriptionCall
  | acceptUpdate (statusCode : ℕ)
  | rejectUpdate (statusCode : ℕ)
  | requestRefresh (expires : ℕ)
  | endSubscription (immediate : Bool)
  deriving DecidableEq

/-- `Helper::FailureMessageEffect`. -/
inductive FailureMessageEffect
  | DialogTermination
  | TransactionTermination
  | UsageTermination
  | OptionalRetryAfter
  | ApplicationDependant
  deriving DecidableEq

/-- `Helper::determineFailureMessageEffect` of a response without a `Retry-After` header. -/
def determineFailureMessageEffect (code : ℕ) : FailureMessageEffect :=
  if code ∈ [404, 410, 416, 480, 481, 482, 484, 485, 502, 604] then .DialogTermination
  else if code ∈ [403, 489, 408] then .UsageTermination
  else if code ∈ [400, 401, 402, 405, 406, 412, 413, 414, 415, 420, 421, 423, 429, 486, 487, 488,
      491, 493, 494, 500, 505, 513, 603, 606] then .TransactionTermination
  else if code ∈ [483, 501] then .ApplicationDependant
  else if code < 600 then .OptionalRetryAfter
  else .ApplicationDependant

/-- `Helper::aBitSmallerThan`. -/
def aBitSmallerThan (secs : ℕ) : ℕ := min (secs - 5) (9 * secs / 10)

structure ClientSubscription where
  mQueuedNotifies : List QueuedNotify
  mOnNewSubscriptionCalled : Bool
  mEnded : Bool
  mNextRefreshSecs : ℕ
  mLastSubSecs : ℕ
  mSubscribed : Bool
  mRefreshing : Bool
  mHaveQueuedRefresh : Bool
  mQueuedRefreshInterval : ℕ
  mLargestNotifyCSeq : ℕ
  mTimerSeq : ℕ
  /-- The `Expires` header and the sequence number of `mLastRequest`. -/
  lastExpires : Option ℕ
  lastCSeq : ℕ
  /-- `mLocalCSeq` of the dialog. -/
  mLocalCSeq : ℕ
  /-- `isReUsed` of the application's dialog set. -/
  isReUsed : Bool
  /-- The sequence numbers of the SUBSCRIBEs that were sent and have no final response yet. -/
  awaited : List ℕ
  /-- The timers that were started and have not fired. -/
  timers : List SubscriptionTimeout
  /-- The first queued NOTIFY was handed to the application, which has not answered it. -/
  handed : Bool
  deleted : Bool
  /-- All NOTIFYs that were queued, and their responses. -/
  received : List NotifyMessage
  answers : List NotifyAnswer
  callbacks : List SubscriptionCallback

namespace ClientSubscription

def callback (s : ClientSubscription) (c : SubscriptionCallback) : ClientSubscription :=
  { s with callbacks := s.callbacks ++ [c] }

/-- `delete this`. -/
def delete (s : ClientSubscription) : ClientSubscription := { s with deleted := true }

/-- The application is told that the subscription has ended, and it is deleted. -/
def terminate (s : ClientSubscription) : ClientSubscription :=
  ({ s with mEnded := true }.callback .onTerminated).delete

def addTimer (s : ClientSubscription) (type : SubscriptionTimer) : ClientSubscription :=
  { s with mTimerSeq := s.mTimerSeq + 1, timers := s.timers ++ [⟨type, s.mTimerSeq + 1⟩] }

/-- `send` of a response to a NOTIFY. -/
def sendResponse (s : ClientSubscription) (notify : NotifyMessage) (statusCode : ℕ)
    (reason : Option String) : ClientSubscription :=
  let s := { s with answers := s.answers ++ [⟨notify, statusCode, reason⟩] }
  if !s.mEnded && !s.mQueuedNotifies.isEmpty then
    { s with timers := s.timers ++ [⟨.SendNextNotify, 0⟩] }
  else s

/-- The first NOTIFY leaves the queue with a response. -/
def answer (s : ClientSubscription) (statusCode : ℕ) (reason : Option String) :
    ClientSubscription :=
  match s.mQueuedNotifies with
  | [] => s
  | qn :: rest =>
    { s with mQueuedNotifies := rest, handed := false }.sendResponse qn.notify statusCode reason

def acceptUpdate (s : ClientSubscription) (statusCode : ℕ) (reason : Option String) :
    ClientSubscription :=
  s.answer statusCode reason

def rejectUpdate (s : ClientSubscription) (statusCode : ℕ) : ClientSubscription :=
  let answered := s.answer statusCode none
  match determineFailureMessageEffect statusCode with
  | .DialogTermination | .UsageTermination =>
    if s.mEnded then answered else answered.terminate
  -- the last two throw
  | .TransactionTermination | .OptionalRetryAfter | .ApplicationDependant => answered

/-- A SUBSCRIBE is sent in the dialog. -/
def sendSubscribe (s : ClientSubscription) (expires : Option ℕ) : ClientSubscription :=
  { s with
    mLocalCSeq := s.mLocalCSeq + 1
    lastCSeq := s.mLocalCSeq + 1
    lastExpires := expires
    awaited := s.awaited ++ [s.mLocalCSeq + 1] }

def requestRefresh (s : ClientSubscription) (now expires : ℕ) : ClientSubscription :=
  if s.mEnded then s
  else if s.mRefreshing then
    { s with mHaveQueuedRefresh := true, mQueuedRefreshInterval := expires }
  else
    let s := { s with mNextRefreshSecs := 0, mRefreshing := true, mLastSubSecs := now }
    (s.sendSubscribe (if 0 < expires then some expires else s.lastExpires)).addTimer .WaitForNotify

/-- `end`. -/
def endSubscription (s : ClientSubscription) (immediate : Bool) : ClientSubscription :=
  if s.mEnded then s
  else if !immediate && s.mSubscribed then
    ({ s with mEnded := true }.sendSubscribe (some 0)).addTimer .WaitForNotify
  else s.delete

def sendQueuedRefreshRequest (s : ClientSubscription) (now : ℕ) : ClientSubscription :=
  if s.mHaveQueuedRefresh then
    { s with mHaveQueuedRefresh := false }.requestRefresh now s.mQueuedRefreshInterval
  else s

def call (s : ClientSubscription) (now : ℕ) : SubscriptionCall → ClientSubscription
  | .acceptUpdate statusCode => s.acceptUpdate statusCode none
  | .rejectUpdate statusCode => s.rejectUpdate statusCode
  | .requestRefresh expires => s.requestRefresh now expires
  | .endSubscription immediate => s.endSubscription immediate

/-- The application answers updates that it was given, each of them once. -/
def mayCall (s : ClientSubscription) : SubscriptionCall → Bool
  | .acceptUpdate _ => !s.deleted && s.handed
  | .rejectUpdate statusCode => !s.deleted && s.handed && 400 ≤ statusCode
  | .requestRefresh _ | .endSubscription _ => !s.deleted

/-- What the application calls in a callback, as far as it may. -/
def react (s : ClientSubscription) (now : ℕ) (calls : List SubscriptionCall) :
    ClientSubscription :=
  calls.foldl (fun s c => if s.mayCall c then s.call now c else s) s

def scheduleRefresh (s : ClientSubscription) : ClientSubscription :=
  if s.mLastSubSecs ≤ s.mNextRefreshSecs ∧ s.mNextRefreshSecs - s.mLastSubSecs < 2 then
    { s with mNextRefreshSecs := 0 }
  else s.addTimer .Subscription

/-- The first NOTIFY is handed to the application. -/
def handUpdate (s : ClientSubscription) (c : SubscriptionCallback) : ClientSubscription :=
  { s with handed := true }.callback c

/-- The expiry of the subscription that a NOTIFY in order tells, and whether it asks for an earlier
refresh. -/
def noteExpires (s : ClientSubscription) (now : ℕ) (notify : NotifyMessage) :
    ClientSubscription × Bool :=
  let expires := (notify.stateExpires.or s.lastExpires).getD 3600
  let s := { s with lastExpires := some (s.lastExpires.getD expires) }
  if notify.subscriptionState matches some (.terminated _) then (s, false)
  else
    let next := now + aBitSmallerThan expires
    if s.mNextRefreshSecs = 0 ∨ next < s.mNextRefreshSecs then
      ({ s with mNextRefreshSecs := next }, true)
    else (s, false)

/-- The reason of the 200 to a NOTIFY that ends the subscription. -/
def terminatedReason (s : ClientSubscription) (now : ℕ) (timedOut : Bool) : Option String :=
  if s.lastExpires.getD 0 ≠ 0 ∧ timedOut then
    if s.mNextRefreshSecs = 0 then
      if aBitSmallerThan (now - s.mLastSubSecs) < 2 then
        some "I just sent a refresh, what more do you want from me?"
      else some "Why didn't I refresh here?"
    else some "You terminated my subscription early! What gives?"
  else none

/-- A NOTIFY without a `Subscription-State` header, which only a transfer may leave out. -/
def processWithoutState (s : ClientSubscription) (notify : NotifyMessage) : ClientSubscription :=
  if notify.eventIsRefer then
    match notify.sipFrag with
    | some (some code) =>
      if code < 200 then s.handUpdate (.onUpdateExtension notify)
      else (s.acceptUpdate 200 none).terminate
    | some none | none => (s.acceptUpdate 200 none).terminate
  else (s.sendResponse notify 400 (some "Missing Subscription-State header")).terminate

def processNextNotify (s : ClientSubscription) (now : ℕ) : ClientSubscription :=
  match s.mQueuedNotifies with
  | [] => s
  | qn :: _ =>
    let (s, setRefreshTimer) := if qn.outOfOrder then (s, false) else s.noteExpires now qn.notify
    let refresh := if setRefreshTimer then s.scheduleRefresh else s
    match qn.notify.subscriptionState with
    | none => s.processWithoutState qn.notify
    | some (.terminated timedOut) =>
      (s.acceptUpdate 200 (s.terminatedReason now timedOut)).terminate
    | some .active =>
      if s.mEnded then s.rejectUpdate 481 else refresh.handUpdate (.onUpdateActive qn.notify)
    | some .pending =>
      if s.mEnded then s.rejectUpdate 481 else refresh.handUpdate (.onUpdatePending qn.notify)
    | some .extension =>
      if s.mEnded then s.rejectUpdate 481 else refresh.handUpdate (.onUpdateExtension qn.notify)

/-- A NOTIFY enters the queue. -/
def enqueue (s : ClientSubscription) (msg : NotifyMessage) : ClientSubscription :=
  let outOfOrder := decide (msg.cseq < s.mLargestNotifyCSeq)
  { s with
    mLargestNotifyCSeq := if outOfOrder then s.mLargestNotifyCSeq else msg.cseq
    mQueuedNotifies := s.mQueuedNotifies ++ [⟨msg, outOfOrder⟩]
    received := s.received ++ [msg] }

/-- A NOTIFY is processed at once if it is the only one. -/
def queueNotify (s : ClientSubscription) (now : ℕ) (msg : NotifyMessage) : ClientSubscription :=
  let s := s.enqueue msg
  if s.mQueuedNotifies.length = 1 then s.processNextNotify now else s

/-- A NOTIFY shows that there is a subscription. -/
def noteSubscribed (s : ClientSubscription) : ClientSubscription :=
  { s with mRefreshing := false, mSubscribed := true }

/-- The application is told of the subscription. -/
def tellNew (s : ClientSubscription) : ClientSubscription :=
  { s with mOnNewSubscriptionCalled := true }.callback .onNewSubscription

/-- `dispatch` of a NOTIFY. It is dropped if the application ends the subscription when it is told
of it. -/
def dispatchNotify (s : ClientSubscription) (now : ℕ) (msg : NotifyMessage)
    (calls : List SubscriptionCall) : ClientSubscription :=
  let s := s.noteSubscribed
  if !s.mOnNewSubscriptionCalled && !s.isReUsed then
    let s := s.tellNew.react now calls
    if s.deleted || s.mEnded then s else s.queueNotify now msg
  else s.queueNotify now msg

/-- A response that the application is asked about. -/
def mayRetry (msg : SubscribeResponse) : Bool :=
  msg.statusCode = 408 || (msg.statusCode = 503 && !msg.isFromWire) ||
    (msg.statusCode ∈ [413, 480, 486, 500, 503, 600, 603] && msg.retryAfter.isSome)

/-- A 2xx may shorten the expiry. -/
def noteAccepted (s : ClientSubscription) (msg : SubscribeResponse) : ClientSubscription :=
  let lastExpires :=
    match msg.expires with
    | some expires => some (min expires (s.lastExpires.getD 0))
    | none => s.lastExpires
  { s with mSubscribed := true, lastExpires := lastExpires }

/-- `processResponse` of a 2xx. -/
def processSuccess (s : ClientSubscription) (now : ℕ) (msg : SubscribeResponse)
    (calls : List SubscriptionCall) : ClientSubscription :=
  let s := s.noteAccepted msg
  if !s.mOnNewSubscriptionCalled then
    let s := s.tellNew.react now calls
    if s.deleted || s.mEnded then s else s.addTimer .WaitForNotify
  else if !s.mEnded then s.sendQueuedRefreshRequest now
  else s

/-- `processResponse` of any other response. `retry` is what the application returns when it is
asked. -/
def processFailure (s : ClientSubscription) (now : ℕ) (msg : SubscribeResponse)
    (calls : List SubscriptionCall) (retry : ℤ) : ClientSubscription :=
  if !s.mEnded ∧ msg.statusCode = 481 ∧ msg.hasToTag ∧ 0 < msg.expires.getD 0 then
    -- `reSubscribe` makes a new subscription in place of this one
    s.delete
  else if !s.mEnded ∧ mayRetry msg then
    let s := (s.callback (.onRequestRetry (msg.retryAfter.getD 0))).react now calls
    if s.deleted then s
    else if retry < 0 then s.terminate
    else if retry = 0 then
      if s.mOnNewSubscriptionCalled then s.requestRefresh now 0 else s.delete
    else s.addTimer .SubscriptionRetry
  else if 300 ≤ msg.statusCode then
    match msg.statusCode == 423, msg.minExpires with
    | true, some minExpires => s.requestRefresh now minExpires
    | _, _ => s.terminate
  else s

def isSuccess (msg : SubscribeResponse) : Bool := 200 ≤ msg.statusCode && msg.statusCode < 300

def processResponse (s : ClientSubscription) (now : ℕ) (msg : SubscribeResponse)
    (calls : List SubscriptionCall) (retry : ℤ) : ClientSubscription :=
  let s := { s with mRefreshing := false }
  if isSuccess msg then s.processSuccess now msg calls else s.processFailure now msg calls retry

/-- `dispatch` of a timer. -/
def dispatchTimer (s : ClientSubscription) (now : ℕ) (timer : SubscriptionTimeout) :
    ClientSubscription :=
  if timer.seq = s.mTimerSeq then
    match timer.type with
    | .WaitForNotify => if s.mEnded then s.terminate else s.callback .onNotifyNotReceived
    | .SubscriptionRetry =>
      if s.mEnded then s
      else if s.mOnNewSubscriptionCalled then s.requestRefresh now 0
      else s.delete
    | .Subscription => s.requestRefresh now 0
    | .SendNextNotify => s
  else if timer.seq = 0 ∧ timer.type = .SendNextNotify then s.processNextNotify now
  else s

end ClientSubscription

end Resiprocate.Dum
