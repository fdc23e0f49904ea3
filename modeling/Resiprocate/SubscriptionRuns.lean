import Resiprocate.ClientSubscription
import Resiprocate.TransitionSystem

/-! Runs of a client's subscription: its queue of NOTIFYs goes on and its queued refresh is sent, as
long as no NOTIFY is answered after the end while others wait, no timer for the next NOTIFY fires
before any other timer was started, and no refresh is queued when the first 2xx arrives. -/
namespace Resiprocate.Dum
open TransitionSystem

inductive SubscriptionEvent
  | notify (now : ℕ) (msg : NotifyMessage) (calls : List SubscriptionCall)
  | response (now : ℕ) (msg : SubscribeResponse) (calls : List SubscriptionCall) (retry : ℤ)
  /-- A SUBSCRIBE is challenged and sent again with credentials. -/
  | challenged (cseq : ℕ)
  | timer (now : ℕ) (timeout : SubscriptionTimeout)
  | call (now : ℕ) (c : SubscriptionCall)
  deriving DecidableEq

namespace ClientSubscription

/-- A response comes to the subscription if it is one to its last SUBSCRIBE or names its event. -/
def isDispatched (s : ClientSubscription) (msg : SubscribeResponse) : Bool :=
  msg.cseq = s.lastCSeq || msg.matchesEvent

/-- A final response ends the wait for it. -/
def noteResponse (s : ClientSubscription) (msg : SubscribeResponse) : ClientSubscription :=
  if 200 ≤ msg.statusCode then { s with awaited := s.awaited.erase msg.cseq } else s

def next (s : ClientSubscription) : SubscriptionEvent → ClientSubscription
  | .notify now msg calls => s.dispatchNotify now msg calls
  | .response now msg calls retry =>
    if s.isDispatched msg then (s.noteResponse msg).processResponse now msg calls retry
    else s.noteResponse msg
  | .challenged cseq =>
    -- what is sent again is the last SUBSCRIBE, in which all of them were made
    { s with awaited := s.awaited.erase cseq }.sendSubscribe s.lastExpires
  | .timer now timeout =>
    { s with timers := s.timers.erase timeout }.dispatchTimer now timeout
  | .call now c => s.call now c

def allowed (s : ClientSubscription) : SubscriptionEvent → Bool
  | .notify _ _ _ => !s.deleted
  | .response _ msg _ _ => !s.deleted && s.awaited.contains msg.cseq && 100 ≤ msg.statusCode
  | .challenged cseq => !s.deleted && s.awaited.contains cseq
  | .timer _ timeout => !s.deleted && s.timers.contains timeout
  | .call _ c => s.mayCall c

/-- A new subscription, of a SUBSCRIBE or of a transfer. -/
structure Created (s : ClientSubscription) : Prop where
  queue : s.mQueuedNotifies = []
  ended : s.mEnded = false
  nextRefresh : s.mNextRefreshSecs = 0
  subscribed : s.mSubscribed = false
  refreshing : s.mRefreshing = false
  queuedRefresh : s.mHaveQueuedRefresh = false
  largest : s.mLargestNotifyCSeq = 0
  timerSeq : s.mTimerSeq = 0
  timers : s.timers = []
  handed : s.handed = false
  deleted : s.deleted = false
  received : s.received = []
  answers : s.answers = []

def runs : System ClientSubscription SubscriptionEvent where
  init s := s.Created
  enabled s e := s.allowed e
  next s e := s.next e

instance (s : ClientSubscription) (e : SubscriptionEvent) : Decidable (runs.enabled s e) :=
  inferInstanceAs (Decidable (s.allowed e = true))

/-! ### The queue of NOTIFYs -/

/-- How many timers for the next NOTIFY are pending. -/
def nextTimers (s : ClientSubscription) : ℕ := s.timers.count ⟨.SendNextNotify, 0⟩

/-- Of a queue that is not empty, either the first NOTIFY is with the application or one timer for
it is pending. -/
def Moving (s : ClientSubscription) : Prop :=
  s.deleted = false →
    s.nextTimers + (if s.handed then 1 else 0) = if s.mQueuedNotifies = [] then 0 else 1

/-- The NOTIFYs were answered in the order of their arrival, and the queue has the others. -/
structure InOrder (s : ClientSubscription) : Prop where
  answered : s.answers.map (·.notify) <+: s.received
  queued : s.deleted = false →
    s.answers.map (·.notify) ++ s.mQueuedNotifies.map (·.notify) = s.received

/-- `s'` has the queue of `s`. -/
structure SameQueue (s s' : ClientSubscription) : Prop where
  queue : s'.mQueuedNotifies = s.mQueuedNotifies
  handed : s'.handed = s.handed
  nextTimers : s'.nextTimers = s.nextTimers
  received : s'.received = s.received
  answers : s'.answers = s.answers
  deleted : s'.deleted = false → s.deleted = false

namespace SameQueue
variable {s s' s'' : ClientSubscription}

theorem refl (s : ClientSubscription) : SameQueue s s := ⟨rfl, rfl, rfl, rfl, rfl, id⟩

theorem trans (h : SameQueue s s') (h' : SameQueue s' s'') : SameQueue s s'' :=
  ⟨h'.queue.trans h.queue, h'.handed.trans h.handed, h'.nextTimers.trans h.nextTimers,
    h'.received.trans h.received, h'.answers.trans h.answers, h.deleted ∘ h'.deleted⟩

theorem moving (h : SameQueue s s') (hs : s.Moving) : s'.Moving := by
  intro hlive
  rw [h.nextTimers, h.handed, h.queue]
  exact hs (h.deleted hlive)

theorem inOrder (h : SameQueue s s') (hs : s.InOrder) : s'.InOrder := by
  refine ⟨by simpa only [h.answers, h.received] using hs.answered, fun hlive => ?_⟩
  rw [h.answers, h.queue, h.received]
  exact hs.queued (h.deleted hlive)

end SameQueue

section Frame
variable (s : ClientSubscription) (now : ℕ)

theorem sameQueue_callback (c : SubscriptionCallback) : SameQueue s (s.callback c) :=
  ⟨rfl, rfl, rfl, rfl, rfl, id⟩

theorem sameQueue_delete : SameQueue s s.delete := ⟨rfl, rfl, rfl, rfl, rfl, nofun⟩

theorem sameQueue_terminate : SameQueue s s.terminate := ⟨rfl, rfl, rfl, rfl, rfl, nofun⟩

theorem sameQueue_addTimer (type : SubscriptionTimer) : SameQueue s (s.addTimer type) :=
  ⟨rfl, rfl, by simp [nextTimers, addTimer], rfl, rfl, id⟩

theorem sameQueue_sendSubscribe (expires : Option ℕ) : SameQueue s (s.sendSubscribe expires) :=
  ⟨rfl, rfl, rfl, rfl, rfl, id⟩

theorem sameQueue_requestRefresh (expires : ℕ) : SameQueue s (s.requestRefresh now expires) := by
  unfold requestRefresh
  split
  · exact .refl s
  · split
    · exact ⟨rfl, rfl, rfl, rfl, rfl, id⟩
    · exact ⟨rfl, rfl, by simp [nextTimers, addTimer, sendSubscribe], rfl, rfl, id⟩

theorem sameQueue_endSubscription (immediate : Bool) :
    SameQueue s (s.endSubscription immediate) := by
  unfold endSubscription
  split
  · exact .refl s
  · split
    · exact ⟨rfl, rfl, by simp [nextTimers, addTimer, sendSubscribe], rfl, rfl, id⟩
    · exact sameQueue_delete s

theorem sameQueue_sendQueuedRefreshRequest : SameQueue s (s.sendQueuedRefreshRequest now) := by
  unfold sendQueuedRefreshRequest
  split
  · have hclear : SameQueue s { s with mHaveQueuedRefresh := false } :=
      ⟨rfl, rfl, rfl, rfl, rfl, id⟩
    exact hclear.trans (sameQueue_requestRefresh _ now _)
  · exact .refl s

theorem sameQueue_scheduleRefresh : SameQueue s s.scheduleRefresh := by
  unfold scheduleRefresh
  split
  · exact ⟨rfl, rfl, rfl, rfl, rfl, id⟩
  · exact sameQueue_addTimer s _

theorem sameQueue_noteExpires (notify : NotifyMessage) :
    SameQueue s (s.noteExpires now notify).1 := by
  unfold noteExpires
  dsimp only
  split_ifs
  · exact ⟨rfl, rfl, rfl, rfl, rfl, id⟩
  · exact ⟨rfl, rfl, rfl, rfl, rfl, id⟩
  · exact ⟨rfl, rfl, rfl, rfl, rfl, id⟩

end Frame

/-! ### Answers -/

/-- An answer would leave other NOTIFYs in the queue of a subscription that has ended. -/
def isLate (s : ClientSubscription) : Bool := s.mEnded && 2 ≤ s.mQueuedNotifies.length

theorem InOrder.answer {s : ClientSubscription} (h : s.InOrder) (hlive : s.deleted = false)
    (statusCode : ℕ) (reason : Option String) : (s.answer statusCode reason).InOrder := by
  have hq := h.queued hlive
  unfold ClientSubscription.answer
  cases hqueue : s.mQueuedNotifies with
  | nil => exact h
  | cons qn rest =>
    rw [hqueue] at hq
    have hsend : s.answers.map (·.notify) ++ [qn.notify] ++ rest.map (·.notify) = s.received := by
      simpa using hq
    unfold sendResponse
    dsimp only
    split
    · exact ⟨⟨_, by simpa using hsend⟩, fun _ => by simpa using hsend⟩
    · exact ⟨⟨_, by simpa using hsend⟩, fun _ => by simpa using hsend⟩

/-- Once no timer for the next NOTIFY is pending, an answer starts one if there is a next one. -/
theorem moving_answer {s : ClientSubscription} (hpending : s.nextTimers = 0) (hlate : ¬s.isLate)
    (hqueue : s.mQueuedNotifies ≠ []) (statusCode : ℕ) (reason : Option String) :
    (s.answer statusCode reason).Moving := by
  intro _
  unfold ClientSubscription.answer
  cases hq : s.mQueuedNotifies with
  | nil => exact absurd hq hqueue
  | cons qn rest =>
    simp only [isLate, hq, List.length_cons, Bool.and_eq_true, decide_eq_true_eq, not_and] at hlate
    have hcount : s.timers.count ⟨.SendNextNotify, 0⟩ = 0 := hpending
    unfold sendResponse
    dsimp only
    split
    case isTrue hnext =>
      obtain ⟨-, hrest⟩ : s.mEnded = false ∧ rest ≠ [] := by simpa using hnext
      simp [nextTimers, hcount, hrest]
    case isFalse hnext =>
      -- the subscription has ended, or no other NOTIFY waits
      have hrest : rest = [] := by
        by_contra hne
        cases hended : s.mEnded with
        | true =>
          have := hlate hended
          have := List.length_pos_iff.mpr hne
          omega
        | false => simp [hended, hne] at hnext
      simp [nextTimers, hcount, hrest]

/-- What the queue and its NOTIFYs keep. -/
structure QueueInv (s : ClientSubscription) : Prop where
  moving : s.Moving
  inOrder : s.InOrder

theorem SameQueue.queueInv {s s' : ClientSubscription} (h : SameQueue s s') (hs : s.QueueInv) :
    s'.QueueInv := ⟨h.moving hs.moving, h.inOrder hs.inOrder⟩

/-- The application has an update: it is the first in the queue, and no timer is pending. -/
theorem Moving.of_handed {s : ClientSubscription} (h : s.Moving) (hlive : s.deleted = false)
    (hhanded : s.handed) : s.mQueuedNotifies ≠ [] ∧ s.nextTimers = 0 := by
  have hcount := h hlive
  rw [if_pos hhanded] at hcount
  by_cases hqueue : s.mQueuedNotifies = []
  · rw [if_pos hqueue] at hcount
    omega
  · rw [if_neg hqueue] at hcount
    exact ⟨hqueue, by omega⟩

theorem Moving.of_next {s : ClientSubscription} (h : s.Moving) (hlive : s.deleted = false)
    (hnext : ⟨.SendNextNotify, 0⟩ ∈ s.timers) :
    s.mQueuedNotifies ≠ [] ∧ s.nextTimers = 1 ∧ s.handed = false := by
  have hcount := h hlive
  have hpos : 0 < s.nextTimers := List.count_pos_iff.mpr hnext
  by_cases hqueue : s.mQueuedNotifies = []
  · rw [if_pos hqueue] at hcount
    omega
  · rw [if_neg hqueue] at hcount
    cases hhanded : s.handed with
    | true =>
      rw [hhanded, if_pos rfl] at hcount
      omega
    | false => exact ⟨hqueue, by simpa [hhanded] using hcount, rfl⟩

theorem QueueInv.answer {s : ClientSubscription} (h : s.QueueInv) (hlive : s.deleted = false)
    (hhanded : s.handed) (hlate : ¬s.isLate) (statusCode : ℕ) (reason : Option String) :
    (s.answer statusCode reason).QueueInv := by
  obtain ⟨hqueue, hpending⟩ := h.moving.of_handed hlive hhanded
  exact ⟨moving_answer hpending hlate hqueue statusCode reason,
    h.inOrder.answer hlive statusCode reason⟩

theorem queueInv_rejectUpdate {s : ClientSubscription} {statusCode : ℕ}
    (h : (s.answer statusCode none).QueueInv) : (s.rejectUpdate statusCode).QueueInv := by
  unfold rejectUpdate
  dsimp only
  split
  · split
    · exact h
    · exact (sameQueue_terminate _).queueInv h
  · split
    · exact h
    · exact (sameQueue_terminate _).queueInv h
  · exact h
  · exact h
  · exact h

/-- A call that answers too late. -/
def isLateCall (s : ClientSubscription) : SubscriptionCall → Bool
  | .acceptUpdate _ | .rejectUpdate _ => s.isLate
  | .requestRefresh _ | .endSubscription _ => false

theorem QueueInv.call {s : ClientSubscription} {c : SubscriptionCall} (h : s.QueueInv) (now : ℕ)
    (hmay : s.mayCall c) (hlate : ¬s.isLateCall c) : (s.call now c).QueueInv := by
  cases c with
  | acceptUpdate statusCode =>
    simp only [mayCall, Bool.and_eq_true, Bool.not_eq_true'] at hmay
    exact h.answer hmay.1 hmay.2 hlate statusCode none
  | rejectUpdate statusCode =>
    simp only [mayCall, Bool.and_eq_true, Bool.not_eq_true'] at hmay
    exact queueInv_rejectUpdate (h.answer hmay.1.1 hmay.1.2 hlate statusCode none)
  | requestRefresh expires => exact (sameQueue_requestRefresh s now expires).queueInv h
  | endSubscription immediate => exact (sameQueue_endSubscription s immediate).queueInv h

/-- None of the calls in a callback answers too late. -/
def inTime (s : ClientSubscription) (now : ℕ) : List SubscriptionCall → Bool
  | [] => true
  | c :: calls =>
    if s.mayCall c then !s.isLateCall c && (s.call now c).inTime now calls
    else s.inTime now calls

theorem QueueInv.react {s : ClientSubscription} (h : s.QueueInv) {now : ℕ}
    {calls : List SubscriptionCall} (htime : s.inTime now calls) : (s.react now calls).QueueInv := by
  induction calls generalizing s with
  | nil => exact h
  | cons c calls ih =>
    unfold inTime at htime
    simp only [ClientSubscription.react, List.foldl_cons]
    split_ifs at htime ⊢ with hmay
    · simp only [Bool.and_eq_true, Bool.not_eq_true'] at htime
      exact ih (h.call now hmay (by simp [htime.1])) htime.2
    · exact ih h htime

/-! ### The first NOTIFY of the queue -/

/-- The first NOTIFY is neither with the application, nor is a timer for it pending. -/
structure Waiting (s : ClientSubscription) : Prop where
  live : s.deleted = false
  queue : s.mQueuedNotifies ≠ []
  handed : s.handed = false
  nextTimers : s.nextTimers = 0
  inOrder : s.InOrder

theorem SameQueue.waiting {s s' : ClientSubscription} (h : SameQueue s s') (hs : s.Waiting)
    (hlive : s'.deleted = false) : s'.Waiting :=
  ⟨hlive, h.queue ▸ hs.queue, h.handed.trans hs.handed, h.nextTimers.trans hs.nextTimers,
    h.inOrder hs.inOrder⟩

theorem deleted_noteExpires (s : ClientSubscription) (now : ℕ) (notify : NotifyMessage) :
    (s.noteExpires now notify).1.deleted = s.deleted := by
  unfold noteExpires
  dsimp only
  split_ifs <;> rfl

theorem mEnded_noteExpires (s : ClientSubscription) (now : ℕ) (notify : NotifyMessage) :
    (s.noteExpires now notify).1.mEnded = s.mEnded := by
  unfold noteExpires
  dsimp only
  split_ifs <;> rfl

theorem deleted_scheduleRefresh (s : ClientSubscription) :
    s.scheduleRefresh.deleted = s.deleted := by
  unfold scheduleRefresh
  split <;> rfl

namespace Waiting
variable {s : ClientSubscription}

theorem handUpdate (h : s.Waiting) (c : SubscriptionCallback) : (s.handUpdate c).QueueInv := by
  refine ⟨fun _ => ?_, h.inOrder.answered, h.inOrder.queued⟩
  have hpending : s.timers.count ⟨.SendNextNotify, 0⟩ = 0 := h.nextTimers
  simp [ClientSubscription.handUpdate, callback, ClientSubscription.nextTimers, hpending, h.queue]

theorem answer (h : s.Waiting) (hlate : ¬s.isLate) (statusCode : ℕ) (reason : Option String) :
    (s.answer statusCode reason).QueueInv :=
  ⟨moving_answer h.nextTimers hlate h.queue statusCode reason,
    h.inOrder.answer h.live statusCode reason⟩

/-- The answer may be late when the subscription ends with it. -/
theorem answer_terminate (h : s.Waiting) (statusCode : ℕ) (reason : Option String) :
    (s.answer statusCode reason).terminate.QueueInv :=
  ⟨nofun, (sameQueue_terminate _).inOrder (h.inOrder.answer h.live statusCode reason)⟩

/-- The 400 leaves its NOTIFY in the queue, and the subscription ends with it. -/
theorem sendResponse_terminate (h : s.Waiting) {qn : QueuedNotify} {rest : List QueuedNotify}
    (hqueue : s.mQueuedNotifies = qn :: rest) (statusCode : ℕ) (reason : Option String) :
    (s.sendResponse qn.notify statusCode reason).terminate.QueueInv := by
  have hq := h.inOrder.queued h.live
  rw [hqueue] at hq
  have hprefix : s.answers.map (·.notify) ++ [qn.notify] <+: s.received :=
    ⟨rest.map (·.notify), by simpa using hq⟩
  refine ⟨nofun, ?_, nofun⟩
  unfold sendResponse
  dsimp only
  split
  · simpa [terminate, callback, delete] using hprefix
  · simpa [terminate, callback, delete] using hprefix

theorem processWithoutState (h : s.Waiting) {qn : QueuedNotify} {rest : List QueuedNotify}
    (hqueue : s.mQueuedNotifies = qn :: rest) : (s.processWithoutState qn.notify).QueueInv := by
  unfold ClientSubscription.processWithoutState
  split
  · split
    · split
      · exact h.handUpdate _
      · exact h.answer_terminate 200 none
    · exact h.answer_terminate 200 none
    · exact h.answer_terminate 200 none
  · exact h.sendResponse_terminate hqueue 400 _

end Waiting

/-- A subscription state that is not the end. -/
def goesOn : Option SubscriptionStateValue → Bool
  | some .active | some .pending | some .extension => true
  | some (.terminated _) | none => false

/-- The first NOTIFY does not end the subscription, which has ended, and others wait behind it. -/
def lateRejection (s : ClientSubscription) : Bool :=
  s.isLate && s.mQueuedNotifies.head?.any fun qn => goesOn qn.notify.subscriptionState

theorem Waiting.processNextNotify {s : ClientSubscription} (h : s.Waiting) (now : ℕ)
    (hlate : ¬s.lateRejection) : (s.processNextNotify now).QueueInv := by
  unfold ClientSubscription.processNextNotify
  cases hqueue : s.mQueuedNotifies with
  | nil => exact absurd hqueue h.queue
  | cons qn rest =>
    simp only
    -- the expiry is noted in order only
    generalize hnote : (if qn.outOfOrder then (s, false) else s.noteExpires now qn.notify) = p
    have hsame : SameQueue s p.1 ∧ p.1.deleted = s.deleted ∧ p.1.mEnded = s.mEnded := by
      rw [← hnote]
      split
      · exact ⟨.refl s, rfl, rfl⟩
      · exact ⟨sameQueue_noteExpires s now _, deleted_noteExpires s now _, mEnded_noteExpires s now _⟩
    obtain ⟨hsame, hdeleted, hended⟩ := hsame
    have hp : p.1.Waiting := hsame.waiting h (hdeleted.trans h.live)
    have hrefresh : (if p.2 then p.1.scheduleRefresh else p.1).Waiting := by
      split
      · exact (sameQueue_scheduleRefresh _).waiting hp (by rw [deleted_scheduleRefresh, hp.live])
      · exact hp
    -- what has not ended goes to the application, what has is rejected
    have hgoes (c : SubscriptionCallback) (hstate : goesOn qn.notify.subscriptionState) :
        (if p.1.mEnded then p.1.rejectUpdate 481
          else (if p.2 then p.1.scheduleRefresh else p.1).handUpdate c).QueueInv := by
      split
      · have hlate' : ¬p.1.isLate := by
          intro hislate
          refine hlate ?_
          simp only [lateRejection, hqueue, List.head?_cons, Option.any_some, hstate, Bool.and_true]
          simpa only [isLate, hended, hsame.queue] using hislate
        exact queueInv_rejectUpdate (hp.answer hlate' 481 none)
      · exact hrefresh.handUpdate c
    cases hstate : qn.notify.subscriptionState with
    | none => exact hp.processWithoutState (hsame.queue.trans hqueue)
    | some state =>
      rw [hstate] at hgoes
      cases state with
      | active => exact hgoes _ rfl
      | pending => exact hgoes _ rfl
      | terminated timedOut => exact hp.answer_terminate 200 _
      | extension => exact hgoes _ rfl

theorem QueueInv.queueNotify {s : ClientSubscription} (h : s.QueueInv)
    (hlive : s.deleted = false) (now : ℕ) (msg : NotifyMessage) :
    (s.queueNotify now msg).QueueInv := by
  have hmoving := h.moving hlive
  have hinOrder : (s.enqueue msg).InOrder := by
    refine ⟨h.inOrder.answered.trans ⟨[msg], rfl⟩, fun _ => ?_⟩
    simp [enqueue, ← h.inOrder.queued hlive]
  have hlength : (s.enqueue msg).mQueuedNotifies.length = s.mQueuedNotifies.length + 1 := by
    simp [enqueue]
  have hqueue : (s.enqueue msg).mQueuedNotifies ≠ [] := by simp [enqueue]
  unfold ClientSubscription.queueNotify
  dsimp only
  split
  case isTrue hone =>
    have hempty : s.mQueuedNotifies = [] := List.length_eq_zero_iff.mp (by omega)
    rw [if_pos hempty] at hmoving
    have hhanded : s.handed = false := by
      by_contra hne
      rw [Bool.not_eq_false] at hne
      rw [if_pos hne] at hmoving
      omega
    have hpending : s.nextTimers = 0 := by omega
    have hwaiting : (s.enqueue msg).Waiting := ⟨hlive, hqueue, hhanded, hpending, hinOrder⟩
    refine hwaiting.processNextNotify now ?_
    simp [lateRejection, isLate, hone]
  case isFalse hmore =>
    have hne : s.mQueuedNotifies ≠ [] := fun hempty => hmore (by simp [hlength, hempty])
    rw [if_neg hne] at hmoving
    refine ⟨fun _ => ?_, hinOrder⟩
    rw [if_neg hqueue]
    exact hmoving

theorem sameQueue_noteSubscribed (s : ClientSubscription) : SameQueue s s.noteSubscribed :=
  ⟨rfl, rfl, rfl, rfl, rfl, id⟩

theorem sameQueue_tellNew (s : ClientSubscription) : SameQueue s s.tellNew :=
  ⟨rfl, rfl, rfl, rfl, rfl, id⟩

theorem sameQueue_noteAccepted (s : ClientSubscription) (msg : SubscribeResponse) :
    SameQueue s (s.noteAccepted msg) := ⟨rfl, rfl, rfl, rfl, rfl, id⟩

theorem sameQueue_noteResponse (s : ClientSubscription) (msg : SubscribeResponse) :
    SameQueue s (s.noteResponse msg) := by
  unfold noteResponse
  split
  · exact ⟨rfl, rfl, rfl, rfl, rfl, id⟩
  · exact .refl s

/-- A callback of `processResponse` answers too late. -/
def answersLateIn (s : ClientSubscription) (now : ℕ) (msg : SubscribeResponse)
    (calls : List SubscriptionCall) : Bool :=
  if isSuccess msg then
    !s.mOnNewSubscriptionCalled && !(s.noteAccepted msg).tellNew.inTime now calls
  else
    !s.mEnded && mayRetry msg &&
      !(s.callback (.onRequestRetry (msg.retryAfter.getD 0))).inTime now calls

/-- The event answers a NOTIFY of a subscription that has ended while others wait behind it. -/
def answersLate (s : ClientSubscription) : SubscriptionEvent → Bool
  | .notify now _ calls =>
    !s.mOnNewSubscriptionCalled && !s.isReUsed && !s.noteSubscribed.tellNew.inTime now calls
  | .response now msg calls _ =>
    s.isDispatched msg && { s.noteResponse msg with mRefreshing := false }.answersLateIn now msg calls
  | .challenged _ => false
  | .timer _ timeout => timeout = ⟨.SendNextNotify, 0⟩ && s.lateRejection
  | .call _ c => s.isLateCall c

/-- The timer for the next NOTIFY fires before any other was started: it is taken for the last of
the others. -/
def swallowed (s : ClientSubscription) : SubscriptionEvent → Bool
  | .timer _ timeout => timeout = ⟨.SendNextNotify, 0⟩ && s.mTimerSeq = 0
  | .notify _ _ _ | .response _ _ _ _ | .challenged _ | .call _ _ => false

namespace QueueInv
variable {s : ClientSubscription}

theorem dispatchNotify (h : s.QueueInv) (hlive : s.deleted = false) (now : ℕ)
    (msg : NotifyMessage) (calls : List SubscriptionCall)
    (hlate : ¬s.answersLate (.notify now msg calls)) :
    (s.dispatchNotify now msg calls).QueueInv := by
  have hsubscribed := (sameQueue_noteSubscribed s).queueInv h
  unfold ClientSubscription.dispatchNotify
  dsimp only
  split
  case isTrue hnew =>
    rw [show s.noteSubscribed.mOnNewSubscriptionCalled = s.mOnNewSubscriptionCalled from rfl,
      show s.noteSubscribed.isReUsed = s.isReUsed from rfl] at hnew
    have htime : s.noteSubscribed.tellNew.inTime now calls := by
      simpa [answersLate, hnew] using hlate
    have hreact := ((sameQueue_tellNew _).queueInv hsubscribed).react htime
    split
    case isTrue => exact hreact
    case isFalse hgone =>
      simp only [Bool.or_eq_true, not_or, Bool.not_eq_true] at hgone
      exact hreact.queueNotify hgone.1 now msg
  case isFalse => exact hsubscribed.queueNotify hlive now msg

theorem processSuccess (h : s.QueueInv) (now : ℕ) {msg : SubscribeResponse}
    (calls : List SubscriptionCall) (hsuccess : isSuccess msg)
    (hlate : ¬s.answersLateIn now msg calls) : (s.processSuccess now msg calls).QueueInv := by
  have haccepted := (sameQueue_noteAccepted s msg).queueInv h
  unfold ClientSubscription.processSuccess
  dsimp only
  split
  case isTrue hnew =>
    rw [show (s.noteAccepted msg).mOnNewSubscriptionCalled = s.mOnNewSubscriptionCalled from rfl]
      at hnew
    have htime : (s.noteAccepted msg).tellNew.inTime now calls := by
      simpa [answersLateIn, hsuccess, hnew] using hlate
    have hreact := ((sameQueue_tellNew _).queueInv haccepted).react htime
    split
    · exact hreact
    · exact (sameQueue_addTimer _ _).queueInv hreact
  case isFalse =>
    split
    · exact (sameQueue_sendQueuedRefreshRequest _ now).queueInv haccepted
    · exact haccepted

theorem processFailure (h : s.QueueInv) (now : ℕ) {msg : SubscribeResponse}
    (calls : List SubscriptionCall) (retry : ℤ) (hfailure : ¬isSuccess msg)
    (hlate : ¬s.answersLateIn now msg calls) : (s.processFailure now msg calls retry).QueueInv := by
  unfold ClientSubscription.processFailure
  dsimp only
  split
  · exact (sameQueue_delete s).queueInv h
  · split
    case isTrue hretry =>
      have htime : (s.callback (.onRequestRetry (msg.retryAfter.getD 0))).inTime now calls := by
        simpa [answersLateIn, hfailure, hretry] using hlate
      have hreact := ((sameQueue_callback s _).queueInv h).react htime
      split
      · exact hreact
      · split
        · exact (sameQueue_terminate _).queueInv hreact
        · split
          · split
            · exact (sameQueue_requestRefresh _ now 0).queueInv hreact
            · exact (sameQueue_delete _).queueInv hreact
          · exact (sameQueue_addTimer _ _).queueInv hreact
    case isFalse =>
      split
      · split
        · exact (sameQueue_requestRefresh s now _).queueInv h
        · exact (sameQueue_terminate s).queueInv h
      · exact h

theorem dispatchTimer (h : s.QueueInv) (hlive : s.deleted = false) (now : ℕ)
    {timeout : SubscriptionTimeout} (hpending : timeout ∈ s.timers)
    (hlate : ¬s.answersLate (.timer now timeout)) (hswallowed : ¬s.swallowed (.timer now timeout)) :
    ({ s with timers := s.timers.erase timeout }.dispatchTimer now timeout).QueueInv := by
  by_cases hnext : timeout = ⟨.SendNextNotify, 0⟩
  · rw [hnext] at hpending ⊢
    have hseq : ¬0 = s.mTimerSeq := by simpa [swallowed, hnext, eq_comm] using hswallowed
    obtain ⟨hqueue, hone, hhanded⟩ := h.moving.of_next hlive hpending
    have hwaiting : { s with timers := s.timers.erase ⟨.SendNextNotify, 0⟩ }.Waiting := by
      refine ⟨hlive, hqueue, hhanded, ?_, h.inOrder.answered, h.inOrder.queued⟩
      have hcount : s.timers.count ⟨.SendNextNotify, 0⟩ = 1 := hone
      simp [nextTimers, List.count_erase_self, hcount]
    unfold ClientSubscription.dispatchTimer
    dsimp only
    rw [if_neg hseq, if_pos ⟨rfl, rfl⟩]
    refine hwaiting.processNextNotify now ?_
    simpa [answersLate, hnext, lateRejection, isLate] using hlate
  · have hsame : SameQueue s { s with timers := s.timers.erase timeout } :=
      ⟨rfl, rfl, List.count_erase_of_ne (Ne.symm hnext), rfl, rfl, id⟩
    have herased := hsame.queueInv h
    unfold ClientSubscription.dispatchTimer
    split
    · split
      · split
        · exact (sameQueue_terminate _).queueInv herased
        · exact (sameQueue_callback _ _).queueInv herased
      · split
        · exact herased
        · split
          · exact (sameQueue_requestRefresh _ now 0).queueInv herased
          · exact (sameQueue_delete _).queueInv herased
      · exact (sameQueue_requestRefresh _ now 0).queueInv herased
      · exact herased
    · split
      case isTrue htimer => exact absurd (SubscriptionTimeout.ext_iff.mpr ⟨htimer.2, htimer.1⟩) hnext
      case isFalse => exact herased

theorem next {e : SubscriptionEvent} (h : s.QueueInv) (he : s.allowed e) (hlate : ¬s.answersLate e)
    (hswallowed : ¬s.swallowed e) : (s.next e).QueueInv := by
  cases e with
  | notify now msg calls => exact h.dispatchNotify (by simpa [allowed] using he) now msg calls hlate
  | response now msg calls retry =>
    have hnoted := (sameQueue_noteResponse s msg).queueInv h
    unfold ClientSubscription.next
    dsimp only
    split
    case isTrue hdispatched =>
      rw [answersLate, hdispatched, Bool.true_and] at hlate
      have hclear : SameQueue (s.noteResponse msg) { s.noteResponse msg with mRefreshing := false } :=
        ⟨rfl, rfl, rfl, rfl, rfl, id⟩
      have hanswered := hclear.queueInv hnoted
      unfold processResponse
      dsimp only
      split
      case isTrue hsuccess => exact hanswered.processSuccess now calls hsuccess hlate
      case isFalse hfailure => exact hanswered.processFailure now calls retry hfailure hlate
    case isFalse => exact hnoted
  | challenged cseq =>
    have herase : SameQueue s { s with awaited := s.awaited.erase cseq } :=
      ⟨rfl, rfl, rfl, rfl, rfl, id⟩
    exact (herase.trans (sameQueue_sendSubscribe _ _)).queueInv h
  | timer now timeout =>
    simp only [allowed, Bool.and_eq_true, Bool.not_eq_true', List.contains_iff_mem] at he
    exact h.dispatchTimer he.1 now he.2 hlate hswallowed
  | call now c => exact h.call now he hlate

end QueueInv

end ClientSubscription

end Resiprocate.Dum
