import Resiprocate.SubscriptionRuns

/-! A queued refresh of a subscription is never stranded, unless it waits for the last SUBSCRIBE
when the first 2xx arrives: that one only starts a timer that does not send. -/
namespace Resiprocate.Dum
open TransitionSystem

namespace ClientSubscription

/-- The last SUBSCRIBE has no final response yet. -/
def LastAwaited (s : ClientSubscription) : Prop := s.lastCSeq ∈ s.awaited

/-- A timer that sends a SUBSCRIBE is pending. -/
def RefreshPending (s : ClientSubscription) : Prop :=
  ∃ t ∈ s.timers, t.seq = s.mTimerSeq ∧ (t.type = .Subscription ∨ t.type = .SubscriptionRetry)

instance (s : ClientSubscription) : Decidable s.RefreshPending :=
  inferInstanceAs (Decidable (∃ t ∈ s.timers, _))

structure Covered (s : ClientSubscription) : Prop where
  refreshing : s.mRefreshing → s.LastAwaited
  queued : s.mHaveQueuedRefresh → s.mEnded = false → s.deleted = false →
    s.LastAwaited ∨ s.RefreshPending

/-- `s'` has no refresh under way or in its queue that `s` does not have, and sends what `s` does. -/
structure Keeps (s s' : ClientSubscription) : Prop where
  refreshing : s'.mRefreshing → s.mRefreshing
  queued : s'.mHaveQueuedRefresh → s.mHaveQueuedRefresh
  live : s'.mEnded = false → s'.deleted = false → s.mEnded = false ∧ s.deleted = false
  awaited : s.LastAwaited → s'.LastAwaited
  pending : s.RefreshPending → s'.RefreshPending

/-- A SUBSCRIBE was sent, or the refreshes are those of `s`. -/
def Goes (s s' : ClientSubscription) : Prop := s'.LastAwaited ∨ Keeps s s'

namespace Keeps
variable {s s' s'' : ClientSubscription}

theorem refl (s : ClientSubscription) : Keeps s s := ⟨id, id, .intro, id, id⟩

theorem trans (h : Keeps s s') (h' : Keeps s' s'') : Keeps s s'' :=
  ⟨h.refreshing ∘ h'.refreshing, h.queued ∘ h'.queued,
    fun hended hlive => h.live (h'.live hended hlive).1 (h'.live hended hlive).2,
    h'.awaited ∘ h.awaited, h'.pending ∘ h.pending⟩

theorem covered (h : Keeps s s') (hs : s.Covered) : s'.Covered :=
  ⟨fun hrefreshing => h.awaited (hs.refreshing (h.refreshing hrefreshing)),
    fun hqueued hended hlive =>
      (hs.queued (h.queued hqueued) (h.live hended hlive).1 (h.live hended hlive).2).imp
        h.awaited h.pending⟩

end Keeps

theorem LastAwaited.covered {s : ClientSubscription} (h : s.LastAwaited) : s.Covered :=
  ⟨fun _ => h, fun _ _ _ => .inl h⟩

theorem Goes.covered {s s' : ClientSubscription} (h : Goes s s') (hs : s.Covered) : s'.Covered :=
  h.elim (·.covered) (·.covered hs)

theorem Goes.refreshing {s s' : ClientSubscription} (h : Goes s s')
    (hs : s.mRefreshing → s.LastAwaited) (hrefreshing : s'.mRefreshing) : s'.LastAwaited :=
  h.elim id fun hkeeps => hkeeps.awaited (hs (hkeeps.refreshing hrefreshing))

theorem Goes.trans {s s' s'' : ClientSubscription} (h : Goes s s') (h' : Goes s' s'') :
    Goes s s'' := by
  rcases h' with h' | h'
  · exact .inl h'
  · exact h.imp h'.awaited (·.trans h')

/-- What has ended or was deleted has no queued refresh to send. -/
theorem Covered.of_gone {s : ClientSubscription} (h : s.mRefreshing → s.LastAwaited)
    (hgone : s.mEnded ∨ s.deleted) : s.Covered := by
  refine ⟨h, fun _ hended hlive => ?_⟩
  rcases hgone with hgone | hgone
  · rw [hended] at hgone
    cases hgone
  · rw [hlive] at hgone
    cases hgone

section Frame
variable (s : ClientSubscription) (now : ℕ)

theorem keeps_callback (c : SubscriptionCallback) : Keeps s (s.callback c) :=
  ⟨id, id, .intro, id, id⟩

theorem keeps_delete : Keeps s s.delete := ⟨id, id, nofun, id, id⟩

theorem keeps_terminate : Keeps s s.terminate := ⟨id, id, nofun, id, id⟩

theorem keeps_noteSubscribed : Keeps s s.noteSubscribed := ⟨nofun, id, .intro, id, id⟩

theorem keeps_tellNew : Keeps s s.tellNew := ⟨id, id, .intro, id, id⟩

theorem keeps_noteAccepted (msg : SubscribeResponse) : Keeps s (s.noteAccepted msg) :=
  ⟨id, id, .intro, id, id⟩

theorem keeps_enqueue (msg : NotifyMessage) : Keeps s (s.enqueue msg) := ⟨id, id, .intro, id, id⟩

theorem keeps_handUpdate (c : SubscriptionCallback) : Keeps s (s.handUpdate c) :=
  ⟨id, id, .intro, id, id⟩

theorem keeps_sendResponse (notify : NotifyMessage) (statusCode : ℕ) (reason : Option String) :
    Keeps s (s.sendResponse notify statusCode reason) := by
  unfold sendResponse
  dsimp only
  split
  · refine ⟨id, id, .intro, id, ?_⟩
    rintro ⟨t, ht, hseq, htype⟩
    exact ⟨t, List.mem_append_left _ ht, hseq, htype⟩
  · exact ⟨id, id, .intro, id, id⟩

theorem keeps_answer (statusCode : ℕ) (reason : Option String) :
    Keeps s (s.answer statusCode reason) := by
  unfold answer
  split
  · exact .refl s
  · rename_i qn rest _
    have hpop : Keeps s { s with mQueuedNotifies := rest, handed := false } :=
      ⟨id, id, .intro, id, id⟩
    exact hpop.trans (keeps_sendResponse _ _ _ _)

theorem keeps_rejectUpdate (statusCode : ℕ) : Keeps s (s.rejectUpdate statusCode) := by
  have hanswer := keeps_answer s statusCode none
  unfold rejectUpdate
  dsimp only
  split
  · split
    · exact hanswer
    · exact hanswer.trans (keeps_terminate _)
  · split
    · exact hanswer
    · exact hanswer.trans (keeps_terminate _)
  · exact hanswer
  · exact hanswer
  · exact hanswer

theorem refreshPending_addTimer {type : SubscriptionTimer}
    (h : type = .Subscription ∨ type = .SubscriptionRetry) : (s.addTimer type).RefreshPending :=
  ⟨⟨type, s.mTimerSeq + 1⟩, by simp [addTimer], rfl, h⟩

theorem keeps_scheduleRefresh : Keeps s s.scheduleRefresh := by
  unfold scheduleRefresh
  split
  · exact ⟨id, id, .intro, id, id⟩
  · exact ⟨id, id, .intro, id, fun _ => refreshPending_addTimer s (.inl rfl)⟩

theorem keeps_noteExpires (notify : NotifyMessage) : Keeps s (s.noteExpires now notify).1 := by
  unfold noteExpires
  dsimp only
  split_ifs
  · exact ⟨id, id, .intro, id, id⟩
  · exact ⟨id, id, .intro, id, id⟩
  · exact ⟨id, id, .intro, id, id⟩

theorem keeps_processWithoutState (notify : NotifyMessage) :
    Keeps s (s.processWithoutState notify) := by
  have haccept := (keeps_answer s 200 none).trans (keeps_terminate _)
  unfold processWithoutState
  split
  · split
    · split
      · exact keeps_handUpdate s _
      · exact haccept
    · exact haccept
    · exact haccept
  · exact (keeps_sendResponse s _ _ _).trans (keeps_terminate _)

theorem keeps_processNextNotify : Keeps s (s.processNextNotify now) := by
  unfold processNextNotify
  split
  · exact .refl s
  · rename_i qn _ _
    generalize hnote : (if qn.outOfOrder then (s, false) else s.noteExpires now qn.notify) = p
    have hp : Keeps s p.1 := by
      rw [← hnote]
      split
      · exact .refl s
      · exact keeps_noteExpires s now _
    have hrefresh : Keeps s (if p.2 then p.1.scheduleRefresh else p.1) := by
      split
      · exact hp.trans (keeps_scheduleRefresh _)
      · exact hp
    have hgoes (c : SubscriptionCallback) : Keeps s (if p.1.mEnded then p.1.rejectUpdate 481
        else (if p.2 then p.1.scheduleRefresh else p.1).handUpdate c) := by
      split
      · exact hp.trans (keeps_rejectUpdate _ _)
      · exact hrefresh.trans (keeps_handUpdate _ c)
    simp only
    split
    · exact hp.trans (keeps_processWithoutState _ _)
    · exact hp.trans ((keeps_answer _ _ _).trans (keeps_terminate _))
    · exact hgoes _
    · exact hgoes _
    · exact hgoes _

theorem keeps_queueNotify (msg : NotifyMessage) : Keeps s (s.queueNotify now msg) := by
  unfold queueNotify
  dsimp only
  split
  · exact (keeps_enqueue s msg).trans (keeps_processNextNotify _ now)
  · exact keeps_enqueue s msg

end Frame

/-! ### Sending -/

theorem lastAwaited_sendSubscribe (s : ClientSubscription) (expires : Option ℕ) :
    (s.sendSubscribe expires).LastAwaited := by
  simp [LastAwaited, sendSubscribe]

theorem lastAwaited_sent (s : ClientSubscription) (expires : Option ℕ) (type : SubscriptionTimer) :
    ((s.sendSubscribe expires).addTimer type).LastAwaited := lastAwaited_sendSubscribe s expires

theorem goes_requestRefresh {s : ClientSubscription} (h : s.mRefreshing → s.LastAwaited)
    (now expires : ℕ) : Goes s (s.requestRefresh now expires) := by
  unfold requestRefresh
  split
  · exact .inr (.refl s)
  · split
    case isTrue hrefreshing => exact .inl (h hrefreshing)
    case isFalse => exact .inl (lastAwaited_sent _ _ _)

/-- A refresh that is asked for is sent at once, or waits for one that is under way. -/
theorem covered_requestRefresh {s : ClientSubscription} (h : s.mRefreshing → s.LastAwaited)
    (now expires : ℕ) : (s.requestRefresh now expires).Covered := by
  unfold requestRefresh
  split
  case isTrue hended => exact .of_gone h (.inl hended)
  case isFalse =>
    split
    case isTrue hrefreshing => exact LastAwaited.covered (h hrefreshing)
    case isFalse => exact LastAwaited.covered (lastAwaited_sent _ _ _)

theorem goes_endSubscription (s : ClientSubscription) (immediate : Bool) :
    Goes s (s.endSubscription immediate) := by
  unfold endSubscription
  split
  · exact .inr (.refl s)
  · split
    · exact .inl (lastAwaited_sent _ _ _)
    · exact .inr (keeps_delete s)

theorem goes_call {s : ClientSubscription} (h : s.mRefreshing → s.LastAwaited) (now : ℕ)
    (c : SubscriptionCall) : Goes s (s.call now c) := by
  cases c with
  | acceptUpdate statusCode => exact .inr (keeps_answer s statusCode none)
  | rejectUpdate statusCode => exact .inr (keeps_rejectUpdate s statusCode)
  | requestRefresh expires => exact goes_requestRefresh h now expires
  | endSubscription immediate => exact goes_endSubscription s immediate

theorem goes_react {s : ClientSubscription} (h : s.mRefreshing → s.LastAwaited) (now : ℕ)
    (calls : List SubscriptionCall) : Goes s (s.react now calls) := by
  induction calls generalizing s with
  | nil => exact .inr (.refl s)
  | cons c calls ih =>
    simp only [react, List.foldl_cons]
    split
    · have hcall := goes_call h now c
      exact hcall.trans (ih (hcall.refreshing h))
    · exact ih h

/-! ### Responses -/

/-- When the application has been told of the subscription by a 2xx, a refresh is queued, and the
last SUBSCRIBE has its final response. -/
def strandsIn (s : ClientSubscription) (now : ℕ) (msg : SubscribeResponse)
    (calls : List SubscriptionCall) : Bool :=
  let told := (s.noteAccepted msg).tellNew.react now calls
  isSuccess msg && !s.mOnNewSubscriptionCalled && told.mHaveQueuedRefresh &&
    !told.awaited.contains told.lastCSeq

def strands (s : ClientSubscription) : SubscriptionEvent → Bool
  | .response now msg calls _ =>
    s.isDispatched msg && { s.noteResponse msg with mRefreshing := false }.strandsIn now msg calls
  | .notify _ _ _ | .challenged _ | .timer _ _ | .call _ _ => false

theorem covered_sendQueuedRefreshRequest {s : ClientSubscription} (hidle : s.mRefreshing = false)
    (now : ℕ) : (s.sendQueuedRefreshRequest now).Covered := by
  unfold sendQueuedRefreshRequest
  split
  · exact covered_requestRefresh (by simp [hidle]) now _
  case isFalse hnone => exact ⟨by simp [hidle], fun hqueued => absurd hqueued hnone⟩

theorem covered_processSuccess {s : ClientSubscription} (hidle : s.mRefreshing = false) (now : ℕ)
    {msg : SubscribeResponse} (calls : List SubscriptionCall) (hsuccess : isSuccess msg)
    (hstrands : ¬s.strandsIn now msg calls) : (s.processSuccess now msg calls).Covered := by
  have htold : (s.noteAccepted msg).tellNew.mRefreshing → (s.noteAccepted msg).tellNew.LastAwaited :=
    fun hrefreshing => absurd (hidle.symm.trans hrefreshing) (by simp)
  unfold processSuccess
  dsimp only
  split
  case isTrue hnew =>
    rw [show (s.noteAccepted msg).mOnNewSubscriptionCalled = s.mOnNewSubscriptionCalled from rfl]
      at hnew
    simp only [strandsIn, hsuccess, hnew, Bool.true_and, Bool.and_eq_true, Bool.not_eq_true',
      List.contains_eq_mem, decide_eq_false_iff_not, not_and, not_not] at hstrands
    have hrefreshing := (goes_react htold now calls).refreshing htold
    split
    case isTrue hgone => exact .of_gone hrefreshing ((Bool.or_eq_true _ _).mp hgone).symm
    case isFalse => exact ⟨hrefreshing, fun hqueued _ _ => .inl (hstrands hqueued)⟩
  case isFalse =>
    split
    case isTrue => exact covered_sendQueuedRefreshRequest (s := s.noteAccepted msg) hidle now
    case isFalse hended => exact .of_gone htold (.inl (by simpa using hended))

theorem covered_processFailure {s : ClientSubscription} (hidle : s.mRefreshing = false) (now : ℕ)
    {msg : SubscribeResponse} (calls : List SubscriptionCall) (retry : ℤ)
    (hfailure : ¬isSuccess msg) (hprovisional : msg.statusCode < 200 → s.Covered) :
    (s.processFailure now msg calls retry).Covered := by
  have hnone : s.mRefreshing → s.LastAwaited := by simp [hidle]
  unfold processFailure
  dsimp only
  split
  · exact .of_gone hnone (.inr rfl)
  · split
    · have hcallback := (keeps_callback s (.onRequestRetry (msg.retryAfter.getD 0)))
      have htold := (Goes.refreshing (.inr hcallback) hnone)
      have hrefreshing := (goes_react htold now calls).refreshing htold
      split
      case isTrue hgone => exact .of_gone hrefreshing (.inr hgone)
      case isFalse =>
        split
        · exact .of_gone hrefreshing (.inr rfl)
        · split
          · split
            · exact covered_requestRefresh hrefreshing now 0
            · exact .of_gone hrefreshing (.inr rfl)
          · exact ⟨hrefreshing, fun _ _ _ => .inr (refreshPending_addTimer _ (.inr rfl))⟩
    · split
      · split
        · exact covered_requestRefresh hnone now _
        · exact .of_gone hnone (.inr rfl)
      case isFalse hlow =>
        refine hprovisional ?_
        simp only [isSuccess, Bool.and_eq_true, decide_eq_true_eq, not_and, not_lt] at hfailure
        omega

/-- A response to another SUBSCRIBE, or a provisional one, leaves the last one awaited. -/
theorem keeps_noteResponse (s : ClientSubscription) {msg : SubscribeResponse}
    (h : msg.cseq = s.lastCSeq → msg.statusCode < 200) : Keeps s (s.noteResponse msg) := by
  unfold noteResponse
  split
  · refine ⟨id, id, .intro, fun hawaited => ?_, id⟩
    have hne : s.lastCSeq ≠ msg.cseq := fun heq => by
      have := h heq.symm
      omega
    exact (List.mem_erase_of_ne hne).mpr hawaited
  · exact .refl s

namespace Covered
variable {s : ClientSubscription}

theorem dispatchNotify (h : s.Covered) (now : ℕ) (msg : NotifyMessage)
    (calls : List SubscriptionCall) : (s.dispatchNotify now msg calls).Covered := by
  have hsubscribed := (keeps_noteSubscribed s).covered h
  unfold ClientSubscription.dispatchNotify
  dsimp only
  split
  · have htold := (keeps_tellNew _).covered hsubscribed
    have hreact := (goes_react htold.refreshing now calls).covered htold
    split
    · exact hreact
    · exact (keeps_queueNotify _ now msg).covered hreact
  · exact (keeps_queueNotify _ now msg).covered hsubscribed

theorem response (h : s.Covered) (now : ℕ) {msg : SubscribeResponse}
    (calls : List SubscriptionCall) (retry : ℤ) (hdispatched : s.isDispatched msg)
    (hstrands : ¬s.strands (.response now msg calls retry)) :
    ((s.noteResponse msg).processResponse now msg calls retry).Covered := by
  rw [strands, hdispatched, Bool.true_and] at hstrands
  unfold processResponse
  dsimp only
  split
  case isTrue hsuccess => exact covered_processSuccess rfl now calls hsuccess hstrands
  case isFalse hfailure =>
    refine covered_processFailure rfl now calls retry hfailure fun hprovisional => ?_
    have hclear : Keeps (s.noteResponse msg) { s.noteResponse msg with mRefreshing := false } :=
      ⟨nofun, id, .intro, id, id⟩
    exact ((keeps_noteResponse s fun _ => hprovisional).trans hclear).covered h

/-- The last timer is the only one that sends. -/
theorem dispatchTimer (h : s.Covered) (now : ℕ) (timeout : SubscriptionTimeout) :
    ({ s with timers := s.timers.erase timeout }.dispatchTimer now timeout).Covered := by
  have hrefreshing : { s with timers := s.timers.erase timeout }.mRefreshing →
      { s with timers := s.timers.erase timeout }.LastAwaited := h.refreshing
  -- what does not send leaves the one that sends pending
  have hkeeps (hother : ¬(timeout.seq = s.mTimerSeq ∧
      (timeout.type = .Subscription ∨ timeout.type = .SubscriptionRetry))) :
      Keeps s { s with timers := s.timers.erase timeout } := by
    refine ⟨id, id, .intro, id, ?_⟩
    rintro ⟨t, ht, hseq, htype⟩
    have hne : t ≠ timeout := fun heq => hother (heq ▸ ⟨hseq, htype⟩)
    exact ⟨t, (List.mem_erase_of_ne hne).mpr ht, hseq, htype⟩
  unfold ClientSubscription.dispatchTimer
  split
  case isTrue hseq =>
    split
    case h_1 htype =>
      have hsame := hkeeps (by simp [htype])
      split
      · exact (hsame.trans (keeps_terminate _)).covered h
      · exact (hsame.trans (keeps_callback _ _)).covered h
    case h_2 =>
      split
      case isTrue hended => exact .of_gone hrefreshing (.inl hended)
      case isFalse =>
        split
        · exact covered_requestRefresh hrefreshing now 0
        · exact .of_gone hrefreshing (.inr rfl)
    case h_3 => exact covered_requestRefresh hrefreshing now 0
    case h_4 htype => exact (hkeeps (by simp [htype])).covered h
  case isFalse hseq =>
    have hsame := hkeeps fun hlast => hseq hlast.1
    split
    · exact (hsame.trans (keeps_processNextNotify _ now)).covered h
    · exact hsame.covered h

theorem next (h : s.Covered) {e : SubscriptionEvent} (hstrands : ¬s.strands e) :
    (s.next e).Covered := by
  cases e with
  | notify now msg calls => exact h.dispatchNotify now msg calls
  | response now msg calls retry =>
    unfold ClientSubscription.next
    dsimp only
    split
    case isTrue hdispatched => exact h.response now calls retry hdispatched hstrands
    case isFalse hother =>
      simp only [isDispatched, Bool.or_eq_true, decide_eq_true_eq, not_or] at hother
      exact (keeps_noteResponse s fun heq => absurd heq hother.1).covered h
  | challenged cseq => exact LastAwaited.covered (lastAwaited_sendSubscribe _ _)
  | timer now timeout => exact h.dispatchTimer now timeout
  | call now c => exact (goes_call h.refreshing now c).covered h

end Covered

/-! ### Runs -/

/-- No NOTIFY is answered after the end while others wait behind it, no timer for the next NOTIFY is
swallowed, and no queued refresh is left behind by the first 2xx. -/
def steady (s : ClientSubscription) (e : SubscriptionEvent) : Prop :=
  ¬s.answersLate e ∧ ¬s.swallowed e ∧ ¬s.strands e

instance (s : ClientSubscription) (e : SubscriptionEvent) : Decidable (s.steady e) :=
  inferInstanceAs (Decidable (_ ∧ _ ∧ _))

theorem Created.queueInv {s : ClientSubscription} (h : s.Created) : s.QueueInv := by
  refine ⟨fun _ => ?_, ?_, fun _ => ?_⟩
  · simp [nextTimers, h.timers, h.handed, h.queue]
  · simp [h.answers]
  · simp [h.answers, h.queue, h.received]

theorem Created.covered {s : ClientSubscription} (h : s.Created) : s.Covered :=
  ⟨by simp [h.refreshing], by simp [h.queuedRefresh]⟩

theorem queueInv_covered {s : ClientSubscription} (h : Reach runs steady s) :
    s.QueueInv ∧ s.Covered := by
  induction h with
  | init h => exact ⟨h.queueInv, h.covered⟩
  | step _ he hok ih =>
    exact ⟨ih.1.next he hok.1 hok.2.1, ih.2.next hok.2.2⟩

/-- The first NOTIFY is with the application or a timer for it is pending, all are answered once and
in order, and a queued refresh will be sent. -/
theorem queues_go_on {s : ClientSubscription} (h : Reach runs steady s) :
    (s.deleted = false → s.mQueuedNotifies ≠ [] →
      s.handed ∨ ⟨.SendNextNotify, 0⟩ ∈ s.timers) ∧
    s.InOrder ∧
    (s.mHaveQueuedRefresh → s.mEnded = false → s.deleted = false →
      s.awaited ≠ [] ∨ s.RefreshPending) := by
  obtain ⟨hqueue, hcovered⟩ := queueInv_covered h
  refine ⟨fun hlive hne => ?_, hqueue.inOrder, fun hqueued hended hlive => ?_⟩
  · have hcount := hqueue.moving hlive
    rw [if_neg hne] at hcount
    by_cases hhanded : s.handed
    · exact .inl hhanded
    · rw [if_neg hhanded] at hcount
      exact .inr (List.count_pos_iff.mp (by change 0 < s.nextTimers; omega))
  · exact (hcovered.queued hqueued hended hlive).imp_left List.ne_nil_of_mem

/-- A subscription of the SUBSCRIBE 1, in a new dialog set or in one that is used again. -/
def created (isReUsed : Bool) : ClientSubscription where
  mQueuedNotifies := []
  mOnNewSubscriptionCalled := false
  mEnded := false
  mNextRefreshSecs := 0
  mLastSubSecs := 1000
  mSubscribed := false
  mRefreshing := false
  mHaveQueuedRefresh := false
  mQueuedRefreshInterval := 0
  mLargestNotifyCSeq := 0
  mTimerSeq := 0
  lastExpires := some 3600
  lastCSeq := 1
  mLocalCSeq := 1
  isReUsed := isReUsed
  awaited := [1]
  timers := []
  handed := false
  deleted := false
  received := []
  answers := []
  callbacks := []

theorem created_created (isReUsed : Bool) : (created isReUsed).Created := by
  constructor <;> rfl

def notifyActive (cseq expires : ℕ) : NotifyMessage := ⟨cseq, some .active, some expires, false, none⟩

/-- A response to a SUBSCRIBE that names its event. -/
def responseTo (cseq statusCode : ℕ) : SubscribeResponse :=
  ⟨cseq, statusCode, none, none, none, true, true, true⟩

/-- Two NOTIFYs are answered one after the other, and a refresh is queued behind another. -/
def usualRun : List SubscriptionEvent :=
  [.response 1000 (responseTo 1 200) [] 0, .notify 1000 (notifyActive 1 600) [],
    .notify 1001 (notifyActive 2 600) [], .call 1001 (.acceptUpdate 200),
    .timer 1001 ⟨.SendNextNotify, 0⟩, .call 1002 (.requestRefresh 60),
    .call 1002 (.requestRefresh 120), .call 1003 (.rejectUpdate 400),
    .response 1003 (responseTo 2 200) [] 0]

theorem queues_go_on_usual :
    let s := usualRun.foldl runs.next (created false)
    (s.deleted = false → s.mQueuedNotifies ≠ [] →
      s.handed ∨ ⟨.SendNextNotify, 0⟩ ∈ s.timers) ∧
    s.InOrder ∧
    (s.mHaveQueuedRefresh → s.mEnded = false → s.deleted = false →
      s.awaited ≠ [] ∨ s.RefreshPending) :=
  queues_go_on ((Reach.init (created_created false)).run usualRun (by decide))

/-- The application ends the subscription before it answers the first of two NOTIFYs. -/
def lateRun : List SubscriptionEvent :=
  [.response 1000 (responseTo 1 200) [] 0, .notify 1000 (notifyActive 1 600) [],
    .notify 1001 (notifyActive 2 600) [], .call 1001 (.endSubscription false),
    .call 1001 (.acceptUpdate 200)]

/-- The first NOTIFY comes before the 2xx and names an expiry that asks for no refresh. -/
def swallowedRun : List SubscriptionEvent :=
  [.notify 1000 (notifyActive 1 5) [], .notify 1001 (notifyActive 2 5) [],
    .call 1001 (.acceptUpdate 200), .timer 1001 ⟨.SendNextNotify, 0⟩]

/-- The refresh fails and is to be tried again later, when the 2xx to the first SUBSCRIBE comes. -/
def strandedRun : List SubscriptionEvent :=
  [.notify 1000 (notifyActive 1 600) [], .call 1001 (.requestRefresh 60),
    .call 1001 (.requestRefresh 120), .response 1002 (responseTo 2 408) [] 30,
    .response 1003 (responseTo 1 200) [] 0]

theorem not_queues_go_on :
    (∃ s, Reach runs anyStep s ∧ s.deleted = false ∧ s.mQueuedNotifies ≠ [] ∧ s.mEnded ∧
      s.handed = false ∧ ⟨.SendNextNotify, 0⟩ ∉ s.timers) ∧
    (∃ s, Reach runs anyStep s ∧ s.deleted = false ∧ s.mQueuedNotifies ≠ [] ∧ s.mEnded = false ∧
      s.handed = false ∧ ⟨.SendNextNotify, 0⟩ ∉ s.timers) ∧
    ∃ s, Reach runs anyStep s ∧ s.mHaveQueuedRefresh ∧ s.mEnded = false ∧ s.deleted = false ∧
      s.awaited = [] ∧ ¬s.RefreshPending := by
  refine ⟨⟨lateRun.foldl runs.next (created false), ?_⟩,
    ⟨swallowedRun.foldl runs.next (created false), ?_⟩,
    ⟨strandedRun.foldl runs.next (created true), ?_⟩⟩
  · exact ⟨(Reach.init (created_created false)).run lateRun (by decide), by decide⟩
  · exact ⟨(Reach.init (created_created false)).run swallowedRun (by decide), by decide⟩
  · exact ⟨(Reach.init (created_created true)).run strandedRun (by decide), by decide⟩

end ClientSubscription

end Resiprocate.Dum
