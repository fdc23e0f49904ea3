import Mathlib.Data.List.Basic
import Mathlib.Tactic.Set
import Mathlib.Tactic.SplitIfs

/-! The session timers of an `InviteSession` (RFC 4028): what goes into the Session-Expires
and Min-SE headers of an INVITE, an UPDATE and their responses, what each side makes of them,
and the refresh or expiration timer it starts. -/
namespace Resiprocate.Dum

/-- An option tag of a Supported or Require header. -/
inductive OptionTag
  | timer
  | other (name : String)
  deriving DecidableEq

/-- The `refresher` parameter of a Session-Expires header. -/
inductive RefresherParam
  | uac
  | uas
  | other (value : String)
  deriving DecidableEq

structure SessionExpires where
  value : ℕ
  refresher : Option RefresherParam

/-- The methods the session-timer handlers assert. -/
inductive SessionMethod
  | INVITE
  | UPDATE

/-- The headers of an INVITE, an UPDATE or a response to one that session timers read and write. -/
structure TimerMessage where
  method : SessionMethod
  responseCode : Option ℕ
  supporteds : List OptionTag
  requires : List OptionTag
  sessionExpires : Option SessionExpires
  minSE : Option ℕ
  pAssertedIdentities : Option (List String)

namespace TimerMessage

def isRequest (msg : TimerMessage) : Bool := msg.responseCode.isNone

/-- A response as `Dialog::makeResponse` leaves it: without session-timer headers. -/
def makeResponse (request : TimerMessage) (code : ℕ) (supporteds requires : List OptionTag)
    (pAssertedIdentities : Option (List String)) : TimerMessage :=
  ⟨request.method, some code, supporteds, requires, none, none, pAssertedIdentities⟩

end TimerMessage

inductive SessionTimerMode
  | PreferLocalRefreshes
  | PreferRemoteRefreshes
  | PreferCalleeRefreshes
  | PreferCallerRefreshes

structure TimerProfile where
  supportsTimer : Bool
  defaultSessionTime : ℕ
  defaultSessionTimerMode : SessionTimerMode

inductive SessionRole
  | client
  | server
  deriving DecidableEq

inductive SessionTimerType
  | SessionRefresh
  | SessionExpiration
  deriving DecidableEq

/-- A `DumTimeout` of one of the two session-timer types. -/
structure SessionTimeout where
  type : SessionTimerType
  delay : ℕ
  seq : ℕ
  deriving DecidableEq

/-- The session-timer fields of an `InviteSession`, with its session timeouts that are still in the
manager's queue. A timeout carries the sequence number it was started with. -/
structure TimedSession where
  profile : TimerProfile
  role : SessionRole
  mSessionInterval : ℕ
  mMinSE : ℕ
  mSessionRefresher : Bool
  mSessionTimerSeq : ℕ
  mPeerPAssertedIdentities : List String
  timeouts : List SessionTimeout
  started : ∀ t ∈ timeouts, t.seq ≤ mSessionTimerSeq

namespace TimedSession

/-- `dispatch(DumTimeout)` passes over a session timeout that is not the current one. -/
def Current (s : TimedSession) (t : SessionTimeout) : Prop :=
  t ∈ s.timeouts ∧ t.seq = s.mSessionTimerSeq

def setSessionTimerHeaders (s : TimedSession) (msg : TimerMessage) : TimerMessage :=
  if 90 ≤ s.mSessionInterval then
    { msg with
      sessionExpires := some ⟨s.mSessionInterval,
        some (if msg.isRequest then (if s.mSessionRefresher then .uac else .uas)
          else (if s.mSessionRefresher then .uas else .uac))⟩
      minSE := if msg.isRequest ∨ msg.responseCode = some 422 then some s.mMinSE else msg.minSE }
  else
    { msg with sessionExpires := none, minSE := none }

/-- The default interval and refresher, for when the other side asks for nothing else. -/
def setSessionTimerPreferences (s : TimedSession) : TimedSession :=
  { s with
    mSessionInterval := if s.profile.defaultSessionTime ≠ 0
      then max s.mMinSE s.profile.defaultSessionTime else s.profile.defaultSessionTime
    mSessionRefresher := match s.profile.defaultSessionTimerMode with
      | .PreferLocalRefreshes => true
      | .PreferRemoteRefreshes => false
      | .PreferCalleeRefreshes => s.role = .server
      | .PreferCallerRefreshes => s.role = .client }

/-- `addTimer` with the next sequence number. -/
def addTimer (s : TimedSession) (type : SessionTimerType) (delay : ℕ) : TimedSession :=
  { s with
    mSessionTimerSeq := s.mSessionTimerSeq + 1
    timeouts := ⟨type, delay, s.mSessionTimerSeq + 1⟩ :: s.timeouts
    started := by
      intro t ht
      rcases List.mem_cons.mp ht with rfl | ht
      · exact Nat.le_refl _
      · exact Nat.le_succ_of_le (s.started t ht) }

def startSessionTimer (s : TimedSession) : TimedSession :=
  if 90 ≤ s.mSessionInterval then
    if s.mSessionRefresher then
      s.addTimer .SessionRefresh (s.mSessionInterval / 2)
    else
      -- the BYE is due 32 seconds, or a third of the interval, before the session expires
      s.addTimer .SessionExpiration (s.mSessionInterval - min 32 (s.mSessionInterval / 3))
  else
    -- timers that still run from before are no longer the current ones
    { s with
      mSessionTimerSeq := s.mSessionTimerSeq + 1
      started := fun t ht => Nat.le_succ_of_le (s.started t ht) }

def updatePeerIdentities (s : TimedSession) (msg : TimerMessage) : TimedSession :=
  { s with mPeerPAssertedIdentities := msg.pAssertedIdentities.getD s.mPeerPAssertedIdentities }

def updateMinSE (s : TimedSession) (msg : TimerMessage) : TimedSession :=
  { s with mMinSE := match msg.minSE with
      | some value => max s.mMinSE value
      | none => s.mMinSE }

/-- What the headers of a response settle, once the preferences are set. -/
def readResponse (s : TimedSession) (msg : TimerMessage) : TimedSession :=
  match msg.sessionExpires with
  | none =>
    if .timer ∈ msg.requires then
      { s with mSessionInterval := 0 }
    else
      -- the far end does not support session timers: the refresher must be local
      { s with mSessionRefresher := true }
  | some expires =>
    { s with
      mSessionInterval := expires.value
      mSessionRefresher := match expires.refresher with
        | some refresher => refresher = .uac
        | none => s.mSessionRefresher }

/-- The interval and the refresher a session settles on when it is answered. -/
def settleResponse (s : TimedSession) (msg : TimerMessage) : TimedSession :=
  (s.setSessionTimerPreferences.readResponse msg).updateMinSE msg

def handleSessionTimerResponse (s : TimedSession) (msg : TimerMessage) : TimedSession :=
  let s := s.updatePeerIdentities msg
  if s.profile.supportsTimer then (s.settleResponse msg).startSessionTimer else s

/-- What the headers of a request settle, once the preferences are set. -/
def readRequest (s : TimedSession) (request : TimerMessage) : TimedSession :=
  if .timer ∈ request.supporteds then
    match request.sessionExpires with
    | none => s
    | some expires =>
      { s with
        mSessionInterval := expires.value
        mSessionRefresher := match expires.refresher with
          | some refresher => refresher = .uas
          | none => s.mSessionRefresher }
  else
    { s with mSessionRefresher := true }

/-- The interval and the refresher a session settles on when it answers a request. -/
def settleRequest (s : TimedSession) (request : TimerMessage) : TimedSession :=
  (s.updateMinSE request).setSessionTimerPreferences.readRequest request

/-- The headers that a session which has settled puts into its response. -/
def answerRequest (s : TimedSession) (response request : TimerMessage) : TimerMessage :=
  if 90 ≤ s.mSessionInterval then
    s.setSessionTimerHeaders
      (if .timer ∈ request.supporteds ∧ .timer ∉ response.requires
        then { response with requires := response.requires ++ [.timer] } else response)
  else response

def handleSessionTimerRequest (s : TimedSession) (response request : TimerMessage) :
    TimedSession × TimerMessage :=
  let s := s.updatePeerIdentities request
  if s.profile.supportsTimer then
    let s := s.settleRequest request
    (s.startSessionTimer, s.answerRequest response request)
  else (s, response)

/-! ### The timer that is current -/

lemma current_addTimer {s : TimedSession} {type : SessionTimerType} {delay : ℕ}
    {t : SessionTimeout} :
    (s.addTimer type delay).Current t ↔ t = ⟨type, delay, s.mSessionTimerSeq + 1⟩ := by
  constructor
  · rintro ⟨hmem, hseq⟩
    rcases List.mem_cons.mp hmem with rfl | hmem
    · rfl
    · -- an older timer has an older number
      have hle := s.started t hmem
      change t.seq = s.mSessionTimerSeq + 1 at hseq
      omega
  · rintro rfl
    exact ⟨List.mem_cons_self, rfl⟩

lemma expiration_startSessionTimer {s : TimedSession} {t : SessionTimeout}
    (ht : s.startSessionTimer.Current t) (htype : t.type = .SessionExpiration) :
    90 ≤ s.mSessionInterval ∧ s.mSessionRefresher = false ∧
      t.delay = s.mSessionInterval - min 32 (s.mSessionInterval / 3) := by
  unfold startSessionTimer at ht
  split_ifs at ht with hinterval hrefresher
  · rw [current_addTimer] at ht
    simp [ht] at htype
  · rw [current_addTimer] at ht
    exact ⟨hinterval, by simpa using hrefresher, by rw [ht]⟩
  · have hle := s.started t ht.1
    have hseq : t.seq = s.mSessionTimerSeq + 1 := ht.2
    omega

lemma refresh_startSessionTimer {s : TimedSession} (hinterval : 90 ≤ s.mSessionInterval)
    (hrefresher : s.mSessionRefresher = true) :
    s.startSessionTimer.Current
      ⟨.SessionRefresh, s.mSessionInterval / 2, s.mSessionTimerSeq + 1⟩ := by
  rw [startSessionTimer, if_pos hinterval, if_pos hrefresher, current_addTimer]

/-- Whenever `x` waits for a refresh, `y` is about to send one in time. -/
def AnsweredBy (x y : TimedSession) : Prop :=
  ∀ t, x.Current t → t.type = .SessionExpiration →
    ∃ r, y.Current r ∧ r.type = .SessionRefresh ∧ r.delay ≤ t.delay

lemma answeredBy_startSessionTimer {x y : TimedSession}
    (h : 90 ≤ x.mSessionInterval → x.mSessionRefresher = false →
      y.mSessionInterval = x.mSessionInterval ∧ y.mSessionRefresher = true) :
    x.startSessionTimer.AnsweredBy y.startSessionTimer := by
  intro t ht htype
  obtain ⟨hinterval, hrefresher, hdelay⟩ := expiration_startSessionTimer ht htype
  obtain ⟨hsame, hy⟩ := h hinterval hrefresher
  refine ⟨_, refresh_startSessionTimer (by omega) hy, rfl, ?_⟩
  -- half of the interval against all of it but a third
  change y.mSessionInterval / 2 ≤ t.delay
  omega

lemma answeredBy_of_refresher {x y : TimedSession}
    (hx : 90 ≤ x.mSessionInterval → x.mSessionRefresher = true) :
    x.startSessionTimer.AnsweredBy y := by
  intro t ht htype
  obtain ⟨hinterval, hrefresher, -⟩ := expiration_startSessionTimer ht htype
  simp [hx hinterval] at hrefresher

lemma answeredBy_of_idle {x y : TimedSession} (hx : ∀ t, ¬x.Current t) : x.AnsweredBy y :=
  fun t ht => absurd ht (hx t)

/-! ### What the two sides settle on -/

lemma settleResponse_expires {s : TimedSession} {msg : TimerMessage} {value : ℕ}
    {refresher : RefresherParam} (h : msg.sessionExpires = some ⟨value, some refresher⟩) :
    (s.settleResponse msg).mSessionInterval = value ∧
      (s.settleResponse msg).mSessionRefresher = decide (refresher = .uac) := by
  simp [settleResponse, readResponse, updateMinSE, h]

/-- Without a Session-Expires header the timer is either off or our own to refresh. -/
lemma settleResponse_none {s : TimedSession} {msg : TimerMessage}
    (h : msg.sessionExpires = none) :
    (s.settleResponse msg).mSessionInterval = 0 ∨
      (s.settleResponse msg).mSessionRefresher = true := by
  by_cases hrequires : OptionTag.timer ∈ msg.requires
  · left
    simp [settleResponse, readResponse, updateMinSE, h, hrequires]
  · right
    simp [settleResponse, readResponse, updateMinSE, h, hrequires]

lemma settleRequest_unlisted {s : TimedSession} {request : TimerMessage}
    (h : OptionTag.timer ∉ request.supporteds) :
    (s.settleRequest request).mSessionRefresher = true := by
  simp [settleRequest, readRequest, h]

lemma sessionExpires_setSessionTimerHeaders {s : TimedSession} {msg : TimerMessage}
    (hmsg : msg.isRequest = false) (hinterval : 90 ≤ s.mSessionInterval) :
    (s.setSessionTimerHeaders msg).sessionExpires =
      some ⟨s.mSessionInterval, some (if s.mSessionRefresher then .uas else .uac)⟩ := by
  simp [setSessionTimerHeaders, hinterval, hmsg]

lemma sessionExpires_answerRequest {s : TimedSession} {response : TimerMessage}
    (request : TimerMessage) (hresponse : response.isRequest = false)
    (hnone : response.sessionExpires = none) :
    (s.answerRequest response request).sessionExpires =
      if 90 ≤ s.mSessionInterval then
        some ⟨s.mSessionInterval, some (if s.mSessionRefresher then .uas else .uac)⟩
      else none := by
  by_cases hinterval : 90 ≤ s.mSessionInterval
  · rw [answerRequest, if_pos hinterval, if_pos hinterval]
    apply sessionExpires_setSessionTimerHeaders _ hinterval
    split
    · exact hresponse
    · exact hresponse
  · rw [answerRequest, if_neg hinterval, if_neg hinterval, hnone]

/-- A session that settled on its answer and the one that settles on reading it have the same
interval and opposite roles. -/
lemma settle_agree {a b : TimedSession} {response : TimerMessage}
    (request : TimerMessage) (hresponse : response.isRequest = false)
    (hnone : response.sessionExpires = none) :
    let x := a.settleResponse (b.answerRequest response request)
    (90 ≤ b.mSessionInterval → x.mSessionInterval = b.mSessionInterval ∧
      x.mSessionRefresher = !b.mSessionRefresher) ∧
    (¬90 ≤ b.mSessionInterval → x.mSessionInterval = 0 ∨ x.mSessionRefresher = true) := by
  have hexpires := sessionExpires_answerRequest (s := b) request hresponse hnone
  constructor
  · intro hinterval
    rw [if_pos hinterval] at hexpires
    obtain ⟨hvalue, hrefresher⟩ := settleResponse_expires (s := a) hexpires
    refine ⟨hvalue, hrefresher.trans ?_⟩
    cases b.mSessionRefresher <;> rfl
  · intro hinterval
    rw [if_neg hinterval] at hexpires
    exact settleResponse_none hexpires

/-! ### The exchange -/

@[simp] lemma profile_updatePeerIdentities (s : TimedSession) (msg : TimerMessage) :
    (s.updatePeerIdentities msg).profile = s.profile := rfl

lemma current_updatePeerIdentities {s : TimedSession} {msg : TimerMessage} {t : SessionTimeout} :
    (s.updatePeerIdentities msg).Current t ↔ s.Current t := Iff.rfl

@[simp] lemma supporteds_setSessionTimerHeaders (s : TimedSession) (msg : TimerMessage) :
    (s.setSessionTimerHeaders msg).supporteds = msg.supporteds := by
  unfold setSessionTimerHeaders
  split_ifs <;> rfl

end TimedSession

open TimedSession TimerMessage

/-- The 200 to a request: what the answering session is afterwards and what it sends. -/
def answer200 (b : TimedSession) (request : TimerMessage) (supporteds requires : List OptionTag)
    (identities : Option (List String)) : TimedSession × TimerMessage :=
  b.handleSessionTimerRequest (makeResponse request 200 supporteds requires identities) request

/-- No session timer of a side that does not do session timers is left over from before. -/
def NoLeftover (s : TimedSession) : Prop :=
  s.profile.supportsTimer = false → ∀ t, ¬s.Current t

/-- A session of a call of thirty minutes. -/
def halfHourSession (supportsTimer : Bool) (timeouts : List SessionTimeout)
    (started : ∀ t ∈ timeouts, t.seq ≤ 1) : TimedSession where
  profile := ⟨supportsTimer, 1800, .PreferCallerRefreshes⟩
  role := if supportsTimer then .client else .server
  mSessionInterval := if supportsTimer then 1800 else 90
  mMinSE := 90
  mSessionRefresher := supportsTimer
  mSessionTimerSeq := 1
  mPeerPAssertedIdentities := []
  timeouts := timeouts
  started := started

/-- An UPDATE that lists timer as supported. -/
def plainUpdate : TimerMessage := ⟨.UPDATE, none, [.timer], [], none, none, none⟩

end Resiprocate.Dum
