import Resiprocate.TransitionSystem

/-! The INFO, MESSAGE and REFER requests that are sent in an invite session. One is under way at a
time, the others wait in a queue, as long as no provisional response comes to one of them: each
response is taken for the final one. -/
namespace Resiprocate.Dum
open TransitionSystem

inductive NitMethod
  | INFO
  | MESSAGE
  | REFER
  deriving DecidableEq

inductive NitState
  | NitComplete
  | NitProceeding
  deriving DecidableEq

/-- `QueuedNIT`. The requests are told apart by the number of the call that made them. -/
structure Nit where
  call : ℕ
  method : NitMethod
  referSubscription : Bool
  deriving DecidableEq

structure SentNit where
  nit : Nit
  cseq : ℕ
  deriving DecidableEq

/-- The value of a `Refer-Sub` header. -/
inductive ReferSub
  | refused
  | other
  deriving DecidableEq

structure NitResponse where
  statusCode : ℕ
  referSub : Option ReferSub
  deriving DecidableEq

inductive NitCallback
  | onInfoFailure (call : ℕ)
  | onInfoSuccess (call : ℕ)
  | onMessageFailure (call : ℕ)
  | onMessageSuccess (call : ℕ)
  | onReferRejected (call : ℕ)
  | onReferAccepted (call : ℕ)
  deriving DecidableEq

/-- The part of an `InviteSession` for these requests, and `mLocalCSeq` of its dialog. -/
structure NitSession where
  mNitState : NitState
  mNITQueue : List Nit
  mReferSub : Bool
  mLastSentNITRequest : Option SentNit
  mLocalCSeq : ℕ
  /-- The requests that were sent and have no final response yet. -/
  outstanding : List SentNit
  /-- The requests that the application asked for, and those that were sent, once each. -/
  called : List Nit
  sent : List SentNit
  callbacks : List NitCallback
  /-- An assertion on `mNitState` has failed. -/
  asserted : Bool

namespace NitSession

def callback (s : NitSession) (c : NitCallback) : NitSession :=
  { s with callbacks := s.callbacks ++ [c] }

/-- The request gets the next sequence number and is sent. -/
def sendNit (s : NitSession) (nit : Nit) : NitSession :=
  let request : SentNit := ⟨nit, s.mLocalCSeq + 1⟩
  { s with
    mNitState := .NitProceeding
    mLastSentNITRequest := some request
    mLocalCSeq := s.mLocalCSeq + 1
    outstanding := s.outstanding ++ [request]
    sent := s.sent ++ [request] }

/-- What `info`, `message` and `refer` have in common. -/
def request (s : NitSession) (nit : Nit) : NitSession :=
  let s := { s with called := s.called ++ [nit] }
  match s.mNitState with
  | .NitComplete =>
    let s := if nit.method = .REFER then { s with mReferSub := nit.referSubscription } else s
    s.sendNit nit
  | .NitProceeding => { s with mNITQueue := s.mNITQueue ++ [nit] }

def info (s : NitSession) : NitSession := s.request ⟨s.called.length, .INFO, false⟩

def message (s : NitSession) : NitSession := s.request ⟨s.called.length, .MESSAGE, false⟩

/-- `refer` throws unless the session is connected. -/
def refer (s : NitSession) (isConnected referSub : Bool) : NitSession :=
  if isConnected then s.request ⟨s.called.length, .REFER, referSub⟩ else s

def nitComplete (s : NitSession) : NitSession :=
  match s.mNITQueue with
  | [] => { s with mNitState := .NitComplete }
  | qn :: rest =>
    { s with mNITQueue := rest, mReferSub := qn.referSubscription }.sendNit qn

/-- `dispatchInfo` and `dispatchMessage` of a response. -/
def dispatchResponse (s : NitSession) (failure success : NitCallback) (msg : NitResponse) :
    NitSession :=
  let s := { s with asserted := s.asserted || decide (s.mNitState ≠ NitState.NitProceeding) }
  let s :=
    if 300 ≤ msg.statusCode then s.callback failure
    else if 200 ≤ msg.statusCode then s.callback success
    else s
  s.nitComplete

def dispatchInfo (s : NitSession) (call : ℕ) (msg : NitResponse) : NitSession :=
  s.dispatchResponse (.onInfoFailure call) (.onInfoSuccess call) msg

def dispatchMessage (s : NitSession) (call : ℕ) (msg : NitResponse) : NitSession :=
  s.dispatchResponse (.onMessageFailure call) (.onMessageSuccess call) msg

/-- `Dialog::dispatch` of a response to a REFER. -/
def dispatchRefer (s : NitSession) (call : ℕ) (msg : NitResponse) : NitSession :=
  let s :=
    if 300 ≤ msg.statusCode then s.callback (.onReferRejected call)
    else if !s.mReferSub && msg.referSub ≠ some .other then s.callback (.onReferAccepted call)
    -- else the first NOTIFY accepts it
    else s
  s.nitComplete

def dispatch (s : NitSession) (request : SentNit) (msg : NitResponse) : NitSession :=
  match request.nit.method with
  | .INFO => s.dispatchInfo request.nit.call msg
  | .MESSAGE => s.dispatchMessage request.nit.call msg
  | .REFER => s.dispatchRefer request.nit.call msg

end NitSession

/-! ### Runs -/

inductive NitEvent
  | info
  | message
  | refer (isConnected referSub : Bool)
  /-- A response to an outstanding request. The state of the session may keep one to an INFO or a
  MESSAGE from it. -/
  | response (i : ℕ) (msg : NitResponse) (dispatched : Bool)
  /-- An outstanding request is challenged and sent again with credentials. -/
  | challenged (i : ℕ)
  /-- Another request of the dialog takes a sequence number. -/
  | otherRequest
  deriving DecidableEq

namespace NitSession

/-- A final response ends the wait for it. -/
def noteResponse (s : NitSession) (i : ℕ) (msg : NitResponse) : NitSession :=
  if 200 ≤ msg.statusCode then { s with outstanding := s.outstanding.eraseIdx i } else s

def receive (s : NitSession) (i : ℕ) (msg : NitResponse) (dispatched : Bool) : NitSession :=
  match s.outstanding[i]? with
  | none => s
  | some request =>
    if dispatched || request.nit.method = .REFER then (s.noteResponse i msg).dispatch request msg
    else s.noteResponse i msg

def next (s : NitSession) : NitEvent → NitSession
  | .info => s.info
  | .message => s.message
  | .refer isConnected referSub => s.refer isConnected referSub
  | .response i msg dispatched => s.receive i msg dispatched
  | .challenged i =>
    { s with
      mLocalCSeq := s.mLocalCSeq + 1
      outstanding := s.outstanding.modify i fun r => { r with cseq := s.mLocalCSeq + 1 } }
  | .otherRequest => { s with mLocalCSeq := s.mLocalCSeq + 1 }

/-- A 100 does not come as far as the dialog. -/
def allowed (s : NitSession) : NitEvent → Bool
  | .response i msg _ => i < s.outstanding.length && 100 < msg.statusCode
  | .challenged i => i < s.outstanding.length
  | .info | .message | .refer _ _ | .otherRequest => true

structure Created (s : NitSession) : Prop where
  nitState : s.mNitState = .NitComplete
  queue : s.mNITQueue = []
  outstanding : s.outstanding = []
  called : s.called = []
  sent : s.sent = []
  asserted : s.asserted = false

def runs : System NitSession NitEvent where
  init s := s.Created
  enabled s e := s.allowed e
  next s e := s.next e

instance (s : NitSession) (e : NitEvent) : Decidable (runs.enabled s e) :=
  inferInstanceAs (Decidable (s.allowed e = true))

/-- No provisional response is dispatched. -/
def finalOnly (s : NitSession) : NitEvent → Prop
  | .response i msg dispatched =>
    msg.statusCode < 200 → dispatched = false ∧
      ∀ request ∈ s.outstanding[i]?, request.nit.method ≠ .REFER
  | .info | .message | .refer _ _ | .challenged _ | .otherRequest => True

/-- One request at a time, and none left in the queue when it is complete. -/
structure OneByOne (s : NitSession) : Prop where
  outstanding : s.outstanding.length ≤ 1
  complete : s.mNitState = .NitComplete → s.mNITQueue = [] ∧ s.outstanding = []
  called : s.called = s.sent.map (·.nit) ++ s.mNITQueue
  increasing : (s.sent.map (·.cseq)).Pairwise (· < ·)
  bounded : ∀ r ∈ s.sent, r.cseq ≤ s.mLocalCSeq
  asserted : s.asserted = false

theorem Created.oneByOne {s : NitSession} (h : s.Created) : s.OneByOne where
  outstanding := by simp [h.outstanding]
  complete _ := ⟨h.queue, h.outstanding⟩
  called := by simp [h.called, h.sent, h.queue]
  increasing := by simp [h.sent]
  bounded := by simp [h.sent]
  asserted := h.asserted

namespace OneByOne
variable {s : NitSession}

/-- When none is outstanding, the first of those that wait is sent. -/
theorem sendNit (hnone : s.outstanding = []) {nit : Nit}
    (hcalled : s.called = s.sent.map (·.nit) ++ nit :: s.mNITQueue)
    (hincreasing : (s.sent.map (·.cseq)).Pairwise (· < ·))
    (hbounded : ∀ r ∈ s.sent, r.cseq ≤ s.mLocalCSeq) (hasserted : s.asserted = false) :
    (s.sendNit nit).OneByOne where
  outstanding := by simp [NitSession.sendNit, hnone]
  complete hcomplete := by simp [NitSession.sendNit] at hcomplete
  called := by simp [NitSession.sendNit, hcalled]
  increasing := by
    simp only [NitSession.sendNit, List.map_append, List.map_cons, List.map_nil,
      List.pairwise_append, List.mem_map, List.mem_singleton]
    refine ⟨hincreasing, List.pairwise_singleton _ _, ?_⟩
    rintro _ ⟨r, hr, rfl⟩ _ rfl
    exact Nat.lt_succ_of_le (hbounded r hr)
  bounded r hr := by
    simp only [NitSession.sendNit, List.mem_append, List.mem_singleton] at hr ⊢
    rcases hr with hr | rfl
    · exact (hbounded r hr).trans (Nat.le_succ _)
    · exact le_rfl
  asserted := hasserted

theorem request (h : s.OneByOne) (nit : Nit) : (s.request nit).OneByOne := by
  unfold NitSession.request
  dsimp only
  split
  case h_1 hcomplete =>
    obtain ⟨hqueue, hnone⟩ := h.complete hcomplete
    have hcalled : s.called ++ [nit] = s.sent.map (·.nit) ++ nit :: s.mNITQueue := by
      simp [h.called, hqueue]
    split
    · apply sendNit
      exacts [hnone, hcalled, h.increasing, h.bounded, h.asserted]
    · apply sendNit
      exacts [hnone, hcalled, h.increasing, h.bounded, h.asserted]
  case h_2 hproceeding =>
    exact ⟨h.outstanding, fun hcomplete => by simp [hproceeding] at hcomplete,
      by simp [h.called], h.increasing, h.bounded, h.asserted⟩

theorem nitComplete (h : s.OneByOne) (hnone : s.outstanding = []) : s.nitComplete.OneByOne := by
  unfold NitSession.nitComplete
  split
  case h_1 hqueue =>
    exact ⟨h.outstanding, fun _ => ⟨hqueue, hnone⟩, h.called, h.increasing, h.bounded, h.asserted⟩
  case h_2 qn rest hqueue =>
    have hcalled := h.called
    rw [hqueue] at hcalled
    apply sendNit
    exacts [hnone, hcalled, h.increasing, h.bounded, h.asserted]

theorem callback (h : s.OneByOne) (c : NitCallback) : (s.callback c).OneByOne :=
  ⟨h.outstanding, h.complete, h.called, h.increasing, h.bounded, h.asserted⟩

theorem dispatchResponse (h : s.OneByOne) (hnone : s.outstanding = [])
    (hproceeding : s.mNitState = .NitProceeding) (failure success : NitCallback)
    (msg : NitResponse) : (s.dispatchResponse failure success msg).OneByOne := by
  have hasserted : { s with asserted := s.asserted || decide (s.mNitState ≠ NitState.NitProceeding) }.OneByOne :=
    ⟨h.outstanding, h.complete, h.called, h.increasing, h.bounded,
      by simp [h.asserted, hproceeding]⟩
  unfold NitSession.dispatchResponse
  dsimp only
  split
  · exact (hasserted.callback _).nitComplete hnone
  · split
    · exact (hasserted.callback _).nitComplete hnone
    · exact hasserted.nitComplete hnone

theorem dispatch (h : s.OneByOne) (hnone : s.outstanding = [])
    (hproceeding : s.mNitState = .NitProceeding) (request : SentNit) (msg : NitResponse) :
    (s.dispatch request msg).OneByOne := by
  unfold NitSession.dispatch
  split
  · exact h.dispatchResponse hnone hproceeding _ _ msg
  · exact h.dispatchResponse hnone hproceeding _ _ msg
  · unfold NitSession.dispatchRefer
    dsimp only
    split
    · exact (h.callback _).nitComplete hnone
    · split
      · exact (h.callback _).nitComplete hnone
      · exact h.nitComplete hnone

theorem noteResponse (h : s.OneByOne) (i : ℕ) (msg : NitResponse) :
    (s.noteResponse i msg).OneByOne := by
  unfold NitSession.noteResponse
  split
  · refine ⟨(List.length_eraseIdx_le _ _).trans h.outstanding, fun hcomplete => ?_, h.called,
      h.increasing, h.bounded, h.asserted⟩
    obtain ⟨hqueue, hnone⟩ := h.complete hcomplete
    exact ⟨hqueue, by simp [hnone]⟩
  · exact h

theorem receive (h : s.OneByOne) {i : ℕ} {msg : NitResponse} {dispatched : Bool}
    (hok : s.finalOnly (.response i msg dispatched)) : (s.receive i msg dispatched).OneByOne := by
  unfold NitSession.receive
  split
  · exact h
  case h_2 request hrequest =>
    have hnoted := h.noteResponse i msg
    split
    case isFalse => exact hnoted
    case isTrue hdispatched =>
      -- what is dispatched is the final response to the only request
      have hfinal : 200 ≤ msg.statusCode := by
        by_contra hlow
        obtain ⟨hkept, hmethod⟩ := hok (by omega)
        simp [hkept, hmethod request hrequest] at hdispatched
      have hlength := h.outstanding
      have hi := (List.getElem?_eq_some_iff.mp hrequest).1
      have hnone : (s.noteResponse i msg).outstanding = [] := by
        unfold NitSession.noteResponse
        rw [if_pos hfinal, ← List.length_eq_zero_iff, List.length_eraseIdx_of_lt hi]
        omega
      have hproceeding : (s.noteResponse i msg).mNitState = .NitProceeding := by
        unfold NitSession.noteResponse
        rw [if_pos hfinal]
        cases hstate : s.mNitState with
        | NitProceeding => rfl
        | NitComplete =>
          rw [(h.complete hstate).2] at hi
          simp at hi
      exact hnoted.dispatch hnone hproceeding request msg

theorem next (h : s.OneByOne) {e : NitEvent} (hok : s.finalOnly e) : (s.next e).OneByOne := by
  have hbounded : ∀ r ∈ s.sent, r.cseq ≤ s.mLocalCSeq + 1 :=
    fun r hr => (h.bounded r hr).trans (Nat.le_succ _)
  cases e with
  | info => exact h.request _
  | message => exact h.request _
  | refer isConnected referSub =>
    cases isConnected with
    | false => exact h
    | true => exact h.request _
  | response i msg dispatched => exact h.receive hok
  | challenged i =>
    refine ⟨by simpa [NitSession.next] using h.outstanding, fun hcomplete => ?_, h.called,
      h.increasing, hbounded, h.asserted⟩
    obtain ⟨hqueue, hnone⟩ := h.complete hcomplete
    exact ⟨hqueue, by simp [NitSession.next, hnone]⟩
  | otherRequest =>
    exact ⟨h.outstanding, h.complete, h.called, h.increasing, hbounded, h.asserted⟩

end OneByOne

/-- One request is outstanding at a time, those that were asked for are sent in order and once, and
no assertion fails. -/
theorem nits_one_by_one {s : NitSession} (h : Reach runs finalOnly s) :
    s.outstanding.length ≤ 1 ∧ s.called = s.sent.map (·.nit) ++ s.mNITQueue ∧
      (s.sent.map (·.cseq)).Pairwise (· < ·) ∧ s.asserted = false := by
  have hone : s.OneByOne := h.invariant (fun _ => Created.oneByOne) fun _ _ _ hs _ hok => hs.next hok
  exact ⟨hone.outstanding, hone.called, hone.increasing, hone.asserted⟩

instance (s : NitSession) (e : NitEvent) : Decidable (s.finalOnly e) := by
  cases e <;> unfold finalOnly <;> infer_instance

def created : NitSession := ⟨.NitComplete, [], false, none, 1, [], [], [], [], false⟩

theorem created_created : created.Created := by constructor <;> rfl

/-- An INFO, a REFER and a MESSAGE are asked for at once, and each gets its final response. -/
def queuedRun : List NitEvent :=
  [.info, .refer true false, .message, .response 0 ⟨200, none⟩ true, .challenged 0, .otherRequest,
    .response 0 ⟨202, none⟩ true, .response 0 ⟨480, none⟩ true]

theorem nits_one_by_one_queued :
    let s := queuedRun.foldl runs.next created
    s.outstanding.length ≤ 1 ∧ s.called = s.sent.map (·.nit) ++ s.mNITQueue ∧
      (s.sent.map (·.cseq)).Pairwise (· < ·) ∧ s.asserted = false :=
  nits_one_by_one ((Reach.init created_created).run queuedRun (by decide))

/-- A provisional response to an INFO lets the MESSAGE behind it go. -/
def provisionalRun : List NitEvent := [.info, .message, .response 0 ⟨180, none⟩ true]

/-- A final response follows the provisional one when nothing else is sent. -/
def assertionRun : List NitEvent :=
  [.info, .response 0 ⟨180, none⟩ true, .response 0 ⟨200, none⟩ true]

theorem not_nits_one_by_one :
    (∃ s, Reach runs anyStep s ∧ s.outstanding.length = 2) ∧
      ∃ s, Reach runs anyStep s ∧ s.asserted :=
  ⟨⟨_, (Reach.init created_created).run provisionalRun (by decide), by decide⟩,
    _, (Reach.init created_created).run assertionRun (by decide), by decide⟩

end NitSession

end Resiprocate.Dum
