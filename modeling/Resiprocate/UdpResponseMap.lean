import Resiprocate.RequestHandlerAuth

/-! The responses that a `UdpServer` keeps to send them once more. They are kept under the transaction id
alone, which the clients choose, whoever has sent the request. -/
namespace Resiprocate.ReTurn
open StunMessage

namespace RequestHandler

/-! ### Where the handler sends a response -/

/-- There is a response, and it goes to the tuple. -/
structure AnswersTo (tuple : StunTuple) (o : Outcome) : Prop where
  answers : o.result ≠ .noResponseToSend
  tuple : o.response.mRemoteTuple = tuple

section
variable {h : RequestHandler} {times : ℕ → ℕ} {t : TurnManager} {allocations : TurnAllocationManager}
  {request response : StunMessage} {errorCode : ℕ} {msg : String} {realm : Option Data} {now : UInt64}

@[simp] theorem remote_set (m : StunMessage) (a : Attr) (value : a.Value) :
    (m.set a value).mRemoteTuple = m.mRemoteTuple := rfl

@[simp] theorem remote_buildErrorResponse :
    (h.buildErrorResponse now response errorCode msg realm).mRemoteTuple = response.mRemoteTuple := by
  cases realm <;> rfl

theorem remote_handleAuthentication :
    (h.handleAuthentication times request response).2.mRemoteTuple = response.mRemoteTuple := by
  unfold handleAuthentication
  dsimp only
  split_ifs
  · rfl
  · exact remote_buildErrorResponse
  · split
    · exact remote_buildErrorResponse
    · split
      · exact remote_buildErrorResponse
      · split
        · exact remote_buildErrorResponse
        · split
          · exact remote_buildErrorResponse
          · exact remote_buildErrorResponse
          · split_ifs
            · exact remote_buildErrorResponse
            · exact remote_buildErrorResponse
            · rfl

theorem answersTo_reject :
    AnswersTo response.mRemoteTuple (h.reject times t allocations response errorCode msg realm) :=
  ⟨nofun, remote_buildErrorResponse⟩

theorem answersTo_withAllocation {noAllocation : String} {process : TurnAllocation → Outcome}
    (hprocess : ∀ allocation, AnswersTo response.mRemoteTuple (process allocation)) :
    AnswersTo response.mRemoteTuple
      (h.withAllocation times t allocations request response noAllocation process) := by
  unfold withAllocation
  dsimp only
  split_ifs
  · exact answersTo_reject
  · split
    · exact answersTo_reject
    · split_ifs
      · exact answersTo_reject
      · exact answersTo_reject
      · exact hprocess _

theorem answersTo_processTurnRefreshRequest :
    AnswersTo response.mRemoteTuple (h.processTurnRefreshRequest times t allocations request response) := by
  refine answersTo_withAllocation fun allocation => ?_
  dsimp only
  split_ifs
  · exact ⟨nofun, rfl⟩
  · exact ⟨nofun, rfl⟩

theorem answersTo_processTurnCreatePermissionRequest : AnswersTo response.mRemoteTuple
    (h.processTurnCreatePermissionRequest times t allocations request response) := by
  refine answersTo_withAllocation fun allocation => ?_
  split_ifs
  · exact answersTo_reject
  · exact ⟨nofun, rfl⟩

theorem answersTo_processTurnChannelBindRequest : AnswersTo response.mRemoteTuple
    (h.processTurnChannelBindRequest times t allocations request response) := by
  refine answersTo_withAllocation fun allocation => ?_
  split
  · dsimp only
    split_ifs
    · exact answersTo_reject
    · exact answersTo_reject
    · exact ⟨nofun, rfl⟩
  · exact answersTo_reject

/-- The token of a reserved port leaves the tuple alone. -/
theorem remote_token (token : Option UInt64) : (match token with
    | none => response
    | some token => response.set .turnReservationToken token).mRemoteTuple = response.mRemoteTuple := by
  cases token <;> rfl

theorem answersTo_processTurnAllocateRequest (relay : RelayStart) : AnswersTo response.mRemoteTuple
    (h.processTurnAllocateRequest times t allocations request response relay) := by
  have hreject : ∀ {t : TurnManager} {r : StunMessage} {errorCode : ℕ} {msg : String},
      r.mRemoteTuple = response.mRemoteTuple →
        AnswersTo response.mRemoteTuple (h.reject times t allocations r errorCode msg none) := by
    intro t r errorCode msg hr
    exact hr ▸ answersTo_reject
  unfold processTurnAllocateRequest
  dsimp only
  by_cases hintegrity : request.has .messageIntegrity = false
  · rw [if_pos hintegrity]
    exact answersTo_reject
  rw [if_neg hintegrity]
  by_cases hthere : (allocations request.key).isSome = true
  · rw [if_pos hthere]
    exact answersTo_reject
  rw [if_neg hthere]
  split
  · exact answersTo_reject
  · next transport htransport =>
    by_cases hudp : transport ≠ 17
    · rw [if_pos hudp]
      exact answersTo_reject
    rw [if_neg hudp]
    by_cases hfragment : request.has .turnDontFragment = true
    · rw [if_pos hfragment]
      exact answersTo_reject
    rw [if_neg hfragment]
    split
    · exact hreject (remote_token _)
    · split
      · exact hreject (remote_token _)
      · exact hreject (remote_token _)
      · exact ⟨by simp, remote_token _⟩

/-- A binding request may ask for an answer to another address; for the clients of RFC 3489 this is done. -/
def respondsTo (h : RequestHandler) (request : StunMessage) (rfc3489 : Bool) : StunTuple :=
  match request.attrs .responseAddress with
  | some address =>
    if h.mRFC3489SupportEnabled ∧ rfc3489 = true then
      setTupleFromStunAtrAddress request.mRemoteTuple address
    else request.mRemoteTuple
  | none => request.mRemoteTuple

theorem bindingRequest_answers (h : RequestHandler) (rfc3489 : Bool) (hr : response.mRemoteTuple = request.mRemoteTuple) :
    (h.processStunBindingRequest request response rfc3489).1 ≠ .noResponseToSend ∧
      (h.processStunBindingRequest request response rfc3489).2.mRemoteTuple = h.respondsTo request rfc3489 := by
  have hmapped : (if request.hasMagicCookie then
        ({ response with mClass := stunClassSuccessResponse }).set .xorMappedAddress
          (stunAtrAddressOfTuple request.mRemoteTuple)
      else ({ response with mClass := stunClassSuccessResponse }).set .mappedAddress
        (stunAtrAddressOfTuple request.mRemoteTuple)).mRemoteTuple = request.mRemoteTuple := by
    split_ifs
    · exact hr
    · exact hr
  unfold processStunBindingRequest respondsTo
  dsimp only
  by_cases hrfc : h.mRFC3489SupportEnabled = true ∧ rfc3489 = true
  · rw [if_pos hrfc]
    have hresult : ∀ changeTuple changeIp changePort localTuple,
        (if changeIp = true ∧ changePort = true then (ProcessResult.respondFromAlternateIpPort, changeTuple)
          else if changePort = true then
            (.respondFromAlternatePort, { changeTuple with mAddress := localTuple.mAddress })
          else if changeIp = true then
            (.respondFromAlternateIp, { changeTuple with mPort := localTuple.mPort })
          else (.respondFromReceiving, localTuple) : ProcessResult × StunTuple).1 ≠ .noResponseToSend := by
      intro changeTuple changeIp changePort localTuple
      split_ifs <;> nofun
    unfold answerFromAlternate
    cases haddress : request.attrs .responseAddress with
    | none => exact ⟨hresult _ _ _ _, hmapped⟩
    | some address =>
      refine ⟨hresult _ _ _ _, ?_⟩
      dsimp only
      rw [if_pos hrfc]
      exact congrArg (setTupleFromStunAtrAddress · address) hmapped
  · rw [if_neg hrfc]
    refine ⟨nofun, hmapped.trans ?_⟩
    split
    · rw [if_neg hrfc]
    · rfl

/-- Where the response to a request goes. -/
def destination (h : RequestHandler) (request : StunMessage) (rfc3489 : Bool) : StunTuple :=
  if request.mUnknownRequiredAttributes = [] ∧ request.mMethod = bindMethod then h.respondsTo request rfc3489
  else request.mRemoteTuple

theorem answersTo_processRequest (relay : RelayStart) (rfc3489 : Bool)
    (hr : response.mRemoteTuple = request.mRemoteTuple) (hknown : request.mUnknownRequiredAttributes = []) :
    AnswersTo (h.destination request rfc3489)
      (h.processRequest times t allocations request response relay rfc3489) := by
  by_cases hbind : request.mMethod = bindMethod
  · obtain ⟨hanswers, htuple⟩ := h.bindingRequest_answers rfc3489 hr
    rw [destination, if_pos ⟨hknown, hbind⟩, processRequest, if_pos hbind]
    exact ⟨hanswers, htuple⟩
  have hsecret : (h.processStunSharedSecretRequest (UInt64.ofNat (times 1)) request response).1 ≠
      .noResponseToSend ∧ (h.processStunSharedSecretRequest (UInt64.ofNat (times 1)) request
        response).2.mRemoteTuple = response.mRemoteTuple := by
    unfold processStunSharedSecretRequest
    split_ifs
    · exact ⟨nofun, remote_buildErrorResponse⟩
    · exact ⟨nofun, rfl⟩
  rw [destination, if_neg fun hb => hbind hb.2, processRequest, if_neg hbind, ← hr]
  split_ifs
  · exact ⟨hsecret.1, hsecret.2⟩
  · have hallocate : AnswersTo response.mRemoteTuple
        (h.processTurnAllocateRequest times t allocations request response relay) :=
      answersTo_processTurnAllocateRequest relay
    exact ⟨hallocate.answers, hallocate.tuple⟩
  · exact answersTo_processTurnRefreshRequest
  · exact answersTo_processTurnCreatePermissionRequest
  · exact answersTo_processTurnChannelBindRequest
  · exact answersTo_reject

theorem AnswersTo.finish {tuple : StunTuple} {o : Outcome} (ho : AnswersTo tuple o) :
    AnswersTo tuple (h.finish request o) := by
  refine ⟨finish_result o ▸ ho.answers, ?_⟩
  have hnamed : ∀ r : StunMessage, (if h.config.mSoftwareName = [] then r
      else r.set .software h.config.mSoftwareName).mRemoteTuple = r.mRemoteTuple := by
    intro r
    split_ifs <;> rfl
  have hprinted : ∀ r : StunMessage, (if request.has .fingerprint then r.set .fingerprint (0 : UInt32)
      else r).mRemoteTuple = r.mRemoteTuple := by
    intro r
    split_ifs <;> rfl
  rw [RequestHandler.finish, if_neg ho.answers]
  exact (hprinted _).trans ((hnamed _).trans ho.tuple)

/-- Every request is answered, where its response address asks for it or to its sender. -/
theorem answersTo_processStunMessage (relay : RelayStart) (rfc3489 : Bool)
    (hclass : request.mClass = stunClassRequest) :
    AnswersTo (h.destination request rfc3489)
      (h.processStunMessage times t allocations request init relay rfc3489) := by
  refine AnswersTo.finish ?_
  have hremote : (h.handleAuthentication times request
      { init with mRemoteTuple := request.mRemoteTuple }).2.mRemoteTuple = request.mRemoteTuple :=
    remote_handleAuthentication
  by_cases hrefused : (h.handleAuthentication times request
      { init with mRemoteTuple := request.mRemoteTuple }).1 = false
  · have hbind : request.mMethod ≠ bindMethod := by
      intro hbind
      have hexempt : Exempt request := .inr (.inl ⟨hclass, hbind⟩)
      rw [(h.handleAuthentication_passes_iff times request _).mpr (.inl hexempt)] at hrefused
      cases hrefused
    rw [if_pos hrefused, destination, if_neg fun hb => hbind hb.2]
    exact ⟨nofun, hremote⟩
  rw [if_neg hrefused]
  split_ifs with hunknown
  · rw [destination, if_neg fun hb => hunknown hb.1]
    exact ⟨nofun, remote_buildErrorResponse.trans hremote⟩
  · rw [dispatch, if_pos hclass]
    exact answersTo_processRequest relay rfc3489 hremote (not_not.mp hunknown)

end
end RequestHandler

/-! ### The server -/

/-- A response that is kept, and where it was sent from. -/
structure ResponseEntry where
  mResponseUdpServer : ProcessResult
  mResponseMessage : StunMessage

structure UdpServer where
  mRequestHandler : RequestHandler
  isRFC3489BackwardsCompatServer : Bool
  turnManager : TurnManager
  mTurnAllocationManager : TurnAllocationManager
  mResponseMap : Vector UInt8 16 → Option ResponseEntry

namespace UdpServer

inductive Reply
  | cached (entry : ResponseEntry)
  | processed (outcome : Outcome)

/-- What `onReceiveSuccess` does with a valid message. -/
def onStunMessage (s : UdpServer) (times : ℕ → ℕ) (relay : RelayStart) (request : StunMessage) :
    Reply × UdpServer :=
  match s.mResponseMap request.magicCookieAndTid with
  | some entry => (.cached entry, s)
  | none =>
    let o := s.mRequestHandler.processStunMessage times s.turnManager s.mTurnAllocationManager request init
      relay s.isRFC3489BackwardsCompatServer
    let s := { s with turnManager := o.turnManager, mTurnAllocationManager := o.allocations }
    if o.result = .noResponseToSend then (.processed o, s)
    else
      (.processed o, { s with
        mResponseMap :=
          Function.update s.mResponseMap o.response.magicCookieAndTid (some ⟨o.result, o.response⟩) })

/-- The timer of an entry. -/
def cleanupResponseMap (s : UdpServer) (tid : Vector UInt8 16) : UdpServer :=
  { s with mResponseMap := Function.update s.mResponseMap tid none }

/-- What happens at a server. Its allocations are changed by timers and by other servers, too. -/
inductive Event
  | message (times : ℕ → ℕ) (relay : RelayStart) (request : StunMessage)
  | cleanup (tid : Vector UInt8 16)
  | elsewhere (turnManager : TurnManager) (allocations : TurnAllocationManager)

/-- A server, and for each response that it keeps the sender of the request that made it. -/
structure Observed where
  server : UdpServer
  requester : Vector UInt8 16 → Option StunTuple

namespace Observed

def step (o : Observed) : Event → Observed
  | .message times relay request =>
    let r := o.server.onStunMessage times relay request
    match r.1 with
    | .cached _ => ⟨r.2, o.requester⟩
    | .processed outcome =>
      ⟨r.2, if outcome.result = .noResponseToSend then o.requester
        else Function.update o.requester outcome.response.magicCookieAndTid (some request.mRemoteTuple)⟩
  | .cleanup tid => ⟨o.server.cleanupResponseMap tid, Function.update o.requester tid none⟩
  | .elsewhere turnManager allocations =>
    ⟨{ o.server with turnManager := turnManager, mTurnAllocationManager := allocations }, o.requester⟩

/-- A server that has not kept a response yet. -/
def start (s : UdpServer) : Observed := ⟨{ s with mResponseMap := fun _ => none }, fun _ => none⟩

def run (s : UdpServer) (events : List Event) : Observed := events.foldl step (start s)

/-- The senders are known of the responses that are kept. -/
def Tracks (o : Observed) : Prop := ∀ tid, (o.server.mResponseMap tid).isSome = (o.requester tid).isSome

theorem tracks_step {o : Observed} (h : o.Tracks) (e : Event) : (o.step e).Tracks := by
  intro tid
  cases e with
  | message times relay request =>
    simp only [step, onStunMessage]
    cases hentry : o.server.mResponseMap request.magicCookieAndTid with
    | some entry => exact h tid
    | none =>
      dsimp only
      generalize o.server.mRequestHandler.processStunMessage times o.server.turnManager
        o.server.mTurnAllocationManager request init relay o.server.isRFC3489BackwardsCompatServer = outcome
      by_cases hnone : outcome.result = .noResponseToSend
      · simp only [if_pos hnone]
        exact h tid
      · simp only [if_neg hnone]
        by_cases htid : tid = outcome.response.magicCookieAndTid
        · subst htid
          simp
        · rw [Function.update_of_ne htid, Function.update_of_ne htid]
          exact h tid
  | cleanup tid' =>
    by_cases htid : tid = tid'
    · subst htid
      simp [step, cleanupResponseMap]
    · simp only [step, cleanupResponseMap, Function.update_of_ne htid]
      exact h tid
  | elsewhere turnManager allocations => exact h tid

theorem tracks_run (s : UdpServer) (events : List Event) : (run s events).Tracks := by
  have hfold : ∀ (events : List Event) {o : Observed}, o.Tracks → (events.foldl step o).Tracks := by
    intro events
    induction events with
    | nil => exact fun h => h
    | cons e events ih => exact fun h => ih (tracks_step h e)
  exact hfold events fun _ => rfl

/-- A request gets a response that is kept only if it made it; what is sent to others answers their own
request. -/
structure Serves (o : Observed) (times : ℕ → ℕ) (relay : RelayStart) (request : StunMessage) : Prop where
  kept : ∀ entry, (o.server.onStunMessage times relay request).1 = .cached entry →
    o.requester request.magicCookieAndTid = some request.mRemoteTuple
  others : o.requester request.magicCookieAndTid ≠ some request.mRemoteTuple →
    ∃ outcome, (o.server.onStunMessage times relay request).1 = .processed outcome ∧
      RequestHandler.AnswersTo request.mRemoteTuple outcome

/-- No response is kept for another sender under the transaction id, and a request that is processed is to be
answered to its sender. -/
structure OwnTransaction (o : Observed) (request : StunMessage) : Prop where
  own : ∀ sender, o.requester request.magicCookieAndTid = some sender → sender = request.mRemoteTuple
  back : o.requester request.magicCookieAndTid = none → o.server.mRequestHandler.destination request
    o.server.isRFC3489BackwardsCompatServer = request.mRemoteTuple

/-- In every state that is reached, a request is served as its own exactly when its transaction id is. -/
theorem serves_iff (s : UdpServer) (events : List Event) (times : ℕ → ℕ) (relay : RelayStart)
    (request : StunMessage) (hclass : request.mClass = stunClassRequest) :
    (run s events).Serves times relay request ↔ (run s events).OwnTransaction request := by
  generalize ho : run s events = o
  have htracks : o.Tracks := ho ▸ tracks_run s events
  have htid := htracks request.magicCookieAndTid
  have hanswers : RequestHandler.AnswersTo
      (o.server.mRequestHandler.destination request o.server.isRFC3489BackwardsCompatServer)
      (o.server.mRequestHandler.processStunMessage times o.server.turnManager o.server.mTurnAllocationManager
        request init relay o.server.isRFC3489BackwardsCompatServer) :=
    RequestHandler.answersTo_processStunMessage relay _ hclass
  cases hentry : o.server.mResponseMap request.magicCookieAndTid with
  | some entry =>
    have hreply : (o.server.onStunMessage times relay request).1 = .cached entry := by
      rw [onStunMessage, hentry]
    rw [hentry] at htid
    obtain ⟨sender, hsender⟩ := Option.isSome_iff_exists.mp htid.symm
    constructor
    · rintro ⟨hkept, -⟩
      have hown := hkept entry hreply
      refine ⟨fun sender' hsender' => ?_, fun hnone => ?_⟩
      · exact Option.some.inj (hsender'.symm.trans hown)
      · exact absurd (hnone.symm.trans hown) nofun
    · rintro ⟨hown, -⟩
      have hsame : o.requester request.magicCookieAndTid = some request.mRemoteTuple := by
        rw [hsender, hown sender hsender]
      exact ⟨fun _ _ => hsame, fun hne => absurd hsame hne⟩
  | none =>
    have hnone : o.requester request.magicCookieAndTid = none := by
      rw [hentry] at htid
      exact Option.not_isSome_iff_eq_none.mp fun hsome => Bool.false_ne_true (htid.trans hsome)
    have hreply : (o.server.onStunMessage times relay request).1 = .processed
        (o.server.mRequestHandler.processStunMessage times o.server.turnManager
          o.server.mTurnAllocationManager request init relay o.server.isRFC3489BackwardsCompatServer) := by
      simp only [onStunMessage, hentry]
      split_ifs <;> rfl
    constructor
    · rintro ⟨-, hothers⟩
      refine ⟨fun sender hsender => absurd (hnone.symm.trans hsender) nofun, fun _ => ?_⟩
      obtain ⟨outcome, houtcome, hto⟩ := hothers (by rw [hnone]; nofun)
      cases hreply.symm.trans houtcome
      exact hanswers.tuple.symm.trans hto.tuple
    · rintro ⟨-, hback⟩
      refine ⟨fun entry hcached => absurd (hreply.symm.trans hcached) nofun, fun _ => ⟨_, hreply, ?_⟩⟩
      rw [← hback hnone]
      exact hanswers

/-- A server of RFC 5389. -/
def plain : UdpServer where
  mRequestHandler := RequestHandler.plainHandler
  isRFC3489BackwardsCompatServer := false
  turnManager := .new RequestHandler.plainHandler.config.toPortRange
  mTurnAllocationManager _ := none
  mResponseMap _ := none

/-- A binding request with a transaction id of zeros. -/
def bindingRequest (port : ℕ) : StunMessage :=
  { init with
    mClass := stunClassRequest
    mMethod := bindMethod
    magicCookieAndTid := .replicate 16 0
    mRemoteTuple := ⟨.udp, .v4 0x0A000001, port⟩ }

theorem serves_iff_bindingRequest :
    (run plain [.message (fun _ => 0) .started (bindingRequest 5000), .cleanup (.replicate 16 0)]).Serves
        (fun _ => 0) .started (bindingRequest 5001) ↔
      (run plain [.message (fun _ => 0) .started (bindingRequest 5000),
        .cleanup (.replicate 16 0)]).OwnTransaction (bindingRequest 5001) :=
  serves_iff plain _ _ _ (bindingRequest 5001) rfl

/-- The second of two clients that have chosen the same transaction id gets no answer. -/
theorem not_serves : ¬ ∀ (s : UdpServer) (events : List Event) (times : ℕ → ℕ) (relay : RelayStart)
    (request : StunMessage), request.mClass = stunClassRequest →
    (run s events).Serves times relay request := by
  intro hall
  have hserves := hall plain [.message (fun _ => 0) .started (bindingRequest 5000)] (fun _ => 0) .started
    (bindingRequest 5001) rfl
  have hreply : ∃ entry, ((run plain [.message (fun _ => 0) .started
      (bindingRequest 5000)]).server.onStunMessage (fun _ => 0) .started (bindingRequest 5001)).1 =
        .cached entry := ⟨_, rfl⟩
  obtain ⟨entry, hentry⟩ := hreply
  have hkept := hserves.kept entry hentry
  revert hkept
  decide

end Observed
end UdpServer
end Resiprocate.ReTurn
