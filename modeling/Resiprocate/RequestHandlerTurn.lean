import Mathlib
import Resiprocate.RequestHandler

/-! The TURN requests of the request handler, and `processStunMessage`. The
allocations are those of one `TurnAllocationManager`; the ports are shared by all. -/
namespace Resiprocate.ReTurn

open StunMessage

/-- A search for a port ends within as many steps as there are port numbers. -/
def portSearchBound : ℕ := 65536

/-- `removeTurnAllocation`: the destructor of the allocation frees its port. -/
def removeTurnAllocation (c : PortRange) (t : TurnManager) (allocations : TurnAllocationManager)
    (key : TurnAllocationKey) : TurnManager × TurnAllocationManager :=
  match allocations key with
  | none => (t, allocations)
  | some a =>
    (t.deallocatePort c a.mRequestedTuple.mTransport a.mRequestedTuple.mPort,
      Function.update allocations key none)

/-- `allocationExpired`: the timer of an allocation that was refreshed changes nothing. -/
def allocationExpired (c : PortRange) (t : TurnManager) (allocations : TurnAllocationManager)
    (now : ℕ) (key : TurnAllocationKey) : TurnManager × TurnAllocationManager :=
  match allocations key with
  | none => (t, allocations)
  | some a =>
    if a.mExpires ≤ now then removeTurnAllocation c t allocations key else (t, allocations)

def StunMessage.key (request : StunMessage) : TurnAllocationKey :=
  ⟨request.mLocalTuple, request.mRemoteTuple⟩

namespace RequestHandler

variable (h : RequestHandler) (times : ℕ → ℕ) (t : TurnManager)
  (allocations : TurnAllocationManager) (request response : StunMessage)

/-- An answer that leaves everything as it is. -/
def reject (errorCode : ℕ) (msg : String) (realm : Option Data) : Outcome :=
  ⟨.respondFromReceiving,
    h.buildErrorResponse (UInt64.ofNat (times 1)) response errorCode msg realm, t, allocations,
    .nothing⟩

/-- A lifetime between the default and the maximum of the server. -/
def allocationLifetime : UInt32 :=
  match request.mTurnLifetime with
  | none => h.config.mDefaultAllocationLifetime.toUInt32
  | some requested =>
    if h.config.mMaxAllocationLifetime < requested.toUInt64 then
      h.config.mMaxAllocationLifetime.toUInt32
    else if h.config.mDefaultAllocationLifetime < requested.toUInt64 then requested
    else h.config.mDefaultAllocationLifetime.toUInt32

inductive PortChoice
  | port (port : ℕ)
  | refused (errorCode : ℕ) (msg : String)
  deriving DecidableEq

/-- 0 stands for no port. -/
def PortChoice.ofPort (port : ℕ) : PortChoice :=
  if port = 0 then .refused 508 "Insufficient Port Capacity" else .port port

def chooseAnyPort (transport : TransportType) : PortChoice × TurnManager :=
  let r := (t.allocateAnyPort h.config.toPortRange portSearchBound transport).getD (0, t)
  (.ofPort r.1, r.2)

/-- The port of a new allocation: an even one, one of a pair, one that was reserved or
any. With a pair comes the token of the reserved port, which is its number. -/
def choosePort (transport : TransportType) : PortChoice × TurnManager × Option UInt64 :=
  match request.attrs .turnEvenPort with
  | some (propType : UInt8) =>
    if request.has .turnReservationToken then
      (.refused 400 "Bad request - both Even Port and Reservation Token present", t, none)
    else if propType = 0x00 then
      let r := (t.allocateEvenPort h.config.toPortRange portSearchBound transport).getD (0, t)
      (.ofPort r.1, r.2, none)
    else if propType = 0x80 then
      let r := (t.allocateEvenPortPair h.config.toPortRange portSearchBound transport).getD (0, t)
      (.ofPort r.1, r.2, some (UInt64.ofNat (r.1 + 1)))
    else (.ofPort 0, t, none)
  | none =>
    match request.attrs .turnReservationToken with
    | some (token : UInt64) =>
      let port := token.toUInt16.toNat
      let r := t.allocatePort h.config.toPortRange transport port true
      if r.1 = false then (.refused 508 "Insufficient Port Capacity", r.2, none)
      else if port = 0 then
        let r := h.chooseAnyPort r.2 transport
        (r.1, r.2, none)
      else (.port port, r.2, none)
    | none =>
      let r := h.chooseAnyPort t transport
      (r.1, r.2, none)

/-- The allocation is made before its relay is started; if that fails the allocation is
neither kept nor deleted. -/
def processTurnAllocateRequest (relay : RelayStart) : Outcome :=
  let reject := h.reject times
  if request.has .messageIntegrity = false then
    reject t allocations response 401 "Missing Message Integrity" h.realm
  else if (allocations request.key).isSome then
    reject t allocations response 437 "Allocation Mismatch" none
  else match request.attrs .turnRequestedTransport with
  | none => reject t allocations response 400 "Bad Request - Missing requested transport" none
  | some (transport : UInt8) =>
    if transport ≠ 17 then
      reject t allocations response 442 "Unsupported Transport Protocol" none
    else if request.has .turnDontFragment then
      reject t allocations response 420 "Don't Fragment not yet implemented" h.realm
    else
      let chosen := h.choosePort t request .udp
      let t := chosen.2.1
      let response := match chosen.2.2 with
        | none => response
        | some token => response.set .turnReservationToken token
      match chosen.1 with
      | .refused errorCode msg => reject t allocations response errorCode msg none
      | .port port =>
        let lifetime := h.allocationLifetime request
        let requestedTuple : StunTuple := ⟨.udp, request.mLocalTuple.mAddress, port⟩
        match relay with
        | .failed | .raised => reject t allocations response 500 "Server Error" none
        | .started =>
          let allocation := TurnAllocation.new request.mLocalTuple request.mRemoteTuple
            ⟨request.mUsername, response.mHmacKey⟩ requestedTuple (times 2) lifetime.toNat
          let response := ({ response with mClass := stunClassSuccessResponse }).set .turnLifetime
            lifetime
          ⟨.respondFromReceiving,
            response.set .turnXorRelayedAddress (stunAtrAddressOfTuple requestedTuple), t,
            Function.update allocations request.key (some allocation), .nothing⟩

/-- The checks in front of the requests for an allocation that is there: it must have
been made with the same username and key. -/
def withAllocation (noAllocation : String) (process : TurnAllocation → Outcome) : Outcome :=
  let reject := h.reject times t allocations response
  if request.has .messageIntegrity = false then reject 401 "Missing Message Integrity" h.realm
  else match allocations request.key with
  | none => reject 437 noAllocation none
  | some allocation =>
    if allocation.mClientAuth.mClientUsername ≠ request.mUsername then
      reject 441 "Wrong Credentials" none
    else if allocation.mClientAuth.mClientSharedSecret ≠ response.mHmacKey then
      reject 441 "Wrong Credentials" none
    else process allocation

/-- The allocation of the request after a change. -/
def update (allocation : TurnAllocation) : TurnAllocationManager :=
  Function.update allocations request.key (some allocation)

def processTurnRefreshRequest : Outcome :=
  h.withAllocation times t allocations request response "Allocation Mismatch" fun allocation =>
    let response := { response with mClass := stunClassSuccessResponse }
    if request.mTurnLifetime = some 0 then
      let removed := removeTurnAllocation h.config.toPortRange t allocations allocation.mKey
      ⟨.respondFromReceiving, response.set .turnLifetime (0 : UInt32), removed.1, removed.2, .nothing⟩
    else
      let lifetime := h.allocationLifetime request
      ⟨.respondFromReceiving, response.set .turnLifetime lifetime, t,
        update allocations request (allocation.refresh (times 2) lifetime.toNat), .nothing⟩

/-- One permission after the other, each at its own reading of the clock. -/
def installPermissions (times : ℕ → ℕ) : ℕ → List StunAtrAddress → TurnAllocation → TurnAllocation
  | _, [], allocation => allocation
  | i, address :: rest, allocation =>
    installPermissions times (i + 1) rest (allocation.refreshPermission (times i)
      (setTupleFromStunAtrAddress anyTuple address).mAddress)

def processTurnCreatePermissionRequest : Outcome :=
  h.withAllocation times t allocations request response "No Allocation" fun allocation =>
    if request.mTurnXorPeerAddress = [] then
      h.reject times t allocations response 400 "Bad Request - missing attribute" none
    else
      ⟨.respondFromReceiving, { response with mClass := stunClassSuccessResponse }, t,
        update allocations request
          (installPermissions times 2 request.mTurnXorPeerAddress allocation), .nothing⟩

def minChannelNum : UInt16 := 0x4000
def maxChannelNum : UInt16 := 0x7FFF

/-- The peer of a request, for the transport of its allocation. -/
def peerTuple (allocation : TurnAllocation) (address : StunAtrAddress) : StunTuple :=
  setTupleFromStunAtrAddress { anyTuple with mTransport := allocation.mRequestedTuple.mTransport }
    address

def processTurnChannelBindRequest : Outcome :=
  h.withAllocation times t allocations request response "No Allocation" fun allocation =>
    match request.mTurnXorPeerAddress, request.attrs .turnChannelNumber with
    | address :: _, some (channel : UInt16) =>
      if channel < minChannelNum ∨ maxChannelNum < channel then
        h.reject times t allocations response 400 "Bad Request - channel number out of range" none
      else
        let added := allocation.addChannelBinding (fun i => times (2 + i))
          (peerTuple allocation address) channel.toNat
        let allocations := update allocations request added.2
        if added.1 = false then h.reject times t allocations response 400 "Bad Request" none
        else
          ⟨.respondFromReceiving, { response with mClass := stunClassSuccessResponse }, t,
            allocations, .nothing⟩
    | _, _ => h.reject times t allocations response 400 "Bad Request - missing attribute" none

/-- Indications are not answered. -/
def processTurnSendIndication : Sent × TurnAllocationManager :=
  match allocations request.key with
  | none => (.nothing, allocations)
  | some allocation =>
    match request.mTurnXorPeerAddress, request.attrs .turnData with
    | address :: _, some (data : Data) =>
      if request.has .turnDontFragment then (.nothing, allocations)
      else
        let sent := allocation.sendDataToPeerAddress (times 2) (peerTuple allocation address) data
          false
        (sent.1, update allocations request sent.2)
    | _, _ => (.nothing, allocations)

/-- A request that is authenticated and whose attributes are known. -/
def processRequest (relay : RelayStart) (isRFC3489BackwardsCompatServer : Bool) : Outcome :=
  if request.mMethod = bindMethod then
    let r := h.processStunBindingRequest request response isRFC3489BackwardsCompatServer
    ⟨r.1, r.2, t, allocations, .nothing⟩
  else if request.mMethod = sharedSecretMethod then
    let r := h.processStunSharedSecretRequest (UInt64.ofNat (times 1)) request response
    ⟨r.1, r.2, t, allocations, .nothing⟩
  else if request.mMethod = turnAllocateMethod then
    let r := h.processTurnAllocateRequest times t allocations request response relay
    let mapped := stunAtrAddressOfTuple request.mRemoteTuple
    { r with response := r.response.set .xorMappedAddress mapped }
  else if request.mMethod = turnRefreshMethod then
    h.processTurnRefreshRequest times t allocations request response
  else if request.mMethod = turnCreatePermissionMethod then
    h.processTurnCreatePermissionRequest times t allocations request response
  else if request.mMethod = turnChannelBindMethod then
    h.processTurnChannelBindRequest times t allocations request response
  else h.reject times t allocations response 400 "Invalid Request Method" none

/-- What is done with a message by its class. -/
def dispatch (relay : RelayStart) (isRFC3489BackwardsCompatServer : Bool) : Outcome :=
  if request.mClass = stunClassRequest then
    h.processRequest times t allocations request response relay isRFC3489BackwardsCompatServer
  else if request.mClass = stunClassIndication ∧ request.mMethod = turnSendMethod then
    let r := processTurnSendIndication times allocations request
    ⟨.noResponseToSend, response, t, r.2, r.1⟩
  else
    -- other indications are ignored, and a server should never receive a response
    ⟨.noResponseToSend, response, t, allocations, .nothing⟩

/-- What every answer gets from the message and from the server. -/
def finish (o : Outcome) : Outcome :=
  if o.result = .noResponseToSend then o
  else
    let response := { o.response with
      mMethod := request.mMethod
      magicCookieAndTid := request.magicCookieAndTid }
    let response := if h.config.mSoftwareName = [] then response
      else response.set .software h.config.mSoftwareName
    { o with response :=
        if request.has .fingerprint then response.set .fingerprint (0 : UInt32) else response }

def processStunMessage (relay : RelayStart) (isRFC3489BackwardsCompatServer : Bool) : Outcome :=
  let response := { response with mRemoteTuple := request.mRemoteTuple }
  let authenticated := h.handleAuthentication times request response
  let response := authenticated.2
  h.finish request <|
    if authenticated.1 = false then
      ⟨.respondFromReceiving, response, t, allocations, .nothing⟩
    else if request.mUnknownRequiredAttributes ≠ [] then
      let o := h.reject times t allocations response 420 "Unknown attribute" h.realm
      { o with response := o.response.set .unknownAttribute request.mUnknownRequiredAttributes }
    else h.dispatch times t allocations request response relay isRFC3489BackwardsCompatServer

end RequestHandler

end Resiprocate.ReTurn
