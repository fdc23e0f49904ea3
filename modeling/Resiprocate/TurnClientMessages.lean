import Resiprocate.StunEncodeLength

/-! The messages that `TurnAsyncSocket` sends: its requests, which are sent once more with credentials
after they are refused, its answers, and the Send indications with the data of the application. -/
namespace Resiprocate.ReTurn
open StunMessage

/-- What the messages are made from. -/
structure TurnAsyncSocket where
  mSoftware : Data
  mUsername : Data
  mHmacKey : Data
  mLocalHmacKey : Data
  mRealm : Data
  mNonce : Data
  /-- The transport of `mLocalBinding`. -/
  localTransport : TransportType

/-- A text as it is passed with `c_str()`. -/
def cStr (d : Data) : Data := d.takeWhile (· ≠ 0)

theorem length_cStr_le (d : Data) : (cStr d).length ≤ d.length :=
  (List.takeWhile_prefix _).length_le

namespace TurnAsyncSocket

/-- `UnspecifiedLifetime` and `UnspecifiedBandwidth` -/
def unspecified : UInt32 := 0xFFFFFFFF

def propsNone : UInt8 := 0xFF

def withSoftware (s : TurnAsyncSocket) (m : StunMessage) : StunMessage :=
  if s.mSoftware ≠ [] then m.set .software (cStr s.mSoftware) else m

/-- The encoder fills in the integrity. -/
def withIntegrity (hmacKey : Data) (m : StunMessage) : StunMessage :=
  { m.set .messageIntegrity (.replicate 20 0) with mHmacKey := hmacKey }

def createHeader (tid : Vector UInt8 16) (stunclass method : UInt16) (m : StunMessage) : StunMessage :=
  { m with mClass := stunclass, mMethod := method, magicCookieAndTid := tid }

/-- The transaction id is random. -/
def createNewStunMessage (s : TurnAsyncSocket) (tid : Vector UInt8 16) (stunclass method : UInt16)
    (addAuthInfo : Bool) : StunMessage :=
  let msg := s.withSoftware (createHeader tid stunclass method init)
  if addAuthInfo ∧ s.mUsername ≠ [] ∧ s.mHmacKey ≠ [] then
    let msg := (withIntegrity s.mHmacKey msg).set .username (cStr s.mUsername)
    let msg := if s.mRealm ≠ [] then msg.set .realm (cStr s.mRealm) else msg
    if s.mNonce ≠ [] then msg.set .nonce (cStr s.mNonce) else msg
  else msg

def newRequest (s : TurnAsyncSocket) (tid : Vector UInt8 16) (method : UInt16) : StunMessage :=
  s.createNewStunMessage tid stunClassRequest method true

def doRequestSharedSecret (s : TurnAsyncSocket) (tid : Vector UInt8 16) : StunMessage :=
  s.newRequest tid sharedSecretMethod

def doBindRequest (s : TurnAsyncSocket) (tid : Vector UInt8 16) : StunMessage := s.newRequest tid bindMethod

def doConnectivityCheck (s : TurnAsyncSocket) (tid : Vector UInt8 16) (peerRflxPriority : UInt32)
    (tieBreaker : UInt64) (setIceControlling setIceControlled : Bool) : StunMessage :=
  let request := (s.newRequest tid bindMethod).set .icePriority peerRflxPriority
  let request :=
    if setIceControlling then (request.set .iceControlling tieBreaker).set .iceUseCandidate ()
    else if setIceControlled then request.set .iceControlled tieBreaker
    else request
  request.set .fingerprint (0 : UInt32)

/-- Nothing is sent for a transport that cannot be requested. -/
def doCreateAllocation (s : TurnAsyncSocket) (tid : Vector UInt8 16) (lifetime bandwidth : UInt32)
    (requestedProps : UInt8) (reservationToken : UInt64) (requestedTransportType : TransportType) :
    Option StunMessage :=
  let request := s.newRequest tid turnAllocateMethod
  let request := if lifetime ≠ unspecified then request.set .turnLifetime lifetime else request
  let request := if bandwidth ≠ unspecified then request.set .turnBandwidth bandwidth else request
  let requestedTransportType :=
    if requestedTransportType = .none then s.localTransport else requestedTransportType
  let protocol : Option UInt8 :=
    if requestedTransportType = .udp then some 17
    else if requestedTransportType = .tcp ∧ s.localTransport ≠ .udp then some 6
    else none
  protocol.map fun protocol =>
    let request := request.set .turnRequestedTransport protocol
    if requestedProps ≠ propsNone then request.set .turnEvenPort requestedProps
    else if reservationToken ≠ 0 then request.set .turnReservationToken reservationToken
    else request

def doRefreshAllocation (s : TurnAsyncSocket) (tid : Vector UInt8 16) (lifetime : UInt32) : StunMessage :=
  let request := s.newRequest tid turnRefreshMethod
  if lifetime ≠ unspecified then request.set .turnLifetime lifetime else request

def doChannelBinding (s : TurnAsyncSocket) (tid : Vector UInt8 16) (channel : UInt16) (peerTuple : StunTuple) :
    StunMessage :=
  { (s.newRequest tid turnChannelBindMethod).set .turnChannelNumber channel with
    mTurnXorPeerAddress := [stunAtrAddressOfTuple peerTuple] }

/-- A request that was refused with 401 or 438 is sent once more with a new transaction id. -/
def reissue (s : TurnAsyncSocket) (tid : Vector UInt8 16) (request : StunMessage) : StunMessage :=
  let request := withIntegrity s.mHmacKey (createHeader tid request.mClass request.mMethod request)
  ((request.set .username (cStr s.mUsername)).set .realm (cStr s.mRealm)).set .nonce (cStr s.mNonce)

/-- An answer to a request with attributes that are not known. -/
def unknownAttributeResponse (s : TurnAsyncSocket) (stunMessage : StunMessage) : StunMessage :=
  let response := (createHeader stunMessage.magicCookieAndTid stunClassErrorResponse stunMessage.mMethod
    init).setErrorCode 420 "Unknown Attribute"
  s.withSoftware (response.set .unknownAttribute stunMessage.mUnknownRequiredAttributes)

/-- An answer to a request that a client does not handle. -/
def invalidMethodResponse (s : TurnAsyncSocket) (stunMessage : StunMessage) : StunMessage :=
  s.withSoftware ((createHeader stunMessage.magicCookieAndTid stunClassErrorResponse stunMessage.mMethod
    init).setErrorCode 400 "Invalid Request Method")

def handleBindRequest (s : TurnAsyncSocket) (stunMessage : StunMessage) : StunMessage :=
  let response := createHeader stunMessage.magicCookieAndTid stunClassSuccessResponse bindMethod init
  let response := s.withSoftware
    (response.set .xorMappedAddress (stunAtrAddressOfTuple stunMessage.mRemoteTuple))
  let response :=
    if stunMessage.has .messageIntegrity then withIntegrity s.mLocalHmacKey response else response
  if stunMessage.has .iceControlled ∨ stunMessage.has .iceControlling ∨ stunMessage.has .icePriority then
    response.set .fingerprint (0 : UInt32)
  else response

/-- `sendToRemotePeer` of data over a channel that is not confirmed. -/
def sendIndication (s : TurnAsyncSocket) (tid : Vector UInt8 16) (peerTuple : StunTuple) (data : Data) :
    StunMessage :=
  let ind := { s.createNewStunMessage tid stunClassIndication turnSendMethod false with
    mTurnXorPeerAddress := [stunAtrAddressOfTuple peerTuple] }
  if data ≠ [] then ind.set .turnData data else ind

end TurnAsyncSocket

/-- The requests of a client. Its credentials may change between a request and its repetition. -/
inductive ClientRequest : StunMessage → Prop
  | sharedSecret (s tid) : ClientRequest (TurnAsyncSocket.doRequestSharedSecret s tid)
  | bind (s tid) : ClientRequest (TurnAsyncSocket.doBindRequest s tid)
  | connectivityCheck (s tid priority tieBreaker controlling controlled) :
    ClientRequest (TurnAsyncSocket.doConnectivityCheck s tid priority tieBreaker controlling controlled)
  | allocate (s tid lifetime bandwidth props token transport m)
    (h : TurnAsyncSocket.doCreateAllocation s tid lifetime bandwidth props token transport = some m) :
    ClientRequest m
  | refresh (s tid lifetime) : ClientRequest (TurnAsyncSocket.doRefreshAllocation s tid lifetime)
  | channelBind (s tid channel peerTuple) :
    ClientRequest (TurnAsyncSocket.doChannelBinding s tid channel peerTuple)
  | reissue (s tid m) (h : ClientRequest m) : ClientRequest (TurnAsyncSocket.reissue s tid m)

/-- The answers of a client to messages with at most as many unknown attributes as there is room for. -/
inductive ClientResponse : StunMessage → Prop
  | unknownAttribute (s) (m : StunMessage)
    (h : m.mUnknownRequiredAttributes.length ≤ stunMaxUnknownAttributes) :
    ClientResponse (TurnAsyncSocket.unknownAttributeResponse s m)
  | invalidMethod (s m) : ClientResponse (TurnAsyncSocket.invalidMethodResponse s m)
  | bind (s m) : ClientResponse (TurnAsyncSocket.handleBindRequest s m)

/-! ### How long they are -/

namespace TurnAsyncSocket

/-- What each attribute of a request or an answer takes at most. -/
def cap : Attr → ℕ
  | .username => 516
  | .realm | .nonce | .software => 768
  | .errorCode => 32
  | .unknownAttribute => 20
  | .xorMappedAddress | .messageIntegrity => 24
  | .turnReservationToken | .iceControlled | .iceControlling => 12
  | .turnChannelNumber | .turnLifetime | .turnBandwidth | .turnEvenPort | .turnRequestedTransport
  | .icePriority | .fingerprint => 8
  | .iceUseCandidate => 4
  | _ => 0

variable {s : TurnAsyncSocket} {m : StunMessage}

/-- There is room for one peer address. -/
abbrev Bounded (m : StunMessage) : Prop := Within cap 24 m

theorem bounded_init : Bounded init := Within.init _ _

theorem bounded_withSoftware (h : Bounded m) : Bounded (s.withSoftware m) :=
  h.setIf (encodedLength_string_le 763 _)

theorem bounded_withIntegrity (hmacKey : Data) (h : Bounded m) : Bounded (withIntegrity hmacKey m) :=
  (h.set (a := .messageIntegrity) (v := .replicate 20 0) (le_refl 24)).of_same rfl rfl

theorem bounded_createHeader (tid : Vector UInt8 16) (stunclass method : UInt16) (h : Bounded m) :
    Bounded (createHeader tid stunclass method m) := h.of_same rfl rfl

theorem bounded_createNewStunMessage (tid : Vector UInt8 16) (stunclass method : UInt16) (addAuthInfo : Bool) :
    Bounded (s.createNewStunMessage tid stunclass method addAuthInfo) := by
  have hmsg : Bounded (s.withSoftware (createHeader tid stunclass method init)) :=
    bounded_withSoftware (bounded_createHeader _ _ _ bounded_init)
  have husername := (bounded_withIntegrity s.mHmacKey hmsg).set (a := .username)
    (encodedLength_string_le 512 (cStr s.mUsername))
  have hrealm := husername.setIf (c := s.mRealm ≠ []) (a := .realm)
    (encodedLength_string_le 763 (cStr s.mRealm))
  by_cases hauth : addAuthInfo ∧ s.mUsername ≠ [] ∧ s.mHmacKey ≠ []
  · rw [createNewStunMessage, if_pos hauth]
    exact hrealm.setIf (a := .nonce) (encodedLength_string_le 763 _)
  · rw [createNewStunMessage, if_neg hauth]
    exact hmsg

theorem bounded_reissue (tid : Vector UInt8 16) (h : Bounded m) : Bounded (s.reissue tid m) := by
  have hintegrity : Bounded (withIntegrity s.mHmacKey (createHeader tid m.mClass m.mMethod m)) :=
    bounded_withIntegrity s.mHmacKey (bounded_createHeader _ _ _ h)
  exact ((hintegrity.set (a := .username) (encodedLength_string_le 512 _)).set (a := .realm)
    (encodedLength_string_le 763 _)).set (a := .nonce) (encodedLength_string_le 763 _)

theorem bounded_doConnectivityCheck (tid : Vector UInt8 16) (priority : UInt32) (tieBreaker : UInt64)
    (controlling controlled : Bool) :
    Bounded (s.doConnectivityCheck tid priority tieBreaker controlling controlled) := by
  have hpriority := (bounded_createNewStunMessage (s := s) tid stunClassRequest bindMethod true).set
    (a := .icePriority) (v := priority) (le_refl 8)
  unfold doConnectivityCheck newRequest
  refine Within.set ?_ (le_refl 8)
  split_ifs
  · exact (hpriority.set (a := .iceControlling) (le_refl 12)).set (a := .iceUseCandidate) (le_refl 4)
  · exact hpriority.set (a := .iceControlled) (le_refl 12)
  · exact hpriority

theorem bounded_doCreateAllocation {tid : Vector UInt8 16} {lifetime bandwidth : UInt32} {props : UInt8}
    {token : UInt64} {transport : TransportType}
    (h : s.doCreateAllocation tid lifetime bandwidth props token transport = some m) : Bounded m := by
  have hrequest := bounded_createNewStunMessage (s := s) tid stunClassRequest turnAllocateMethod true
  obtain ⟨protocol, -, rfl⟩ := Option.map_eq_some_iff.mp h
  have hlifetime := hrequest.setIf (c := lifetime ≠ unspecified) (a := .turnLifetime) (v := lifetime)
    (le_refl 8)
  have hbandwidth := hlifetime.setIf (c := bandwidth ≠ unspecified) (a := .turnBandwidth) (v := bandwidth)
    (le_refl 8)
  have hprotocol := hbandwidth.set (a := .turnRequestedTransport) (v := protocol) (le_refl 8)
  by_cases hprops : props ≠ propsNone
  · rw [if_pos hprops]
    exact hprotocol.set (a := .turnEvenPort) (le_refl 8)
  · rw [if_neg hprops]
    exact hprotocol.setIf (a := .turnReservationToken) (le_refl 12)

theorem bounded_doChannelBinding (tid : Vector UInt8 16) (channel : UInt16) (peerTuple : StunTuple) :
    Bounded (s.doChannelBinding tid channel peerTuple) := by
  have hrequest := (bounded_createNewStunMessage (s := s) tid stunClassRequest turnChannelBindMethod true).set
    (a := .turnChannelNumber) (v := channel) (le_refl 8)
  refine ⟨hrequest.attr, ?_⟩
  have hpeer := encodedLength_address_le (stunAtrAddressOfTuple peerTuple)
  have hfamily : (s.newRequest tid turnChannelBindMethod).mTurnRequestedAddressFamily = none := by
    unfold newRequest createNewStunMessage withSoftware
    dsimp only
    split_ifs <;> rfl
  simpa [doChannelBinding, listsLength, StunMessage.set, hfamily] using hpeer

theorem bounded_unknownAttributeResponse
    (h : m.mUnknownRequiredAttributes.length ≤ stunMaxUnknownAttributes) :
    Bounded (s.unknownAttributeResponse m) := by
  have hunknown : 4 + padded (2 * m.mUnknownRequiredAttributes.length) ≤ 20 :=
    Nat.add_le_add_left (padded_mono (Nat.mul_le_mul_left 2 h)) 4
  have herror := (bounded_createHeader m.magicCookieAndTid stunClassErrorResponse m.mMethod bounded_init).set
    (a := .errorCode) (v := ⟨4, 20, text "Unknown Attribute"⟩) (by decide)
  exact bounded_withSoftware (herror.set (a := .unknownAttribute) hunknown)

theorem bounded_invalidMethodResponse : Bounded (s.invalidMethodResponse m) := by
  have herror := (bounded_createHeader m.magicCookieAndTid stunClassErrorResponse m.mMethod bounded_init).set
    (a := .errorCode) (v := ⟨4, 0, text "Invalid Request Method"⟩) (by decide)
  exact bounded_withSoftware herror

theorem bounded_handleBindRequest : Bounded (s.handleBindRequest m) := by
  have hmapped : Bounded (s.withSoftware ((createHeader m.magicCookieAndTid stunClassSuccessResponse
      bindMethod init).set .xorMappedAddress (stunAtrAddressOfTuple m.mRemoteTuple))) :=
    bounded_withSoftware ((bounded_createHeader _ _ _ bounded_init).set (a := .xorMappedAddress)
      (encodedLength_address_le _))
  refine Within.setIf ?_ (le_refl 8)
  split_ifs
  · exact bounded_withIntegrity _ hmapped
  · exact hmapped

end TurnAsyncSocket

open TurnAsyncSocket

variable {m : StunMessage}

theorem ClientRequest.bounded (h : ClientRequest m) : Bounded m := by
  induction h with
  | sharedSecret s tid => exact bounded_createNewStunMessage _ _ _ _
  | bind s tid => exact bounded_createNewStunMessage _ _ _ _
  | connectivityCheck s tid priority tieBreaker controlling controlled =>
    exact bounded_doConnectivityCheck _ _ _ _ _
  | allocate s tid lifetime bandwidth props token transport m h => exact bounded_doCreateAllocation h
  | refresh s tid lifetime => exact (bounded_createNewStunMessage _ _ _ _).setIf (le_refl 8)
  | channelBind s tid channel peerTuple => exact bounded_doChannelBinding _ _ _
  | reissue s tid m h ih => exact bounded_reissue tid ih

theorem ClientResponse.bounded (h : ClientResponse m) : Bounded m := by
  cases h with
  | unknownAttribute s m h => exact bounded_unknownAttributeResponse h
  | invalidMethod s m => exact bounded_invalidMethodResponse
  | bind s m => exact bounded_handleBindRequest

/-- Requests and answers fit into the buffer, whatever the credentials and the name of the software are. -/
theorem TurnAsyncSocket.Bounded.encodedLength_le (h : Bounded m) : m.encodedLength ≤ 4096 := by
  have hcap : 20 + (allAttrs.map TurnAsyncSocket.cap).sum + 24 ≤ 4096 := by decide
  exact (Within.encodedLength_le h).trans hcap

/-- The texts and the data decide how long a Send indication is. -/
def sendIndicationLength (mSoftware : Data) (peer : Address) (data : Data) : ℕ :=
  20 + (if mSoftware = [] then 0 else 4 + padded (min 763 (cStr mSoftware).length)) +
    (match peer with
      | .v4 _ => 12
      | .v6 _ => 24) +
    if data = [] then 0 else 4 + padded data.length

theorem encodedLength_sendIndication (s : TurnAsyncSocket) (tid : Vector UInt8 16) (peerTuple : StunTuple)
    (data : Data) : (s.sendIndication tid peerTuple data).encodedLength =
      sendIndicationLength s.mSoftware peerTuple.mAddress data := by
  have hdataLength : Attr.turnData.kind.encodedLength data = 4 + padded data.length := rfl
  have hsoftwareLength : Attr.software.kind.encodedLength (cStr s.mSoftware) =
      4 + padded (min 763 (cStr s.mSoftware).length) := rfl
  by_cases hsoftware : s.mSoftware = [] <;> by_cases hdata : data = [] <;>
    cases haddress : peerTuple.mAddress <;>
    simp [sendIndication, createNewStunMessage, withSoftware, hsoftware, hdata, haddress, encodedLength,
      sendIndicationLength, listsLength, allAttrs, firstAttrs, middleAttrs, lastAttrs, attrLength,
      StunMessage.set, createHeader, init, stunAtrAddressOfTuple, StunAtrAddress.encodedLength,
      hdataLength, hsoftwareLength] <;> omega

end Resiprocate.ReTurn
