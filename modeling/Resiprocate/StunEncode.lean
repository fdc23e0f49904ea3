import Mathlib
import Resiprocate.StunParse

/-! The encoder of STUN messages. -/
namespace Resiprocate.ReTurn
open Tlv (fill)

namespace StunMessage

def encode16 (x : ℕ) : Data := BigEndian.bytes 2 x
def encode32 (x : UInt32) : Data := BigEndian.bytes 4 x.toNat
def encode64 (x : UInt64) : Data := BigEndian.bytes 8 x.toNat

def zeros (n : ℕ) : Data := List.replicate n 0

/-- The header of an attribute and what follows it. -/
def encodeAtr (type : UInt16) (length : ℕ) (content : Data) : Data :=
  encode16 type.toNat ++ (encode16 length ++ content)

def encodeTurnData (td : Data) : Data :=
  encodeAtr (Attr.code .turnData) td.length (td ++ zeros (fill td.length))

def encodeAtrUInt32 (type : UInt16) (value : UInt32) : Data := encodeAtr type 4 (encode32 value)

def encodeAtrUInt64 (type : UInt16) (value : UInt64) : Data := encodeAtr type 8 (encode64 value)

def encodeAtrAddress (type : UInt16) : StunAtrAddress → Data
  | .ipv6 port addr => encodeAtr type 20 ([0, 2] ++ encode16 port.toNat ++ addr.toList)
  | .ipv4 port addr => encodeAtr type 8 ([0, 1] ++ encode16 port.toNat ++ encode32 addr)

def encodeAtrXorAddress (magicCookieAndTid : Vector UInt8 16) (type : UInt16)
    (atr : StunAtrAddress) : Data :=
  encodeAtrAddress type (applyXorToAddress magicCookieAndTid atr)

/-- The first three bits of the class only. -/
def encodeAtrError (atr : StunAtrError) : Data :=
  encodeAtr (Attr.code .errorCode) (4 + atr.reason.length % 2 ^ 16)
    ([0, 0, atr.errorClass &&& 0x7, atr.number] ++ atr.reason ++ zeros (fill atr.reason.length))

/-- The bytes that fill up the last attribute are not written: they are `stale`. -/
def encodeAtrUnknown (stale : Vector UInt8 2) (attrTypes : List UInt16) : Data :=
  encodeAtr (Attr.code .unknownAttribute) (2 * attrTypes.length)
    (attrTypes.flatMap (fun attrType => encode16 attrType.toNat) ++
      stale.toList.take (fill (2 * attrTypes.length)))

def encodeAtrString (type : UInt16) (atr : Data) (maxBytes : ℕ) : Data :=
  let size := if maxBytes < atr.length then maxBytes else atr.length
  encodeAtr type size (atr.take size ++ zeros (fill size))

def encodeAtrIntegrity (hash : Vector UInt8 20) : Data :=
  encodeAtr (Attr.code .messageIntegrity) 20 hash.toList

def encodeAtrEvenPort (propType : UInt8) : Data :=
  encodeAtr (Attr.code .turnEvenPort) 1 ([propType, 0] ++ encode16 0)

/-- An attribute by its kind. -/
def encodeAttribute (magicCookieAndTid : Vector UInt8 16) (stale : Vector UInt8 2)
    (type : UInt16) (kind : Kind) (v : kind.Value) : Data :=
  match kind, v with
  | .address, (atr : StunAtrAddress) => encodeAtrAddress type atr
  | .xorAddress, (atr : StunAtrAddress) => encodeAtrXorAddress magicCookieAndTid type atr
  | .uInt32, (value : UInt32) => encodeAtrUInt32 type value
  | .uInt64, (value : UInt64) => encodeAtrUInt64 type value
  | .upper16, (value : UInt16) => encodeAtrUInt32 type (value.toUInt32 <<< 16)
  | .upper8, (value : UInt8) => encodeAtrUInt32 type (value.toUInt32 <<< 24)
  | .string maxBytes, (atr : Data) => encodeAtrString type atr maxBytes
  | .data, (td : Data) => encodeTurnData td
  | .integrity, (hash : Vector UInt8 20) => encodeAtrIntegrity hash
  | .error, (atr : StunAtrError) => encodeAtrError atr
  | .unknown, (attrTypes : List UInt16) => encodeAtrUnknown stale attrTypes
  | .evenPort, (propType : UInt8) => encodeAtrEvenPort propType
  | .flag, _ => encodeAtr type 0 []

/-- An attribute that is written when it is set. -/
def encodeIfSet (stale : Vector UInt8 2) (m : StunMessage) (a : Attr) : Data :=
  match m.attrs a with
  | some v => encodeAttribute m.magicCookieAndTid stale a.code a.kind v
  | none => []

/-- The order in which the attributes are written: those before the peer addresses,
those between them and the requested address family, and those after it. -/
def firstAttrs : List Attr :=
  [.mappedAddress, .responseAddress, .changeRequest, .sourceAddress, .changedAddress, .username,
    .password, .errorCode, .unknownAttribute, .reflectedFrom, .realm, .nonce, .xorMappedAddress,
    .software, .alternateServer, .secondaryAddress, .turnChannelNumber, .turnLifetime,
    .turnBandwidth]

def middleAttrs : List Attr :=
  [.turnData, .turnXorRelayedAddress, .turnEvenPort, .turnRequestedTransport, .turnDontFragment,
    .turnReservationToken, .turnConnectStat]

def lastAttrs : List Attr := [.icePriority, .iceUseCandidate, .iceControlled, .iceControlling]

def encodePeers (m : StunMessage) : Data :=
  m.mTurnXorPeerAddress.flatMap (encodeAtrXorAddress m.magicCookieAndTid turnXorPeerAddressCode)

def encodeRequestedAddressFamily (m : StunMessage) : Data :=
  match m.mTurnRequestedAddressFamily with
  | some family => encodeAtrUInt32 turnRequestedAddressFamilyCode (family.toUInt32 <<< 16)
  | none => []

def encodeAttributes (stale : Vector UInt8 2) (m : StunMessage) : Data :=
  firstAttrs.flatMap (m.encodeIfSet stale) ++ (m.encodePeers ++
    (middleAttrs.flatMap (m.encodeIfSet stale) ++ (m.encodeRequestedAddressFamily ++
      lastAttrs.flatMap (m.encodeIfSet stale))))

def stunCrcFinalXor : UInt32 := 0x5354554e

/-- The length field is written when the attributes are there, before the code is computed,
and once more before the checksum is computed. -/
def stunEncodeMessage (computeHmac : Data → Data → Vector UInt8 20) (crc32 : Data → UInt32)
    (stale : Vector UInt8 2) (m : StunMessage) : Data :=
  let attributes := m.encodeAttributes stale
  let buf := encode16 (m.mClass ||| m.mMethod).toNat ++ (encode16 0 ++
    (m.magicCookieAndTid.toList ++ attributes))
  let msgSize := UInt16.ofNat attributes.length
  let msgSize := if m.has .messageIntegrity then msgSize + 24 else msgSize
  let buf := setLength buf (bytes16 msgSize)
  let buf :=
    if m.has .messageIntegrity then buf ++ encodeAtrIntegrity (computeHmac buf m.mHmacKey)
    else buf
  let msgSize := if m.has .fingerprint then msgSize + 8 else msgSize
  let buf := setLength buf (bytes16 msgSize)
  if m.has .fingerprint then
    buf ++ encodeAtrUInt32 (Attr.code .fingerprint) (crc32 buf ^^^ stunCrcFinalXor)
  else buf

/-- The checksum of all but the last attribute. -/
def checkFingerprint (crc32 : Data → UInt32) (m : StunMessage) : Bool :=
  match m.attrs .fingerprint with
  | none => true
  | some (fingerprint : UInt32) =>
    crc32 (m.mBuffer.take (m.mBuffer.length - 8)) ^^^ stunCrcFinalXor = fingerprint

end StunMessage

end Resiprocate.ReTurn
