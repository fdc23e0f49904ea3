import Mathlib
import Resiprocate.StunTuple

/-! STUN and TURN messages. Each attribute that a message holds at most once has a
name, a code point and a kind, which says how its value is coded; a message maps
the names to the values that are set. -/
namespace Resiprocate.ReTurn

/-- `StunAtrAddress`: its family says which of the two addresses it holds, the IPv4
one in host byte order, the IPv6 one in network byte order. -/
inductive StunAtrAddress
  | ipv4 (port : UInt16) (addr : UInt32)
  | ipv6 (port : UInt16) (addr : Vector UInt8 16)
  deriving DecidableEq

structure StunAtrError where
  errorClass : UInt8
  number : UInt8
  reason : Data
  deriving DecidableEq

/-- How the body of an attribute is coded. -/
inductive Kind
  | address
  | xorAddress
  | uInt32
  | uInt64
  /-- The upper half of a 32-bit number. -/
  | upper16
  /-- The first byte of a 32-bit number. -/
  | upper8
  | string (maxBytes : ℕ)
  | data
  | integrity
  | error
  | unknown
  | evenPort
  | flag
  deriving DecidableEq

def Kind.Value : Kind → Type
  | .address | .xorAddress => StunAtrAddress
  | .uInt32 => UInt32
  | .uInt64 => UInt64
  | .upper16 => UInt16
  | .upper8 => UInt8
  | .string _ | .data => Data
  | .integrity => Vector UInt8 20
  | .error => StunAtrError
  | .unknown => List UInt16
  | .evenPort => UInt8
  | .flag => Unit

instance (k : Kind) : DecidableEq k.Value :=
  match k with
  | .address | .xorAddress => inferInstanceAs (DecidableEq StunAtrAddress)
  | .uInt32 => inferInstanceAs (DecidableEq UInt32)
  | .uInt64 => inferInstanceAs (DecidableEq UInt64)
  | .upper16 => inferInstanceAs (DecidableEq UInt16)
  | .upper8 | .evenPort => inferInstanceAs (DecidableEq UInt8)
  | .string _ | .data => inferInstanceAs (DecidableEq Data)
  | .integrity => inferInstanceAs (DecidableEq (Vector UInt8 20))
  | .error => inferInstanceAs (DecidableEq StunAtrError)
  | .unknown => inferInstanceAs (DecidableEq (List UInt16))
  | .flag => inferInstanceAs (DecidableEq Unit)

/-- The attributes that a message holds at most once. -/
inductive Attr
  | mappedAddress | responseAddress | changeRequest | sourceAddress | changedAddress
  | username | password | messageIntegrity | errorCode | unknownAttribute | reflectedFrom
  | realm | nonce | xorMappedAddress | fingerprint | software | alternateServer
  | secondaryAddress | turnChannelNumber | turnLifetime | turnBandwidth | turnData
  | turnXorRelayedAddress | turnEvenPort | turnRequestedTransport | turnDontFragment
  | turnReservationToken | turnConnectStat | icePriority | iceUseCandidate | iceControlled
  | iceControlling
  deriving DecidableEq, Repr

namespace Attr

def code : Attr → UInt16
  | mappedAddress => 0x0001
  | responseAddress => 0x0002
  | changeRequest => 0x0003
  | sourceAddress => 0x0004
  | changedAddress => 0x0005
  | username => 0x0006
  | password => 0x0007
  | messageIntegrity => 0x0008
  | errorCode => 0x0009
  | unknownAttribute => 0x000A
  | reflectedFrom => 0x000B
  | realm => 0x0014
  | nonce => 0x0015
  | xorMappedAddress => 0x0020
  | fingerprint => 0x8028
  | software => 0x8022
  | alternateServer => 0x8023
  | secondaryAddress => 0x8050
  | turnChannelNumber => 0x000C
  | turnLifetime => 0x000D
  | turnBandwidth => 0x0010
  | turnData => 0x0013
  | turnXorRelayedAddress => 0x0016
  | turnEvenPort => 0x0018
  | turnRequestedTransport => 0x0019
  | turnDontFragment => 0x001a
  | turnReservationToken => 0x0022
  | turnConnectStat => 0x0023
  | icePriority => 0x0024
  | iceUseCandidate => 0x0025
  | iceControlled => 0x8029
  | iceControlling => 0x802A

def kind : Attr → Kind
  | mappedAddress | responseAddress | sourceAddress | changedAddress | reflectedFrom
  | alternateServer | secondaryAddress => .address
  | xorMappedAddress | turnXorRelayedAddress => .xorAddress
  | changeRequest | fingerprint | turnLifetime | turnBandwidth | turnConnectStat
  | icePriority => .uInt32
  | turnReservationToken | iceControlled | iceControlling => .uInt64
  | turnChannelNumber => .upper16
  | turnRequestedTransport => .upper8
  | username | password => .string 512
  | realm | nonce | software => .string 763
  | turnData => .data
  | messageIntegrity => .integrity
  | errorCode => .error
  | unknownAttribute => .unknown
  | turnEvenPort => .evenPort
  | turnDontFragment | iceUseCandidate => .flag

abbrev Value (a : Attr) : Type := a.kind.Value

end Attr

/-- `mTurnXorPeerAddress` and the list of unknown required attributes are counted
arrays; a request for an address family can be sent, but is not known to the parser. -/
structure StunMessage where
  mClass : UInt16
  mMethod : UInt16
  mLocalTuple : StunTuple
  mRemoteTuple : StunTuple
  mBuffer : Data
  mHmacKey : Data
  mMessageIntegrityMsgLength : UInt16
  /-- `mHeader.magicCookieAndTid`, in network byte order. -/
  magicCookieAndTid : Vector UInt8 16
  attrs : (a : Attr) → Option a.Value
  mTurnXorPeerAddress : List StunAtrAddress
  mTurnRequestedAddressFamily : Option UInt16
  mUnknownRequiredAttributes : List UInt16

namespace StunMessage

def stunClassRequest : UInt16 := 0x0000
def stunClassIndication : UInt16 := 0x0010
def stunClassSuccessResponse : UInt16 := 0x0100
def stunClassErrorResponse : UInt16 := 0x0110

def bindMethod : UInt16 := 0x001
def sharedSecretMethod : UInt16 := 0x002
def turnAllocateMethod : UInt16 := 0x003
def turnRefreshMethod : UInt16 := 0x004
def turnSendMethod : UInt16 := 0x006
def turnCreatePermissionMethod : UInt16 := 0x008
def turnChannelBindMethod : UInt16 := 0x009

def stunMagicCookie : UInt32 := 0x2112A442

/-- `STUN_MAX_UNKNOWN_ATTRIBUTES` and `TURN_MAX_XOR_PEER_ADDR`. -/
def stunMaxUnknownAttributes : ℕ := 8
def turnMaxXorPeerAddr : ℕ := 8

def anyTuple : StunTuple := ⟨.none, .v4 0, 0⟩

/-- A message as `init` leaves it; class, method and transaction id are set later. -/
def init : StunMessage where
  mClass := 0
  mMethod := 0
  mLocalTuple := anyTuple
  mRemoteTuple := anyTuple
  mBuffer := []
  mHmacKey := []
  mMessageIntegrityMsgLength := 0
  magicCookieAndTid := .replicate 16 0
  attrs _ := none
  mTurnXorPeerAddress := []
  mTurnRequestedAddressFamily := none
  mUnknownRequiredAttributes := []

def set (m : StunMessage) (a : Attr) (value : a.Value) : StunMessage :=
  { m with attrs := Function.update m.attrs a (some value) }

/-- `*mUsername`, which is looked at when it is set. -/
def mUsername (m : StunMessage) : Data :=
  match m.attrs .username with
  | some username => username
  | none => []

def mTurnLifetime (m : StunMessage) : Option UInt32 := m.attrs .turnLifetime

def has (m : StunMessage) (a : Attr) : Bool := (m.attrs a).isSome

/-- The text of a literal. -/
def text (s : String) : Data := s.toList.map fun c => UInt8.ofNat c.toNat

def setErrorCode (m : StunMessage) (errorCode : ℕ) (reason : String) : StunMessage :=
  m.set .errorCode ⟨UInt8.ofNat (errorCode / 100), UInt8.ofNat (errorCode % 100), text reason⟩

/-- The first four bytes of `magicCookieAndTid` are the cookie. -/
def hasMagicCookie (m : StunMessage) : Bool :=
  m.magicCookieAndTid.toList.take 4 = [0x21, 0x12, 0xA4, 0x42]

/-- A port is cut to 16 bits. -/
def stunAtrAddressOfTuple (tuple : StunTuple) : StunAtrAddress :=
  match tuple.mAddress with
  | .v6 bytes => .ipv6 (UInt16.ofNat tuple.mPort) bytes
  | .v4 address => .ipv4 (UInt16.ofNat tuple.mPort) address

/-- `setTupleFromStunAtrAddress`: the transport of the tuple is kept. -/
def setTupleFromStunAtrAddress (tuple : StunTuple) : StunAtrAddress → StunTuple
  | .ipv6 port addr => { tuple with mPort := port.toNat, mAddress := .v6 addr }
  | .ipv4 port addr => { tuple with mPort := port.toNat, mAddress := .v4 addr }

/-- The length field of a buffer replaced. -/
def setLength (buffer : Data) (length : Data) : Data :=
  buffer.take 2 ++ length ++ buffer.drop 4

/-- `htons` of a length, as bytes. -/
def bytes16 (x : UInt16) : Data := [UInt8.ofNat (x.toNat / 256), UInt8.ofNat (x.toNat % 256)]

/-- The check rewrites the length field of the buffer, computes the code of the bytes in
front of the attribute and restores the field. -/
def checkMessageIntegrity (computeHmac : Data → Data → Vector UInt8 20) (m : StunMessage)
    (hmacKey : Data) : Bool × StunMessage :=
  match m.attrs .messageIntegrity with
  | none => (true, m)
  | some (hash : Vector UInt8 20) =>
    let originalLength := (m.mBuffer.drop 2).take 2
    let m := { m with mBuffer := setLength m.mBuffer (bytes16 m.mMessageIntegrityMsgLength) }
    let hmac := computeHmac (m.mBuffer.take (m.mMessageIntegrityMsgLength.toNat - 24 + 20)) hmacKey
    let m := { m with mBuffer := setLength m.mBuffer originalLength }
    (decide (hash = hmac), m)

end StunMessage

end Resiprocate.ReTurn
