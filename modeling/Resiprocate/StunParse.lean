import Mathlib
import Resiprocate.StunMessage
import Resiprocate.Tlv

/-! The parser of STUN messages. The buffer is read with bounds: a read that goes
past its end stops the parser as `outOfBounds`, where the source reads on. -/
namespace Resiprocate.ReTurn
open BigEndian (value)

inductive Stop
  | rejected
  | outOfBounds
  deriving DecidableEq, Repr

abbrev Parse := Except Stop

namespace Parse
variable {α β : Type}

@[simp] theorem pure_eq (a : α) : (pure a : Parse α) = .ok a := rfl

@[simp] theorem ok_bind (a : α) (f : α → Parse β) : (Except.ok a : Parse α) >>= f = f a := rfl

@[simp] theorem error_bind (e : Stop) (f : α → Parse β) :
    (Except.error e : Parse α) >>= f = .error e := rfl

theorem bind_eq_ok {x : Parse α} {f : α → Parse β} {b : β} :
    x >>= f = .ok b ↔ ∃ a, x = .ok a ∧ f a = .ok b := by
  cases x <;> simp

theorem bind_eq_error {x : Parse α} {f : α → Parse β} {e : Stop} :
    x >>= f = .error e ↔ x = .error e ∨ ∃ a, x = .ok a ∧ f a = .error e := by
  cases x <;> simp

end Parse

/-- A `memcpy` out of the buffer, and a `Data` that shares it. -/
def bytesAt (buf : Data) (offset n : ℕ) : Parse Data :=
  if offset + n ≤ buf.length then .ok ((buf.drop offset).take n) else .error .outOfBounds

/-- A number in network byte order. -/
def numberAt (buf : Data) (offset n : ℕ) : Parse ℕ := do
  return value (← bytesAt buf offset n)

def vectorOf (n : ℕ) (l : Data) : Vector UInt8 n := Vector.ofFn fun i => l.getD i 0

/-- The difference of two `unsigned int`. -/
def unsignedSub (a b : ℕ) : ℕ := (a + 2 ^ 32 - b) % 2 ^ 32

namespace StunMessage

def ipv4Family : ℕ := 0x01
def ipv6Family : ℕ := 0x02

def maxErrorcodeReasonBytes : ℕ := 763

/-- `sizeof(StunMsgHdr)` and `sizeof(StunAtrUnknown)`. -/
def stunMsgHdrSize : ℕ := 20
def stunAtrUnknownSize : ℕ := 18

def xorMappedAddressOld : UInt16 := 0x8020
def turnXorPeerAddressCode : UInt16 := 0x0012
def turnRequestedAddressFamilyCode : UInt16 := 0x0017

/-- The old code of an attribute is an alias. -/
def attrOfCode (atrType : UInt16) : Option Attr :=
  if atrType = xorMappedAddressOld then some .xorMappedAddress
  else
    [.mappedAddress, .responseAddress, .changeRequest, .sourceAddress, .changedAddress, .username,
      .password, .messageIntegrity, .errorCode, .unknownAttribute, .reflectedFrom, .realm, .nonce,
      .xorMappedAddress, .fingerprint, .software, .alternateServer, .secondaryAddress,
      .turnChannelNumber, .turnLifetime, .turnBandwidth, .turnData, .turnXorRelayedAddress,
      .turnEvenPort, .turnRequestedTransport, .turnDontFragment, .turnReservationToken,
      .turnConnectStat, .icePriority, .iceUseCandidate, .iceControlled, .iceControlling].find?
      fun a : Attr => a.code = atrType

def applyXorToAddress (magicCookieAndTid : Vector UInt8 16) : StunAtrAddress → StunAtrAddress
  | .ipv4 port addr => .ipv4 (port ^^^ (stunMagicCookie >>> 16).toUInt16) (addr ^^^ stunMagicCookie)
  | .ipv6 port addr => .ipv6 (port ^^^ (stunMagicCookie >>> 16).toUInt16)
      (addr.zipWith (· ^^^ ·) magicCookieAndTid)

/-- The family decides what is read, whatever the length says. -/
def stunParseAtrAddress (body : Data) (hdrLen : ℕ) : Parse StunAtrAddress :=
  if hdrLen ≠ 8 ∧ hdrLen ≠ 20 then .error .rejected
  else do
    let family ← numberAt body 1 1
    let port ← numberAt body 2 2
    if family = ipv4Family then
      let naddr ← numberAt body 4 4
      return .ipv4 (UInt16.ofNat port) (UInt32.ofNat naddr)
    else if family = ipv6Family then
      let ipv6 ← bytesAt body 4 16
      return .ipv6 (UInt16.ofNat port) (vectorOf 16 ipv6)
    else .error .rejected

def stunParseAtrXorAddress (magicCookieAndTid : Vector UInt8 16) (body : Data) (hdrLen : ℕ) :
    Parse StunAtrAddress := do
  return applyXorToAddress magicCookieAndTid (← stunParseAtrAddress body hdrLen)

def stunParseAtrEvenPort (body : Data) (hdrLen : ℕ) : Parse UInt8 :=
  if hdrLen ≠ 1 then .error .rejected
  else do return UInt8.ofNat (← numberAt body 0 1) &&& 0x80

def stunParseAtrUInt32 (body : Data) (hdrLen : ℕ) : Parse UInt32 :=
  if hdrLen ≠ 4 then .error .rejected
  else do return UInt32.ofNat (← numberAt body 0 4)

def stunParseAtrUInt64 (body : Data) (hdrLen : ℕ) : Parse UInt64 :=
  if hdrLen ≠ 8 then .error .rejected
  else do return UInt64.ofNat (← numberAt body 0 8)

def stunParseAtrError (body : Data) (hdrLen : ℕ) : Parse StunAtrError := do
  let errorClass ← numberAt body 2 1
  let number ← numberAt body 3 1
  let reasonLen :=
    if maxErrorcodeReasonBytes < unsignedSub hdrLen 4 then maxErrorcodeReasonBytes
    else unsignedSub hdrLen 4
  let reason ← bytesAt body 4 reasonLen
  return ⟨UInt8.ofNat errorClass &&& 0x7, UInt8.ofNat number, reason⟩

/-- `n` numbers of 16 bits from an offset on. -/
def attrTypesAt (body : Data) : ℕ → ℕ → Parse (List UInt16)
  | _, 0 => .ok []
  | offset, n + 1 => do
    let attrType ← numberAt body offset 2
    let attrTypes ← attrTypesAt body (offset + 2) n
    return UInt16.ofNat attrType :: attrTypes

def stunParseAtrUnknown (body : Data) (hdrLen : ℕ) : Parse (List UInt16) :=
  if stunAtrUnknownSize ≤ hdrLen then .error .rejected
  else if hdrLen % 2 ≠ 0 then .error .rejected
  else attrTypesAt body 0 (hdrLen / 2)

def stunParseAtrIntegrity (body : Data) (hdrLen : ℕ) : Parse (Vector UInt8 20) :=
  if hdrLen ≠ 20 then .error .rejected
  else do return vectorOf 20 (← bytesAt body 0 hdrLen)

/-- The value of an attribute, with the checks that the parser makes itself. -/
def parseValue (magicCookieAndTid : Vector UInt8 16) (kind : Kind) (body : Data) (attrLen : ℕ) :
    Parse kind.Value :=
  match kind with
  | .address => stunParseAtrAddress body attrLen
  | .xorAddress => stunParseAtrXorAddress magicCookieAndTid body attrLen
  | .uInt32 => stunParseAtrUInt32 body attrLen
  | .uInt64 => stunParseAtrUInt64 body attrLen
  | .upper16 => do return ((← stunParseAtrUInt32 body attrLen) >>> 16).toUInt16
  | .upper8 => do return ((← stunParseAtrUInt32 body attrLen) >>> 24).toUInt8
  | .string maxBytes => if maxBytes < attrLen then .error .rejected else bytesAt body 0 attrLen
  | .data => bytesAt body 0 attrLen
  | .integrity => stunParseAtrIntegrity body attrLen
  | .error =>
    if maxErrorcodeReasonBytes < unsignedSub attrLen 4 then .error .rejected
    else stunParseAtrError body attrLen
  | .unknown => stunParseAtrUnknown body attrLen
  | .evenPort => stunParseAtrEvenPort body attrLen
  | .flag => if attrLen ≠ 0 then .error .rejected else .ok ()

/-- An attribute that is kept; the position of the message integrity is remembered. -/
def keep (m : StunMessage) (a : Attr) (value : a.Value) (position : ℕ) : StunMessage :=
  { m.set a value with
    mMessageIntegrityMsgLength :=
      if a = .messageIntegrity then UInt16.ofNat position else m.mMessageIntegrityMsgLength }

/-- The `switch` of the parser; `body` runs to the end of the buffer. -/
def parseAttribute (msgLength : ℕ) (m : StunMessage) (atrType : UInt16) (body : Data)
    (attrLen : ℕ) : Parse StunMessage :=
  match attrOfCode atrType with
  | some a =>
    if m.has a then .ok m
    else do
      let value ← parseValue m.magicCookieAndTid a.kind body attrLen
      return m.keep a value (msgLength - body.length + attrLen)
  | none =>
    if atrType = turnXorPeerAddressCode then
      if m.mTurnXorPeerAddress.length < turnMaxXorPeerAddr then do
        let address ← stunParseAtrXorAddress m.magicCookieAndTid body attrLen
        return { m with mTurnXorPeerAddress := m.mTurnXorPeerAddress ++ [address] }
      else .ok m
    else if atrType ≤ 0x7FFF then
      if m.mUnknownRequiredAttributes.length < stunMaxUnknownAttributes then
        .ok { m with mUnknownRequiredAttributes := m.mUnknownRequiredAttributes ++ [atrType] }
      else .ok m
    else .ok m

/-- One round of the loop: the message and what is left of the buffer. -/
def parseNext (msgLength : ℕ) (m : StunMessage) (body : Data) : Parse (StunMessage × Data) := do
  let attrLen ← numberAt body 2 2
  let attrLenPad := if attrLen % 4 = 0 then 0 else 4 - attrLen % 4
  let atrType ← numberAt body 0 2
  if body.length < attrLen + attrLenPad + 4 then .error .rejected
  else
    let m ← parseAttribute msgLength m (UInt16.ofNat atrType) (body.drop 4) attrLen
    return (m, body.drop (4 + (attrLen + attrLenPad)))

/-- The loop; every round takes at least four bytes. -/
def parseAttributes (msgLength : ℕ) : ℕ → StunMessage → Data → Parse StunMessage
  | 0, m, _ => .ok m
  | fuel + 1, m, body =>
    if body = [] then .ok m
    else do
      let next ← parseNext msgLength m body
      parseAttributes msgLength fuel next.1 next.2

/-- The header taken over. -/
def withHeader (m : StunMessage) (msgType : UInt16) (magicCookieAndTid : Data) : StunMessage :=
  { m with
    mClass := msgType &&& 0x0110
    mMethod := msgType &&& 0x000F
    magicCookieAndTid := vectorOf 16 magicCookieAndTid
    mUnknownRequiredAttributes := [] }

def stunParseMessage (m : StunMessage) (buf : Data) : Parse StunMessage :=
  if buf.length < stunMsgHdrSize then .error .rejected
  else do
    let msgType ← numberAt buf 0 2
    let msgLength ← numberAt buf 2 2
    let magicCookieAndTid ← bytesAt buf 4 16
    if msgLength + stunMsgHdrSize ≠ buf.length then .error .rejected
    else
      let m := m.withHeader (UInt16.ofNat msgType) magicCookieAndTid
      parseAttributes msgLength msgLength m (buf.drop stunMsgHdrSize)

/-- The constructor for a received buffer; it keeps a copy. -/
def ofBuffer (localTuple remoteTuple : StunTuple) (buf : Data) : Parse StunMessage :=
  stunParseMessage { init with
    mLocalTuple := localTuple
    mRemoteTuple := remoteTuple
    mBuffer := buf } buf

end StunMessage

end Resiprocate.ReTurn
