import Mathlib
import Resiprocate.StunEncodeValues
import Resiprocate.StunIntegrityTail

/-! The shape of what the encoder writes: a header with the length of what follows, the
attributes, the message integrity and the fingerprint. -/
namespace Resiprocate.ReTurn
open BigEndian (value)
open Tlv (Record fill area)

namespace StunMessage

theorem bytes16_eq (x : UInt16) : bytes16 x = encode16 x.toNat := by
  have hlow : UInt8.ofNat (x.toNat % 256) = UInt8.ofNat (x.toNat / 256 ^ 0) := by
    apply UInt8.toNat_inj.mp
    simp
  simp [bytes16, encode16, BigEndian.bytes, hlow]

/-- A header with a length field, and what follows it. -/
def frame (m : StunMessage) (msgSize : UInt16) (rest : Data) : Data :=
  encode16 (m.mClass ||| m.mMethod).toNat ++ (bytes16 msgSize ++ (m.magicCookieAndTid.toList ++ rest))

section Frame
variable {m : StunMessage} {msgSize msgSize' : UInt16} {rest : Data}

theorem frame_append (rest' : Data) : m.frame msgSize (rest ++ rest') = m.frame msgSize rest ++ rest' := by
  simp [frame]

theorem length_encode16 (x : ℕ) : (encode16 x).length = 2 := BigEndian.length_bytes 2 x

theorem length_bytes16 (x : UInt16) : (bytes16 x).length = 2 := rfl

theorem length_frame : (m.frame msgSize rest).length = 20 + rest.length := by
  simp only [frame, List.length_append, length_encode16, length_bytes16, Vector.length_toList]
  omega

theorem frame_type : (m.frame msgSize rest).take 2 = encode16 (m.mClass ||| m.mMethod).toNat := by
  rw [frame, List.take_append_of_le_length (length_encode16 _).ge,
    List.take_of_length_le (length_encode16 _).le]

theorem frame_drop2 :
    (m.frame msgSize rest).drop 2 = bytes16 msgSize ++ (m.magicCookieAndTid.toList ++ rest) := by
  rw [frame, List.drop_append_of_le_length (length_encode16 _).ge,
    List.drop_of_length_le (length_encode16 _).le, List.nil_append]

theorem frame_length : ((m.frame msgSize rest).drop 2).take 2 = bytes16 msgSize := by
  rw [frame_drop2, List.take_append_of_le_length (length_bytes16 _).ge,
    List.take_of_length_le (length_bytes16 _).le]

theorem frame_drop4 : (m.frame msgSize rest).drop 4 = m.magicCookieAndTid.toList ++ rest := by
  rw [show 4 = 2 + 2 from rfl, ← List.drop_drop, frame_drop2,
    List.drop_append_of_le_length (length_bytes16 _).ge,
    List.drop_of_length_le (length_bytes16 _).le, List.nil_append]

theorem frame_id : ((m.frame msgSize rest).drop 4).take 16 = m.magicCookieAndTid.toList := by
  have h : m.magicCookieAndTid.toList.length = 16 := by simp
  rw [frame_drop4, List.take_append_of_le_length h.ge, List.take_of_length_le h.le]

theorem frame_drop : (m.frame msgSize rest).drop stunMsgHdrSize = rest := by
  have h : m.magicCookieAndTid.toList.length = 16 := by simp
  rw [show stunMsgHdrSize = 4 + 16 from rfl, ← List.drop_drop, frame_drop4,
    List.drop_append_of_le_length h.ge, List.drop_of_length_le h.le, List.nil_append]

/-- Writing the length field changes nothing else. -/
theorem setLength_frame : setLength (m.frame msgSize rest) (bytes16 msgSize') = m.frame msgSize' rest := by
  rw [setLength, frame_type, frame_drop4, frame, List.append_assoc]

theorem headerLength_frame : headerLength (m.frame msgSize rest) = msgSize.toNat := by
  rw [headerLength, frame_length, value_bytes16]

theorem headerFits_frame : HeaderFits (m.frame msgSize rest) ↔ msgSize.toNat = rest.length := by
  unfold HeaderFits
  rw [headerLength_frame, length_frame]
  unfold stunMsgHdrSize
  omega

/-- The message that the header of a frame makes. -/
theorem entered_frame (m₀ : StunMessage) :
    m₀.entered (m.frame msgSize rest) =
      { m₀ with
        mClass := (m.mClass ||| m.mMethod) &&& 0x0110
        mMethod := (m.mClass ||| m.mMethod) &&& 0x000F
        magicCookieAndTid := m.magicCookieAndTid
        mUnknownRequiredAttributes := [] } := by
  have htype : UInt16.ofNat (value (encode16 (m.mClass ||| m.mMethod).toNat)) =
      m.mClass ||| m.mMethod := by
    rw [encode16, BigEndian.value_bytes_of_lt (UInt16.toNat_lt _), UInt16.ofNat_toNat]
  rw [entered, frame_type, frame_id, htype, withHeader, vectorOf_toList]

end Frame

/-- The attributes that are computed. -/
def integrityBytes : Option (Vector UInt8 20) → Data
  | some hash => encodeAtrIntegrity hash
  | none => []

def fingerprintBytes : Option UInt32 → Data
  | some fingerprint => encodeAtrUInt32 (Attr.code .fingerprint) fingerprint
  | none => []

section Encoded
variable (computeHmac : Data → Data → Vector UInt8 20) (crc32 : Data → UInt32)
  (stale : Vector UInt8 2) (m : StunMessage)

/-- The length field when the code is computed, and at the end. -/
def integritySize : UInt16 :=
  if m.has .messageIntegrity then UInt16.ofNat (m.encodeAttributes stale).length + 24
  else UInt16.ofNat (m.encodeAttributes stale).length

def messageSize : UInt16 :=
  if m.has .fingerprint then m.integritySize stale + 8 else m.integritySize stale

/-- The message integrity over the header and the attributes. -/
def computedIntegrity : Option (Vector UInt8 20) :=
  if m.has .messageIntegrity then
    some (computeHmac (m.frame (m.integritySize stale) (m.encodeAttributes stale)) m.mHmacKey)
  else none

/-- The fingerprint over all of this. -/
def computedFingerprint : Option UInt32 :=
  if m.has .fingerprint then
    some (crc32 (m.frame (m.messageSize stale)
      (m.encodeAttributes stale ++ integrityBytes (m.computedIntegrity computeHmac stale))) ^^^
        stunCrcFinalXor)
  else none

theorem stunEncodeMessage_eq : stunEncodeMessage computeHmac crc32 stale m =
    m.frame (m.messageSize stale) (m.encodeAttributes stale ++
      (integrityBytes (m.computedIntegrity computeHmac stale) ++
        fingerprintBytes (m.computedFingerprint computeHmac crc32 stale))) := by
  have hzero : encode16 (m.mClass ||| m.mMethod).toNat ++ (encode16 0 ++
      (m.magicCookieAndTid.toList ++ m.encodeAttributes stale)) =
        m.frame 0 (m.encodeAttributes stale) := by
    rw [frame, bytes16_eq]
    rfl
  unfold stunEncodeMessage
  simp only [hzero, setLength_frame, ← frame_append]
  by_cases hmi : m.has .messageIntegrity <;> by_cases hfp : m.has .fingerprint <;>
    simp [messageSize, integritySize, computedIntegrity, computedFingerprint, integrityBytes,
      fingerprintBytes, hmi, hfp, ← frame_append, setLength_frame]

end Encoded

end StunMessage

end Resiprocate.ReTurn
