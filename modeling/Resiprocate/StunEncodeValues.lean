import Mathlib
import Resiprocate.StunEncode
import Resiprocate.StunParseRun

/-! Each attribute is written as one record, which is read back as the same value. -/
namespace Resiprocate.ReTurn
open BigEndian (value)
open Tlv (Record fill area)

section Reads
variable {l rest : Data} {offset o n : ℕ}

theorem bytesAt_skip (skipped : Data) (h : offset = skipped.length + o) :
    bytesAt (skipped ++ l) offset n = bytesAt l o n := by
  subst h
  unfold bytesAt
  have hle : skipped.length + o + n ≤ (skipped ++ l).length ↔ o + n ≤ l.length := by
    rw [List.length_append]
    omega
  by_cases hn : o + n ≤ l.length
  · rw [if_pos hn, if_pos (hle.mpr hn), List.drop_append]
    have hdrop : skipped.drop (skipped.length + o) = [] := List.drop_of_length_le (by omega)
    rw [hdrop, List.nil_append, Nat.add_sub_cancel_left]
  · rw [if_neg hn, if_neg (fun h => hn (hle.mp h))]

theorem numberAt_skip (skipped : Data) (h : offset = skipped.length + o) :
    numberAt (skipped ++ l) offset n = numberAt l o n := by
  rw [numberAt, numberAt, bytesAt_skip skipped h]

theorem bytesAt_here (h : l.length = n) : bytesAt (l ++ rest) 0 n = .ok l := by
  subst h
  rw [bytesAt_of_le (by simp), List.drop_zero, List.take_left]

theorem numberAt_here {x : ℕ} (h : x < 256 ^ n) :
    numberAt (BigEndian.bytes n x ++ rest) 0 n = .ok x := by
  rw [numberAt, bytesAt_here (BigEndian.length_bytes n x), Parse.ok_bind,
    BigEndian.value_bytes_of_lt h]
  rfl

theorem numberAt_byte {b : UInt8} : numberAt (b :: l) 0 1 = .ok b.toNat := by
  rw [numberAt, bytesAt_of_le (by simp)]
  simp [value]

end Reads

theorem vectorOf_toList {n : ℕ} (v : Vector UInt8 n) : vectorOf n v.toList = v := by
  ext i hi
  simp [vectorOf]

theorem length_zeros (n : ℕ) : (StunMessage.zeros n).length = n := List.length_replicate

/-- A value that the encoder can write so that it is read back: a text within its
bound, an error class of one digit, at most as many types as there is room for. -/
def Kind.Fits (k : Kind) (v : k.Value) : Prop :=
  match k, v with
  | .string maxBytes, (text : Data) => text.length ≤ maxBytes
  | .error, (errorCode : StunAtrError) =>
    1 ≤ errorCode.errorClass ∧ errorCode.errorClass ≤ 6 ∧
      errorCode.reason.length ≤ StunMessage.maxErrorcodeReasonBytes
  | .unknown, (attrTypes : List UInt16) => attrTypes.length ≤ StunMessage.stunMaxUnknownAttributes
  | .evenPort, (propType : UInt8) => propType = 0x00 ∨ propType = 0x80
  | _, _ => True

namespace StunMessage

/-- Bytes that are a record of a type, which `parse` reads as a value. -/
def Encodes {α : Type} (bytes : Data) (type : UInt16) (parse : Data → ℕ → Parse α) (v : α) : Prop :=
  ∃ r : Record, bytes = r.bytes ∧ r.type = type ∧ ∀ rest, parse (r.content ++ rest) r.length = .ok v

section Values
variable {α : Type} {type : UInt16} {length : ℕ} {content : Data} {parse : Data → ℕ → Parse α} {v : α}

theorem encodes_encodeAtr (hlt : length < 256 ^ 2) (hcontent : content.length = length + fill length)
    (hparse : ∀ rest, parse (content ++ rest) length = .ok v) :
    Encodes (encodeAtr type length content) type parse v :=
  ⟨⟨type, length, content, hlt, hcontent⟩, rfl, rfl, hparse⟩

theorem length_encodeAtr : (encodeAtr type length content).length = 4 + content.length := by
  simp only [encodeAtr, encode16, List.length_append, BigEndian.length_bytes]
  omega

theorem stunParseAtrUInt32_encode32 (value : UInt32) (rest : Data) :
    stunParseAtrUInt32 (encode32 value ++ rest) 4 = .ok value := by
  rw [stunParseAtrUInt32, if_neg (by simp), encode32, numberAt_here value.toNat_lt, Parse.ok_bind,
    UInt32.ofNat_toNat]
  rfl

theorem encodes_uInt32 (type : UInt16) (value : UInt32) :
    Encodes (encodeAtrUInt32 type value) type stunParseAtrUInt32 value :=
  encodes_encodeAtr (by norm_num) (BigEndian.length_bytes 4 _) (stunParseAtrUInt32_encode32 value)

theorem encodes_uInt64 (value : UInt64) :
    Encodes (encodeAtrUInt64 type value) type stunParseAtrUInt64 value := by
  refine encodes_encodeAtr (by norm_num) (BigEndian.length_bytes 8 _) fun rest => ?_
  rw [stunParseAtrUInt64, if_neg (by simp), encode64, numberAt_here value.toNat_lt, Parse.ok_bind,
    UInt64.ofNat_toNat]
  rfl

theorem upper16_shift (value : UInt16) : (value.toUInt32 <<< 16 >>> 16).toUInt16 = value := by
  apply UInt16.toNat_inj.mp
  have hlt := value.toNat_lt
  simp [Nat.shiftLeft_eq, Nat.shiftRight_eq_div_pow]
  omega

theorem upper8_shift (value : UInt8) : (value.toUInt32 <<< 24 >>> 24).toUInt8 = value := by
  apply UInt8.toNat_inj.mp
  have hlt := value.toNat_lt
  simp [Nat.shiftLeft_eq, Nat.shiftRight_eq_div_pow]
  omega

section Address
variable {family : UInt8} {port : UInt16} {tail : Data}

theorem address_family : numberAt (0 :: family :: (encode16 port.toNat ++ tail)) 1 1 =
    .ok family.toNat :=
  (numberAt_skip [0] rfl).trans numberAt_byte

theorem address_port : numberAt (0 :: family :: (encode16 port.toNat ++ tail)) 2 2 =
    .ok port.toNat :=
  (numberAt_skip [0, family] rfl).trans (numberAt_here port.toNat_lt)

theorem address_rest {n : ℕ} : bytesAt (0 :: family :: (encode16 port.toNat ++ tail)) 4 n =
    bytesAt tail 0 n :=
  bytesAt_skip (0 :: family :: encode16 port.toNat) rfl

end Address

theorem stunParseAtrAddress_ipv4 (port : UInt16) (addr : UInt32) (rest : Data) :
    stunParseAtrAddress (0 :: 1 :: (encode16 port.toNat ++ (encode32 addr ++ rest))) 8 =
      .ok (.ipv4 port addr) := by
  have hnaddr : numberAt (0 :: 1 :: (encode16 port.toNat ++ (encode32 addr ++ rest))) 4 4 =
      .ok addr.toNat := by
    rw [numberAt, address_rest]
    exact numberAt_here addr.toNat_lt
  rw [stunParseAtrAddress, if_neg (by simp), address_family, address_port]
  simp only [Parse.ok_bind]
  rw [if_pos (show (1 : UInt8).toNat = ipv4Family from rfl), hnaddr, Parse.ok_bind,
    UInt16.ofNat_toNat, UInt32.ofNat_toNat]
  rfl

theorem stunParseAtrAddress_ipv6 (port : UInt16) (addr : Vector UInt8 16) (rest : Data) :
    stunParseAtrAddress (0 :: 2 :: (encode16 port.toNat ++ (addr.toList ++ rest))) 20 =
      .ok (.ipv6 port addr) := by
  have hipv6 : bytesAt (0 :: 2 :: (encode16 port.toNat ++ (addr.toList ++ rest))) 4 16 =
      .ok addr.toList := by
    rw [address_rest]
    exact bytesAt_here (by simp)
  rw [stunParseAtrAddress, if_neg (by simp), address_family, address_port]
  simp only [Parse.ok_bind]
  rw [if_neg (show (2 : UInt8).toNat ≠ ipv4Family by decide),
    if_pos (show (2 : UInt8).toNat = ipv6Family from rfl), hipv6, Parse.ok_bind,
    UInt16.ofNat_toNat, vectorOf_toList]
  rfl

theorem encodes_address (type : UInt16) (atr : StunAtrAddress) :
    Encodes (encodeAtrAddress type atr) type stunParseAtrAddress atr := by
  cases atr with
  | ipv4 port addr =>
    refine encodes_encodeAtr (by norm_num) (by simp [encode16, encode32, fill]) fun rest => ?_
    simpa using stunParseAtrAddress_ipv4 port addr rest
  | ipv6 port addr =>
    refine encodes_encodeAtr (by norm_num) (by simp [encode16, fill]) fun rest => ?_
    simpa using stunParseAtrAddress_ipv6 port addr rest

theorem applyXorToAddress_twice (magicCookieAndTid : Vector UInt8 16) (atr : StunAtrAddress) :
    applyXorToAddress magicCookieAndTid (applyXorToAddress magicCookieAndTid atr) = atr := by
  cases atr with
  | ipv4 port addr => simp [applyXorToAddress]
  | ipv6 port addr =>
    have hbytes : (addr.zipWith (· ^^^ ·) magicCookieAndTid).zipWith (· ^^^ ·) magicCookieAndTid =
        addr := by
      ext i hi
      simp
    simp [applyXorToAddress, hbytes]

theorem encodes_xorAddress (type : UInt16) (magicCookieAndTid : Vector UInt8 16)
    (atr : StunAtrAddress) :
    Encodes (encodeAtrXorAddress magicCookieAndTid type atr) type
      (stunParseAtrXorAddress magicCookieAndTid) atr := by
  obtain ⟨r, hbytes, htype, hparse⟩ :=
    encodes_address type (applyXorToAddress magicCookieAndTid atr)
  refine ⟨r, hbytes, htype, fun rest => ?_⟩
  rw [stunParseAtrXorAddress, hparse, Parse.ok_bind, applyXorToAddress_twice]
  rfl

theorem encodes_string {atr : Data} {maxBytes : ℕ} (h : atr.length ≤ maxBytes)
    (hmax : maxBytes < 256 ^ 2) :
    Encodes (encodeAtrString type atr maxBytes) type
      (fun body attrLen =>
        (if maxBytes < attrLen then .error .rejected else bytesAt body 0 attrLen : Parse Data)) atr := by
  have hsize : (if maxBytes < atr.length then maxBytes else atr.length) = atr.length :=
    if_neg (not_lt.mpr h)
  rw [encodeAtrString, hsize, List.take_length]
  refine encodes_encodeAtr (h.trans_lt hmax) (by rw [List.length_append, length_zeros]) fun rest => ?_
  rw [if_neg (not_lt.mpr h), List.append_assoc]
  exact bytesAt_here rfl

theorem encodes_data {td : Data} (h : (encodeTurnData td).length < 256 ^ 2) :
    Encodes (encodeTurnData td) (Attr.code .turnData) (fun body attrLen => bytesAt body 0 attrLen) td := by
  rw [encodeTurnData, length_encodeAtr, List.length_append] at h
  refine encodes_encodeAtr (by omega) (by rw [List.length_append, length_zeros]) fun rest => ?_
  rw [List.append_assoc]
  exact bytesAt_here rfl

theorem encodes_integrity (hash : Vector UInt8 20) :
    Encodes (encodeAtrIntegrity hash) (Attr.code .messageIntegrity) stunParseAtrIntegrity hash := by
  refine encodes_encodeAtr (by norm_num) (by simp [fill]) fun rest => ?_
  rw [stunParseAtrIntegrity, if_neg (by simp), bytesAt_here (by simp), Parse.ok_bind,
    vectorOf_toList]
  rfl

theorem encodes_error {atr : StunAtrError} (hclass : atr.errorClass ≤ 6)
    (h : atr.reason.length ≤ maxErrorcodeReasonBytes) :
    Encodes (encodeAtrError atr) (Attr.code .errorCode)
      (fun body attrLen =>
        (if maxErrorcodeReasonBytes < unsignedSub attrLen 4 then .error .rejected
        else stunParseAtrError body attrLen : Parse StunAtrError)) atr := by
  obtain ⟨errorClass, number, reason⟩ := atr
  have hmax : reason.length ≤ 763 := h
  have hmod : reason.length % 2 ^ 16 = reason.length := Nat.mod_eq_of_lt (by omega)
  have hsub : unsignedSub (4 + reason.length) 4 = reason.length := by
    unfold unsignedSub
    omega
  have hbits : errorClass &&& 0x7 = errorClass := by
    apply UInt8.toNat_inj.mp
    have hle : errorClass.toNat ≤ 6 := hclass
    rw [UInt8.toNat_and]
    exact (Nat.and_two_pow_sub_one_eq_mod errorClass.toNat 3).trans (Nat.mod_eq_of_lt (by omega))
  have hfill : fill (4 + reason.length) = fill reason.length := by
    simp only [fill, Nat.add_mod_left]
  rw [encodeAtrError, hmod, hbits]
  refine encodes_encodeAtr (by omega) ?_ fun rest => ?_
  · simp only [List.length_append, length_zeros, hfill, List.length_cons, List.length_nil]
  · have hreason : bytesAt (0 :: 0 :: errorClass :: number ::
        (reason ++ (zeros (fill reason.length) ++ rest))) 4 reason.length = .ok reason :=
      (bytesAt_skip [0, 0, errorClass, number] rfl).trans (bytesAt_here rfl)
    have hnumber : numberAt (0 :: 0 :: errorClass :: number ::
        (reason ++ (zeros (fill reason.length) ++ rest))) 3 1 = .ok number.toNat :=
      (numberAt_skip [0, 0, errorClass] rfl).trans numberAt_byte
    have herror : numberAt (0 :: 0 :: errorClass :: number ::
        (reason ++ (zeros (fill reason.length) ++ rest))) 2 1 = .ok errorClass.toNat :=
      (numberAt_skip [0, 0] rfl).trans numberAt_byte
    have hbody : [0, 0, errorClass, number] ++ reason ++ zeros (fill reason.length) ++ rest =
        0 :: 0 :: errorClass :: number :: (reason ++ (zeros (fill reason.length) ++ rest)) := by simp
    simp only [hbody, stunParseAtrError, hsub, if_neg (not_lt.mpr h), herror, hnumber, hreason,
      Parse.ok_bind, UInt8.ofNat_toNat, hbits]
    rfl

theorem attrTypesAt_flatMap (attrTypes : List UInt16) (skipped rest : Data) :
    attrTypesAt (skipped ++ (attrTypes.flatMap (fun attrType => encode16 attrType.toNat) ++ rest))
      skipped.length attrTypes.length = .ok attrTypes := by
  induction attrTypes generalizing skipped with
  | nil => rfl
  | cons attrType attrTypes ih =>
    have hlen : (encode16 attrType.toNat).length = 2 := BigEndian.length_bytes 2 _
    have hfirst : numberAt (skipped ++ (encode16 attrType.toNat ++
        (attrTypes.flatMap (fun attrType => encode16 attrType.toNat) ++ rest))) skipped.length 2 =
          .ok attrType.toNat :=
      (numberAt_skip skipped rfl).trans (numberAt_here attrType.toNat_lt)
    have hrest := ih (skipped ++ encode16 attrType.toNat)
    rw [List.length_append, hlen, List.append_assoc] at hrest
    rw [List.flatMap_cons, List.append_assoc, List.length_cons, attrTypesAt, hfirst, hrest,
      Parse.ok_bind, Parse.ok_bind, UInt16.ofNat_toNat]
    rfl

theorem encodes_unknown (stale : Vector UInt8 2) {attrTypes : List UInt16}
    (h : attrTypes.length ≤ stunMaxUnknownAttributes) :
    Encodes (encodeAtrUnknown stale attrTypes) (Attr.code .unknownAttribute) stunParseAtrUnknown
      attrTypes := by
  have hmax : attrTypes.length ≤ 8 := h
  have hlen : (attrTypes.flatMap fun attrType => encode16 attrType.toNat).length =
      2 * attrTypes.length := by
    simp [List.length_flatMap, encode16, Nat.mul_comm]
  refine encodes_encodeAtr (by omega) ?_ fun rest => ?_
  · have hfill : fill (2 * attrTypes.length) ≤ 2 := by
      unfold fill
      split_ifs <;> omega
    rw [List.length_append, hlen, List.length_take, Vector.length_toList, min_eq_left hfill]
  · have hsize : ¬ stunAtrUnknownSize ≤ 2 * attrTypes.length := by
      unfold stunAtrUnknownSize
      omega
    rw [stunParseAtrUnknown, if_neg hsize, if_neg (by omega), Nat.mul_div_cancel_left _ (by omega),
      List.append_assoc]
    exact attrTypesAt_flatMap attrTypes [] _

theorem encodes_evenPort {propType : UInt8} (h : propType = 0x00 ∨ propType = 0x80) :
    Encodes (encodeAtrEvenPort propType) (Attr.code .turnEvenPort) stunParseAtrEvenPort propType := by
  refine encodes_encodeAtr (by norm_num) (by simp [encode16, fill]) fun rest => ?_
  rw [stunParseAtrEvenPort, if_neg (by simp)]
  show (numberAt (propType :: _) 0 1 >>= fun x => Except.ok (UInt8.ofNat x &&& 0x80)) = _
  rw [numberAt_byte, Parse.ok_bind, UInt8.ofNat_toNat]
  obtain rfl | rfl := h <;> rfl

end Values

end StunMessage

end Resiprocate.ReTurn
