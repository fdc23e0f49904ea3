import Resiprocate.HexCoding
import Resiprocate.Tuple

/-! The token that carries the tuple of a flow through other elements and back, with a keyed digest if
there is a salt. -/
namespace Resiprocate.Transports
open NetworkWords
open Data (hex)

abbrev Bytes := List UInt8

namespace TransportType

/-- The types in the order of their numbers. -/
def numbered : List TransportType := [UNKNOWN_TRANSPORT, TLS, TCP, UDP, SCTP, DCCP, DTLS, WS, WSS, MAX_TRANSPORT]

def number (t : TransportType) : ℕ := numbered.idxOf t

def ofNumber (n : ℕ) : TransportType := numbered.getD n MAX_TRANSPORT

end TransportType

namespace Tuple

/-- `Tuple()` -/
def empty : Tuple := ⟨.V4 (Vector.replicate 4 0), 0, .UNKNOWN_TRANSPORT, 0, 0, false⟩

/-- `rawToken[2]` -/
def flags (tuple : Tuple) : UInt32 :=
  let word := (0 : UInt32) + (tuple.mPort.toUInt32 <<< 16)
  let word := word + (UInt32.ofNat tuple.mTransportType.number <<< 8)
  let word := if tuple.onlyUseExistingConnection then word + 0x00000010 else word
  if tuple.address.isV6 then word + 0x00000001 else word

/-- The token without the digest. A key of 64 bits is stored in a word. -/
def rawToken (big : Bool) (tuple : Tuple) : Bytes :=
  store big tuple.mFlowKey.toUInt32 ++ store big tuple.mTransportKey.toUInt32 ++
    store big tuple.flags ++ tuple.address.bytes

/-- What is appended: the digest of the token and the salt in hexadecimal digits. -/
def keyedDigest (md5 : Bytes → Vector UInt8 16) (token salt : Bytes) : Bytes := hex (md5 (token ++ salt)).toList

def writeBinaryToken (big : Bool) (md5 : Bytes → Vector UInt8 16) (tuple : Tuple) (salt : Bytes) : Bytes :=
  let container := tuple.rawToken big
  if salt ≠ [] then container ++ keyedDigest md5 container salt else container

/-- `rawToken[i]` of a token that came in. -/
def rawWord (big : Bool) (token : Bytes) (i : ℕ) : UInt32 :=
  load big (token.getD (4 * i) 0) (token.getD (4 * i + 1) 0) (token.getD (4 * i + 2) 0) (token.getD (4 * i + 3) 0)

/-- The bytes of the address, from `rawToken[3]` on. -/
def rawAddress (token : Bytes) (n : ℕ) : Vector UInt8 n := Vector.ofFn fun i => token.getD (12 + i) 0

def makeTupleFromBinaryToken (big : Bool) (md5 : Bytes → Vector UInt8 16) (binaryFlowToken salt : Bytes) :
    Tuple :=
  if binaryFlowToken.length < 16 then empty
  else
    let word := rawWord big binaryFlowToken
    let v6 := word 2 &&& 0x00000001 != 0
    let isRealFlow := word 2 &&& 0x00000010 != 0
    let temp := ((word 2 &&& 0x00000F00) >>> 8).toUInt8
    if temp ≥ UInt8.ofNat TransportType.MAX_TRANSPORT.number then empty
    else
      let type := TransportType.ofNumber temp.toNat
      let port := (word 2 >>> 16).toUInt16
      let size := binaryFlowToken.length
      if ¬(¬v6 ∧ salt = [] ∧ size = 16 ∨ ¬v6 ∧ salt ≠ [] ∧ size = 16 + 32 ∨
          v6 ∧ salt = [] ∧ size = 28 ∨ v6 ∧ salt ≠ [] ∧ size = 28 + 32) then empty
      else
        let tokenSizeLessHMAC := if v6 then 28 else 16
        if salt ≠ [] ∧ keyedDigest md5 (binaryFlowToken.take tokenSizeLessHMAC) salt ≠
            (binaryFlowToken.drop tokenSizeLessHMAC).take 32 then empty
        else {
          address := if v6 then .V6 (rawAddress binaryFlowToken 16) else .V4 (rawAddress binaryFlowToken 4)
          mPort := port
          mTransportType := type
          mFlowKey := (word 0).toUInt64
          mTransportKey := (word 1).toUInt64
          onlyUseExistingConnection := isRealFlow }

end Tuple

/-! ### The word of the flags -/

section
variable (t : Tuple)

theorem TransportType.ofNumber_number (type : TransportType) : TransportType.ofNumber type.number = type := by
  cases type <;> rfl

theorem TransportType.number_lt {type : TransportType} (h : type ≠ .MAX_TRANSPORT) : type.number < 9 := by
  cases type <;> first | exact absurd rfl h | decide

theorem flags_toNat : t.flags.toNat = t.mPort.toNat * 65536 + t.mTransportType.number * 256 +
    (if t.onlyUseExistingConnection then 16 else 0) + if t.address.isV6 then 1 else 0 := by
  have hport := t.mPort.toNat_lt
  have htype : t.mTransportType.number < 10 := by cases t.mTransportType <;> decide
  have hword : ((0 : UInt32) + (t.mPort.toUInt32 <<< 16) + (UInt32.ofNat t.mTransportType.number <<< 8)).toNat =
      t.mPort.toNat * 65536 + t.mTransportType.number * 256 := by
    simp only [UInt32.toNat_add, UInt32.toNat_shiftLeft, UInt16.toNat_toUInt32, UInt32.toNat_ofNat',
      Nat.shiftLeft_eq]
    change ((0 + _ * 2 ^ 16 % 2 ^ 32) % 2 ^ 32 + _ % 2 ^ 32 * 2 ^ 8 % 2 ^ 32) % 2 ^ 32 = _
    omega
  rw [Tuple.flags]
  generalize (0 : UInt32) + (t.mPort.toUInt32 <<< 16) +
    (UInt32.ofNat t.mTransportType.number <<< 8) = w at hword ⊢
  -- the bits that are added are clear in the word
  have hlow : w.toNat % 256 = 0 := by omega
  have hlt := w.toNat_lt
  rw [← hword]
  cases t.onlyUseExistingConnection <;> cases t.address.isV6
  · rfl
  · change (w + 1).toNat = w.toNat + 0 + 1
    rw [UInt32.toNat_add]
    change (w.toNat + 1) % 2 ^ 32 = _
    omega
  · change (w + 16).toNat = w.toNat + 16 + 0
    rw [UInt32.toNat_add]
    change (w.toNat + 16) % 2 ^ 32 = _
    omega
  · change (w + 16 + 1).toNat = w.toNat + 16 + 1
    rw [UInt32.toNat_add, UInt32.toNat_add]
    change ((w.toNat + 16) % 2 ^ 32 + 1) % 2 ^ 32 = _
    omega

/-- The flags are read back from the word. -/
structure ReadsFlags (w : UInt32) (port : UInt16) (type : ℕ) (only v6 : Bool) : Prop where
  v6_eq : (w &&& 0x00000001 != 0) = v6
  only_eq : (w &&& 0x00000010 != 0) = only
  type_eq : ((w &&& 0x00000F00) >>> 8).toUInt8 = UInt8.ofNat type
  port_eq : (w >>> 16).toUInt16 = port

theorem readsFlags_of_toNat {w : UInt32} {port : UInt16} {type : ℕ} {only v6 : Bool} (htype : type < 16)
    (h : w.toNat = port.toNat * 65536 + type * 256 + (if only then 16 else 0) + if v6 then 1 else 0) :
    ReadsFlags w port type only v6 := by
  have hport := port.toNat_lt
  have hand : ∀ (c : UInt32) (b : Bool), (w.toNat &&& c.toNat ≠ 0 ↔ b = true) → (w &&& c != 0) = b := by
    intro c b hb
    rw [Bool.eq_iff_iff, ← hb, bne_iff_ne, Ne, ← UInt32.toNat_inj, UInt32.toNat_and]
    rfl
  constructor
  · refine hand 1 v6 ?_
    change w.toNat &&& 1 ≠ 0 ↔ _
    rw [Nat.and_one_is_mod, h]
    cases only <;> cases v6 <;> simp <;> omega
  · refine hand 16 only ?_
    change w.toNat &&& 2 ^ 4 ≠ 0 ↔ _
    rw [Nat.and_two_pow, Nat.testBit_eq_decide_div_mod_eq, h]
    cases only <;> cases v6 <;> simp <;> omega
  · refine UInt8.toNat_inj.1 ?_
    rw [UInt32.toNat_toUInt8, UInt32.toNat_shiftRight, UInt32.toNat_and, UInt8.toNat_ofNat']
    change (w.toNat &&& 0xF00) >>> 8 % 2 ^ 8 = _
    have hmask : (w.toNat &&& 0xF00) >>> 8 = w.toNat / 256 % 16 := by
      rw [Nat.shiftRight_and_distrib, Nat.shiftRight_eq_div_pow]
      exact Nat.and_two_pow_sub_one_eq_mod _ 4
    rw [hmask, h]
    cases only <;> cases v6 <;> simp <;> omega
  · refine UInt16.toNat_inj.1 ?_
    rw [UInt32.toNat_toUInt16, UInt32.toNat_shiftRight, Nat.shiftRight_eq_div_pow]
    change w.toNat / 2 ^ 16 % 2 ^ 16 = _
    rw [h]
    cases only <;> cases v6 <;> simp <;> omega

end

/-! ### Tokens -/

namespace Tuple

section
variable (big : Bool) (md5 : Bytes → Vector UInt8 16) (t : Tuple)

theorem rawWord_rawToken (rest : Bytes) : rawWord big (t.rawToken big ++ rest) 0 = t.mFlowKey.toUInt32 ∧
    rawWord big (t.rawToken big ++ rest) 1 = t.mTransportKey.toUInt32 ∧
    rawWord big (t.rawToken big ++ rest) 2 = t.flags := by
  cases big <;> exact ⟨load_store _ _ rfl, load_store _ _ rfl, load_store _ _ rfl⟩

theorem length_rawToken : (t.rawToken big).length = 12 + t.address.bytes.length := by
  cases big <;> simp [rawToken, store] <;> omega

theorem rawAddress_rawToken {n : ℕ} {a : Vector UInt8 n} (ha : t.address.bytes = a.toList) (rest : Bytes) :
    rawAddress (t.rawToken big ++ rest) n = a := by
  have hget : ∀ i (hi : i < n), (t.rawToken big ++ rest).getD (12 + i) 0 = a[i] := by
    intro i hi
    rw [rawToken, ha, Nat.add_comm]
    have hbyte : (a.toList ++ rest).getD i 0 = a[i] := by
      rw [List.getD_eq_getElem?_getD, List.getElem?_append_left (by simpa using hi)]
      simp [hi]
    cases big <;> simpa [store] using hbyte
  refine Vector.ext fun i hi => ?_
  rw [rawAddress, Vector.getElem_ofFn, hget i hi]

theorem length_keyedDigest (token salt : Bytes) : (keyedDigest md5 token salt).length = 32 := by
  simp [keyedDigest, Data.hex_length]

/-- What is written is the raw token and the digest, if there is a salt. -/
theorem writeBinaryToken_eq (salt : Bytes) : ∃ rest, t.writeBinaryToken big md5 salt = t.rawToken big ++ rest ∧
    (salt = [] → rest = []) ∧ (salt ≠ [] → rest = keyedDigest md5 (t.rawToken big) salt) := by
  by_cases hsalt : salt = []
  · exact ⟨[], by simp [writeBinaryToken, hsalt], fun _ => rfl, fun h => absurd hsalt h⟩
  · exact ⟨_, by simp [writeBinaryToken, hsalt], fun h => absurd h hsalt, fun _ => rfl⟩

theorem make_writeBinaryToken (salt : Bytes) (htype : t.mTransportType ≠ .MAX_TRANSPORT) :
    makeTupleFromBinaryToken big md5 (t.writeBinaryToken big md5 salt) salt =
      { t with mFlowKey := t.mFlowKey.toUInt32.toUInt64, mTransportKey := t.mTransportKey.toUInt32.toUInt64 } := by
  obtain ⟨rest, hwrite, hnone, hsome⟩ := t.writeBinaryToken_eq big md5 salt
  obtain ⟨hflow, htransport, hflags⟩ := t.rawWord_rawToken big rest
  have hlt := TransportType.number_lt htype
  obtain ⟨hv6, honly, htype', hport⟩ := readsFlags_of_toNat (by omega) (flags_toNat t)
  have hraw := t.length_rawToken big
  have haddress : t.address.bytes.length = if t.address.isV6 then 16 else 4 := by
    cases t.address <;> simp [Address.bytes, Address.isV6]
  have hrest : salt = [] ∧ rest.length = 0 ∨ salt ≠ [] ∧ rest.length = 32 := by
    by_cases hsalt : salt = []
    · exact .inl ⟨hsalt, by rw [hnone hsalt]; rfl⟩
    · exact .inr ⟨hsalt, by rw [hsome hsalt, length_keyedDigest]⟩
  have hlength : (t.rawToken big ++ rest).length = 12 + (if t.address.isV6 then 16 else 4) + rest.length := by
    rw [List.length_append, hraw, haddress]
  have hgood : ¬UInt8.ofNat t.mTransportType.number ≥ UInt8.ofNat TransportType.MAX_TRANSPORT.number := by
    rw [ge_iff_le, UInt8.le_iff_toNat_le, UInt8.toNat_ofNat', UInt8.toNat_ofNat']
    change ¬(9 ≤ _)
    omega
  have hnumber : (UInt8.ofNat t.mTransportType.number).toNat = t.mTransportType.number := by
    rw [UInt8.toNat_ofNat', Nat.mod_eq_of_lt (by omega)]
  rw [hwrite, makeTupleFromBinaryToken, if_neg (by rw [hlength]; split <;> omega)]
  simp only [hflow, htransport, hflags, htype', hv6, honly, hport, hlength]
  rw [if_neg hgood, if_neg, if_neg]
  · rw [hnumber, TransportType.ofNumber_number]
    have hsame : (if t.address.isV6 = true then Address.V6 (rawAddress (t.rawToken big ++ rest) 16)
        else Address.V4 (rawAddress (t.rawToken big ++ rest) 4)) = t.address := by
      cases haddr : t.address with
      | V4 a => exact congrArg Address.V4 (t.rawAddress_rawToken big (by rw [haddr]; rfl) rest)
      | V6 a => exact congrArg Address.V6 (t.rawAddress_rawToken big (by rw [haddr]; rfl) rest)
    rw [hsame]
  · -- the digest is that of the raw token
    rintro ⟨hsalt, hdigest⟩
    refine hdigest ?_
    have htake : (if t.address.isV6 = true then 28 else 16) = (t.rawToken big).length := by
      rw [hraw, haddress]
      split <;> rfl
    rw [htake, List.take_left, List.drop_left, hsome hsalt,
      List.take_of_length_le (length_keyedDigest md5 _ _).le]
  · rw [not_not]
    cases t.address.isV6 <;> rcases hrest with ⟨hsalt, hlen⟩ | ⟨hsalt, hlen⟩ <;> simp [hsalt, hlen]

/-- A token that is not refused has passed the checks for the version in its flags. -/
theorem make_cases (token salt : Bytes) :
    makeTupleFromBinaryToken big md5 token salt = empty ∨
    ∃ v6 : Bool, (makeTupleFromBinaryToken big md5 token salt).address.isV6 = v6 ∧
      (salt = [] ∧ token.length = (if v6 then 28 else 16) ∨
        salt ≠ [] ∧ token.length = (if v6 then 28 else 16) + 32) ∧
      (salt ≠ [] → keyedDigest md5 (token.take (if v6 then 28 else 16)) salt =
        (token.drop (if v6 then 28 else 16)).take 32) := by
  unfold makeTupleFromBinaryToken
  dsimp only
  by_cases hshort : token.length < 16
  · exact .inl (if_pos hshort)
  rw [if_neg hshort]
  by_cases htype : ((rawWord big token 2 &&& 0x00000F00) >>> 8).toUInt8 ≥
      UInt8.ofNat TransportType.MAX_TRANSPORT.number
  · exact .inl (if_pos htype)
  rw [if_neg htype]
  generalize (rawWord big token 2 &&& 0x00000001 != 0) = v6
  by_cases hsize : ¬v6 = true ∧ salt = [] ∧ token.length = 16 ∨ ¬v6 = true ∧ salt ≠ [] ∧ token.length = 16 + 32 ∨
      v6 = true ∧ salt = [] ∧ token.length = 28 ∨ v6 = true ∧ salt ≠ [] ∧ token.length = 28 + 32
  swap
  · exact .inl (if_pos hsize)
  rw [if_neg (not_not.2 hsize)]
  by_cases hdigest : salt ≠ [] ∧ keyedDigest md5 (token.take (if v6 then 28 else 16)) salt ≠
      (token.drop (if v6 then 28 else 16)).take 32
  · exact .inl (if_pos hdigest)
  rw [if_neg hdigest]
  refine .inr ⟨v6, by cases v6 <;> rfl, ?_, fun hsalt => ?_⟩
  · cases v6 <;> simpa using hsize
  · exact not_not.1 fun hne => hdigest ⟨hsalt, hne⟩

/-- The type of what is made is one of the nine. -/
theorem make_type (token salt : Bytes) : makeTupleFromBinaryToken big md5 token salt = empty ∨
    ∃ n < 9, (makeTupleFromBinaryToken big md5 token salt).mTransportType = TransportType.ofNumber n := by
  unfold makeTupleFromBinaryToken
  dsimp only
  generalize hn : ((rawWord big token 2 &&& 0x00000F00) >>> 8).toUInt8 = n
  by_cases htype : n ≥ UInt8.ofNat TransportType.MAX_TRANSPORT.number
  · refine .inl ?_
    rw [if_pos htype, ite_self]
  have hlt : n.toNat < 9 := UInt8.lt_iff_toNat_lt.1 (UInt8.not_le.1 htype)
  rw [if_neg htype]
  by_cases hshort : token.length < 16
  · exact .inl (if_pos hshort)
  rw [if_neg hshort]
  generalize (rawWord big token 2 &&& 0x00000001 != 0) = v6
  by_cases hsize : ¬(¬v6 = true ∧ salt = [] ∧ token.length = 16 ∨ ¬v6 = true ∧ salt ≠ [] ∧ token.length = 16 + 32 ∨
      v6 = true ∧ salt = [] ∧ token.length = 28 ∨ v6 = true ∧ salt ≠ [] ∧ token.length = 28 + 32)
  · exact .inl (if_pos hsize)
  rw [if_neg hsize]
  by_cases hdigest : salt ≠ [] ∧ keyedDigest md5 (token.take (if v6 then 28 else 16)) salt ≠
      (token.drop (if v6 then 28 else 16)).take 32
  · exact .inl (if_pos hdigest)
  rw [if_neg hdigest]
  exact .inr ⟨n.toNat, hlt, rfl⟩

/-- A tuple comes back from its token, with the keys as far as a word has them, and a token that was
not written so is refused. -/
theorem flow_token :
    (∀ (t : Tuple) (salt : Bytes), t.mTransportType ≠ .MAX_TRANSPORT →
      makeTupleFromBinaryToken big md5 (t.writeBinaryToken big md5 salt) salt =
        { t with mFlowKey := t.mFlowKey.toUInt32.toUInt64,
                 mTransportKey := t.mTransportKey.toUInt32.toUInt64 }) ∧
    ∀ token salt, makeTupleFromBinaryToken big md5 token salt ≠ empty →
      let n := if (makeTupleFromBinaryToken big md5 token salt).address.isV6 then 28 else 16
      (salt = [] → token.length = n) ∧
        (salt ≠ [] → token.length = n + 32 ∧ token.drop n = hex (md5 (token.take n ++ salt)).toList) := by
  refine ⟨fun t salt => make_writeBinaryToken big md5 t salt, fun token salt hne => ?_⟩
  obtain ⟨v6, hversion, hsize, hdigest⟩ := (make_cases big md5 token salt).resolve_left hne
  rw [hversion]
  refine ⟨fun hsalt => ?_, fun hsalt => ?_⟩
  · rcases hsize with ⟨-, hlength⟩ | ⟨hsome, -⟩
    · exact hlength
    · exact absurd hsalt hsome
  · rcases hsize with ⟨hnone, -⟩ | ⟨-, hlength⟩
    · exact absurd hnone hsalt
    · refine ⟨hlength, ?_⟩
      have hsame := hdigest hsalt
      have hall : (token.drop (if v6 then 28 else 16)).take 32 = token.drop (if v6 then 28 else 16) :=
        List.take_of_length_le (by rw [List.length_drop, hlength]; omega)
      rw [hall] at hsame
      exact hsame.symm

end

theorem flow_token_udp :
    makeTupleFromBinaryToken false (fun _ => Vector.replicate 16 0)
        ((ofAddress (.V4 #v[192, 0, 2, 1])).writeBinaryToken false (fun _ => Vector.replicate 16 0) []) [] =
      { ofAddress (.V4 #v[192, 0, 2, 1]) with
        mFlowKey := (0 : UInt64).toUInt32.toUInt64, mTransportKey := (0 : UInt64).toUInt32.toUInt64 } ∧
    ((ofAddress (.V4 #v[192, 0, 2, 1])).writeBinaryToken false (fun _ => Vector.replicate 16 0) []).length = 16 :=
  ⟨(flow_token false fun _ => Vector.replicate 16 0).1 (ofAddress (.V4 #v[192, 0, 2, 1])) [] (by decide),
    ((flow_token false fun _ => Vector.replicate 16 0).2
      ((ofAddress (.V4 #v[192, 0, 2, 1])).writeBinaryToken false (fun _ => Vector.replicate 16 0) []) []
      (by decide)).1 rfl⟩

/-- A key from `2 ^ 32` on does not come back. -/
theorem not_flow_token : ¬∀ (t : Tuple) (salt : Bytes), t.mTransportType ≠ .MAX_TRANSPORT →
    (makeTupleFromBinaryToken false (fun _ => Vector.replicate 16 0)
      (t.writeBinaryToken false (fun _ => Vector.replicate 16 0) salt) salt).mFlowKey = t.mFlowKey := by
  intro h
  have hkey := h { ofAddress (.V4 #v[192, 0, 2, 1]) with mFlowKey := 0x100000000 } [] (by decide)
  revert hkey
  decide

end Tuple

end Resiprocate.Transports
