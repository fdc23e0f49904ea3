import Resiprocate.StunRoundTrip

/-! How many bytes the encoder writes for a message: the sum over the attributes that are set, which does
not depend on their contents but for texts and data. -/
namespace Resiprocate.ReTurn
open Tlv (fill)

/-- A length with the bytes that fill it up. -/
def padded (n : ℕ) : ℕ := n + fill n

theorem padded_le (n : ℕ) : padded n ≤ n + 3 := by
  unfold padded fill
  split_ifs <;> omega

theorem padded_mono {a b : ℕ} (h : a ≤ b) : padded a ≤ padded b := by
  unfold padded fill
  split_ifs <;> omega

def StunAtrAddress.encodedLength : StunAtrAddress → ℕ
  | .ipv4 _ _ => 12
  | .ipv6 _ _ => 24

/-- The bytes of an attribute by its kind. -/
def Kind.encodedLength (k : Kind) (v : k.Value) : ℕ :=
  match k, v with
  | .address, (atr : StunAtrAddress) => atr.encodedLength
  | .xorAddress, (atr : StunAtrAddress) => atr.encodedLength
  | .uInt32, _ => 8
  | .uInt64, _ => 12
  | .upper16, _ => 8
  | .upper8, _ => 8
  | .string maxBytes, (atr : Data) => 4 + padded (min maxBytes atr.length)
  | .data, (td : Data) => 4 + padded td.length
  | .integrity, _ => 24
  | .error, (atr : StunAtrError) => 8 + padded atr.reason.length
  | .unknown, (attrTypes : List UInt16) => 4 + padded (2 * attrTypes.length)
  | .evenPort, _ => 8
  | .flag, _ => 4

namespace StunMessage

theorem length_encodeAtrAddress (type : UInt16) (atr : StunAtrAddress) :
    (encodeAtrAddress type atr).length = atr.encodedLength := by
  cases atr <;>
    simp [encodeAtrAddress, length_encodeAtr, encode16, encode32, BigEndian.length_bytes,
      StunAtrAddress.encodedLength]

theorem encodedLength_applyXorToAddress (magicCookieAndTid : Vector UInt8 16) (atr : StunAtrAddress) :
    (applyXorToAddress magicCookieAndTid atr).encodedLength = atr.encodedLength := by
  cases atr <;> rfl

theorem length_encodeAtrXorAddress (magicCookieAndTid : Vector UInt8 16) (type : UInt16)
    (atr : StunAtrAddress) :
    (encodeAtrXorAddress magicCookieAndTid type atr).length = atr.encodedLength := by
  rw [encodeAtrXorAddress, length_encodeAtrAddress, encodedLength_applyXorToAddress]

theorem length_encodeAtrString (type : UInt16) (atr : Data) (maxBytes : ℕ) :
    (encodeAtrString type atr maxBytes).length = 4 + padded (min maxBytes atr.length) := by
  have hsize : (if maxBytes < atr.length then maxBytes else atr.length) = min maxBytes atr.length := by
    split_ifs <;> omega
  rw [encodeAtrString, hsize, length_encodeAtr, List.length_append, List.length_take, length_zeros, padded]
  omega

theorem length_encodeTurnData (td : Data) : (encodeTurnData td).length = 4 + padded td.length := by
  rw [encodeTurnData, length_encodeAtr, List.length_append, length_zeros, padded]

theorem length_encodeAtrError (atr : StunAtrError) :
    (encodeAtrError atr).length = 8 + padded atr.reason.length := by
  rw [encodeAtrError, length_encodeAtr]
  simp only [List.length_append, List.length_cons, List.length_nil, length_zeros, padded]
  omega

theorem length_encodeAtrUnknown (stale : Vector UInt8 2) (attrTypes : List UInt16) :
    (encodeAtrUnknown stale attrTypes).length = 4 + padded (2 * attrTypes.length) := by
  have hlen : (attrTypes.flatMap fun attrType => encode16 attrType.toNat).length = 2 * attrTypes.length := by
    simp [List.length_flatMap, encode16, Nat.mul_comm]
  have hfill : fill (2 * attrTypes.length) ≤ 2 := by
    unfold fill
    split_ifs <;> omega
  rw [encodeAtrUnknown, length_encodeAtr, List.length_append, hlen, List.length_take,
    Vector.length_toList, min_eq_left hfill, padded]

theorem length_encodeAttribute (magicCookieAndTid : Vector UInt8 16) (stale : Vector UInt8 2)
    (type : UInt16) (kind : Kind) (v : kind.Value) :
    (encodeAttribute magicCookieAndTid stale type kind v).length = kind.encodedLength v := by
  cases kind with
  | address => exact length_encodeAtrAddress type v
  | xorAddress => exact length_encodeAtrXorAddress magicCookieAndTid type v
  | string maxBytes => exact length_encodeAtrString type v maxBytes
  | data => exact length_encodeTurnData v
  | error => exact length_encodeAtrError v
  | unknown => exact length_encodeAtrUnknown stale v
  | integrity => exact length_encodeAtrIntegrity
  | uInt32 => exact length_encodeAtrUInt32
  | upper16 => exact length_encodeAtrUInt32
  | upper8 => exact length_encodeAtrUInt32
  | uInt64 => simp [encodeAttribute, encodeAtrUInt64, length_encodeAtr, encode64, Kind.encodedLength]
  | evenPort => rfl
  | flag => simp [encodeAttribute, length_encodeAtr, Kind.encodedLength]

/-! ### Whole messages -/

variable {m : StunMessage}

def attrLength (m : StunMessage) (a : Attr) : ℕ :=
  match m.attrs a with
  | some v => a.kind.encodedLength v
  | none => 0

/-- All attributes that are held at most once. -/
def allAttrs : List Attr :=
  firstAttrs ++ (middleAttrs ++ (lastAttrs ++ [.messageIntegrity, .fingerprint]))

/-- What is written for the peer addresses and the requested address family. -/
def listsLength (m : StunMessage) : ℕ :=
  (m.mTurnXorPeerAddress.map StunAtrAddress.encodedLength).sum +
    if m.mTurnRequestedAddressFamily.isSome then 8 else 0

def encodedLength (m : StunMessage) : ℕ := 20 + (allAttrs.map m.attrLength).sum + m.listsLength

theorem length_encodeIfSet (stale : Vector UInt8 2) (a : Attr) :
    (m.encodeIfSet stale a).length = m.attrLength a := by
  unfold encodeIfSet attrLength
  cases m.attrs a with
  | none => rfl
  | some v => exact length_encodeAttribute _ _ _ _ v

theorem length_encodePeers :
    m.encodePeers.length = (m.mTurnXorPeerAddress.map StunAtrAddress.encodedLength).sum := by
  rw [encodePeers, List.length_flatMap]
  exact congrArg List.sum (List.map_congr_left fun atr _ => length_encodeAtrXorAddress _ _ atr)

theorem length_encodeRequestedAddressFamily : m.encodeRequestedAddressFamily.length =
    if m.mTurnRequestedAddressFamily.isSome then 8 else 0 := by
  unfold encodeRequestedAddressFamily
  cases m.mTurnRequestedAddressFamily with
  | none => rfl
  | some family => exact length_encodeAtrUInt32

theorem attrLength_flag {a : Attr} {n : ℕ} (h : ∀ v : a.Value, a.kind.encodedLength v = n) :
    m.attrLength a = if m.has a then n else 0 := by
  unfold attrLength has
  cases m.attrs a with
  | none => rfl
  | some v => exact h v

theorem length_stunEncodeMessage (computeHmac : Data → Data → Vector UInt8 20) (crc32 : Data → UInt32)
    (stale : Vector UInt8 2) (m : StunMessage) :
    (stunEncodeMessage computeHmac crc32 stale m).length = m.encodedLength := by
  have hattributes : ∀ attrs : List Attr,
      (attrs.flatMap (m.encodeIfSet stale)).length = (attrs.map m.attrLength).sum := fun attrs => by
    rw [List.length_flatMap]
    exact congrArg List.sum (List.map_congr_left fun a _ => length_encodeIfSet stale a)
  have hintegrity : m.attrLength .messageIntegrity = if m.has .messageIntegrity then 24 else 0 :=
    attrLength_flag fun _ => rfl
  have hfingerprint : m.attrLength .fingerprint = if m.has .fingerprint then 8 else 0 :=
    attrLength_flag fun _ => rfl
  rw [stunEncodeMessage_eq, length_frame, List.length_append, List.length_append,
    length_integrityBytes, length_fingerprintBytes, ← hintegrity, ← hfingerprint, encodeAttributes]
  simp only [List.length_append, hattributes, length_encodePeers, length_encodeRequestedAddressFamily,
    encodedLength, allAttrs, listsLength, List.map_append, List.sum_append, List.map_cons, List.map_nil,
    List.sum_cons, List.sum_nil]
  omega

/-! ### Bounds for each attribute -/

theorem attrs_set_same (a : Attr) (v : a.Value) : (m.set a v).attrs a = some v := by
  simp [set]

theorem attrs_set_other {a b : Attr} (hb : b ≠ a) (v : a.Value) : (m.set a v).attrs b = m.attrs b := by
  simp [set, Function.update_of_ne hb]

theorem attrLength_set_same (a : Attr) (v : a.Value) : (m.set a v).attrLength a = a.kind.encodedLength v := by
  rw [attrLength, attrs_set_same]

theorem attrLength_set_other {a b : Attr} (hb : b ≠ a) (v : a.Value) :
    (m.set a v).attrLength b = m.attrLength b := by
  rw [attrLength, attrs_set_other hb, attrLength]

/-- No attribute takes more than it is allowed, nor do the peer addresses and the requested family. -/
structure Within (cap : Attr → ℕ) (lists : ℕ) (m : StunMessage) : Prop where
  attr : ∀ a, m.attrLength a ≤ cap a
  lists : m.listsLength ≤ lists

namespace Within
variable {cap : Attr → ℕ} {lists : ℕ}

theorem encodedLength_le (h : Within cap lists m) : m.encodedLength ≤ 20 + (allAttrs.map cap).sum + lists := by
  have hsum := List.sum_le_sum fun a (_ : a ∈ allAttrs) => h.attr a
  have hlists := h.lists
  unfold encodedLength
  omega

theorem init (cap : Attr → ℕ) (lists : ℕ) : Within cap lists init := ⟨fun _ => Nat.zero_le _, Nat.zero_le _⟩

/-- The other fields do not matter. -/
theorem of_same {m' : StunMessage} (h : Within cap lists m) (hattrs : m'.attrs = m.attrs)
    (hlists : m'.listsLength = m.listsLength) : Within cap lists m' := by
  refine ⟨fun a => ?_, hlists.le.trans h.lists⟩
  rw [attrLength, hattrs]
  exact h.attr a

theorem withClass (h : Within cap lists m) (mClass : UInt16) : Within cap lists { m with mClass := mClass } :=
  h.of_same rfl rfl

theorem set (h : Within cap lists m) {a : Attr} {v : a.Value} (hv : a.kind.encodedLength v ≤ cap a) :
    Within cap lists (m.set a v) := by
  refine ⟨fun b => ?_, h.lists⟩
  by_cases hb : b = a
  · subst hb
    rw [attrLength_set_same]
    exact hv
  · rw [attrLength_set_other hb]
    exact h.attr b

theorem setIf (h : Within cap lists m) {c : Prop} [Decidable c] {a : Attr} {v : a.Value}
    (hv : a.kind.encodedLength v ≤ cap a) : Within cap lists (if c then m.set a v else m) := by
  split_ifs
  · exact h.set hv
  · exact h

end Within

theorem encodedLength_string_le (maxBytes : ℕ) (atr : Data) :
    (Kind.string maxBytes).encodedLength atr ≤ 4 + padded maxBytes :=
  Nat.add_le_add_left (padded_mono (min_le_left _ _)) 4

theorem encodedLength_address_le (atr : StunAtrAddress) : atr.encodedLength ≤ 24 := by
  cases atr with
  | ipv4 port addr => exact Nat.le_add_right 12 12
  | ipv6 port addr => exact Nat.le_refl 24

end StunMessage
end Resiprocate.ReTurn
