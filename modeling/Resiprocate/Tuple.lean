import Resiprocate.NetworkWords

/-! Addresses of transports, and the comparison of two of them under a mask. -/
namespace Resiprocate.Transports
open NetworkWords MaskedBits

inductive TransportType
  | UNKNOWN_TRANSPORT | TLS | TCP | UDP | SCTP | DCCP | DTLS | WS | WSS | MAX_TRANSPORT
  deriving DecidableEq

/-- `sin_addr` or `sin6_addr`: the bytes in memory, which are in the order of a network. -/
inductive Address
  | V4 (sin_addr : Vector UInt8 4)
  | V6 (sin6_addr : Vector UInt8 16)
  deriving DecidableEq

namespace Address

def bytes : Address → List UInt8
  | V4 sin_addr => sin_addr.toList
  | V6 sin6_addr => sin6_addr.toList

def isV6 : Address → Bool
  | V4 _ => false
  | V6 _ => true

/-- The number of bits. -/
def width (a : Address) : ℕ := 8 * a.bytes.length

/-- A bit in the order of a network. -/
def bit (a : Address) (i : ℕ) : Bool := (a.bytes.getD (i / 8) 0).toBitVec.getMsbD (i % 8)

/-- Four of the bytes as a word in memory. -/
def word (big : Bool) (a : Address) (i : ℕ) : UInt32 :=
  load big (a.bytes.getD (4 * i) 0) (a.bytes.getD (4 * i + 1) 0) (a.bytes.getD (4 * i + 2) 0)
    (a.bytes.getD (4 * i + 3) 0)

end Address

/-- `mPort` is the port in the order of the host. -/
structure Tuple where
  address : Address
  mPort : UInt16
  mTransportType : TransportType
  mFlowKey : UInt64
  mTransportKey : UInt64
  onlyUseExistingConnection : Bool
  deriving DecidableEq

namespace Tuple

/-- `0xFFFFFFFF << amount`, where the processor takes the amount modulo 32. -/
def onesShifted (amount : ℤ) : UInt32 := 0xFFFFFFFF <<< UInt32.ofInt amount

/-- `mask6part` of a word. -/
def mask6part (mask : ℤ) (i : ℕ) : UInt32 :=
  if mask ≤ 32 * i then 0
  else
    let temp := mask - 32 * i
    if temp ≥ 32 then 0xffffffff else onesShifted (32 - temp)

def isEqualWithMask (big : Bool) (tuple compare : Tuple) (mask : ℤ) (ignorePort ignoreTransport : Bool) :
    Bool :=
  if ignoreTransport || tuple.mTransportType == compare.mTransportType then
    match tuple.address, compare.address with
    | .V4 _, .V4 _ =>
      (ignorePort || tuple.mPort == compare.mPort) &&
        tuple.address.word big 0 &&& htonl big (onesShifted (32 - mask)) ==
          compare.address.word big 0 &&& htonl big (onesShifted (32 - mask))
    | .V6 _, .V6 _ =>
      if ignorePort || tuple.mPort == compare.mPort then
        [3, 2, 1, 0].all fun i => tuple.address.word big i &&& htonl big (mask6part mask i) ==
          compare.address.word big i &&& htonl big (mask6part mask i)
      else false
    | _, _ => false
  else false

end Tuple

/-! ### One word -/

section
variable (big : Bool) (a b : Address)

theorem word_bit {i j : ℕ} (hj : j < 32) : (join (a.bytes.getD (4 * i) 0) (a.bytes.getD (4 * i + 1) 0)
    (a.bytes.getD (4 * i + 2) 0) (a.bytes.getD (4 * i + 3) 0)).getMsbD j = a.bit (32 * i + j) := by
  rw [join_getMsbD _ _ _ _ hj, Address.bit]
  have hmod : (32 * i + j) % 8 = j % 8 := by omega
  have hdiv : (32 * i + j) / 8 = 4 * i + j / 8 := by omega
  rw [hmod, hdiv]
  have hlt : j / 8 < 4 := by omega
  congr 2
  interval_cases j / 8 <;> rfl

theorem onesShifted_eq {k : ℕ} (hk : k ≤ 32) :
    Tuple.onesShifted (32 - (k : ℤ)) = 0xFFFFFFFF <<< UInt32.ofNat (32 - k) := by
  rw [Tuple.onesShifted]
  congr 1
  interval_cases k <;> rfl

/-- A word is compared in its leading bits. -/
theorem word_and_iff {k : ℕ} (hk : 0 < k) (hk32 : k ≤ 32) (i : ℕ) :
    a.word big i &&& htonl big (Tuple.onesShifted (32 - (k : ℤ))) =
      b.word big i &&& htonl big (Tuple.onesShifted (32 - (k : ℤ))) ↔
      ∀ j < k, a.bit (32 * i + j) = b.bit (32 * i + j) := by
  rw [Address.word, Address.word, and_htonl_iff, onesShifted_eq hk32, agree_leading_iff hk hk32]
  refine forall₂_congr fun j hj => ?_
  rw [word_bit a (hj.trans_le hk32), word_bit b (hj.trans_le hk32)]

/-- The mask of a word of an IPv6 address has as many leading bits as reach into the word. -/
theorem word_mask6_iff (mask i : ℕ) :
    a.word big i &&& htonl big (Tuple.mask6part mask i) = b.word big i &&& htonl big (Tuple.mask6part mask i) ↔
      ∀ j < min (mask - 32 * i) 32, a.bit (32 * i + j) = b.bit (32 * i + j) := by
  by_cases hle : mask ≤ 32 * i
  · have hzero : Tuple.mask6part mask i = 0 := if_pos (by exact_mod_cast hle)
    have hnone : ∀ w : UInt32, w &&& htonl big 0 = 0 := by
      intro w
      cases big <;> exact UInt32.and_zero
    rw [hzero, hnone, hnone]
    refine ⟨fun _ j hj => ?_, fun _ => rfl⟩
    omega
  · have hpart : Tuple.mask6part mask i = Tuple.onesShifted (32 - (min (mask - 32 * i) 32 : ℕ)) := by
      rw [Tuple.mask6part, if_neg (by exact_mod_cast hle)]
      by_cases hfull : (32 : ℤ) ≤ mask - 32 * i
      · rw [if_pos hfull, min_eq_right (by omega)]
        rfl
      · rw [if_neg hfull, min_eq_left (by omega), Nat.cast_sub (by omega)]
        push_cast
        rfl
    rw [hpart]
    exact word_and_iff big a b (by omega) (by omega) i

/-- All words agree exactly if the leading bits of the address do. -/
theorem words_iff {mask : ℕ} (hmask : mask ≤ 128) :
    ([3, 2, 1, 0].all fun i => a.word big i &&& htonl big (Tuple.mask6part mask i) ==
      b.word big i &&& htonl big (Tuple.mask6part mask i)) = true ↔ ∀ n < mask, a.bit n = b.bit n := by
  rw [List.all_eq_true]
  simp only [beq_iff_eq, word_mask6_iff]
  constructor
  · intro h n hn
    have hi := h (n / 32) (by simp; omega) (n % 32) (by omega)
    rwa [show 32 * (n / 32) + n % 32 = n by omega] at hi
  · intro h i _ j hj
    exact h (32 * i + j) (by omega)

end

/-- The bits of an IPv4 address determine it. -/
theorem eq_of_bits {x y : Vector UInt8 4} (h : ∀ n < 32, (Address.V4 x).bit n = (Address.V4 y).bit n) :
    x = y := by
  refine Vector.ext fun i hi => UInt8.toBitVec_inj.1 (BitVec.eq_of_getMsbD_eq fun j hj => ?_)
  have hbit := h (8 * i + j) (by omega)
  simp only [Address.bit, Address.bytes] at hbit
  rw [show (8 * i + j) / 8 = i by omega, show (8 * i + j) % 8 = j by omega] at hbit
  simpa [hi] using hbit

/-- A mask without bits compares all of them. -/
theorem word_and_zero_iff (big : Bool) (x y : Vector UInt8 4) :
    (Address.V4 x).word big 0 &&& htonl big (Tuple.onesShifted (32 - 0)) =
      (Address.V4 y).word big 0 &&& htonl big (Tuple.onesShifted (32 - 0)) ↔ x = y := by
  refine ⟨fun h => eq_of_bits fun n hn => ?_, fun h => by rw [h]⟩
  have hbits := (word_and_iff big (.V4 x) (.V4 y) (by decide) le_rfl 0).1 h n hn
  rwa [Nat.mul_zero, Nat.zero_add] at hbits

/-- Two addresses of one version are compared in their leading bits, except two IPv4 addresses without
any: the shift is then by 32, and all bits are compared. -/
theorem isEqualWithMask_iff (big : Bool) {a b : Tuple} {mask : ℕ}
    (hversion : a.address.isV6 = b.address.isV6) (hmask : mask ≤ a.address.width) :
    (a.isEqualWithMask big b mask true true = true ↔ ∀ n < mask, a.address.bit n = b.address.bit n) ↔
      ¬(a.address.isV6 = false ∧ mask = 0 ∧ a.address ≠ b.address) := by
  obtain ⟨address, _, _, _, _, _⟩ := a
  obtain ⟨address', _, _, _, _, _⟩ := b
  cases address with
  | V6 x =>
    cases address' with
    | V4 y => cases hversion
    | V6 y =>
      have hmask' : mask ≤ 128 := by simpa [Address.width, Address.bytes] using hmask
      simp only [Address.isV6, Bool.true_eq_false, false_and, not_false_eq_true, iff_true]
      exact words_iff big (.V6 x) (.V6 y) hmask'
  | V4 x =>
    cases address' with
    | V6 y => cases hversion
    | V4 y =>
      have hmask' : mask ≤ 32 := by simpa [Address.width, Address.bytes] using hmask
      change (((Address.V4 x).word big 0 &&& htonl big (Tuple.onesShifted (32 - (mask : ℤ))) ==
        (Address.V4 y).word big 0 &&& htonl big (Tuple.onesShifted (32 - (mask : ℤ)))) = true ↔
          ∀ n < mask, (Address.V4 x).bit n = (Address.V4 y).bit n) ↔
        ¬(false = false ∧ mask = 0 ∧ Address.V4 x ≠ Address.V4 y)
      rw [beq_iff_eq]
      rcases Nat.eq_zero_or_pos mask with rfl | hpos
      · rw [Nat.cast_zero, word_and_zero_iff]
        simp
      · rw [word_and_iff big _ _ hpos hmask']
        simp [hpos.ne']

def Tuple.ofAddress (address : Address) : Tuple := ⟨address, 0, .UDP, 0, 0, false⟩

theorem isEqualWithMask_iff_net : (((Tuple.ofAddress (.V4 #v[10, 0, 0, 1])).isEqualWithMask false
    (Tuple.ofAddress (.V4 #v[10, 0, 0, 2])) (24 : ℕ) true true = true ↔ ∀ n < 24,
      (Address.V4 #v[10, 0, 0, 1]).bit n = (Address.V4 #v[10, 0, 0, 2]).bit n) ↔
    ¬((Address.V4 #v[10, 0, 0, 1]).isV6 = false ∧ 24 = 0 ∧
      Address.V4 #v[10, 0, 0, 1] ≠ Address.V4 #v[10, 0, 0, 2])) :=
  isEqualWithMask_iff false (a := Tuple.ofAddress (.V4 #v[10, 0, 0, 1]))
    (b := Tuple.ofAddress (.V4 #v[10, 0, 0, 2])) rfl (by decide)

/-- Every address is in `0.0.0.0/0`, but not for the code. -/
theorem not_isEqualWithMask : ¬((Tuple.ofAddress (.V4 #v[10, 0, 0, 1])).isEqualWithMask false
      (Tuple.ofAddress (.V4 #v[0, 0, 0, 0])) (0 : ℕ) true true = true ↔
    ∀ n < 0, (Address.V4 #v[10, 0, 0, 1]).bit n = (Address.V4 #v[0, 0, 0, 0]).bit n) := by
  intro h
  have hequal := h.2 fun n hn => absurd hn (Nat.not_lt_zero n)
  revert hequal
  decide

end Resiprocate.Transports
