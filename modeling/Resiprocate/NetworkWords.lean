import Resiprocate.MaskedBits

/-! Words of 32 bits in the memory of a host with either byte order, and the order that the bytes have
in a network. -/
namespace Resiprocate.NetworkWords
open MaskedBits

/-- Four bytes, the most significant first. -/
def join (b₀ b₁ b₂ b₃ : UInt8) : BitVec 32 :=
  b₀.toBitVec ++ b₁.toBitVec ++ b₂.toBitVec ++ b₃.toBitVec

/-- The word that four bytes in memory are. -/
def load (big : Bool) (b₀ b₁ b₂ b₃ : UInt8) : UInt32 :=
  if big then ⟨join b₀ b₁ b₂ b₃⟩ else ⟨join b₃ b₂ b₁ b₀⟩

/-- A byte of a word, from the least significant. -/
def byte (w : UInt32) (i : ℕ) : UInt8 := ⟨w.toBitVec.extractLsb' (8 * i) 8⟩

/-- The bytes of a word in memory. -/
def store (big : Bool) (w : UInt32) : List UInt8 :=
  if big then [byte w 3, byte w 2, byte w 1, byte w 0] else [byte w 0, byte w 1, byte w 2, byte w 3]

/-- The word whose bytes are in memory as a network has them. -/
def htonl (big : Bool) (w : UInt32) : UInt32 := load big (byte w 3) (byte w 2) (byte w 1) (byte w 0)

theorem byte_toNat (w : UInt32) (i : ℕ) : (byte w i).toNat = w.toNat / 2 ^ (8 * i) % 256 := by
  change (w.toBitVec.extractLsb' (8 * i) 8).toNat = _
  rw [BitVec.extractLsb'_toNat, Nat.shiftRight_eq_div_pow]
  rfl

theorem join_toNat (b₀ b₁ b₂ b₃ : UInt8) : (join b₀ b₁ b₂ b₃).toNat =
    ((b₀.toNat * 256 + b₁.toNat) * 256 + b₂.toNat) * 256 + b₃.toNat := by
  rw [join, toNat_append, toNat_append, toNat_append]
  rfl

theorem join_byte (w : UInt32) : join (byte w 3) (byte w 2) (byte w 1) (byte w 0) = w.toBitVec := by
  refine BitVec.eq_of_toNat_eq ?_
  have hlt := w.toNat_lt
  rw [join_toNat, byte_toNat, byte_toNat, byte_toNat, byte_toNat]
  change _ = w.toNat
  omega

/-- What is stored is loaded. -/
theorem load_store (big : Bool) (w : UInt32) {b₀ b₁ b₂ b₃ : UInt8} (h : store big w = [b₀, b₁, b₂, b₃]) :
    load big b₀ b₁ b₂ b₃ = w := by
  cases big <;> cases h <;> exact congrArg UInt32.ofBitVec (join_byte w)

/-- Bytes agree under the bytes of a mask, in whatever order they are loaded. -/
theorem and_htonl_iff (big : Bool) {b₀ b₁ b₂ b₃ c₀ c₁ c₂ c₃ : UInt8} (m : UInt32) :
    load big b₀ b₁ b₂ b₃ &&& htonl big m = load big c₀ c₁ c₂ c₃ &&& htonl big m ↔
      Agree m.toBitVec (join b₀ b₁ b₂ b₃) (join c₀ c₁ c₂ c₃) := by
  rw [← join_byte m, htonl, ← UInt32.toBitVec_inj, UInt32.toBitVec_and, UInt32.toBitVec_and, ← agree_iff_and]
  cases big
  · change Agree (join _ _ _ _) (join _ _ _ _) (join _ _ _ _) ↔ _
    simp only [join, agree_append]
    tauto
  · exact Iff.rfl

/-- A bit of four bytes, from the most significant. -/
theorem join_getMsbD (b₀ b₁ b₂ b₃ : UInt8) {i : ℕ} (hi : i < 32) : (join b₀ b₁ b₂ b₃).getMsbD i =
    ([b₀, b₁, b₂, b₃].getD (i / 8) 0).toBitVec.getMsbD (i % 8) := by
  have hcases : i / 8 = 0 ∧ i % 8 = i ∨ i / 8 = 1 ∧ i % 8 = i - 8 ∨ i / 8 = 2 ∧ i % 8 = i - 16 ∨
      i / 8 = 3 ∧ i % 8 = i - 24 := by omega
  simp only [join, BitVec.getMsbD_append]
  rcases hcases with ⟨hdiv, hmod⟩ | ⟨hdiv, hmod⟩ | ⟨hdiv, hmod⟩ | ⟨hdiv, hmod⟩
  · rw [hdiv, hmod, if_neg (by omega), if_neg (by omega), if_neg (by omega)]
    rfl
  · rw [hdiv, hmod, if_neg (by omega), if_neg (by omega), if_pos (by omega)]
    rfl
  · rw [hdiv, hmod, if_neg (by omega), if_pos (by omega)]
    rfl
  · rw [hdiv, hmod, if_pos (by omega)]
    rfl

/-- The mask of the leading bits. A shift takes its amount modulo 32. -/
theorem shiftLeft_getLsbD {k : ℕ} (hk : 0 < k) (hk32 : k ≤ 32) {i : ℕ} (hi : i < 32) :
    ((0xFFFFFFFF : UInt32) <<< UInt32.ofNat (32 - k)).toBitVec.getLsbD i = decide (32 - k ≤ i) := by
  have hones : (0xFFFFFFFF : UInt32).toBitVec = BitVec.allOnes 32 := rfl
  have hamount : ((UInt32.ofNat (32 - k)).toBitVec % 32).toNat = 32 - k := by
    simp only [BitVec.toNat_umod, UInt32.toNat_toBitVec, UInt32.toNat_ofNat']
    change (32 - k) % 2 ^ 32 % 32 = 32 - k
    omega
  rw [UInt32.toBitVec_shiftLeft, hones, BitVec.shiftLeft_eq', hamount, BitVec.getLsbD_shiftLeft,
    BitVec.getLsbD_allOnes]
  simp only [hi, decide_true, Bool.true_and]
  by_cases hle : 32 - k ≤ i
  · simp [hle]
    omega
  · simp [hle]

/-- Under that mask the leading bits are compared. -/
theorem agree_leading_iff {k : ℕ} (hk : 0 < k) (hk32 : k ≤ 32) {x y : BitVec 32} :
    Agree ((0xFFFFFFFF : UInt32) <<< UInt32.ofNat (32 - k)).toBitVec x y ↔
      ∀ i < k, x.getMsbD i = y.getMsbD i := by
  rw [agree_iff_getLsbD]
  constructor
  · intro h i hi
    rw [BitVec.getMsbD_eq_getLsbD, BitVec.getMsbD_eq_getLsbD]
    rw [h (32 - 1 - i) (by omega) (by rw [shiftLeft_getLsbD hk hk32 (by omega)]; simp; omega)]
  · intro h i hi hm
    rw [shiftLeft_getLsbD hk hk32 hi, decide_eq_true_eq] at hm
    rw [BitVec.getLsbD_eq_getMsbD, BitVec.getLsbD_eq_getMsbD, h (32 - 1 - i) (by omega)]

end Resiprocate.NetworkWords
