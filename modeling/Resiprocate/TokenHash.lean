import Resiprocate.BitMixing
import Resiprocate.TokenCompare

/-! The hash of a token that leaves case out, and whether tokens that compare equal have one hash. -/
namespace Resiprocate.Data
open MaskedBits BitMixing

variable (bigEndian : Bool)

/-- The first and the second half of a word in memory. -/
def ui16 (masked : BitVec 32) : BitVec 32 × BitVec 32 :=
  if bigEndian then (masked >>> 16, masked &&& 0xFFFF) else (masked &&& 0xFFFF, masked >>> 16)

/-- A word of the main loop. -/
def hashWord (hash : BitVec 32) (b₀ b₁ b₂ b₃ : UInt8) : BitVec 32 :=
  let masked := 0x20202020 ||| (get32bits bigEndian b₀ b₁ b₂ b₃).toBitVec
  let hash := hash + (ui16 bigEndian masked).1
  let tmp := ((ui16 bigEndian masked).2 <<< 11) ^^^ hash
  let hash := (hash <<< 16) ^^^ tmp
  hash + (hash >>> 11)

/-- The main loop, and the end cases after it. -/
def hashBytes (hash : BitVec 32) : List UInt8 → BitVec 32
  | b₀ :: b₁ :: b₂ :: b₃ :: data => hashBytes (hashWord bigEndian hash b₀ b₁ b₂ b₃) data
  | [b₀, b₁, b₂] =>
    let hash := hash + (0x2020 ||| (get16bits bigEndian b₀ b₁).toBitVec)
    let hash := hash ^^^ (hash <<< 16)
    let hash := hash ^^^ ((0x20 ||| b₂.toUInt32.toBitVec) <<< 18)
    hash + (hash >>> 11)
  | [b₀, b₁] =>
    let hash := hash + (0x2020 ||| (get16bits bigEndian b₀ b₁).toBitVec)
    let hash := hash ^^^ (hash <<< 11)
    hash + (hash >>> 17)
  | [b] =>
    let hash := hash + (0x20 ||| b.toUInt32.toBitVec)
    let hash := hash ^^^ (hash <<< 10)
    hash + (hash >>> 1)
  | [] => hash

/-- "Force avalanching of final 127 bits". -/
def avalanche (hash : BitVec 32) : BitVec 32 :=
  let hash := hash ^^^ (hash <<< 3)
  let hash := hash + (hash >>> 5)
  let hash := hash ^^^ (hash <<< 4)
  let hash := hash + (hash >>> 17)
  let hash := hash ^^^ (hash <<< 25)
  hash + (hash >>> 6)

def rawCaseInsensitiveTokenHash (data : List UInt8) : BitVec 32 :=
  if data.isEmpty then 0
  else avalanche (hashBytes bigEndian (BitVec.ofNat 32 data.length) data)

variable {bigEndian}

/-! ### Equal tokens -/

theorem agree_of_eq {a b : UInt8} (h : a &&& 0xDF = b &&& 0xDF) :
    Agree 0xDF#8 a.toBitVec b.toBitVec :=
  agree_iff_and.mpr (congrArg UInt8.toBitVec h)

theorem or_byte {a b : UInt8} (h : a &&& 0xDF = b &&& 0xDF) :
    0x20 ||| a.toUInt32.toBitVec = 0x20 ||| b.toUInt32.toBitVec := by
  have hbyte (x : UInt8) : x.toUInt32.toBitVec = 0#24 ++ x.toBitVec := by
    apply BitVec.eq_of_toNat_eq
    rw [MaskedBits.toNat_append]
    simp
  have hagree : Agree (0xFFFFFF#24 ++ 0xDF#8) (0#24 ++ a.toBitVec) (0#24 ++ b.toBitVec) :=
    agree_append.mpr ⟨rfl, agree_of_eq h⟩
  rw [hbyte, hbyte]
  exact agree_iff_or.mp hagree

theorem or_half {a₀ a₁ b₀ b₁ : UInt8} (h₀ : a₀ &&& 0xDF = b₀ &&& 0xDF)
    (h₁ : a₁ &&& 0xDF = b₁ &&& 0xDF) :
    0x2020 ||| (get16bits bigEndian a₀ a₁).toBitVec =
      0x2020 ||| (get16bits bigEndian b₀ b₁).toBitVec := by
  have hagree {x x' y y' : BitVec 8} (hx : Agree 0xDF#8 x x') (hy : Agree 0xDF#8 y y') :
      Agree (0xFFFF#16 ++ (0xDF#8 ++ 0xDF#8)) (0#16 ++ (x ++ y)) (0#16 ++ (x' ++ y')) :=
    agree_append.mpr ⟨rfl, agree_append.mpr ⟨hx, hy⟩⟩
  rw [toBitVec_get16bits, toBitVec_get16bits]
  cases bigEndian
  · exact agree_iff_or.mp (hagree (agree_of_eq h₁) (agree_of_eq h₀))
  · exact agree_iff_or.mp (hagree (agree_of_eq h₀) (agree_of_eq h₁))

theorem or_word {a₀ a₁ a₂ a₃ b₀ b₁ b₂ b₃ : UInt8} (h₀ : a₀ &&& 0xDF = b₀ &&& 0xDF)
    (h₁ : a₁ &&& 0xDF = b₁ &&& 0xDF) (h₂ : a₂ &&& 0xDF = b₂ &&& 0xDF)
    (h₃ : a₃ &&& 0xDF = b₃ &&& 0xDF) :
    0x20202020 ||| (get32bits bigEndian a₀ a₁ a₂ a₃).toBitVec =
      0x20202020 ||| (get32bits bigEndian b₀ b₁ b₂ b₃).toBitVec := by
  have hagree {w w' x x' y y' z z' : BitVec 8} (hw : Agree 0xDF#8 w w') (hx : Agree 0xDF#8 x x')
      (hy : Agree 0xDF#8 y y') (hz : Agree 0xDF#8 z z') :
      Agree (0xDF#8 ++ 0xDF#8 ++ (0xDF#8 ++ 0xDF#8)) (w ++ x ++ (y ++ z)) (w' ++ x' ++ (y' ++ z')) :=
    agree_append.mpr ⟨agree_append.mpr ⟨hw, hx⟩, agree_append.mpr ⟨hy, hz⟩⟩
  rw [get32bits_eq_loadWord, get32bits_eq_loadWord]
  cases bigEndian
  · exact agree_iff_or.mp
      (hagree (agree_of_eq h₃) (agree_of_eq h₂) (agree_of_eq h₁) (agree_of_eq h₀))
  · exact agree_iff_or.mp
      (hagree (agree_of_eq h₀) (agree_of_eq h₁) (agree_of_eq h₂) (agree_of_eq h₃))

theorem hashBytes_eq {x y : List UInt8} (h : TokenEqual x y) (hash : BitVec 32) :
    hashBytes bigEndian hash x = hashBytes bigEndian hash y := by
  induction hash, x using hashBytes.induct bigEndian generalizing y with
  | case1 hash a₀ a₁ a₂ a₃ x ih =>
    rcases h with _ | ⟨h₀, _ | ⟨h₁, _ | ⟨h₂, _ | ⟨h₃, hrest⟩⟩⟩⟩
    rw [hashBytes, hashBytes, ih hrest]
    unfold hashWord
    rw [or_word h₀ h₁ h₂ h₃]
  | case2 hash a₀ a₁ a₂ =>
    rcases h with _ | ⟨h₀, _ | ⟨h₁, _ | ⟨h₂, ⟨⟩⟩⟩⟩
    rw [hashBytes, hashBytes, or_half h₀ h₁, or_byte h₂]
  | case3 hash a₀ a₁ =>
    rcases h with _ | ⟨h₀, _ | ⟨h₁, ⟨⟩⟩⟩
    rw [hashBytes, hashBytes, or_half h₀ h₁]
  | case4 hash a =>
    rcases h with _ | ⟨h₀, ⟨⟩⟩
    rw [hashBytes, hashBytes, or_byte h₀]
  | case5 hash =>
    cases h
    rfl

theorem hash_eq {x y : List UInt8} (h : TokenEqual x y) :
    rawCaseInsensitiveTokenHash bigEndian x = rawCaseInsensitiveTokenHash bigEndian y := by
  have hlength := List.Forall₂.length_eq h
  have hempty : x.isEmpty = y.isEmpty := by
    cases h <;> rfl
  unfold rawCaseInsensitiveTokenHash
  rw [hempty, hlength, hashBytes_eq h]

/-! ### Tokens with different hashes -/

/-- What follows the sum with the last bytes. -/
def mix (k l : ℕ) (c hash : BitVec 32) : BitVec 32 :=
  let hash := hash ^^^ (hash <<< k) ^^^ c
  hash + (hash >>> l)

theorem mix_fewToOne {k : ℕ} (hk : 0 < k) (l : ℕ) (c : BitVec 32) : FewToOne 2 (mix k l c) := by
  have hxor : Function.Injective fun x : BitVec 32 => x ^^^ (x <<< k) ^^^ c := by
    intro x y h
    have hcancel := congrArg (· ^^^ c) h
    exact xorShiftLeft_injective hk (by simpa [BitVec.xor_assoc] using hcancel)
  exact (addShiftRight_fewToOne l).comp (fewToOne_of_injective hxor)

theorem avalanche_fewToOne : FewToOne 8 avalanche := by
  have hmix : avalanche = mix 25 6 0 ∘ mix 4 17 0 ∘ mix 3 5 0 := by
    funext hash
    simp [avalanche, mix]
  rw [hmix]
  exact (mix_fewToOne (by decide) 6 0).comp
    ((mix_fewToOne (by decide) 17 0).comp (mix_fewToOne (by decide) 5 0))

/-- A byte that is not zero and has not the bit 0x20. -/
def lastByte (i : Fin 17) : UInt8 := UInt8.ofNat i

/-- What a last byte adds to the hash, if `tail` bytes are left with it. -/
def lastSum (bigEndian : Bool) (tail : ℕ) (i : Fin 17) : BitVec 32 :=
  if tail = 1 then 0x20 ||| (lastByte i).toUInt32.toBitVec
  else 0x2020 ||| (get16bits bigEndian (lastByte i) 0).toBitVec

theorem lastSum_injective (tail : ℕ) : Function.Injective (lastSum bigEndian tail) := by
  unfold lastSum
  split
  · decide
  · cases bigEndian <;> decide

theorem ui16_lastByte : ∀ i, ui16 bigEndian
    (0x20202020 ||| (get32bits bigEndian (lastByte i) 0 0 0).toBitVec) =
      (0x2020 ||| (get16bits bigEndian (lastByte i) 0).toBitVec, 0x2020) := by
  cases bigEndian <;> decide

/-- The end of a token is summed up and mixed. -/
theorem hashBytes_tail (bigEndian : Bool) (hash : BitVec 32) {tail : ℕ} (hpos : 0 < tail) (htail : tail ≤ 4) :
    ∃ k l c, 0 < k ∧ ∀ i, hashBytes bigEndian hash (lastByte i :: List.replicate (tail - 1) 0) =
      mix k l c (hash + lastSum bigEndian tail i) := by
  match tail with
  | 1 => exact ⟨10, 1, 0, by decide, fun i => by simp [hashBytes, mix, lastSum]⟩
  | 2 => exact ⟨11, 17, 0, by decide, fun i => by simp [hashBytes, mix, lastSum]⟩
  | 3 => exact ⟨16, 11, 0x20 <<< 18, by decide, fun i => by simp [hashBytes, mix, lastSum]⟩
  | 4 =>
    refine ⟨16, 11, 0x2020 <<< 11, by decide, fun i => ?_⟩
    have hword : hashBytes bigEndian hash (lastByte i :: List.replicate (4 - 1) 0) =
        hashWord bigEndian hash (lastByte i) 0 0 0 := rfl
    have hmix (a b c : BitVec 32) : a ^^^ (c ^^^ b) = b ^^^ a ^^^ c := by ac_rfl
    rw [hword, hashWord, ui16_lastByte]
    dsimp only [mix]
    rw [hmix, lastSum, if_neg (by decide)]
    rfl

theorem hashBytes_replicate (bigEndian : Bool) (hash : BitVec 32) (n : ℕ) :
    ∃ hash', ∀ data, hashBytes bigEndian hash (List.replicate (4 * n) 0 ++ data) =
      hashBytes bigEndian hash' data := by
  induction n generalizing hash with
  | zero => exact ⟨hash, fun data => rfl⟩
  | succ n ih =>
    obtain ⟨hash', h⟩ := ih (hashWord bigEndian hash 0 0 0 0)
    refine ⟨hash', fun data => ?_⟩
    rw [Nat.mul_succ, Nat.add_comm, List.replicate_add]
    exact h data

/-- Of the tokens of one size that differ in their last four bytes, two have different hashes. -/
theorem exists_hash_ne (bigEndian : Bool) {n : ℕ} (hn : 4 ≤ n) :
    ∃ front x y : List UInt8, front.length = n - 4 ∧ x.length = 4 ∧ y.length = 4 ∧
      rawCaseInsensitiveTokenHash bigEndian (front ++ x) ≠
        rawCaseInsensitiveTokenHash bigEndian (front ++ y) := by
  -- the last bytes are those after the last whole word, or that word
  obtain ⟨q, tail, hpos, htail, hsum⟩ : ∃ q tail, 0 < tail ∧ tail ≤ 4 ∧ 4 * q + tail = n := by
    by_cases hr : n % 4 = 0
    · exact ⟨n / 4 - 1, 4, by omega, by omega, by omega⟩
    · exact ⟨n / 4, n % 4, by omega, by omega, by omega⟩
  obtain ⟨hash, hfront⟩ := hashBytes_replicate bigEndian (BitVec.ofNat 32 n) q
  obtain ⟨k, l, c, hk, hmix⟩ := hashBytes_tail bigEndian hash hpos htail
  have hfew : FewToOne 16 fun u => avalanche (mix k l c (hash + u)) := by
    have hadd : Function.Injective (hash + · : BitVec 32 → BitVec 32) := fun x y h =>
      add_left_cancel h
    exact avalanche_fewToOne.comp ((mix_fewToOne hk l c).comp (fewToOne_of_injective hadd))
  obtain ⟨i, j, hne⟩ := hfew.exists_ne (by decide : 16 < 17) (lastSum_injective tail)
  have hbytes (i : Fin 17) : ∃ x : List UInt8, x.length = 4 ∧
      List.replicate (4 * q) 0 ++ lastByte i :: List.replicate (tail - 1) 0 =
        List.replicate (n - 4) 0 ++ x := by
    refine ⟨List.replicate (4 - tail) 0 ++ lastByte i :: List.replicate (tail - 1) 0, ?_, ?_⟩
    · simp
      omega
    · rw [← List.append_assoc, List.replicate_append_replicate]
      congr 2
      omega
  obtain ⟨x, hx, hxeq⟩ := hbytes i
  obtain ⟨y, hy, hyeq⟩ := hbytes j
  refine ⟨List.replicate (n - 4) 0, x, y, by simp, hx, hy, ?_⟩
  have hhash (i : Fin 17) : rawCaseInsensitiveTokenHash bigEndian
      (List.replicate (4 * q) 0 ++ lastByte i :: List.replicate (tail - 1) 0) =
        avalanche (mix k l c (hash + lastSum bigEndian tail i)) := by
    have hlength : (List.replicate (4 * q) 0 ++ lastByte i :: List.replicate (tail - 1) 0).length =
        n := by
      simp
      omega
    unfold rawCaseInsensitiveTokenHash
    rw [if_neg (by simp), hlength, hfront, hmix]
  rw [← hxeq, ← hyeq, hhash, hhash]
  exact hne

/-! ### Coherence -/

end Resiprocate.Data
