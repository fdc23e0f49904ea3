import Mathlib.Algebra.Order.Floor.Div
import Resiprocate.ParseBuffer

/-! The base 64 coding of byte strings, with its two alphabets. -/
namespace Resiprocate.Data
open Rutil (literal)

/-- `base64Lookup`: -1 for a character of no alphabet, -2 for one that pads. -/
def base64Table : List ℤ :=
  [-1, -1, -1, -1, -1, -1, -1, -1, -1, -1,
   -1, -1, -1, -1, -1, -1, -1, -1, -1, -1,
   -1, -1, -1, -1, -1, -1, -1, -1, -1, -1,
   -1, -1, -1, -1, -1, -1, -1, -1, -1, -1,
   -1, -1, -1, 62, -1, 62, -2, 63, 52, 53,
   54, 55, 56, 57, 58, 59, 60, 61, -1, -1,
   -1, -2, -1, -1, -1, 0, 1, 2, 3, 4,
   5, 6, 7, 8, 9, 10, 11, 12, 13, 14,
   15, 16, 17, 18, 19, 20, 21, 22, 23, 24,
   25, -1, -1, -1, -1, 63, -1, 26, 27, 28,
   29, 30, 31, 32, 33, 34, 35, 36, 37, 38,
   39, 40, 41, 42, 43, 44, 45, 46, 47, 48,
   49, 50, 51, -1, -1, -1, -1, -1]

def base64Lookup (c : UInt8) : ℤ := base64Table.getD (c.toNat &&& 0x7F) (-1)

/-- The last, the second and the first character of three, of the number that they are. -/
def chars (val : ℕ) : UInt8 × UInt8 × UInt8 :=
  let c₃ := UInt8.ofNat (val &&& 0xFF)
  let c₂ := UInt8.ofNat ((val >>> 8) &&& 0xFF)
  let c₁ := UInt8.ofNat ((val >>> 8 >>> 8) &&& 0xFF)
  (c₁, c₂, c₃)

/-- The loop of `base64decode`; `wc` characters of a group of four are in `val`. -/
def decodeLoop : List UInt8 → ℕ → ℕ → List UInt8 → List UInt8
  | [], _, _, bin => bin
  | x :: rest, wc, val, bin =>
    let v := base64Lookup x
    if 0 ≤ v then
      let val := (val <<< 6) ||| v.toNat
      if wc + 1 = 4 then
        let (c₁, c₂, c₃) := chars val
        decodeLoop rest 0 0 (bin ++ [c₁, c₂, c₃])
      else decodeLoop rest (wc + 1) val bin
    else if v = -2 then
      let val := if wc = 2 then val <<< 12 else val
      let val := if wc = 3 then val <<< 6 else val
      let (c₁, c₂, _) := chars val
      -- the next character is meant, but it is the same that is looked up
      let xNext := x
      if rest ≠ [] ∧ base64Lookup xNext = -2 then bin ++ [c₁] else bin ++ [c₁, c₂]
    else decodeLoop rest wc val bin

def base64decode (mBuf : List UInt8) : List UInt8 := decodeLoop mBuf 0 0 []

def codeCharUnsafe : List UInt8 :=
  literal "ABCDEFGHIJKLMNOPQRSTUVWXYZabcdefghijklmnopqrstuvwxyz0123456789+/="

def codeCharSafe : List UInt8 :=
  literal "ABCDEFGHIJKLMNOPQRSTUVWXYZabcdefghijklmnopqrstuvwxyz0123456789-_."

/-- The loop of `base64encode`, three bytes at a time. -/
def encodeLoop (codeChar : ℕ → UInt8) : List UInt8 → List UInt8
  | [] => []
  | [p₀] =>
    [codeChar ((p₀.toNat &&& 0xfc) >>> 2), codeChar ((p₀.toNat &&& 0x3) <<< 4), codeChar 64,
      codeChar 64]
  | [p₀, p₁] =>
    [codeChar ((p₀.toNat &&& 0xfc) >>> 2),
      codeChar (((p₀.toNat &&& 0x3) <<< 4) ||| ((p₁.toNat &&& 0xf0) >>> 4)),
      codeChar ((p₁.toNat &&& 0xf) <<< 2), codeChar 64]
  | p₀ :: p₁ :: p₂ :: p =>
    codeChar ((p₀.toNat &&& 0xfc) >>> 2) ::
      codeChar (((p₀.toNat &&& 0x3) <<< 4) ||| ((p₁.toNat &&& 0xf0) >>> 4)) ::
      codeChar (((p₁.toNat &&& 0xf) <<< 2) ||| ((p₂.toNat &&& 0xc0) >>> 6)) ::
      codeChar (p₂.toNat &&& 0x3f) :: encodeLoop codeChar p

def codeChar (useSafeSet : Bool) (codeBits : ℕ) : UInt8 :=
  (if useSafeSet then codeCharSafe else codeCharUnsafe).getD codeBits 0

def base64encode (useSafeSet : Bool) (d : List UInt8) : List UInt8 :=
  encodeLoop (codeChar useSafeSet) d

/-! ### The alphabets -/

variable {useSafeSet : Bool}

theorem lookup_alphabet : ∀ useSafeSet : Bool, (∀ n < 64, base64Lookup (codeChar useSafeSet n) = n) ∧
    base64Lookup (codeChar useSafeSet 64) = -2 := by
  decide +kernel

theorem lookup_codeChar {n : ℕ} (hn : n < 64) : base64Lookup (codeChar useSafeSet n) = n :=
  (lookup_alphabet useSafeSet).1 n hn

theorem lookup_pad : base64Lookup (codeChar useSafeSet 64) = -2 := (lookup_alphabet useSafeSet).2

/-! ### Bits -/

theorem or_shiftLeft {a b n : ℕ} (hb : b < 2 ^ n) : (a <<< n) ||| b = a * 2 ^ n + b := by
  rw [← Nat.shiftLeft_add_eq_or_of_lt hb, Nat.shiftLeft_eq]

theorem and_mod {a : ℕ} (n : ℕ) : a &&& (2 ^ n - 1) = a % 2 ^ n := Nat.and_two_pow_sub_one_eq_mod a n

/-- The upper bits of a byte, shifted down. -/
theorem and_shiftRight {a : UInt8} (n : ℕ) {m : ℕ} (hm : m >>> n = 2 ^ (8 - n) - 1) (hn : n ≤ 8) :
    (a.toNat &&& m) >>> n = a.toNat / 2 ^ n := by
  have ha := a.toNat_lt
  rw [Nat.shiftRight_and_distrib, hm, Nat.and_two_pow_sub_one_eq_mod, Nat.shiftRight_eq_div_pow,
    Nat.mod_eq_of_lt]
  rw [Nat.div_lt_iff_lt_mul (by positivity), ← pow_add, Nat.sub_add_cancel hn]
  exact ha

/-- The characters of a number of 24 bits are its bytes. -/
theorem chars_eq {val : ℕ} {a b c : UInt8} (h : val = a.toNat * 65536 + b.toNat * 256 + c.toNat) :
    chars val = (a, b, c) := by
  have ha := a.toNat_lt
  have hb := b.toNat_lt
  have hc := c.toNat_lt
  have hbyte (x : UInt8) (n : ℕ) (hn : n &&& 0xFF = x.toNat) : UInt8.ofNat (n &&& 0xFF) = x := by
    rw [hn, UInt8.ofNat_toNat]
  have hmod (n : ℕ) : n &&& 0xFF = n % 256 := Nat.and_two_pow_sub_one_eq_mod n 8
  unfold chars
  dsimp only
  rw [hbyte a, hbyte b, hbyte c]
  · rw [hmod, h]
    omega
  · rw [hmod, h, Nat.shiftRight_eq_div_pow]
    omega
  · rw [hmod, h, Nat.shiftRight_eq_div_pow, Nat.shiftRight_eq_div_pow]
    omega

/-! ### Groups -/

variable {val : ℕ} {bin rest : List UInt8}

theorem decodeLoop_char {n wc : ℕ} (hn : n < 64) (hwc : wc + 1 ≠ 4) :
    decodeLoop (codeChar useSafeSet n :: rest) wc val bin =
      decodeLoop rest (wc + 1) (val * 64 + n) bin := by
  have hor : (val <<< 6) ||| n = val * 64 + n := or_shiftLeft hn
  rw [decodeLoop, lookup_codeChar hn]
  simp only [Int.natCast_nonneg, if_true, Int.toNat_natCast, hwc, if_false, hor]

/-- The fourth character of a group completes three bytes. -/
theorem decodeLoop_last {n : ℕ} (hn : n < 64) {a b c : UInt8}
    (h : val * 64 + n = a.toNat * 65536 + b.toNat * 256 + c.toNat) :
    decodeLoop (codeChar useSafeSet n :: rest) 3 val bin =
      decodeLoop rest 0 0 (bin ++ [a, b, c]) := by
  have hor : (val <<< 6) ||| n = val * 64 + n := or_shiftLeft hn
  rw [decodeLoop, lookup_codeChar hn]
  simp only [Int.natCast_nonneg, if_true, Int.toNat_natCast, hor, chars_eq h]

/-- The first of two padding characters stands for two of the four characters. -/
theorem decodeLoop_pad_two {a : UInt8} (h : val * 4096 = a.toNat * 65536) :
    decodeLoop [codeChar useSafeSet 64, codeChar useSafeSet 64] 2 val bin = bin ++ [a] := by
  have hval : val <<< 12 = a.toNat * 65536 + (0 : UInt8).toNat * 256 + (0 : UInt8).toNat := by
    rw [Nat.shiftLeft_eq]
    simpa using h
  have hchars : chars (val <<< 12) = (a, 0, 0) := chars_eq hval
  rw [decodeLoop, lookup_pad]
  simp [hchars, lookup_pad]

theorem decodeLoop_pad_one {a b : UInt8} (h : val * 64 = a.toNat * 65536 + b.toNat * 256) :
    decodeLoop [codeChar useSafeSet 64] 3 val bin = bin ++ [a, b] := by
  have hval : val <<< 6 = a.toNat * 65536 + b.toNat * 256 + (0 : UInt8).toNat := by
    rw [Nat.shiftLeft_eq]
    simpa using h
  have hchars : chars (val <<< 6) = (a, b, 0) := chars_eq hval
  rw [decodeLoop, lookup_pad]
  simp [hchars]

/-! ### The round trip -/

theorem decodeLoop_encodeLoop (d bin : List UInt8) :
    decodeLoop (encodeLoop (codeChar useSafeSet) d) 0 0 bin = bin ++ d := by
  have hupper (a : UInt8) : (a.toNat &&& 0xfc) >>> 2 = a.toNat / 4 := and_shiftRight 2 rfl (by decide)
  have hupper' (a : UInt8) : (a.toNat &&& 0xf0) >>> 4 = a.toNat / 16 :=
    and_shiftRight 4 rfl (by decide)
  have hupper'' (a : UInt8) : (a.toNat &&& 0xc0) >>> 6 = a.toNat / 64 :=
    and_shiftRight 6 rfl (by decide)
  have hlower (a : UInt8) : a.toNat &&& 0x3 = a.toNat % 4 := and_mod 2
  have hlower' (a : UInt8) : a.toNat &&& 0xf = a.toNat % 16 := and_mod 4
  have hlower'' (a : UInt8) : a.toNat &&& 0x3f = a.toNat % 64 := and_mod 6
  have hsecond (a b : UInt8) : ((a.toNat &&& 0x3) <<< 4) ||| ((b.toNat &&& 0xf0) >>> 4) =
      a.toNat % 4 * 16 + b.toNat / 16 := by
    rw [hlower, hupper', or_shiftLeft (n := 4)]
    · rfl
    · have := b.toNat_lt
      omega
  have hthird (a b : UInt8) : ((a.toNat &&& 0xf) <<< 2) ||| ((b.toNat &&& 0xc0) >>> 6) =
      a.toNat % 16 * 4 + b.toNat / 64 := by
    rw [hlower', hupper'', or_shiftLeft (n := 2)]
    · rfl
    · have := b.toNat_lt
      omega
  induction d using encodeLoop.induct generalizing bin with
  | case1 => simp [encodeLoop, decodeLoop]
  | case2 a =>
    have ha := a.toNat_lt
    rw [encodeLoop, hupper, hlower, Nat.shiftLeft_eq, decodeLoop_char (by omega) (by decide),
      decodeLoop_char (by omega) (by decide), decodeLoop_pad_two]
    omega
  | case3 a b =>
    have ha := a.toNat_lt
    have hb := b.toNat_lt
    rw [encodeLoop, hupper, hsecond, hlower', Nat.shiftLeft_eq,
      decodeLoop_char (by omega) (by decide), decodeLoop_char (by omega) (by decide),
      decodeLoop_char (by omega) (by decide), decodeLoop_pad_one]
    omega
  | case4 a b c d ih =>
    have ha := a.toNat_lt
    have hb := b.toNat_lt
    have hc := c.toNat_lt
    rw [encodeLoop, hupper, hsecond, hthird, hlower'', decodeLoop_char (by omega) (by decide),
      decodeLoop_char (by omega) (by decide), decodeLoop_char (by omega) (by decide),
      decodeLoop_last (a := a) (b := b) (c := c) (by omega) (by omega), ih]
    simp

theorem length_encodeLoop (code : ℕ → UInt8) (d : List UInt8) :
    (encodeLoop code d).length = 4 * (d.length ⌈/⌉ 3) := by
  induction d using encodeLoop.induct with
  | case1 => simp [encodeLoop]
  | case2 a => simp [encodeLoop, Nat.ceilDiv_eq_add_pred_div]
  | case3 a b => simp [encodeLoop, Nat.ceilDiv_eq_add_pred_div]
  | case4 a b c d ih =>
    rw [encodeLoop]
    simp only [List.length_cons, ih, Nat.ceilDiv_eq_add_pred_div]
    omega

theorem base64_round_trip (useSafeSet : Bool) (d : List UInt8) :
    base64decode (base64encode useSafeSet d) = d ∧
      (base64encode useSafeSet d).length = 4 * (d.length ⌈/⌉ 3) :=
  ⟨decodeLoop_encodeLoop d [], length_encodeLoop _ d⟩

end Resiprocate.Data
