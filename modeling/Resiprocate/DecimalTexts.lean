import Resiprocate.IntegerParsing

/-! The decimal texts that numbers are written as, and that they are read back. -/
namespace Resiprocate.Numerals
open Rutil (literal isDigit)

theorem map_toDigits {n : ℕ} (h : 0 < n) :
    (Nat.toDigits 10 n).map (fun c => UInt8.ofNat c.toNat) = digitsOf n := by
  have hchar : ∀ d < 10, UInt8.ofNat (Nat.digitChar d).toNat = digitChar d := fun d hd => by
    rw [Nat.toNat_digitChar_of_lt_ten hd, digitChar]
  induction n using Nat.strongRecOn with
  | ind n ih =>
    rw [digitsOf_pos h]
    rcases Nat.lt_or_ge n 10 with hlt | hge
    · rw [Nat.toDigits_of_lt_base hlt, Nat.div_eq_of_lt hlt, Nat.mod_eq_of_lt hlt, digitsOf_zero]
      exact congrArg ([·]) (hchar n hlt)
    · have hrest := ih (n / 10) (Nat.div_lt_self h (by decide)) (Nat.div_pos hge (by decide))
      rw [Nat.toDigits_of_base_le (by decide) hge, List.map_append, hrest]
      exact congrArg (_ ++ [·]) (hchar _ (Nat.mod_lt n (by decide)))

theorem literal_repr_pos {n : ℕ} (h : 0 < n) : literal n.repr = digitsOf n := by
  rw [literal, Nat.toList_repr, map_toDigits h]

/-- The text of a number consists of its digits. -/
theorem digits_repr (n : ℕ) : literal n.repr ≠ [] ∧ (∀ c ∈ literal n.repr, isDigit c = true) ∧
    numeral (literal n.repr) = n := by
  rcases Nat.eq_zero_or_pos n with rfl | hpos
  · have hzero : literal (Nat.repr 0) = [48] := rfl
    rw [hzero]
    refine ⟨List.cons_ne_nil _ _, fun c hc => ?_, rfl⟩
    rw [List.mem_singleton.1 hc]
    rfl
  · rw [literal_repr_pos hpos]
    exact ⟨fun hnil => hpos.ne' (digitsOf_eq_nil.1 hnil), fun _ => isDigit_digitsOf, numeral_digitsOf n⟩

theorem length_repr_le {n k : ℕ} (hk : 0 < k) (h : n < 10 ^ k) : (literal n.repr).length ≤ k := by
  rcases Nat.eq_zero_or_pos n with rfl | hpos
  · exact hk
  · rw [literal_repr_pos hpos]
    exact (length_digitsOf_le k).2 h

theorem literal_neg_repr {n : ℤ} (h : n < 0) : literal n.repr = 45 :: literal n.natAbs.repr := by
  have habs : (-n).toNat = n.natAbs := by omega
  rw [Int.repr_eq_if, if_neg (by omega), habs, literal, String.toList_append, List.map_append]
  rfl

theorem literal_nonneg_repr {n : ℤ} (h : 0 ≤ n) : literal n.repr = literal n.natAbs.repr := by
  have habs : n.toNat = n.natAbs := by omega
  rw [Int.repr_eq_if, if_pos h, habs]

end Resiprocate.Numerals

namespace Resiprocate.Rutil
open Numerals

variable {v : View} {p : ℤ}

theorem digitRun_repr {n : ℕ} (hholds : v.Holds p (literal n.repr))
    (hfit : p + (literal n.repr).length ≤ v.mEnd)
    (hstop : p + (literal n.repr).length = v.mEnd ∨ isDigit (v.memory (p + (literal n.repr).length)) = false) :
    DigitRun v p (literal n.repr) :=
  ⟨hholds, (digits_repr n).2.1, fun _ => hfit, hstop.imp_left fun he => he.ge⟩

/-- The text of a number is read as the number. -/
theorem lands_uInt32 {n : UInt32} (hholds : v.Holds p (literal (toString n.toNat)))
    (hfit : p + (literal (toString n.toNat)).length ≤ v.mEnd)
    (hstop : p + (literal (toString n.toNat)).length = v.mEnd ∨
      isDigit (v.memory (p + (literal (toString n.toNat)).length)) = false) :
    Lands v ParseBuffer.uInt32 p (p + (literal (toString n.toNat)).length) n := by
  have hrun := ends_uInt32 (digitRun_repr hholds hfit hstop)
  obtain ⟨hne, -, hnumeral⟩ := digits_repr n.toNat
  have hlength : (literal n.toNat.repr).length ≤ 10 :=
    length_repr_le (by decide) (n.toNat_lt.trans (by decide))
  have hlt := n.toNat_lt
  rw [if_neg (by rw [hnumeral]; simp only [hne, false_or]; omega), hnumeral, UInt32.ofNat_toNat] at hrun
  exact hrun

theorem lands_integer {n : Int32} (hholds : v.Holds p (literal (toString n.toInt)))
    (hfit : p + (literal (toString n.toInt)).length ≤ v.mEnd)
    (hstop : p + (literal (toString n.toInt)).length = v.mEnd ∨
      isDigit (v.memory (p + (literal (toString n.toInt)).length)) = false) :
    Lands v ParseBuffer.integer p (p + (literal (toString n.toInt)).length) n.toInt := by
  have hge := n.le_toInt
  have hlt := n.toInt_lt
  obtain ⟨hne, hdigits, hnumeral⟩ := digits_repr n.toInt.natAbs
  rw [Int.toString_eq_repr] at hholds hfit hstop ⊢
  have hpos := List.length_pos_of_ne_nil hne
  rcases lt_or_ge n.toInt 0 with hneg | hnonneg
  · rw [literal_neg_repr hneg] at hholds hfit hstop ⊢
    have hshift : p + (45 :: literal n.toInt.natAbs.repr).length = p + 1 + (literal n.toInt.natAbs.repr).length := by
      rw [List.length_cons]
      push_cast
      ring
    rw [hshift] at hfit hstop ⊢
    have hsign : p < v.mEnd ∧ v.memory p = 45 := ⟨by omega, hholds.1⟩
    have hafter : afterSign v p = p + 1 := if_pos ⟨hsign.1, .inl hsign.2⟩
    have hrun : DigitRun v (afterSign v p) (literal n.toInt.natAbs.repr) := by
      rw [hafter]
      exact digitRun_repr hholds.2 hfit hstop
    have hsigned : signed v p (literal n.toInt.natAbs.repr) = n.toInt := by
      rw [signed, if_pos hsign, hnumeral]
      omega
    have hends := ends_integer hrun
    rw [hsigned, if_neg (by simp only [hne, false_or]; omega), hafter] at hends
    exact hends
  · rw [literal_nonneg_repr hnonneg] at hholds hfit hstop ⊢
    have hfirst : isDigit (v.memory p) = true := by
      obtain ⟨c, cs, hcs⟩ := List.exists_cons_of_ne_nil hne
      rw [hcs] at hholds hdigits
      rw [hholds.1]
      exact hdigits c List.mem_cons_self
    have hnosign : ¬(v.memory p = 45 ∨ v.memory p = 43) := by
      rintro (h | h) <;> rw [h] at hfirst <;> exact absurd hfirst (by decide)
    have hafter : afterSign v p = p := if_neg fun h => hnosign h.2
    have hrun : DigitRun v (afterSign v p) (literal n.toInt.natAbs.repr) := by
      rw [hafter]
      exact digitRun_repr hholds hfit hstop
    have hsigned : signed v p (literal n.toInt.natAbs.repr) = n.toInt := by
      rw [signed, if_neg fun h => hnosign (.inl h.2), hnumeral]
      omega
    have hends := ends_integer hrun
    rw [hsigned, if_neg (by simp only [hne, false_or]; omega), hafter] at hends
    exact hends

end Resiprocate.Rutil
