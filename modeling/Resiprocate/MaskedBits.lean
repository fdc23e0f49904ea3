import Mathlib

/-! Bit vectors side by side, compared under a mask. -/
namespace Resiprocate.MaskedBits
variable {w v : ℕ}

theorem toNat_append (x : BitVec w) (y : BitVec v) :
    (x ++ y).toNat = x.toNat * 2 ^ v + y.toNat := by
  rw [BitVec.toNat_append, ← Nat.shiftLeft_add_eq_or_of_lt y.isLt, Nat.shiftLeft_eq]

theorem append_inj {x x' : BitVec w} {y y' : BitVec v} :
    x ++ y = x' ++ y' ↔ x = x' ∧ y = y' := by
  constructor
  · intro h
    constructor
    · refine BitVec.eq_of_getLsbD_eq fun i _ => ?_
      have hi := congrArg (·.getLsbD (v + i)) h
      simpa [BitVec.getLsbD_append] using hi
    · refine BitVec.eq_of_getLsbD_eq fun i hv => ?_
      have hi := congrArg (·.getLsbD i) h
      simpa [BitVec.getLsbD_append, hv] using hi
  · rintro ⟨rfl, rfl⟩
    rfl

/-- Two vectors differ outside of the bits that a mask leaves out. -/
def Agree (m x y : BitVec w) : Prop := (x ^^^ y) &&& m = 0#w

instance (m x y : BitVec w) : Decidable (Agree m x y) := inferInstanceAs (Decidable (_ = _))

theorem agree_append {m x x' : BitVec w} {n y y' : BitVec v} :
    Agree (m ++ n) (x ++ y) (x' ++ y') ↔ Agree m x x' ∧ Agree n y y' := by
  have hzero : 0#(w + v) = 0#w ++ 0#v := by simp
  unfold Agree
  rw [BitVec.xor_append, BitVec.and_append, hzero, append_inj]

theorem agree_iff_getLsbD {m x y : BitVec w} :
    Agree m x y ↔ ∀ i, i < w → m.getLsbD i = true → x.getLsbD i = y.getLsbD i := by
  unfold Agree
  constructor
  · intro h i hi hm
    have hbit := congrArg (·.getLsbD i) h
    simpa [hm] using hbit
  · intro h
    refine BitVec.eq_of_getLsbD_eq fun i hi => ?_
    have hbit := h i hi
    cases hm : m.getLsbD i <;> simp_all

/-- Vectors agree exactly if clearing the other bits makes them equal. -/
theorem agree_iff_and {m x y : BitVec w} : Agree m x y ↔ x &&& m = y &&& m := by
  rw [agree_iff_getLsbD]
  constructor
  · intro h
    refine BitVec.eq_of_getLsbD_eq fun i hi => ?_
    have hbit := h i hi
    cases hm : m.getLsbD i <;> simp_all
  · intro h i hi hm
    have hbit := congrArg (·.getLsbD i) h
    simpa [hm] using hbit

/-- Vectors agree exactly if setting the other bits makes them equal. -/
theorem agree_iff_or {m x y : BitVec w} : Agree m x y ↔ ~~~m ||| x = ~~~m ||| y := by
  rw [agree_iff_getLsbD]
  constructor
  · intro h
    refine BitVec.eq_of_getLsbD_eq fun i hi => ?_
    have hbit := h i hi
    cases hm : m.getLsbD i <;> simp_all
  · intro h i hi hm
    have hbit := congrArg (·.getLsbD i) h
    simpa only [BitVec.getLsbD_or, BitVec.getLsbD_not, hm, Bool.not_true, Bool.and_false,
      Bool.false_or] using hbit

end Resiprocate.MaskedBits
