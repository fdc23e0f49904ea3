import Resiprocate.Uri

/-! The order of strings that `operator<` is, and the comparison without case, which is an equivalence. -/
namespace Resiprocate.Data

/-- The numbers of the characters: strings are in the order of these lists. -/
def order (d : List UInt8) : List ℕ := d.map UInt8.toNat

theorem order_injective : Function.Injective order :=
  List.map_injective_iff.mpr fun _ _ => UInt8.toNat_inj.mp

/-- Where `memcmp` finds no difference, the shorter string is the smaller one. -/
theorem less_iff (lhs rhs : List UInt8) : less lhs rhs = true ↔ order lhs < order rhs := by
  induction lhs generalizing rhs with
  | nil =>
    cases rhs with
    | nil => simp [less, memcmp, order]
    | cons d ds => simp [less, memcmp, order]
  | cons c cs ih =>
    cases rhs with
    | nil => simp [less, memcmp, order]
    | cons d ds =>
      have htail : less (c :: cs) (d :: ds) =
          if c < d then true else if d < c then false else less cs ds := by
        simp only [less, memcmp, List.length_cons, Nat.add_lt_add_iff_right]
        split_ifs <;> rfl
      have hcons : order (c :: cs) < order (d :: ds) ↔ c < d ∨ c = d ∧ order cs < order ds := by
        rw [UInt8.lt_iff_toNat_lt, ← UInt8.toNat_inj]
        exact List.cons_lt_cons_iff
      rw [htail, hcons]
      rcases lt_trichotomy c.toNat d.toNat with hlt | heq | hgt
      · simp [UInt8.lt_iff_toNat_lt, hlt]
      · have hcd : c = d := UInt8.toNat_inj.mp heq
        simp [hcd, ih ds]
      · have hne : c ≠ d := fun h => by simp [h] at hgt
        simp [UInt8.lt_iff_toNat_lt, hgt, hne, not_lt.mpr hgt.le]

theorem less_eq_false_iff (lhs rhs : List UInt8) : less lhs rhs = false ↔ order rhs ≤ order lhs := by
  rw [← Bool.not_eq_true, less_iff, not_lt]

/-- A comparison that decides by strings first is that of pairs. -/
theorem less_lex_iff {β : Type} [LT β] {lhs rhs : List UInt8} {x y : β} {rest : Bool}
    (hrest : rest = true ↔ x < y) :
    (if less lhs rhs then true else if less rhs lhs then false else rest) = true ↔
      toLex (order lhs, x) < toLex (order rhs, y) := by
  rw [Prod.Lex.toLex_lt_toLex]
  rcases lt_trichotomy (order lhs) (order rhs) with hlt | heq | hgt
  · simp [less_iff, hlt]
  · simp [less_iff, heq, hrest]
  · simp [less_iff, hgt, hgt.ne', not_lt.mpr hgt.le]

end Resiprocate.Data

namespace Resiprocate.Rutil

theorem toLower_eq_zero {c : UInt8} : toLower c = 0 ↔ c = 0 :=
  HeldBytes.forall_byte (P := fun c => toLower c = 0 ↔ c = 0) (by decide +kernel) c

theorem sameNoCase_refl (s : Bytes) : sameNoCase s s = true := by
  induction s with
  | nil => rfl
  | cons c s ih => simp [sameNoCase, ih]

theorem sameNoCase_comm (s t : Bytes) : sameNoCase s t = sameNoCase t s := by
  induction s generalizing t with
  | nil => cases t <;> rfl
  | cons c s ih =>
    cases t with
    | nil => rfl
    | cons d t =>
      by_cases hcd : toLower c = toLower d
      · have hzero : (c == 0) = (d == 0) := by
          rw [Bool.eq_iff_iff, beq_iff_eq, beq_iff_eq, ← toLower_eq_zero, hcd, toLower_eq_zero]
        simp only [sameNoCase, hcd, hzero, ih t, BEq.rfl]
      · have hdc : toLower d ≠ toLower c := Ne.symm hcd
        simp only [sameNoCase, beq_eq_false_iff_ne.mpr hcd, beq_eq_false_iff_ne.mpr hdc, Bool.false_and]

@[simp] theorem isEqualNoCase_refl (s : Bytes) : isEqualNoCase s s = true := by
  rw [isEqualNoCase, sameNoCase_refl, BEq.rfl, Bool.true_and]

theorem isEqualNoCase_comm (s t : Bytes) : isEqualNoCase s t = isEqualNoCase t s := by
  rw [isEqualNoCase, isEqualNoCase, sameNoCase_comm, Bool.beq_comm]

theorem sameNoCase_trans {r s t : Bytes} (hlength : r.length = s.length) (hrs : sameNoCase r s = true)
    (hst : sameNoCase s t = true) : sameNoCase r t = true := by
  induction r generalizing s t with
  | nil => cases t <;> rfl
  | cons c r ih =>
    cases s with
    | nil => simp at hlength
    | cons d s =>
      cases t with
      | nil => rfl
      | cons e t =>
        simp only [sameNoCase, Bool.and_eq_true, Bool.or_eq_true, beq_iff_eq] at hrs hst ⊢
        refine ⟨hrs.1.trans hst.1, ?_⟩
        have hzero : c = 0 ↔ d = 0 := by rw [← toLower_eq_zero, hrs.1, toLower_eq_zero]
        by_cases hc : c = 0
        · exact .inl hc
        · have hd := mt hzero.mpr hc
          exact .inr (ih (by simpa using hlength) (hrs.2.resolve_left hc) (hst.2.resolve_left hd))

theorem isEqualNoCase_trans {r s t : Bytes} (hrs : isEqualNoCase r s = true)
    (hst : isEqualNoCase s t = true) : isEqualNoCase r t = true := by
  simp only [isEqualNoCase, Bool.and_eq_true, beq_iff_eq] at hrs hst ⊢
  exact ⟨hrs.1.trans hst.1, sameNoCase_trans hrs.1 hrs.2 hst.2⟩

/-- Strings that differ in case only are compared with others in the same way. -/
theorem isEqualNoCase_congr {r s : Bytes} (h : isEqualNoCase r s = true) (t : Bytes) :
    isEqualNoCase r t = isEqualNoCase s t := by
  rw [Bool.eq_iff_iff]
  exact ⟨isEqualNoCase_trans (by rwa [isEqualNoCase_comm]), isEqualNoCase_trans h⟩

end Resiprocate.Rutil
