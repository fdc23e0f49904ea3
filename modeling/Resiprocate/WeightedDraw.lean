import Mathlib

/-! Drawing from a list by weight: a number below the total weight chooses the first item whose
cumulative weight exceeds it. -/
namespace Resiprocate.WeightedDraw

variable {α : Type} (weight : α → ℕ)

def total (l : List α) : ℕ := (l.map weight).sum

/-- `random` chooses the item at `i`. Without any weight it is the first one. -/
def Chosen (l : List α) (random i : ℕ) : Prop :=
  i < l.length ∧ if total weight l = 0 then i = 0
    else total weight (l.take i) ≤ random % total weight l ∧
      random % total weight l < total weight (l.take (i + 1))

section Total
variable {weight}

@[simp] theorem total_nil : total weight [] = 0 := rfl

@[simp] theorem total_cons (a : α) (l : List α) :
    total weight (a :: l) = weight a + total weight l := by simp [total]

@[simp] theorem total_append (l l' : List α) :
    total weight (l ++ l') = total weight l + total weight l' := by simp [total]

theorem total_eq_zero {l : List α} : total weight l = 0 ↔ ∀ a ∈ l, weight a = 0 := by
  induction l with
  | nil => simp
  | cons a l ih => simp [ih]

theorem total_take_le (l : List α) (i : ℕ) : total weight (l.take i) ≤ total weight l := by
  conv_rhs => rw [← List.take_append_drop i l]
  rw [total_append]
  omega

theorem total_take_mono (l : List α) {i j : ℕ} (h : i ≤ j) :
    total weight (l.take i) ≤ total weight (l.take j) := by
  have hle : total weight ((l.take j).take i) ≤ total weight (l.take j) := total_take_le _ i
  rwa [List.take_take, min_eq_left h] at hle

theorem total_eraseIdx {l : List α} {i : ℕ} (h : i < l.length) :
    total weight (l.eraseIdx i) + weight l[i] = total weight l := by
  induction l generalizing i with
  | nil => simp at h
  | cons a l ih =>
    cases i with
    | zero => simp [Nat.add_comm]
    | succ i =>
      have := ih (i := i) (by simpa using h)
      simp only [List.eraseIdx_cons_succ, total_cons, List.getElem_cons_succ]
      omega

end Total

variable {weight} {l l' : List α} {random i j : ℕ}

/-- A weight that comes after the chosen item does not matter if it is nothing. -/
theorem Chosen.of_append (hl : l ≠ []) (hl' : total weight l' = 0)
    (h : Chosen weight (l ++ l') random i) : Chosen weight l random i := by
  have hpos : 0 < l.length := List.length_pos_iff.mpr hl
  unfold Chosen at h ⊢
  rw [total_append, hl', Nat.add_zero] at h
  obtain ⟨-, h⟩ := h
  split_ifs at h ⊢ with hzero
  · exact ⟨h ▸ hpos, h⟩
  · obtain ⟨hlow, hhigh⟩ := h
    have hrandom : random % total weight l < total weight l := Nat.mod_lt _ (by omega)
    have hi : i < l.length := by
      by_contra hge
      have htake : (l ++ l').take i = l ++ l'.take (i - l.length) := by
        rw [List.take_append, List.take_of_length_le (by omega)]
      rw [htake, total_append] at hlow
      omega
    rw [List.take_append_of_le_length (by omega)] at hlow
    rw [List.take_append_of_le_length (by omega)] at hhigh
    exact ⟨hi, hlow, hhigh⟩

/-- The greatest number below the total weight chooses the last item that has a weight. -/
theorem Chosen.last (h : Chosen weight l (total weight l - 1) i) (hpos : 0 < total weight l)
    (hj : j < l.length) (hw : 0 < weight l[j]) : j ≤ i := by
  unfold Chosen at h
  rw [if_neg hpos.ne', Nat.mod_eq_of_lt (by omega)] at h
  obtain ⟨hi, -, hhigh⟩ := h
  by_contra hlt
  have hstep : total weight (l.take (i + 1)) ≤ total weight (l.take j) :=
    total_take_mono l (by omega)
  have htake : total weight (l.take (j + 1)) = total weight (l.take j) + weight l[j] := by
    rw [List.take_add_one, List.getElem?_eq_getElem hj, total_append]
    rfl
  have hle : total weight (l.take (j + 1)) ≤ total weight l := total_take_le l (j + 1)
  omega

end Resiprocate.WeightedDraw
