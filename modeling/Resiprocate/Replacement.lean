import Mathlib

/-! Occurrences of a string in a text, and the text in which the first of them are replaced. -/
namespace Resiprocate.Replacement
variable {α : Type*}

/-- The string occurs in the text at the index. -/
def OccursAt (s text : List α) (i : ℕ) : Prop := s <+: text.drop i

/-- The least index of an occurrence that is not before `start`. -/
inductive Finds (s text : List α) (start : ℕ) : Option ℕ → Prop
  | first (i : ℕ) (le : start ≤ i) (occurs : OccursAt s text i)
    (least : ∀ j, start ≤ j → j < i → ¬OccursAt s text j) : Finds s text start (some i)
  | nowhere (absent : ∀ j, start ≤ j → ¬OccursAt s text j) : Finds s text start none

/-- `Replaced s r max text count result`: from the left, `count` occurrences of `s` become `r`, each the
first after the one before it. They are `max`, or they are fewer and no occurrence is left. -/
inductive Replaced (s r : List α) : ℕ → List α → ℕ → List α → Prop
  | enough (text : List α) : Replaced s r 0 text 0 text
  | absent (max : ℕ) (text : List α) (finds : Finds s text 0 none) : Replaced s r max text 0 text
  | occurrence (max count : ℕ) (before after result : List α)
    (finds : Finds s (before ++ s ++ after) 0 (some before.length))
    (rest : Replaced s r max after count result) :
    Replaced s r (max + 1) (before ++ s ++ after) (count + 1) (before ++ r ++ result)

section
variable {s r text before after : List α} {start i : ℕ}

theorem occursAt_append : OccursAt s (before ++ text) (before.length + i) ↔ OccursAt s text i := by
  rw [OccursAt, OccursAt, List.drop_append, List.drop_eq_nil_of_le (by omega), Nat.add_sub_cancel_left,
    List.nil_append]

/-- An occurrence cuts the text. -/
theorem OccursAt.cut (h : OccursAt s text i) (hs : s ≠ []) :
    ∃ before after, text = before ++ s ++ after ∧ before.length = i := by
  obtain ⟨after, hafter⟩ := h
  have hi : i ≤ text.length := by
    by_contra hlt
    rw [List.drop_eq_nil_of_le (by omega)] at hafter
    exact hs (List.append_eq_nil_iff.1 hafter).1
  refine ⟨text.take i, after, ?_, by simp [hi]⟩
  rw [List.append_assoc, hafter, List.take_append_drop]

theorem OccursAt.le (h : OccursAt s text i) (hs : s ≠ []) : i + s.length ≤ text.length := by
  obtain ⟨before, after, rfl, rfl⟩ := h.cut hs
  simp only [List.length_append]
  omega

theorem Finds.unique {a b : Option ℕ} (ha : Finds s text start a) (hb : Finds s text start b) : a = b := by
  cases ha with
  | first i hi occurs least =>
    cases hb with
    | first j hj occurs' least' =>
      rcases Nat.lt_trichotomy i j with hlt | rfl | hlt
      · exact absurd occurs (least' i hi hlt)
      · rfl
      · exact absurd occurs' (least j hj hlt)
    | nowhere absent => exact absurd occurs (absent i hi)
  | nowhere absent =>
    cases hb with
    | first j hj occurs' _ => exact absurd occurs' (absent j hj)
    | nowhere _ => rfl

/-- What comes before the start does not matter. -/
theorem Finds.drop {found : Option ℕ} (h : Finds s (before ++ text) before.length found) :
    (found = none ∧ Finds s text 0 none) ∨
    ∃ i, found = some (before.length + i) ∧ Finds s text 0 (some i) := by
  cases h with
  | nowhere absent =>
    refine .inl ⟨rfl, .nowhere fun j _ hj => absent (before.length + j) (by omega) ?_⟩
    exact occursAt_append.2 hj
  | first i le occurs least =>
    obtain ⟨i, rfl⟩ := Nat.exists_eq_add_of_le le
    refine .inr ⟨i, rfl, .first i (Nat.zero_le i) (occursAt_append.1 occurs) fun j _ hlt hj => ?_⟩
    exact least (before.length + j) (by omega) (by omega) (occursAt_append.2 hj)

/-- The count and the result are determined. -/
theorem Replaced.unique {max count count' : ℕ} {result result' : List α}
    (h : Replaced s r max text count result) (h' : Replaced s r max text count' result') :
    count = count' ∧ result = result' := by
  induction h generalizing count' result' with
  | enough text =>
    cases h' <;> exact ⟨rfl, rfl⟩
  | absent max text finds =>
    generalize htext : text = text' at h'
    cases h' with
    | enough => exact ⟨rfl, rfl⟩
    | absent => exact ⟨rfl, rfl⟩
    | occurrence max count before after result finds' rest =>
      rw [htext] at finds
      cases finds.unique finds'
  | occurrence max count before after result finds rest ih =>
    generalize htext : before ++ s ++ after = text' at h'
    generalize hmax : max + 1 = max' at h'
    cases h' with
    | enough => cases hmax
    | absent _ _ finds' =>
      rw [htext] at finds
      cases finds.unique finds'
    | occurrence max count' before' after' result' finds' rest' =>
      rw [htext] at finds
      have hlength : before.length = before'.length := Option.some.inj (finds.unique finds')
      rw [List.append_assoc, List.append_assoc] at htext
      obtain ⟨rfl, htail⟩ := List.append_inj htext hlength
      obtain rfl := List.append_cancel_left htail
      obtain rfl := Nat.succ.inj hmax
      obtain ⟨rfl, rfl⟩ := ih rest'
      exact ⟨rfl, rfl⟩

end

end Resiprocate.Replacement
