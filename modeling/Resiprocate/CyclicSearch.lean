import Mathlib

/-! Search along the walk of a step function: points are tried one after the
other until one is free or the walk is back at the point where it started. -/
namespace Resiprocate.CyclicSearch

variable {α σ : Type*}

/-- The walk from a point and a state; a step yields the next of both. -/
def walk (next : σ → α × σ) : ℕ → α × σ → α × σ
  | 0, p => p
  | k + 1, p => walk next k (next p.2)

/-- Step on until the point is `ok`. -/
def seek (next : σ → α × σ) (ok : α → Bool) : ℕ → α × σ → Option (α × σ)
  | 0, _ => none
  | fuel + 1, p => if ok p.1 then some p else seek next ok fuel (next p.2)

/-- Step on until the point is free in the state; `none` is found when the walk
is back at `start`. -/
def search [DecidableEq α] (next : σ → α × σ) (free : σ → α → Bool) (start : α) :
    ℕ → α × σ → Option (Option α × σ)
  | 0, _ => none
  | fuel + 1, p =>
    if free p.2 p.1 then some (some p.1, p.2)
    else if (next p.2).1 = start then some (none, (next p.2).2)
    else search next free start fuel (next p.2)

/-- A walk that comes to a point that is `ok` is left at such a point. -/
theorem seek_ok (next : σ → α × σ) (ok : α → Bool) (p : α × σ) {k fuel : ℕ}
    (hk : ok (walk next k p).1) (hf : k < fuel) :
    ∃ j ≤ k, ok (walk next j p).1 ∧ seek next ok fuel p = some (walk next j p) := by
  induction k generalizing p fuel with
  | zero =>
    obtain ⟨f, rfl⟩ := Nat.exists_eq_succ_of_ne_zero (by omega : fuel ≠ 0)
    have hp : ok p.1 := hk
    exact ⟨0, le_rfl, hk, by simp [seek, walk, hp]⟩
  | succ k ih =>
    obtain ⟨f, rfl⟩ := Nat.exists_eq_succ_of_ne_zero (by omega : fuel ≠ 0)
    by_cases hp : ok p.1
    · exact ⟨0, by omega, hp, by simp [seek, walk, hp]⟩
    · obtain ⟨j, hj, hok, he⟩ := ih (next p.2) hk (by omega : k < f)
      exact ⟨j + 1, by omega, hok, by simp [seek, walk, hp, he]⟩

/-- On a walk that comes back to `start` the search ends: at the first free
point, or back at `start` when every point on the way was taken. -/
theorem search_ends [DecidableEq α] {next : σ → α × σ} (free : σ → α → Bool) {start : α}
    {m fuel : ℕ} {p : α × σ} (hm : (walk next (m + 1) p).1 = start) (hf : m < fuel) :
    (∃ k, free (walk next k p).2 (walk next k p).1 ∧
      search next free start fuel p = some (some (walk next k p).1, (walk next k p).2)) ∨
    ∃ k, (walk next (k + 1) p).1 = start ∧
      (∀ j ≤ k, free (walk next j p).2 (walk next j p).1 = false) ∧
      search next free start fuel p = some (none, (walk next (k + 1) p).2) := by
  induction m generalizing p fuel with
  | zero =>
    obtain ⟨f, rfl⟩ := Nat.exists_eq_succ_of_ne_zero (by omega : fuel ≠ 0)
    by_cases hp : free p.2 p.1
    · exact .inl ⟨0, hp, by simp [search, walk, hp]⟩
    · have hs : (next p.2).1 = start := hm
      refine .inr ⟨0, hm, fun j hj => ?_, by simp [search, walk, hp, hs]⟩
      obtain rfl : j = 0 := by omega
      simpa [walk] using hp
  | succ m ih =>
    obtain ⟨f, rfl⟩ := Nat.exists_eq_succ_of_ne_zero (by omega : fuel ≠ 0)
    by_cases hp : free p.2 p.1
    · exact .inl ⟨0, hp, by simp [search, walk, hp]⟩
    by_cases hs : (next p.2).1 = start
    · refine .inr ⟨0, hs, fun j hj => ?_, by simp [search, walk, hp, hs]⟩
      obtain rfl : j = 0 := by omega
      simpa [walk] using hp
    · obtain ⟨k, hk, he⟩ | ⟨k, hk, hfree, he⟩ := ih hm (by omega : m < f)
      · exact .inl ⟨k + 1, hk, by simp [search, walk, hp, hs, he]⟩
      · refine .inr ⟨k + 1, hk, fun j hj => ?_, by simp [search, hp, hs, he, walk]⟩
        cases j with
        | zero => simpa [walk] using hp
        | succ j => exact hfree j (by omega)

/-- A larger bound gives the same result. -/
theorem seek_mono {next : σ → α × σ} {ok : α → Bool} {fuel fuel' : ℕ} {p r : α × σ}
    (h : seek next ok fuel p = some r) (hf : fuel ≤ fuel') : seek next ok fuel' p = some r := by
  induction fuel generalizing p fuel' with
  | zero => simp [seek] at h
  | succ fuel ih =>
    obtain ⟨f, rfl⟩ := Nat.exists_eq_succ_of_ne_zero (by omega : fuel' ≠ 0)
    simp only [seek] at h ⊢
    split_ifs at h ⊢ with hp
    · exact h
    · exact ih h (by omega)

theorem search_mono [DecidableEq α] {next : σ → α × σ} {free : σ → α → Bool} {start : α}
    {fuel fuel' : ℕ} {p : α × σ} {r : Option α × σ} (h : search next free start fuel p = some r)
    (hf : fuel ≤ fuel') : search next free start fuel' p = some r := by
  induction fuel generalizing p fuel' with
  | zero => simp [search] at h
  | succ fuel ih =>
    obtain ⟨f, rfl⟩ := Nat.exists_eq_succ_of_ne_zero (by omega : fuel' ≠ 0)
    simp only [search] at h ⊢
    split_ifs at h ⊢ with hp hs
    · exact h
    · exact h
    · exact ih h (by omega)

end Resiprocate.CyclicSearch
