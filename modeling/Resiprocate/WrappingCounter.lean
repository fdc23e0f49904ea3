import Mathlib

/-! A counter that goes back to `lo` after `hi`. It gives no value twice before it has gone round. -/
namespace Resiprocate.WrappingCounter

def next (lo hi c : ℕ) : ℕ := if c = hi then lo else c + 1

variable {lo hi c d i j : ℕ}

theorem le_next (hc : lo ≤ c) : lo ≤ next lo hi c := by
  unfold next
  split_ifs <;> omega

theorem next_le (hlo : lo ≤ hi) (hc : c ≤ hi) : next lo hi c ≤ hi := by
  unfold next
  split_ifs <;> omega

theorem le_iterate (hc : lo ≤ c) (n : ℕ) : lo ≤ (next lo hi)^[n] c := by
  induction n with
  | zero => exact hc
  | succ n ih =>
    rw [Function.iterate_succ_apply']
    exact le_next ih

theorem iterate_le (hlo : lo ≤ hi) (hc : c ≤ hi) (n : ℕ) : (next lo hi)^[n] c ≤ hi := by
  induction n with
  | zero => exact hc
  | succ n ih =>
    rw [Function.iterate_succ_apply']
    exact next_le hlo ih

/-- Before it goes back the counter only counts. -/
theorem iterate_of_le {n : ℕ} (h : c + n ≤ hi) : (next lo hi)^[n] c = c + n := by
  induction n with
  | zero => rfl
  | succ n ih =>
    rw [Function.iterate_succ_apply', ih (by omega), next, if_neg (by omega)]
    rfl

/-- After it has gone back the counter counts from `lo`. -/
theorem iterate_past (hc : c ≤ hi) {n : ℕ} (h : lo + n ≤ hi) :
    (next lo hi)^[n + (hi - c + 1)] c = lo + n := by
  have hback : next lo hi hi = lo := if_pos rfl
  have hlast : (next lo hi)^[hi - c] c = hi := by
    rw [iterate_of_le (by omega)]
    omega
  rw [Function.iterate_add_apply, Function.iterate_succ_apply', hlast, hback, iterate_of_le h]

/-- Once round. -/
theorem iterate_round (hlo : lo ≤ c) (hc : c ≤ hi) : (next lo hi)^[hi + 1 - lo] c = c := by
  have hsplit : hi + 1 - lo = (c - lo) + (hi - c + 1) := by omega
  rw [hsplit, iterate_past hc (by omega)]
  omega

theorem iterate_ne (hc : c ≤ hi) (hd : 0 < d) (hround : d < hi + 1 - lo) : (next lo hi)^[d] c ≠ c := by
  by_cases hlast : c + d ≤ hi
  · rw [iterate_of_le hlast]
    omega
  · have hsplit : d = (d - (hi - c + 1)) + (hi - c + 1) := by omega
    rw [hsplit, iterate_past hc (by omega)]
    omega

/-- Values that are the same are a whole round apart at least. -/
theorem round_le (hlo : lo ≤ hi) (hc : c ≤ hi) (hij : i < j)
    (h : (next lo hi)^[i] c = (next lo hi)^[j] c) : i + (hi + 1 - lo) ≤ j := by
  by_contra hnear
  have hsplit : j = (j - i) + i := by omega
  rw [hsplit, Function.iterate_add_apply] at h
  exact iterate_ne (iterate_le hlo hc i) (by omega) (by omega) h.symm

theorem iterate_add_round (hc : lo ≤ c) (hc' : c ≤ hi) (i : ℕ) :
    (next lo hi)^[i + (hi + 1 - lo)] c = (next lo hi)^[i] c := by
  rw [Nat.add_comm, Function.iterate_add_apply, iterate_round (le_iterate hc i) (iterate_le (hc.trans hc') hc' i)]

end Resiprocate.WrappingCounter
