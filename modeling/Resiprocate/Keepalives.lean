import Mathlib

/-! Which keepalives are seen in the gaps between messages, by where the reads end. -/
namespace Resiprocate.Stream

inductive Keepalive
  | onDoubleCRLF | onSingleCRLF
  deriving DecidableEq

namespace Keepalive

/-- The line ends of a keepalive. -/
def lineEnds : Keepalive → ℕ
  | onDoubleCRLF => 2
  | onSingleCRLF => 1

def total (l : List Keepalive) : ℕ := (l.map lineEnds).sum

@[simp] theorem total_nil : total [] = 0 := rfl

@[simp] theorem total_cons (a : Keepalive) (l : List Keepalive) :
    total (a :: l) = a.lineEnds + total l := List.sum_cons

theorem total_append (l l' : List Keepalive) : total (l ++ l') = total l + total l' := by
  simp [total]

theorem eq_nil_of_total {l : List Keepalive} (h : total l = 0) : l = [] := by
  cases l with
  | nil => rfl
  | cons a l => cases a <;> simp [lineEnds] at h

/-- Beginnings of one list that have the same line ends are the same. -/
theorem eq_of_append_eq {l l' r r' : List Keepalive} (h : l ++ r = l' ++ r')
    (htotal : total l = total l') : l = l' ∧ r = r' := by
  rcases List.append_eq_append_iff.mp h with ⟨m, rfl, rfl⟩ | ⟨m, rfl, rfl⟩
  · have hnil : m = [] := eq_nil_of_total (by rw [total_append] at htotal; omega)
    simp [hnil]
  · have hnil : m = [] := eq_nil_of_total (by rw [total_append] at htotal; omega)
    simp [hnil]

end Keepalive

open Keepalive

/-! ### One gap -/

/-- What is seen in a gap of `k` line ends, where `ends i` is that a read ends after `i` bytes.
A read that ends after a lone CR leaves the rest to the scanner of headers. -/
def gapKeepalives : ℕ → (ℕ → Bool) → List Keepalive
  | 0, _ => []
  | 1, ends => if ends 1 then [] else [onSingleCRLF]
  | k + 2, ends =>
    if ends 1 then []
    else if ends 2 || ends 3 then onSingleCRLF :: gapKeepalives (k + 1) fun i => ends (i + 2)
    else onDoubleCRLF :: gapKeepalives k fun i => ends (i + 4)

/-- In a gap, reads end only after whole pings. -/
def AfterPings (k : ℕ) (ends : ℕ → Bool) : Prop :=
  ∀ i, 0 < i → i < 2 * k → ends i = true → 4 ∣ i

/-- A gap that no read ends in. -/
abbrev uncut (_ : ℕ) : Bool := false

theorem total_gapKeepalives_le (k : ℕ) (ends : ℕ → Bool) : total (gapKeepalives k ends) ≤ k := by
  induction k, ends using gapKeepalives.induct with
  | case1 ends => exact le_rfl
  | case2 ends h₁ => simp [gapKeepalives, h₁]
  | case3 ends h₁ => simp [gapKeepalives, h₁, lineEnds]
  | case4 k ends h₁ => simp [gapKeepalives, h₁]
  | case5 k ends h₁ h₂ ih =>
    rw [gapKeepalives, if_neg h₁, if_pos h₂, total_cons, lineEnds]
    omega
  | case6 k ends h₁ h₂ ih =>
    rw [gapKeepalives, if_neg h₁, if_neg h₂, total_cons, lineEnds]
    omega

theorem total_gapKeepalives_uncut (k : ℕ) : total (gapKeepalives k uncut) = k := by
  induction k using Nat.twoStepInduction with
  | zero => rfl
  | one => rfl
  | more k ih _ =>
    have hstep : gapKeepalives (k + 2) uncut = onDoubleCRLF :: gapKeepalives k uncut := rfl
    rw [hstep, total_cons, ih, lineEnds]
    omega

theorem afterPings_add_two {k : ℕ} {ends : ℕ → Bool} :
    AfterPings (k + 2) ends ↔
      ends 1 = false ∧ ends 2 = false ∧ ends 3 = false ∧ AfterPings k fun i => ends (i + 4) := by
  constructor
  · intro h
    have hsmall {i : ℕ} (hi : 0 < i) (hlt : i < 4) : ends i = false := by
      by_contra hends
      have hdvd := h i hi (by omega) (by simpa using hends)
      omega
    refine ⟨hsmall (by omega) (by omega), hsmall (by omega) (by omega), hsmall (by omega) (by omega),
      fun i hi hlt hends => ?_⟩
    have hdvd := h (i + 4) (by omega) (by omega) hends
    omega
  · rintro ⟨h₁, h₂, h₃, h⟩ i hi hlt hends
    rcases Nat.lt_or_ge i 4 with hsmall | hge
    · interval_cases i
      · rw [h₁] at hends
        cases hends
      · rw [h₂] at hends
        cases hends
      · rw [h₃] at hends
        cases hends
    · rcases Nat.eq_or_lt_of_le hge with rfl | hlt'
      · exact dvd_rfl
      · have hends' : ends (i - 4 + 4) = true := by rwa [Nat.sub_add_cancel hge]
        have hdvd := h (i - 4) (by omega) (by omega) hends'
        omega

theorem afterPings_one {ends : ℕ → Bool} : AfterPings 1 ends ↔ ends 1 = false := by
  constructor
  · intro h
    by_contra hends
    have hdvd := h 1 (by omega) (by omega) (by simpa using hends)
    omega
  · intro h i hi hlt hends
    obtain rfl : i = 1 := by omega
    rw [h] at hends
    cases hends

/-- All keepalives of a gap are seen for what they are when reads end in it after whole pings. -/
theorem gapKeepalives_eq_iff (k : ℕ) (ends : ℕ → Bool) :
    gapKeepalives k ends = gapKeepalives k uncut ↔ AfterPings k ends := by
  induction k, ends using gapKeepalives.induct with
  | case1 ends => exact iff_of_true rfl fun i _ hlt => absurd hlt (Nat.not_lt_zero _)
  | case2 ends h₁ =>
    rw [afterPings_one]
    simp [gapKeepalives, h₁]
  | case3 ends h₁ =>
    rw [afterPings_one]
    simp [gapKeepalives, h₁]
  | case4 k ends h₁ =>
    rw [afterPings_add_two]
    simp [gapKeepalives, h₁]
  | case5 k ends h₁ h₂ ih =>
    rw [afterPings_add_two, gapKeepalives, if_neg h₁, if_pos h₂]
    refine iff_of_false (by simp [gapKeepalives]) fun h => ?_
    rw [h.2.1, h.2.2.1] at h₂
    cases h₂
  | case6 k ends h₁ h₂ ih =>
    obtain ⟨h2, h3⟩ : ends 2 = false ∧ ends 3 = false := by simpa using h₂
    rw [afterPings_add_two, gapKeepalives, if_neg h₁, if_neg h₂]
    simp only [Bool.not_eq_true _ ▸ h₁, h2, h3, true_and, ← ih]
    simp [gapKeepalives]

theorem gapKeepalives_cut {k : ℕ} {ends : ℕ → Bool} (h : ends 1 = true) : gapKeepalives k ends = [] := by
  match k with
  | 0 => rfl
  | 1 | k + 2 => simp [gapKeepalives, h]

/-- A keepalive of one line end is seen at the end of a gap, or where a read ends in the next one. -/
theorem gapKeepalives_single {k : ℕ} {ends : ℕ → Bool} (h₁ : ends 1 = false)
    (h : k = 0 ∨ ends 2 = true ∨ ends 3 = true) :
    gapKeepalives (k + 1) ends = onSingleCRLF :: gapKeepalives k fun i => ends (i + 2) := by
  match k with
  | 0 => simp [gapKeepalives, h₁]
  | k + 1 =>
    have hends : (ends 2 || ends 3) = true := by simpa using h
    rw [gapKeepalives, if_neg (by simp [h₁]), if_pos hends]

theorem gapKeepalives_double {k : ℕ} {ends : ℕ → Bool} (h₁ : ends 1 = false) (h₂ : ends 2 = false)
    (h₃ : ends 3 = false) :
    gapKeepalives (k + 2) ends = onDoubleCRLF :: gapKeepalives k fun i => ends (i + 4) := by
  simp [gapKeepalives, h₁, h₂, h₃]

/-! ### A stream of messages -/

/-- What is seen in a gap, and then in the gaps after messages of some lengths. -/
def streamKeepalives : ℕ → List (ℕ × ℕ) → (ℕ → Bool) → List Keepalive
  | k, [], ends => gapKeepalives k ends
  | k, (length, k') :: rest, ends =>
    gapKeepalives k ends ++ streamKeepalives k' rest fun i => ends (i + (2 * k + length))

/-- A keepalive of `j` line ends that is seen is the first of the stream. -/
theorem streamKeepalives_cons {j k : ℕ} {ends : ℕ → Bool} {a : Keepalive} {rest : List (ℕ × ℕ)}
    (h : gapKeepalives (k + j) ends = a :: gapKeepalives k fun i => ends (i + 2 * j)) :
    streamKeepalives (k + j) rest ends = a :: streamKeepalives k rest fun i => ends (i + 2 * j) := by
  match rest with
  | [] => exact h
  | (length, k') :: rest =>
    have hshift (i : ℕ) : i + (2 * k + length) + 2 * j = i + (2 * (k + j) + length) := by omega
    simp only [streamKeepalives, h, List.cons_append, hshift]

/-- In all gaps, reads end only after whole pings. -/
def AllAfterPings : ℕ → List (ℕ × ℕ) → (ℕ → Bool) → Prop
  | k, [], ends => AfterPings k ends
  | k, (length, k') :: rest, ends =>
    AfterPings k ends ∧ AllAfterPings k' rest fun i => ends (i + (2 * k + length))

theorem total_streamKeepalives_le (k : ℕ) (rest : List (ℕ × ℕ)) (ends : ℕ → Bool) :
    total (streamKeepalives k rest ends) ≤ total (streamKeepalives k rest uncut) := by
  induction rest generalizing k ends with
  | nil =>
    rw [streamKeepalives, streamKeepalives, total_gapKeepalives_uncut]
    exact total_gapKeepalives_le k ends
  | cons m rest ih =>
    rw [streamKeepalives, streamKeepalives, total_append, total_append, total_gapKeepalives_uncut]
    exact Nat.add_le_add (total_gapKeepalives_le k ends) (ih _ _)

theorem streamKeepalives_eq_iff (k : ℕ) (rest : List (ℕ × ℕ)) (ends : ℕ → Bool) :
    streamKeepalives k rest ends = streamKeepalives k rest uncut ↔ AllAfterPings k rest ends := by
  induction rest generalizing k ends with
  | nil => exact gapKeepalives_eq_iff k ends
  | cons m rest ih =>
    obtain ⟨length, k'⟩ := m
    simp only [streamKeepalives, AllAfterPings]
    rw [← gapKeepalives_eq_iff, ← ih]
    constructor
    · intro h
      -- a gap cannot make up for another
      have hle := total_streamKeepalives_le k' rest fun i => ends (i + (2 * k + length))
      have htotal := congrArg total h
      have hgap := total_gapKeepalives_le k ends
      have hwhole := total_gapKeepalives_uncut k
      have huncut : (fun i => uncut (i + (2 * k + length))) = uncut := rfl
      rw [total_append, total_append] at htotal
      rw [huncut] at htotal
      exact eq_of_append_eq h (by omega)
    · rintro ⟨hgap, hrest⟩
      rw [hgap, hrest]

end Resiprocate.Stream
