import Mathlib

/-! A string in memory: the bytes from an offset on. -/
namespace Resiprocate.HeldBytes
variable {α : Type}

/-- The memory has the string at the offset `p`. -/
def Holds (memory : ℕ → α) (p : ℕ) (s : List α) : Prop := ∀ i (h : i < s.length), memory (p + i) = s[i]

variable {memory : ℕ → α} {p : ℕ} {a : α} {s : List α}

@[simp] theorem holds_nil : Holds memory p [] := fun _ h => absurd h (Nat.not_lt_zero _)

@[simp] theorem holds_cons : Holds memory p (a :: s) ↔ memory p = a ∧ Holds memory (p + 1) s := by
  constructor
  · intro h
    refine ⟨h 0 (Nat.zero_lt_succ _), fun i hi => ?_⟩
    have hnext := h (i + 1) (Nat.succ_lt_succ hi)
    rwa [← Nat.add_assoc, Nat.add_right_comm] at hnext
  · rintro ⟨hfirst, hrest⟩ i hi
    cases i with
    | zero => exact hfirst
    | succ i =>
      have hnext := hrest i (Nat.lt_of_succ_lt_succ hi)
      rwa [Nat.add_right_comm] at hnext

/-- Of two strings at one place, the longer begins with the shorter. -/
theorem Holds.isPrefix {s t : List α} (hs : Holds memory p s) (ht : Holds memory p t)
    (hlength : s.length ≤ t.length) : s <+: t := by
  rw [List.prefix_iff_eq_take]
  refine List.ext_getElem (by simp [hlength]) fun i hi _ => ?_
  rw [List.getElem_take, ← hs i hi, ht i (by omega)]

theorem Holds.of_isPrefix {s t : List α} (ht : Holds memory p t) (h : s <+: t) : Holds memory p s := by
  intro i hi
  rw [ht i (hi.trans_le h.length_le)]
  exact (h.getElem hi).symm

theorem Holds.drop {n : ℕ} (hs : Holds memory p s) : Holds memory (p + n) (s.drop n) := by
  intro i hi
  rw [List.length_drop] at hi
  rw [List.getElem_drop, Nat.add_assoc]
  exact hs (n + i) (by omega)

/-- The string at the start of the memory, and what follows it. -/
def followedBy (s : List α) (following : ℕ → α) (i : ℕ) : α := (s[i]?).getD (following (i - s.length))

theorem holds_followedBy (s : List α) (following : ℕ → α) : Holds (followedBy s following) 0 s := by
  intro i hi
  simp [followedBy, hi]

theorem holds_followedBy_drop {whole : List α} (hs : whole.drop p = s) (following : ℕ → α) :
    Holds (followedBy whole following) p s := by
  have hdrop := (holds_followedBy whole following).drop (n := p)
  rwa [Nat.zero_add, hs] at hdrop

/-- The memory that follows a string can have any other. -/
theorem holds_following {whole t : List α} (default : α) (hs : whole.drop p = s) (hp : p ≤ whole.length)
    (h : s <+: t) : Holds (followedBy whole fun i => (t[s.length + i]?).getD default) p t := by
  have hlength := congrArg List.length hs
  rw [List.length_drop] at hlength
  intro i hi
  rcases Nat.lt_or_ge i s.length with hlt | hge
  · have hheld := holds_followedBy_drop hs (fun i => (t[s.length + i]?).getD default) i hlt
    rw [hheld]
    exact h.getElem hlt
  · have hindex : s.length + (p + i - whole.length) = i := by omega
    unfold followedBy
    rw [List.getElem?_eq_none (by omega), Option.getD_none]
    dsimp only
    rw [hindex, List.getElem?_eq_getElem hi,
      Option.getD_some]

/-- What holds of the bytes one by one. -/
theorem forall_byte {P : UInt8 → Prop} (h : ∀ n < 256, P (UInt8.ofNat n)) (c : UInt8) : P c := by
  have hc := h c.toNat c.toNat_lt
  rwa [UInt8.ofNat_toNat] at hc

end Resiprocate.HeldBytes
