import Mathlib

/-! How many values the steps of a hash function can bring together. A step that adds a shifted copy
joins two values at most, a step that cancels one none. -/
namespace Resiprocate.BitMixing
variable {α β γ : Type}

/-- At most `k` values have one image. -/
def FewToOne (k : ℕ) (f : α → β) : Prop :=
  ∀ s : Finset α, (∀ x ∈ s, ∀ y ∈ s, f x = f y) → s.card ≤ k

theorem fewToOne_of_injective {f : α → β} (h : Function.Injective f) : FewToOne 1 f := by
  intro s hs
  exact Finset.card_le_one.mpr fun x hx y hy => h (hs x hx y hy)

theorem FewToOne.comp {f : α → β} {g : β → γ} {k l : ℕ} (hg : FewToOne l g) (hf : FewToOne k f) :
    FewToOne (k * l) (g ∘ f) := by
  classical
  intro s hs
  have himage : (s.image f).card ≤ l := by
    refine hg _ fun x hx y hy => ?_
    obtain ⟨a, ha, rfl⟩ := Finset.mem_image.mp hx
    obtain ⟨b, hb, rfl⟩ := Finset.mem_image.mp hy
    exact hs a ha b hb
  have hfibre : ∀ b ∈ s.image f, (s.filter fun a => f a = b).card ≤ k := by
    refine fun b _ => hf _ fun x hx y hy => ?_
    rw [(Finset.mem_filter.mp hx).2, (Finset.mem_filter.mp hy).2]
  calc s.card ≤ k * (s.image f).card := Finset.card_le_mul_card_image s k hfibre
    _ ≤ k * l := Nat.mul_le_mul_left k himage

/-- Of more than `k` distinct arguments, two have distinct images. -/
theorem FewToOne.exists_ne {f : α → β} {k n : ℕ} (hf : FewToOne k f) (hk : k < n) {a : Fin n → α}
    (ha : Function.Injective a) : ∃ i j, f (a i) ≠ f (a j) := by
  classical
  by_contra hnone
  push Not at hnone
  have hcard : (Finset.univ.image a).card = n := by
    rw [Finset.card_image_of_injective _ ha, Finset.card_univ, Fintype.card_fin]
  have hle := hf (Finset.univ.image a) fun x hx y hy => by
    obtain ⟨i, -, rfl⟩ := Finset.mem_image.mp hx
    obtain ⟨j, -, rfl⟩ := Finset.mem_image.mp hy
    exact hnone i j
  omega

variable {w : ℕ}

/-- The lowest bits of a vector are those of the sum, and each of the rest is the sum with a lower
one. -/
theorem xorShiftLeft_injective {k : ℕ} (hk : 0 < k) :
    Function.Injective fun x : BitVec w => x ^^^ (x <<< k) := by
  intro x y h
  refine BitVec.eq_of_getLsbD_eq fun i => ?_
  induction i using Nat.strong_induction_on with
  | _ i ih =>
    intro hi
    have hbit := congrArg (·.getLsbD i) h
    simp only [BitVec.getLsbD_xor, BitVec.getLsbD_shiftLeft, hi, decide_true, Bool.true_and] at hbit
    by_cases hlow : i < k
    · simpa [hlow] using hbit
    · rw [ih (i - k) (by omega) (by omega)] at hbit
      simpa using hbit

/-- The sum is less than twice the modulus, and grows with the vector. -/
theorem addShiftRight_fewToOne (k : ℕ) : FewToOne 2 fun x : BitVec w => x + (x >>> k) := by
  classical
  intro s hs
  have hlt : ∀ x : BitVec w, x.toNat + x.toNat / 2 ^ k < 2 * 2 ^ w := fun x => by
    have hx := x.isLt
    have hdiv := Nat.div_le_self x.toNat (2 ^ k)
    omega
  have hinj : Set.InjOn (fun x : BitVec w => (x.toNat + x.toNat / 2 ^ k) / 2 ^ w) s := by
    intro x hx y hy hxy
    have hmod := congrArg BitVec.toNat (hs x hx y hy)
    simp only [BitVec.toNat_add, BitVec.toNat_ushiftRight, Nat.shiftRight_eq_div_pow] at hmod
    have hsum : x.toNat + x.toNat / 2 ^ k = y.toNat + y.toNat / 2 ^ k := by
      rw [← Nat.div_add_mod (x.toNat + x.toNat / 2 ^ k) (2 ^ w), hmod]
      dsimp only at hxy
      rw [hxy, Nat.div_add_mod]
    apply BitVec.eq_of_toNat_eq
    rcases Nat.lt_trichotomy x.toNat y.toNat with h | h | h
    · have := Nat.div_le_div_right (c := 2 ^ k) h.le
      omega
    · exact h
    · have := Nat.div_le_div_right (c := 2 ^ k) h.le
      omega
  calc s.card = (s.image fun x : BitVec w => (x.toNat + x.toNat / 2 ^ k) / 2 ^ w).card :=
        (Finset.card_image_of_injOn hinj).symm
    _ ≤ (Finset.range 2).card := Finset.card_le_card fun b hb => by
        obtain ⟨x, -, rfl⟩ := Finset.mem_image.mp hb
        exact Finset.mem_range.mpr (Nat.div_lt_of_lt_mul (by rw [Nat.mul_comm]; exact hlt x))
    _ = 2 := Finset.card_range 2

end Resiprocate.BitMixing
