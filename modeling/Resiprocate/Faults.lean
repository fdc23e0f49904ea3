import Mathlib

/-! Computations that may stop with an error, of which some are faults. -/
namespace Resiprocate.Faults

variable {ε α β : Type}

/-- The computation does not stop with a bad error. -/
def Avoids (bad : ε → Bool) (x : Except ε α) : Prop := ∀ e, x = .error e → bad e = false

variable {bad : ε → Bool}

@[simp] theorem avoids_ok (a : α) : Avoids bad (.ok a : Except ε α) := nofun

@[simp] theorem avoids_pure (a : α) : Avoids bad (pure a : Except ε α) := nofun

@[simp] theorem avoids_error {e : ε} : Avoids bad (.error e : Except ε α) ↔ bad e = false :=
  ⟨fun h => h e rfl, by rintro h _ ⟨⟩; exact h⟩

/-- The rest avoids bad errors after every result of the first part. -/
theorem avoids_bind {x : Except ε α} {f : α → Except ε β} :
    Avoids bad (x >>= f) ↔ Avoids bad x ∧ ∀ a, x = .ok a → Avoids bad (f a) := by
  cases x with
  | error e =>
    change Avoids bad (.error e) ↔ _
    simp
  | ok a =>
    change Avoids bad (f a) ↔ _
    simp

theorem avoids_foldlM {f : α → β → Except ε α} {l : List β}
    (h : ∀ a, ∀ b ∈ l, Avoids bad (f a b)) (a : α) : Avoids bad (l.foldlM f a) := by
  induction l generalizing a with
  | nil => exact avoids_pure a
  | cons b l ih =>
    rw [List.foldlM_cons, avoids_bind]
    exact ⟨h a b List.mem_cons_self, fun a' _ => ih (fun a b hb => h a b (List.mem_cons_of_mem _ hb)) a'⟩

@[simp] theorem ok_bind (a : α) (f : α → Except ε β) : (Except.ok a : Except ε α) >>= f = f a := rfl

@[simp] theorem error_bind (e : ε) (f : α → Except ε β) :
    (Except.error e : Except ε α) >>= f = .error e := rfl

end Resiprocate.Faults
