import Mathlib

/-! Programs that change a state and may throw, and programs that return a value or fail: how they
run, and what holds whenever they return. -/
namespace Resiprocate.ProgramLogic

variable {ε σ α β : Type}

section Run
variable (s : σ)

@[simp] theorem pure_apply (a : α) : (pure a : EStateM ε σ α) s = .ok a s := rfl

@[simp] theorem get_apply : (get : EStateM ε σ σ) s = .ok s s := rfl

@[simp] theorem modify_apply (f : σ → σ) : (modify f : EStateM ε σ PUnit) s = .ok ⟨⟩ (f s) := rfl

@[simp] theorem throw_apply (e : ε) : (throw e : EStateM ε σ α) s = .error e s := rfl

theorem bind_apply (m : EStateM ε σ α) (k : α → EStateM ε σ β) :
    (m >>= k) s = match m s with
      | .ok a s' => k a s'
      | .error e s' => .error e s' := rfl

@[simp] theorem bind_of_ok {m : EStateM ε σ α} {k : α → EStateM ε σ β} {s s' : σ} {a : α}
    (h : m s = .ok a s') : (m >>= k) s = k a s' := by
  rw [bind_apply, h]

@[simp] theorem bind_of_error {m : EStateM ε σ α} {k : α → EStateM ε σ β} {s s' : σ} {e : ε}
    (h : m s = .error e s') : (m >>= k) s = .error e s' := by
  rw [bind_apply, h]

/-- A sequence returns only if both of its parts do. -/
theorem bind_eq_ok {m : EStateM ε σ α} {k : α → EStateM ε σ β} {s s' : σ} {b : β}
    (h : (m >>= k) s = .ok b s') : ∃ a s₁, m s = .ok a s₁ ∧ k a s₁ = .ok b s' := by
  rw [bind_apply] at h
  split at h
  case h_1 a s₁ heq => exact ⟨a, s₁, heq, h⟩
  case h_2 => cases h

@[simp] theorem ite_apply (c : Prop) [Decidable c] (m m' : EStateM ε σ α) :
    (if c then m else m') s = if c then m s else m' s := by
  split_ifs <;> rfl

end Run

/-- Whenever `m` returns from a state in `P`, what it returns and leaves is in `Q`. -/
def Ensures (P : σ → Prop) (m : EStateM ε σ α) (Q : α → σ → Prop) : Prop :=
  ∀ s a s', P s → m s = .ok a s' → Q a s'

namespace Ensures
variable {P : σ → Prop} {m : EStateM ε σ α} {Q : α → σ → Prop}

theorem pure {a : α} (h : ∀ s, P s → Q a s) : Ensures P (pure a : EStateM ε σ α) Q := by
  intro s a s' hs hrun
  cases hrun
  exact h s hs

theorem throw (e : ε) : Ensures P (throw e : EStateM ε σ α) Q := by
  intro s a s' _ hrun
  cases hrun

theorem bind {k : α → EStateM ε σ β} {R : β → σ → Prop} (hm : Ensures P m Q)
    (hk : ∀ a, Ensures (Q a) (k a) R) : Ensures P (m >>= k) R := by
  intro s b s' hs hrun
  obtain ⟨a, s₁, hfirst, hsecond⟩ := bind_eq_ok hrun
  exact hk a s₁ b s' (hm s a s₁ hs hfirst) hsecond

/-- What is read from the state is known of it afterwards. -/
theorem get {k : σ → EStateM ε σ β} {R : β → σ → Prop}
    (hk : ∀ s, Ensures (fun s' => s' = s ∧ P s) (k s) R) : Ensures P (get >>= k) R := by
  intro s b s' hs hrun
  exact hk s s b s' ⟨rfl, hs⟩ hrun

theorem ite {c : Prop} [Decidable c] {m' : EStateM ε σ α} (ht : c → Ensures P m Q)
    (hf : ¬ c → Ensures P m' Q) : Ensures P (if c then m else m') Q := by
  split_ifs with h
  · exact ht h
  · exact hf h

theorem weaken {P' : σ → Prop} {Q' : α → σ → Prop} (h : Ensures P m Q) (hP : ∀ s, P' s → P s)
    (hQ : ∀ a s, Q a s → Q' a s) : Ensures P' m Q' :=
  fun s a s' hs hrun => hQ a s' (h s a s' (hP s hs) hrun)

end Ensures

/-- From a state in `P`, `m` returns as `Q` says, or it throws and leaves a state in `R`. -/
def Leaves (P : σ → Prop) (m : EStateM ε σ α) (Q : α → σ → Prop) (R : σ → Prop) : Prop :=
  ∀ s, P s → match m s with
    | .ok a s' => Q a s'
    | .error _ s' => R s'

namespace Leaves
variable {P R : σ → Prop} {m : EStateM ε σ α} {Q : α → σ → Prop}

theorem pure {a : α} (h : ∀ s, P s → Q a s) : Leaves P (pure a : EStateM ε σ α) Q R :=
  fun s hs => h s hs

theorem throw (e : ε) (h : ∀ s, P s → R s) : Leaves P (throw e : EStateM ε σ α) Q R :=
  fun s hs => h s hs

/-- What is after a throw is not run. -/
theorem throw_bind (e : ε) {k : α → EStateM ε σ β} {S : β → σ → Prop} (h : ∀ s, P s → R s) :
    Leaves P ((MonadExcept.throw e : EStateM ε σ α) >>= k) S R := fun s hs => h s hs

theorem modify {f : σ → σ} {Q : PUnit → σ → Prop} (h : ∀ s, P s → Q ⟨⟩ (f s)) :
    Leaves P (modify f : EStateM ε σ PUnit) Q R := fun s hs => h s hs

theorem bind {k : α → EStateM ε σ β} {S : β → σ → Prop} (hm : Leaves P m Q R)
    (hk : ∀ a, Leaves (Q a) (k a) S R) : Leaves P (m >>= k) S R := by
  intro s hs
  have hfirst := hm s hs
  rw [bind_apply]
  cases hrun : m s with
  | ok a s₁ =>
    rw [hrun] at hfirst
    exact hk a s₁ hfirst
  | error e s₁ =>
    rw [hrun] at hfirst
    exact hfirst

/-- What is read from the state is known of it afterwards. -/
theorem get {k : σ → EStateM ε σ β} {S : β → σ → Prop}
    (hk : ∀ s, P s → Leaves (· = s) (k s) S R) : Leaves P (get >>= k) S R :=
  fun s hs => hk s hs s rfl

theorem ite {c : Prop} [Decidable c] {m' : EStateM ε σ α} (ht : c → Leaves P m Q R)
    (hf : ¬c → Leaves P m' Q R) : Leaves P (if c then m else m') Q R := by
  split_ifs with h
  · exact ht h
  · exact hf h

theorem and_pure {p : Prop} (h : p → Leaves P m Q R) : Leaves (fun s => P s ∧ p) m Q R :=
  fun s hs => h hs.2 s hs.1

theorem weaken {P' R' : σ → Prop} {Q' : α → σ → Prop} (h : Leaves P m Q R) (hP : ∀ s, P' s → P s)
    (hQ : ∀ a s, Q a s → Q' a s) (hR : ∀ s, R s → R' s) : Leaves P' m Q' R' := by
  intro s hs
  have hend := h s (hP s hs)
  cases hrun : m s with
  | ok a s' =>
    rw [hrun] at hend
    exact hQ a s' hend
  | error e s' =>
    rw [hrun] at hend
    exact hR s' hend

end Leaves

universe v

/-- What `r` returns, if it does not fail, is in `P`. -/
def Yields {ε α : Type*} (r : Except ε α) (P : α → Prop) : Prop := ∀ a, r = .ok a → P a

namespace Yields
variable {ε : Type*} {α β : Type v} {P Q : α → Prop} {r : Except ε α}

@[simp] theorem ok_iff {a : α} : Yields (.ok a : Except ε α) P ↔ P a :=
  ⟨fun h => h a rfl, fun h b hb => by cases hb; exact h⟩

@[simp] theorem pure_iff {a : α} : Yields (Pure.pure a : Except ε α) P ↔ P a := ok_iff

@[simp] theorem of_error (e : ε) : Yields (.error e : Except ε α) P := nofun

@[simp] theorem of_throw (e : ε) : Yields (MonadExcept.throw e : Except ε α) P := nofun

@[simp] theorem bind_iff {k : α → Except ε β} {R : β → Prop} :
    Yields (r >>= k) R ↔ Yields r fun a => Yields (k a) R := by
  cases r with
  | error e => exact ⟨fun _ => of_error e, fun _ => of_error e⟩
  | ok a => rw [ok_iff]; exact Iff.rfl

@[simp] theorem map_iff {f : α → β} {R : β → Prop} :
    Yields (r.map f) R ↔ Yields r fun a => R (f a) := by
  cases r with
  | error e => exact ⟨fun _ => of_error e, fun _ => of_error e⟩
  | ok a => rw [ok_iff]; exact ok_iff

@[simp] theorem fmap_iff {f : α → β} {R : β → Prop} :
    Yields (f <$> r) R ↔ Yields r fun a => R (f a) := map_iff

@[simp] theorem true : Yields r fun _ => True := fun _ _ => trivial

/-- A branch on the way to the result; this rule goes before the one for a result. -/
@[simp high] theorem ok_ite_iff {c : Prop} [Decidable c] {a a' : α} :
    Yields (.ok (if c then a else a') : Except ε α) P ↔ (c → P a) ∧ (¬c → P a') := by
  by_cases hc : c <;> simp [hc]

@[simp] theorem ite_iff {c : Prop} [Decidable c] {r' : Except ε α} :
    Yields (if c then r else r') P ↔ (c → Yields r P) ∧ (¬c → Yields r' P) := by
  by_cases hc : c <;> simp [hc]

theorem weaken (h : Yields r P) (hPQ : ∀ a, P a → Q a) : Yields r Q :=
  fun a ha => hPQ a (h a ha)

end Yields

/-- `r` does not fail in this way. -/
def Avoids {ε α : Type*} (e : ε) (r : Except ε α) : Prop := r ≠ .error e

namespace Avoids
variable {ε : Type*} {α β : Type v} {r : Except ε α} {e : ε}

@[simp] theorem ok (a : α) : Avoids e (.ok a : Except ε α) := nofun

@[simp] theorem of_pure (a : α) : Avoids e (Pure.pure a : Except ε α) := nofun

@[simp] theorem error_iff {e' : ε} : Avoids e (.error e' : Except ε α) ↔ e' ≠ e := by
  simp [Avoids]

@[simp] theorem bind_iff {k : α → Except ε β} :
    Avoids e (r >>= k) ↔ Avoids e r ∧ Yields r fun a => Avoids e (k a) := by
  cases r with
  | error e' => exact ⟨fun h => ⟨fun he => h (by cases he; rfl), Yields.of_error e'⟩,
      fun h he => h.1 (by cases he; rfl)⟩
  | ok a => rw [Yields.ok_iff]; exact ⟨fun h => ⟨nofun, h⟩, fun h => h.2⟩

@[simp] theorem map_iff {f : α → β} : Avoids e (r.map f) ↔ Avoids e r := by
  cases r <;> simp [Avoids, Except.map]

@[simp] theorem fmap_iff {f : α → β} : Avoids e (f <$> r) ↔ Avoids e r := map_iff

@[simp] theorem ite_iff {c : Prop} [Decidable c] {r' : Except ε α} :
    Avoids e (if c then r else r') ↔ (c → Avoids e r) ∧ (¬c → Avoids e r') := by
  by_cases hc : c <;> simp [hc]

end Avoids

end Resiprocate.ProgramLogic
