import Mathlib

/-! Labelled transition systems whose steps are a function of the state and of a
label. A run may be restricted by a condition on each step; an invariant has to
be kept only by the steps that meet it. -/
namespace Resiprocate.TransitionSystem

structure System (σ ε : Type*) where
  init : σ → Prop
  enabled : σ → ε → Prop
  next : σ → ε → σ

variable {σ ε γ : Type*}

/-- States reached by runs all of whose steps are enabled and meet `ok`. -/
inductive Reach (M : System σ ε) (ok : σ → ε → Prop) : σ → Prop
  | init {s : σ} : M.init s → Reach M ok s
  | step {s : σ} {e : ε} : Reach M ok s → M.enabled s e → ok s e → Reach M ok (M.next s e)

/-- No restriction on the steps of a run. -/
def anyStep (_ : σ) (_ : ε) : Prop := True

theorem Reach.mono {M : System σ ε} {ok ok' : σ → ε → Prop}
    (h : ∀ s e, ok s e → ok' s e) {s : σ} (hs : Reach M ok s) : Reach M ok' s := by
  induction hs with
  | init hi => exact .init hi
  | step _ he ho ih => exact .step ih he (h _ _ ho)

/-- Invariant rule: it holds initially and every permitted step keeps it. -/
theorem Reach.invariant {M : System σ ε} {ok : σ → ε → Prop} {P : σ → Prop}
    (hi : ∀ s, M.init s → P s)
    (hs : ∀ s e, Reach M ok s → P s → M.enabled s e → ok s e → P (M.next s e))
    {s : σ} (h : Reach M ok s) : P s := by
  induction h with
  | init h0 => exact hi _ h0
  | step hr he ho ih => exact hs _ _ hr ih he ho

/-- The same system with a flag that remembers whether a marked step was taken. -/
def System.watch (M : System σ ε) (mark : σ → ε → Bool) : System (σ × Bool) ε where
  init p := M.init p.1 ∧ p.2 = false
  enabled p e := M.enabled p.1 e
  next p e := (M.next p.1 e, p.2 || mark p.1 e)

instance (M : System σ ε) (mark : σ → ε → Bool) [∀ s e, Decidable (M.enabled s e)]
    (p : σ × Bool) (e : ε) : Decidable ((M.watch mark).enabled p e) :=
  inferInstanceAs (Decidable (M.enabled p.1 e))

theorem Reach.watch_init {M : System σ ε} {mark : σ → ε → Bool} {ok : σ × Bool → ε → Prop} {s : σ}
    (h : M.init s) : Reach (M.watch mark) ok (s, false) := .init ⟨h, rfl⟩

theorem Reach.unwatch {M : System σ ε} {mark : σ → ε → Bool} {ok : σ × Bool → ε → Prop}
    {p : σ × Bool} (h : Reach (M.watch mark) ok p) : Reach M anyStep p.1 := by
  induction h with
  | init hi => exact .init hi.1
  | step _ he _ ih => exact .step ih he trivial

/-- The same system with an observation that every step updates. -/
def System.observe (M : System σ ε) (g₀ : γ) (update : σ → ε → γ → γ) : System (σ × γ) ε where
  init p := M.init p.1 ∧ p.2 = g₀
  enabled p e := M.enabled p.1 e
  next p e := (M.next p.1 e, update p.1 e p.2)

instance (M : System σ ε) (g₀ : γ) (update : σ → ε → γ → γ) [∀ s e, Decidable (M.enabled s e)]
    (p : σ × γ) (e : ε) : Decidable ((M.observe g₀ update).enabled p e) :=
  inferInstanceAs (Decidable (M.enabled p.1 e))

theorem Reach.observe_init {M : System σ ε} {g₀ : γ} {update : σ → ε → γ → γ}
    {ok : σ × γ → ε → Prop} {s : σ} (h : M.init s) : Reach (M.observe g₀ update) ok (s, g₀) :=
  .init ⟨h, rfl⟩

theorem Reach.unobserve {M : System σ ε} {g₀ : γ} {update : σ → ε → γ → γ}
    {ok : σ × γ → ε → Prop} {p : σ × γ} (h : Reach (M.observe g₀ update) ok p) :
    Reach M anyStep p.1 := by
  induction h with
  | init hi => exact .init hi.1
  | step _ he _ ih => exact .step ih he trivial

/-- Every step of a given list can be taken, one after the other. -/
def Permitted (M : System σ ε) (ok : σ → ε → Prop) : σ → List ε → Prop
  | _, [] => True
  | s, e :: es => (M.enabled s e ∧ ok s e) ∧ Permitted M ok (M.next s e) es

instance Permitted.decide (M : System σ ε) (ok : σ → ε → Prop)
    [∀ s e, Decidable (M.enabled s e)] [∀ s e, Decidable (ok s e)] :
    (s : σ) → (es : List ε) → Decidable (Permitted M ok s es)
  | _, [] => isTrue trivial
  | s, e :: es =>
    have := Permitted.decide M ok (M.next s e) es
    inferInstanceAs (Decidable ((M.enabled s e ∧ ok s e) ∧ Permitted M ok (M.next s e) es))

theorem Reach.run {M : System σ ε} {ok : σ → ε → Prop} {s : σ} (h : Reach M ok s)
    (es : List ε) (hp : Permitted M ok s es) : Reach M ok (es.foldl M.next s) := by
  induction es generalizing s with
  | nil => exact h
  | cons e es ih => exact ih (.step h hp.1.1 hp.1.2) hp.2

instance (s : σ) (e : ε) : Decidable (anyStep s e) := isTrue trivial

end Resiprocate.TransitionSystem
