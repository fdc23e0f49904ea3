import Mathlib

/-! Machines that read a stream one element at a time, give outputs as they go, and stop or
ask for more. Reading a stream in pieces is the same as reading it at once. -/
namespace Resiprocate.StreamMachine

variable {σ α ω ρ : Type*}

/-- One step reads an element: it gives outputs and goes on, or stops with a result. -/
abbrev Step (σ α ω ρ : Type*) := σ → α → List ω × (σ ⊕ ρ)

/-- The state a machine is left in, or the result it stopped with and what it left unread. -/
abbrev Outcome (σ α ω ρ : Type*) := List ω × (σ ⊕ ρ × List α)

/-- Puts outputs in front of those of an outcome. -/
def after (out : List ω) (r : Outcome σ α ω ρ) : Outcome σ α ω ρ := (out ++ r.1, r.2)

@[simp] theorem after_nil (r : Outcome σ α ω ρ) : after [] r = r := rfl

@[simp] theorem after_after (out out' : List ω) (r : Outcome σ α ω ρ) :
    after out (after out' r) = after (out ++ out') r := by
  simp [after]

theorem after_eq {out outs : List ω} {r : Outcome σ α ω ρ} {next : σ ⊕ ρ × List α}
    (h : after out r = (outs, next)) : ∃ outs', outs = out ++ outs' ∧ r = (outs', next) := by
  obtain ⟨out', next'⟩ := r
  cases h
  exact ⟨out', rfl, rfl⟩

def run (step : Step σ α ω ρ) : σ → List α → Outcome σ α ω ρ
  | s, [] => ([], .inl s)
  | s, a :: as =>
    match step s a with
    | (out, .inl s') => after out (run step s' as)
    | (out, .inr r) => (out, .inr (r, as))

/-- Goes on after a step with what is left to read. -/
def proceed (step : Step σ α ω ρ) (r : List ω × (σ ⊕ ρ)) (as : List α) : Outcome σ α ω ρ :=
  match r with
  | (out, .inl s) => after out (run step s as)
  | (out, .inr x) => (out, .inr (x, as))

theorem run_cons (step : Step σ α ω ρ) (s : σ) (a : α) (as : List α) :
    run step s (a :: as) = proceed step (step s a) as := by
  rw [run]
  obtain ⟨out, s' | x⟩ := step s a <;> rfl

theorem proceed_nil {step : Step σ α ω ρ} {r : List ω × (σ ⊕ ρ)} {outs : List ω} {s : σ}
    (h : proceed step r [] = (outs, .inl s)) : r = (outs, .inl s) := by
  obtain ⟨out, s' | x⟩ := r
  · obtain ⟨outs', rfl, hrun⟩ := after_eq h
    cases hrun
    simp
  · cases h

/-- Goes on with more input where a run was left, or keeps the result it stopped with. -/
def resume (step : Step σ α ω ρ) (r : Outcome σ α ω ρ) (more : List α) : Outcome σ α ω ρ :=
  match r with
  | (out, .inl s) => after out (run step s more)
  | (out, .inr (x, rest)) => (out, .inr (x, rest ++ more))

theorem resume_after (step : Step σ α ω ρ) (out : List ω) (r : Outcome σ α ω ρ)
    (more : List α) : resume step (after out r) more = after out (resume step r more) := by
  obtain ⟨out', s | ⟨x, rest⟩⟩ := r <;> simp [resume, after]

theorem run_append (step : Step σ α ω ρ) (s : σ) (as bs : List α) :
    run step s (as ++ bs) = resume step (run step s as) bs := by
  induction as generalizing s with
  | nil => simp [run, resume]
  | cons a as ih =>
    simp only [List.cons_append, run]
    split
    case h_1 => rw [ih, resume_after]
    case h_2 => rfl

/-- Invariant rule: a property of the state that every step keeps holds where the run is left,
and outputs given in such states have what every step guarantees of its outputs. -/
theorem run_invariant {step : Step σ α ω ρ} {P : σ → Prop} {Q : ω → Prop}
    (hstep : ∀ s a, P s → (∀ o ∈ (step s a).1, Q o) ∧ ∀ s', (step s a).2 = .inl s' → P s')
    {s : σ} (hs : P s) (as : List α) :
    (∀ o ∈ (run step s as).1, Q o) ∧ ∀ s', (run step s as).2 = .inl s' → P s' := by
  induction as generalizing s with
  | nil =>
    refine ⟨by simp [run], ?_⟩
    rintro s' ⟨⟩
    exact hs
  | cons a as ih =>
    obtain ⟨hout, hnext⟩ := hstep s a hs
    simp only [run]
    split
    case h_1 out s' h =>
      rw [h] at hout hnext
      obtain ⟨hout', hnext'⟩ := ih (hnext s' rfl)
      refine ⟨fun o ho => ?_, hnext'⟩
      rcases List.mem_append.1 ho with ho | ho
      · exact hout o ho
      · exact hout' o ho
    case h_2 out r h =>
      rw [h] at hout
      exact ⟨hout, nofun⟩

/-- A run over two pieces that does not stop goes on from where the first piece leaves it. -/
theorem run_append_inl {step : Step σ α ω ρ} {s s' : σ} {as bs : List α} {outs : List ω}
    (h : run step s (as ++ bs) = (outs, .inl s')) :
    ∃ out s₁ out', run step s as = (out, .inl s₁) ∧ run step s₁ bs = (out', .inl s') ∧
      outs = out ++ out' := by
  rw [run_append] at h
  generalize run step s as = r at h ⊢
  obtain ⟨out, s₁ | ⟨x, rest⟩⟩ := r
  · obtain ⟨out', hout, hrun⟩ := after_eq h
    exact ⟨out, s₁, out', rfl, hrun, hout⟩
  · cases h

/-- A run that stops has read at least one element and leaves a suffix of its input. -/
theorem run_stopped {step : Step σ α ω ρ} {s : σ} {as rest : List α} {out : List ω} {x : ρ}
    (h : run step s as = (out, .inr (x, rest))) : ∃ p, p ≠ [] ∧ as = p ++ rest := by
  induction as generalizing s out with
  | nil => cases h
  | cons a as ih =>
    rw [run_cons] at h
    generalize step s a = r at h
    obtain ⟨out', s' | x'⟩ := r
    · have hrun : run step s' as = ((run step s' as).1, .inr (x, rest)) :=
        Prod.ext rfl (congrArg Prod.snd h :)
      obtain ⟨p, -, hp⟩ := ih hrun
      exact ⟨a :: p, by simp, by simp [hp]⟩
    · cases h
      exact ⟨[a], by simp, rfl⟩

/-- A machine that stops where the state it comes to is not `ok`. -/
def guarded (ok : σ → Prop) [DecidablePred ok] (fail : σ → ρ) (step : Step σ α ω ρ) :
    Step σ α ω ρ := fun s a =>
  match step s a with
  | (out, .inl s') => if ok s' then (out, .inl s') else (out, .inr (fail s'))
  | r => r

section Guarded
variable {ok : σ → Prop} [DecidablePred ok] {fail : σ → ρ} {step : Step σ α ω ρ}

theorem guarded_inl {s s' : σ} {a : α} {out : List ω}
    (h : guarded ok fail step s a = (out, .inl s')) : step s a = (out, .inl s') ∧ ok s' := by
  unfold guarded at h
  generalize step s a = r at h
  obtain ⟨out', s'' | x⟩ := r
  · by_cases hok : ok s''
    · simp only [hok, if_true] at h
      cases h
      exact ⟨rfl, hok⟩
    · simp [hok] at h
  · cases h

theorem guarded_inr {s : σ} {a : α} {out : List ω} {x : ρ}
    (h : guarded ok fail step s a = (out, .inr x)) (hx : ∀ s, fail s ≠ x) :
    step s a = (out, .inr x) := by
  unfold guarded at h
  generalize step s a = r at h
  obtain ⟨out', s'' | y⟩ := r
  · by_cases hok : ok s''
    · simp [hok] at h
    · simp only [hok, if_false, Prod.mk.injEq, Sum.inr.injEq] at h
      exact absurd h.2 (hx s'')
  · exact h

/-- A guarded run that is left somewhere, or stops of itself, is a run. -/
theorem run_of_guarded {s : σ} {as : List α} {out : List ω} {next : σ ⊕ ρ × List α}
    (h : run (guarded ok fail step) s as = (out, next))
    (hnext : ∀ s rest, next ≠ .inr (fail s, rest)) : run step s as = (out, next) := by
  induction as generalizing s out with
  | nil => exact h
  | cons a as ih =>
    rw [run_cons] at h ⊢
    cases hstep : guarded ok fail step s a with
    | mk out' r =>
      rw [hstep] at h
      obtain s' | x := r
      · rw [(guarded_inl hstep).1]
        obtain ⟨rfl, hrun⟩ : out = out' ++ (run (guarded ok fail step) s' as).1 ∧
            (run (guarded ok fail step) s' as).2 = next :=
          ⟨(congrArg Prod.fst h).symm, (congrArg Prod.snd h :)⟩
        have hrest := ih (Prod.ext rfl hrun)
        simp only [proceed, hrest]
        rfl
      · cases h
        rw [guarded_inr hstep fun s hs => hnext s as (by rw [hs])]
        rfl

/-- A run whose states are all `ok` is a guarded run. -/
theorem guarded_of_run {s : σ} {as : List α}
    (hok : ∀ p q out s', as = p ++ q → run step s p = (out, .inl s') → ok s') :
    run (guarded ok fail step) s as = run step s as := by
  induction as generalizing s with
  | nil => rfl
  | cons a as ih =>
    rw [run_cons, run_cons, guarded]
    cases hstep : step s a with
    | mk out r =>
      obtain s' | x := r
      · have hs' : ok s' := by
          refine hok [a] as out s' rfl ?_
          rw [run_cons, hstep]
          simp [proceed, run, after]
        simp only [hs', if_true, proceed]
        rw [ih]
        intro p q out' s'' has hrun
        refine hok (a :: p) q (out ++ out') s'' (by rw [has]; rfl) ?_
        rw [run_cons, hstep]
        simp [proceed, hrun, after]
      · rfl

end Guarded

/-- Simulation rule: machines whose steps give the same outputs and keep their states related
give the same outputs over a run, and stop together. -/
theorem run_related {σ' ρ' : Type*} {step : Step σ α ω ρ} {step' : Step σ' α ω ρ'}
    {R : σ → σ' → Prop} {S : ρ → ρ' → Prop}
    (hstep : ∀ s s' a, R s s' →
      (step s a).1 = (step' s' a).1 ∧ Sum.LiftRel R S (step s a).2 (step' s' a).2)
    {s : σ} {s' : σ'} (h : R s s') (as : List α) :
    (run step s as).1 = (run step' s' as).1 ∧
      Sum.LiftRel R (fun x y => S x.1 y.1 ∧ x.2 = y.2) (run step s as).2 (run step' s' as).2 := by
  induction as generalizing s s' with
  | nil => exact ⟨rfl, .inl h⟩
  | cons a as ih =>
    obtain ⟨hout, hnext⟩ := hstep s s' a h
    rw [run_cons, run_cons]
    generalize step s a = r at hout hnext
    generalize step' s' a = r' at hout hnext
    obtain ⟨out, x⟩ := r
    obtain ⟨out', x'⟩ := r'
    cases hout
    cases hnext with
    | inl hR =>
      obtain ⟨hrun, hend⟩ := ih hR
      exact ⟨congrArg (out ++ ·) hrun, hend⟩
    | inr hS => exact ⟨rfl, .inr ⟨hS, rfl⟩⟩

end Resiprocate.StreamMachine
