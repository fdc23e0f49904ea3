import Resiprocate.TransitionSystem

/-! Threads that share a state behind one lock. A call may wait on a condition until its guard holds; it is woken by
a notification or for no reason, and then tests the guard again. A call with a time limit may give up instead. -/
namespace Resiprocate

theorem TransitionSystem.Permitted.mono {σ ε : Type*} {M : TransitionSystem.System σ ε} {ok ok' : σ → ε → Prop}
    (h : ∀ s e, ok s e → ok' s e) {s : σ} {es : List ε} (hp : TransitionSystem.Permitted M ok s es) :
    TransitionSystem.Permitted M ok' s es := by
  induction es generalizing s with
  | nil => trivial
  | cons e es ih => exact ⟨⟨hp.1.1, h s e hp.1.2⟩, ih hp.2⟩

namespace Monitor
open TransitionSystem

inductive Notice (C : Type*)
  | one (c : C)
  | all (c : C)
  deriving DecidableEq

/-- What a call does: `enter` before its loop, the condition it waits on with the guard that ends the waiting, and
`body` after it. All of it is done with the lock held, except the waiting. -/
structure Call (σ C : Type*) where
  enter : σ → σ
  waits : Option (C × (σ → Bool))
  timed : Bool
  body : σ → σ × Option (Notice C)

namespace Call
variable {σ C : Type*}

def guard (k : Call σ C) (m : σ) : Bool :=
  match k.waits with
  | none => true
  | some (_, g) => g m

def waitsOn [DecidableEq C] (k : Call σ C) (c : C) : Bool :=
  match k.waits with
  | none => false
  | some (c', _) => c' = c

lemma guard_of_not_waitsOn [DecidableEq C] {k : Call σ C} (h : ∀ c, k.waitsOn c = false) (m : σ) :
    k.guard m = true := by
  unfold guard
  cases hw : k.waits with
  | none => rfl
  | some w => simpa [waitsOn, hw] using h w.1

end Call

/-- Where a thread is: it has made no call yet, it waits in one, or it is back from one. -/
inductive Phase (κ : Type*)
  | idle
  | asleep (k : κ)
  | woken (k : κ)
  | returned (k : κ)
  deriving DecidableEq

def Phase.wake {κ : Type*} : Phase κ → Phase κ
  | .asleep k => .woken k
  | p => p

def Phase.waiting {κ : Type*} : Phase κ → Bool
  | .asleep _ | .woken _ => true
  | _ => false

structure State (T σ κ : Type*) where
  shared : σ
  phase : T → Phase κ

/-- The calls of a program and the thread's own rule for making them. -/
structure Program (T σ κ C : Type*) where
  calls : κ → Call σ C
  initial : σ → Prop
  mayCall : T → Phase κ → κ → Prop

inductive Event (T κ : Type*)
  | call (t : T) (k : κ) (pick : Option T)
  | resume (t : T) (pick : Option T)
  | stir (t : T)
  | giveUp (t : T)
  deriving DecidableEq

namespace Program
variable {T σ κ C : Type*} [DecidableEq C] (M : Program T σ κ C)

def asleepOn (c : C) : Phase κ → Bool
  | .asleep k => (M.calls k).waitsOn c
  | _ => false

def wokenOn (c : C) : Phase κ → Bool
  | .woken k => (M.calls k).waitsOn c
  | _ => false

/-- A notification of one wakes one that sleeps, if any does. -/
def Picks (phase : T → Phase κ) : Option (Notice C) → Option T → Prop
  | some (.one c), some t => M.asleepOn c (phase t) = true
  | some (.one c), none => ∀ t, M.asleepOn c (phase t) = false
  | _, pick => pick = none

instance [Fintype T] [DecidableEq T] (phase : T → Phase κ) (n : Option (Notice C)) (pick : Option T) :
    Decidable (M.Picks phase n pick) :=
  match n, pick with
  | some (.one _), some _ => inferInstanceAs (Decidable (_ = _))
  | some (.one _), none => inferInstanceAs (Decidable (∀ _, _ = _))
  | some (.all _), _ | none, _ => inferInstanceAs (Decidable (_ = _))

/-! ### Threads -/

/-- Thread `t` has the lock in call `k`, with the shared state as its loop finds it. -/
inductive Turn (s : State T σ κ) (t : T) (k : κ) : σ → Prop
  | entered (hm : M.mayCall t (s.phase t) k) (hw : (s.phase t).waiting = false) : Turn s t k ((M.calls k).enter s.shared)
  | resumed (hp : s.phase t = .woken k) : Turn s t k s.shared

section Threads
variable {M} {s : State T σ κ} {t : T} {k : κ} {c : C}

lemma asleepOn_wake (p : Phase κ) : M.asleepOn c p.wake = false := by
  cases p <;> simp [Phase.wake, asleepOn]

lemma wokenOn_wake (p : Phase κ) : M.wokenOn c p.wake = (M.wokenOn c p || M.asleepOn c p) := by
  cases p <;> simp [Phase.wake, wokenOn, asleepOn]

lemma Turn.not_asleep {m : σ} (h : M.Turn s t k m) : M.asleepOn c (s.phase t) = false := by
  cases h with
  | entered _ hw => cases hp : s.phase t <;> simp_all [asleepOn, Phase.waiting]
  | resumed hp => simp [hp, asleepOn]

lemma Turn.wokenOn_le {m : σ} (h : M.Turn s t k m) (hw : M.wokenOn c (s.phase t) = true) : (M.calls k).waitsOn c = true := by
  cases h with
  | entered _ hw' => cases hp : s.phase t <;> simp_all [wokenOn, Phase.waiting]
  | resumed hp => simpa [hp, wokenOn] using hw

/-- Whom to wake can always be chosen. -/
lemma exists_picks (phase : T → Phase κ) (n : Option (Notice C)) : ∃ pick, M.Picks phase n pick := by
  match n with
  | none => exact ⟨none, rfl⟩
  | some (.all _) => exact ⟨none, rfl⟩
  | some (.one c) =>
    by_cases h : ∃ t, M.asleepOn c (phase t) = true
    · obtain ⟨t, ht⟩ := h
      exact ⟨some t, ht⟩
    · exact ⟨none, fun t => by simpa using fun ht => h ⟨t, ht⟩⟩

end Threads

section Counting
variable [Fintype T]

def count (q : Phase κ → Bool) (phase : T → Phase κ) : ℕ := (Finset.univ.filter fun t => q (phase t) = true).card

lemma count_eq_zero {q : Phase κ → Bool} {phase : T → Phase κ} : count q phase = 0 ↔ ∀ t, q (phase t) = false := by
  simp [count, Finset.card_eq_zero, Finset.filter_eq_empty_iff]

lemma count_pos {q : Phase κ → Bool} {phase : T → Phase κ} : 0 < count q phase ↔ ∃ t, q (phase t) = true := by
  simp [count, Finset.card_pos, Finset.filter_nonempty_iff]

lemma eq_of_count_le_one {q : Phase κ → Bool} {phase : T → Phase κ} (h : count q phase ≤ 1) {t u : T}
    (ht : q (phase t) = true) (hu : q (phase u) = true) : t = u :=
  Finset.card_le_one.mp h t (by simpa using ht) u (by simpa using hu)

lemma count_eq_sum (q : Phase κ → Bool) (phase : T → Phase κ) :
    count q phase = ∑ t, if q (phase t) = true then 1 else 0 := by
  rw [count, Finset.card_filter]

lemma count_mono {q r : Phase κ → Bool} {phase phase' : T → Phase κ} (h : ∀ t, q (phase t) = true → r (phase' t) = true) :
    count q phase ≤ count r phase' :=
  Finset.card_le_card fun t ht => by simpa using h t (by simpa using ht)

end Counting

/-! ### Steps -/

variable [DecidableEq T]

def notify (phase : T → Phase κ) : Option (Notice C) → Option T → T → Phase κ
  | some (.all c), _ => fun t => if M.asleepOn c (phase t) then (phase t).wake else phase t
  | some (.one _), some t => Function.update phase t (phase t).wake
  | _, _ => phase

/-- With the lock held: the call goes on if its guard holds, and otherwise sleeps. -/
def attempt (s : State T σ κ) (t : T) (k : κ) (pick : Option T) : State T σ κ :=
  if (M.calls k).guard s.shared then
    let r := (M.calls k).body s.shared
    ⟨r.1, M.notify (Function.update s.phase t (.returned k)) r.2 pick⟩
  else ⟨s.shared, Function.update s.phase t (.asleep k)⟩

/-- The notification of a call that goes on. -/
def noticeOf (m : σ) (k : κ) : Option (Notice C) :=
  if (M.calls k).guard m then ((M.calls k).body m).2 else none

def enter (s : State T σ κ) (k : κ) : State T σ κ := { s with shared := (M.calls k).enter s.shared }

def enabled (s : State T σ κ) : Event T κ → Prop
  | .call t k pick => M.mayCall t (s.phase t) k ∧ (s.phase t).waiting = false ∧
      M.Picks s.phase (M.noticeOf ((M.calls k).enter s.shared) k) pick
  | .resume t pick =>
    match s.phase t with
    | .woken k => M.Picks s.phase (M.noticeOf s.shared k) pick
    | _ => False
  | .stir t =>
    match s.phase t with
    | .asleep _ => True
    | _ => False
  | .giveUp t =>
    match s.phase t with
    | .asleep k | .woken k => (M.calls k).timed = true
    | _ => False

def next (s : State T σ κ) : Event T κ → State T σ κ
  | .call t k pick => M.attempt (M.enter s k) t k pick
  | .resume t pick =>
    match s.phase t with
    | .woken k => M.attempt s t k pick
    | _ => s
  | .stir t => { s with phase := Function.update s.phase t (s.phase t).wake }
  | .giveUp t => { s with phase := Function.update s.phase t .idle }

def runs : System (State T σ κ) (Event T κ) where
  init s := M.initial s.shared ∧ ∀ t, s.phase t = .idle
  enabled := M.enabled
  next := M.next

instance [Fintype T] [∀ t p k, Decidable (M.mayCall t p k)] (s : State T σ κ) (e : Event T κ) :
    Decidable (M.runs.enabled s e) :=
  match e with
  | .call _ _ _ => inferInstanceAs (Decidable (_ ∧ _ ∧ _))
  | .resume t pick =>
    match h : s.phase t with
    | .woken k => decidable_of_iff (M.Picks s.phase (M.noticeOf s.shared k) pick) (by simp [runs, enabled, h])
    | .idle | .asleep _ | .returned _ => .isFalse (by simp [runs, enabled, h])
  | .stir t =>
    match h : s.phase t with
    | .asleep _ => .isTrue (by simp [runs, enabled, h])
    | .idle | .woken _ | .returned _ => .isFalse (by simp [runs, enabled, h])
  | .giveUp t =>
    match h : s.phase t with
    | .asleep k | .woken k => decidable_of_iff ((M.calls k).timed = true) (by simp [runs, enabled, h])
    | .idle | .returned _ => .isFalse (by simp [runs, enabled, h])

/-- What a step can do. -/
inductive Step (s : State T σ κ) : State T σ κ → Prop
  | stirred {t k} (hp : s.phase t = .asleep k) : Step s { s with phase := Function.update s.phase t (.woken k) }
  | gaveUp {t k} (hp : s.phase t = .asleep k ∨ s.phase t = .woken k) (ht : (M.calls k).timed = true) :
      Step s { s with phase := Function.update s.phase t .idle }
  | blocked {t k m} (ht : M.Turn s t k m) (hg : (M.calls k).guard m = false) :
      Step s ⟨m, Function.update s.phase t (.asleep k)⟩
  | passed {t k m pick} (ht : M.Turn s t k m) (hg : (M.calls k).guard m = true)
      (hpick : M.Picks s.phase ((M.calls k).body m).2 pick) :
      Step s ⟨((M.calls k).body m).1,
        M.notify (Function.update s.phase t (.returned k)) ((M.calls k).body m).2 pick⟩

variable {M} {s : State T σ κ} {t : T} {k : κ} {c : C}

lemma Turn.attempt {m : σ} {pick : Option T} (h : M.Turn s t k m) (hpick : M.Picks s.phase (M.noticeOf m k) pick) :
    M.Step s (M.attempt ⟨m, s.phase⟩ t k pick) := by
  unfold Program.attempt
  by_cases hg : (M.calls k).guard m = true
  · rw [noticeOf, if_pos hg] at hpick
    rw [if_pos hg]
    exact .passed h hg hpick
  · rw [if_neg hg]
    exact .blocked h (by simpa using hg)

theorem step_cases {e : Event T κ} (h : M.runs.enabled s e) : M.Step s (M.runs.next s e) := by
  cases e with
  | call t k pick => exact (Turn.entered h.1 h.2.1).attempt h.2.2
  | resume t pick =>
    simp only [runs, enabled, next] at h ⊢
    cases hp : s.phase t with
    | woken k =>
      rw [hp] at h
      exact (Turn.resumed hp).attempt h
    | _ => simp [hp] at h
  | stir t =>
    simp only [runs, enabled, next] at h ⊢
    cases hp : s.phase t with
    | asleep k => exact .stirred hp
    | _ => simp [hp] at h
  | giveUp t =>
    simp only [runs, enabled, next] at h ⊢
    cases hp : s.phase t with
    | asleep k =>
      rw [hp] at h
      exact .gaveUp (.inl hp) h
    | woken k =>
      rw [hp] at h
      exact .gaveUp (.inr hp) h
    | _ => simp [hp] at h

/-- A notification leaves each thread as it is, or wakes it. -/
lemma notify_or (phase : T → Phase κ) (n : Option (Notice C)) (pick : Option T) (u : T) :
    M.notify phase n pick u = phase u ∨ M.notify phase n pick u = (phase u).wake := by
  unfold notify
  split
  · split
    · exact .inr rfl
    · exact .inl rfl
  · rename_i t
    by_cases hu : u = t
    · subst hu; exact .inr (by simp)
    · exact .inl (by simp [hu])
  · exact .inl rfl

lemma notify_all (phase : T → Phase κ) (pick : Option T) (u : T) :
    M.asleepOn c (M.notify phase (some (.all c)) pick u) = false := by
  simp only [notify]
  cases hp : phase u with
  | asleep k => by_cases hk : (M.calls k).waitsOn c <;> simp [asleepOn, hk, Phase.wake]
  | _ => simp [asleepOn]

lemma asleepOn_passed {n : Option (Notice C)} {pick : Option T} {u : T}
    (h : M.asleepOn c (M.notify (Function.update s.phase t (.returned k)) n pick u) = true) :
    M.asleepOn c (s.phase u) = true := by
  rcases notify_or (M := M) (Function.update s.phase t (.returned k)) n pick u with hn | hn
  · rw [hn] at h
    by_cases hu : u = t
    · subst hu; simp [asleepOn] at h
    · rwa [Function.update_of_ne hu] at h
  · rw [hn, asleepOn_wake] at h
    cases h

lemma wokenOn_notify {phase : T → Phase κ} {n : Option (Notice C)} {pick : Option T} {u : T}
    (h : M.wokenOn c (phase u) = true) : M.wokenOn c (M.notify phase n pick u) = true := by
  rcases notify_or (M := M) phase n pick u with hn | hn
  · rwa [hn]
  · rw [hn, wokenOn_wake, h, Bool.true_or]

/-! ### How a step changes the counts -/

section Counting
variable [Fintype T]

/-- One thread moves. -/
lemma sum_update (w : Phase κ → ℕ) (phase : T → Phase κ) (t : T) (p : Phase κ) :
    ∑ u, w (Function.update phase t p u) + w (phase t) = ∑ u, w (phase u) + w p := by
  have hrest : ∑ u ∈ Finset.univ.erase t, w (Function.update phase t p u) = ∑ u ∈ Finset.univ.erase t, w (phase u) :=
    Finset.sum_congr rfl fun u hu => by rw [Function.update_of_ne (Finset.ne_of_mem_erase hu)]
  have hall (f : T → ℕ) : ∑ u, f u = f t + ∑ u ∈ Finset.univ.erase t, f u :=
    (Finset.add_sum_erase _ f (Finset.mem_univ t)).symm
  rw [hall fun u => w (Function.update phase t p u), hall fun u => w (phase u), hrest, Function.update_self]
  omega

lemma count_update (q : Phase κ → Bool) (phase : T → Phase κ) (t : T) (p : Phase κ) :
    count q (Function.update phase t p) + (if q (phase t) = true then 1 else 0) =
      count q phase + if q p = true then 1 else 0 := by
  simpa only [count_eq_sum] using sum_update (fun p => if q p = true then 1 else 0) phase t p

/-- What sleep and waking do not change is not changed by a notification. -/
lemma count_notify {q : Phase κ → Bool} (hq : ∀ p, q p.wake = q p) (phase : T → Phase κ) (n : Option (Notice C))
    (pick : Option T) : count q (M.notify phase n pick) = count q phase := by
  rw [count_eq_sum, count_eq_sum]
  refine Finset.sum_congr rfl fun u _ => ?_
  rcases notify_or (M := M) phase n pick u with h | h
  · rw [h]
  · rw [h, hq]

/-- What sleep and waking do not change is only changed by the thread that goes on. -/
lemma count_passed {q : Phase κ → Bool} (hq : ∀ p, q p.wake = q p) (phase : T → Phase κ) (t : T) (p : Phase κ)
    (n : Option (Notice C)) (pick : Option T) :
    count q (M.notify (Function.update phase t p) n pick) + (if q (phase t) = true then 1 else 0) =
      count q phase + if q p = true then 1 else 0 := by
  rw [count_notify hq, count_update]

lemma sum_notify_le {w : Phase κ → ℕ} (hw : ∀ p, w p.wake ≤ w p + 1) (phase : T → Phase κ) (n : Option (Notice C))
    (pick : Option T) : ∑ u, w (M.notify phase n pick u) ≤ ∑ u, w (phase u) + Fintype.card T := by
  calc ∑ u, w (M.notify phase n pick u) ≤ ∑ u, (w (phase u) + 1) := by
        refine Finset.sum_le_sum fun u _ => ?_
        rcases notify_or (M := M) phase n pick u with h | h
        · rw [h]; exact Nat.le_succ _
        · rw [h]; exact hw _
    _ = ∑ u, w (phase u) + Fintype.card T := by simp [Finset.sum_add_distrib]

end Counting

/-! ### No notification is lost -/

section Signals
variable [Fintype T]

/-- Nobody sleeps on `c`, or there are at least as many threads already woken as calls that could go on. -/
def Covered (M : Program T σ κ C) (c : C) (tokens : σ → ℕ∞) (s : State T σ κ) : Prop :=
  (∀ t, M.asleepOn c (s.phase t) = false) ∨ tokens s.shared ≤ count (M.wokenOn c) s.phase

/-- The notifications of a program are enough for those that wait on `c`: `tokens` tells how many of them could go on,
and what a call adds to it, beyond what it takes itself, it passes on by waking one, or it wakes all. -/
structure Signals (M : Program T σ κ C) (c : C) (tokens : σ → ℕ∞) (I : State T σ κ → Prop) : Prop where
  blocked : ∀ k m, (M.calls k).waitsOn c = true → (M.calls k).guard m = false → tokens m = 0
  enter : ∀ k m, tokens ((M.calls k).enter m) ≤ tokens m
  timed : (∀ k, (M.calls k).waitsOn c = true → (M.calls k).timed = false) ∨ ∀ m, tokens m = 0 ∨ tokens m = ⊤
  body : ∀ s t k m, I s → M.Turn s t k m → (M.calls k).guard m = true →
    ((M.calls k).body m).2 = some (.all c) ∨ (∀ u, M.asleepOn c (s.phase u) = false) ∨
    (((M.calls k).body m).2 = some (.one c) ∧
      ∀ u v, M.asleepOn c (s.phase u) = true → M.asleepOn c (s.phase v) = true → u = v) ∨
    tokens ((M.calls k).body m).1 + ((if (M.calls k).waitsOn c = true then 1 else 0 : ℕ) : ℕ∞) ≤
      tokens m + ((if ((M.calls k).body m).2 = some (.one c) then 1 else 0 : ℕ) : ℕ∞)

lemma tokens_le {a b : ℕ∞} {w e n n' : ℕ} (h : a + w ≤ b + e) (hb : b ≤ n) (hn : n ≤ n' + w) : a ≤ (n' + e : ℕ) := by
  have hsum : a + w ≤ (n' + e : ℕ) + w := by
    calc a + w ≤ b + e := h
      _ ≤ n + e := add_le_add_left hb e
      _ ≤ (n' + e : ℕ) + w := by exact_mod_cast (by omega : n + e ≤ n' + e + w)
  exact (ENat.add_le_add_iff_right (ENat.natCast_ne_top w)).mp hsum

lemma count_woken_update {m : σ} (ht : M.Turn s t k m) :
    count (M.wokenOn c) s.phase ≤
      count (M.wokenOn c) (Function.update s.phase t (.returned k)) + if (M.calls k).waitsOn c = true then 1 else 0 := by
  have h := count_update (M.wokenOn c) s.phase t (.returned k)
  by_cases hw : M.wokenOn c (s.phase t) = true
  · rw [if_pos hw] at h
    rw [if_pos (ht.wokenOn_le hw)]
    omega
  · rw [if_neg hw] at h
    omega

/-- The thread that is notified joins those that are woken. -/
lemma count_woken_picked {u : T} (hu : M.asleepOn c (s.phase u) = true) (hne : u ≠ t) :
    count (M.wokenOn c) (M.notify (Function.update s.phase t (.returned k)) (some (.one c)) (some u)) =
      count (M.wokenOn c) (Function.update s.phase t (.returned k)) + 1 := by
  have hphase : Function.update s.phase t (.returned k) u = s.phase u := Function.update_of_ne hne _ _
  have h := count_update (M.wokenOn c) (Function.update s.phase t (.returned k)) u (s.phase u).wake
  have hwoken : M.wokenOn c (s.phase u) = false := by
    cases hp : s.phase u <;> simp_all [asleepOn, wokenOn]
  simp only [notify, hphase]
  rw [hphase, hwoken, wokenOn_wake, hu] at h
  simpa using h

variable {tokens : σ → ℕ∞} {I : State T σ κ → Prop}

omit [DecidableEq T] [Fintype T] in
lemma Signals.turn_le (h : M.Signals c tokens I) {m : σ} (ht : M.Turn s t k m) : tokens m ≤ tokens s.shared := by
  cases ht with
  | entered => exact h.enter k _
  | resumed => exact le_rfl

lemma Signals.passed (h : M.Signals c tokens I) (hI : I s) (hs : M.Covered c tokens s) {m : σ} {pick : Option T}
    (ht : M.Turn s t k m) (hg : (M.calls k).guard m = true) (hpick : M.Picks s.phase ((M.calls k).body m).2 pick) :
    M.Covered c tokens ⟨((M.calls k).body m).1,
      M.notify (Function.update s.phase t (.returned k)) ((M.calls k).body m).2 pick⟩ := by
  have hnone (h' : ∀ u, M.asleepOn c (s.phase u) = false) : M.Covered c tokens ⟨((M.calls k).body m).1,
      M.notify (Function.update s.phase t (.returned k)) ((M.calls k).body m).2 pick⟩ := by
    refine .inl fun u => ?_
    by_contra hu
    have hasleep : M.asleepOn c (s.phase u) = true := asleepOn_passed (by simpa using hu)
    simp [h' u] at hasleep
  rcases h.body s t k m hI ht hg with hall | hasleep | ⟨hone, hlone⟩ | hle
  · left
    intro u
    simp only [hall]
    exact notify_all _ _ u
  · exact hnone hasleep
  · cases pick with
    | none =>
      rw [hone] at hpick
      exact hnone hpick
    | some v =>
      rw [hone] at hpick ⊢
      refine .inl fun u => ?_
      by_contra hu
      have hu' : M.asleepOn c (s.phase u) = true := asleepOn_passed (by simpa using hu)
      obtain rfl := hlone u v hu' hpick
      simp [notify, asleepOn_wake] at hu
  · rcases hs with hasleep | hcover
    · exact hnone hasleep
    · have hbefore := (h.turn_le ht).trans hcover
      have hleft := count_woken_update (c := c) ht
      by_cases hone : ((M.calls k).body m).2 = some (.one c)
      · cases pick with
        | none =>
          rw [hone] at hpick
          exact hnone hpick
        | some v =>
          rw [hone] at hpick ⊢
          have hv : v ≠ t := by
            rintro rfl
            simp [ht.not_asleep (c := c), Picks] at hpick
          right
          rw [count_woken_picked hpick hv]
          rw [if_pos hone] at hle
          exact tokens_le hle hbefore hleft
      · right
        rw [if_neg hone] at hle
        have hkept : count (M.wokenOn c) (Function.update s.phase t (.returned k)) ≤ count (M.wokenOn c)
            (M.notify (Function.update s.phase t (.returned k)) ((M.calls k).body m).2 pick) :=
          count_mono fun u hu => wokenOn_notify hu
        exact (tokens_le hle hbefore hleft).trans (by exact_mod_cast hkept)

lemma Signals.blocked_step (h : M.Signals c tokens I) (hs : M.Covered c tokens s) {m : σ} (ht : M.Turn s t k m)
    (hg : (M.calls k).guard m = false) : M.Covered c tokens ⟨m, Function.update s.phase t (.asleep k)⟩ := by
  by_cases hk : (M.calls k).waitsOn c = true
  · right
    rw [h.blocked k m hk hg]
    exact zero_le
  · rcases hs with hasleep | hcover
    · refine .inl fun u => ?_
      by_cases hu : u = t
      · subst hu; simpa [asleepOn] using hk
      · simpa [Function.update_of_ne hu] using hasleep u
    · right
      refine ((h.turn_le ht).trans hcover).trans ?_
      have hkept : count (M.wokenOn c) s.phase ≤ count (M.wokenOn c) (Function.update s.phase t (.asleep k)) := by
        refine count_mono fun u hu => ?_
        have hne : u ≠ t := by rintro rfl; exact hk (ht.wokenOn_le hu)
        rwa [Function.update_of_ne hne]
      exact_mod_cast hkept

lemma Signals.stirred_step (hs : M.Covered c tokens s) (hp : s.phase t = .asleep k) :
    M.Covered c tokens { s with phase := Function.update s.phase t (.woken k) } := by
  rcases hs with hasleep | hcover
  · refine .inl fun u => ?_
    by_cases hu : u = t
    · subst hu; simp [asleepOn]
    · simpa [Function.update_of_ne hu] using hasleep u
  · right
    refine hcover.trans ?_
    have hkept : count (M.wokenOn c) s.phase ≤ count (M.wokenOn c) (Function.update s.phase t (.woken k)) := by
      refine count_mono fun u hu => ?_
      have hne : u ≠ t := by rintro rfl; simp [hp, wokenOn] at hu
      rwa [Function.update_of_ne hne]
    exact_mod_cast hkept

/-- A thread that gives up may leave a notification unused: only where nobody sleeps anyway, or on another condition. -/
lemma Signals.gaveUp_step (h : M.Signals c tokens I) (hs : M.Covered c tokens s)
    (hp : s.phase t = .asleep k ∨ s.phase t = .woken k) (ht : (M.calls k).timed = true) :
    M.Covered c tokens { s with phase := Function.update s.phase t .idle } := by
  have hnone (hasleep : ∀ u, M.asleepOn c (s.phase u) = false) :
      M.Covered c tokens { s with phase := Function.update s.phase t .idle } := by
    refine .inl fun u => ?_
    by_cases hu : u = t
    · subst hu; simp [asleepOn]
    · simpa [Function.update_of_ne hu] using hasleep u
  rcases hs with hasleep | hcover
  · exact hnone hasleep
  · rcases h.timed with huntimed | hall
    · right
      refine hcover.trans ?_
      have hkept : count (M.wokenOn c) s.phase ≤ count (M.wokenOn c) (Function.update s.phase t .idle) := by
        refine count_mono fun u hu => ?_
        have hne : u ≠ t := by
          rintro rfl
          rcases hp with hp | hp
          · simp [hp, wokenOn] at hu
          · simp [huntimed k (by simpa [hp, wokenOn] using hu)] at ht
        rwa [Function.update_of_ne hne]
      exact_mod_cast hkept
    · rcases hall s.shared with h0 | htop
      · right
        rw [h0]
        exact zero_le
      · rw [htop, top_le_iff] at hcover
        exact absurd hcover (ENat.natCast_ne_top _)

theorem Signals.step (h : M.Signals c tokens I) (hI : I s) (hs : M.Covered c tokens s) {s' : State T σ κ}
    (hstep : M.Step s s') : M.Covered c tokens s' := by
  cases hstep with
  | stirred hp => exact stirred_step hs hp
  | gaveUp hp ht => exact h.gaveUp_step hs hp ht
  | blocked ht hg => exact h.blocked_step hs ht hg
  | passed ht hg hpick => exact h.passed hI hs ht hg hpick

/-- Whoever sleeps on `c` although calls could go on, there is someone awake that is about to. -/
theorem Signals.covered (h : M.Signals c tokens I) {ok : State T σ κ → Event T κ → Prop}
    (hI : ∀ s, Reach M.runs ok s → I s) (hr : Reach M.runs ok s) : M.Covered c tokens s := by
  refine hr.invariant ?_ ?_
  · rintro s ⟨-, hidle⟩
    exact .inl fun t => by simp [hidle t, asleepOn]
  · intro s e hreach hs he _
    exact h.step (hI s hreach) hs (step_cases he)

end Signals

end Program

end Monitor

end Resiprocate
