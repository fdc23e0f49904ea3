import Resiprocate.Monitor

/-! The lock for many readers or one writer, and the threads that share it. -/
namespace Resiprocate.Rutil
open TransitionSystem Monitor

structure RWMutex where
  mReaderCount : ℕ
  mWriterHasLock : Bool
  mPendingWriterCount : ℕ
  deriving DecidableEq

namespace RWMutex

inductive Condition
  | mReadCondition
  | mPendingWriteCondition
  deriving DecidableEq

inductive Method
  | readlock
  | writelock
  | unlock
  deriving DecidableEq

def create : RWMutex := ⟨0, false, 0⟩

def readlock : Monitor.Call RWMutex Condition where
  enter := id
  waits := some (.mReadCondition, fun m => !(m.mWriterHasLock || decide (0 < m.mPendingWriterCount)))
  timed := false
  body m := ({ m with mReaderCount := m.mReaderCount + 1 }, none)

def writelock : Monitor.Call RWMutex Condition where
  enter m := { m with mPendingWriterCount := m.mPendingWriterCount + 1 }
  waits := some (.mPendingWriteCondition, fun m => !(m.mWriterHasLock || decide (0 < m.mReaderCount)))
  timed := false
  body m := ({ m with mPendingWriterCount := m.mPendingWriterCount - 1, mWriterHasLock := true }, none)

/-- What `unlock` asserts. -/
def unlockAsserts (m : RWMutex) : Prop :=
  if m.mWriterHasLock then m.mReaderCount = 0 else 0 < m.mReaderCount

instance (m : RWMutex) : Decidable m.unlockAsserts := inferInstanceAs (Decidable (ite _ _ _))

def unlock : Monitor.Call RWMutex Condition where
  enter := id
  waits := none
  timed := false
  body m :=
    if m.mWriterHasLock then
      let m := { m with mWriterHasLock := false }
      -- pending writers go before readers
      if 0 < m.mPendingWriterCount then (m, some (.one .mPendingWriteCondition))
      else (m, some (.all .mReadCondition))
    else
      let m := { m with mReaderCount := m.mReaderCount - 1 }
      if m.mReaderCount = 0 ∧ 0 < m.mPendingWriterCount then (m, some (.one .mPendingWriteCondition))
      else (m, none)

def calls : Method → Monitor.Call RWMutex Condition
  | .readlock => readlock
  | .writelock => writelock
  | .unlock => unlock

lemma unlock_state (m : RWMutex) : (unlock.body m).1 =
    if m.mWriterHasLock then { m with mWriterHasLock := false } else { m with mReaderCount := m.mReaderCount - 1 } := by
  unfold unlock
  dsimp only
  split_ifs <;> rfl

lemma unlock_notice (m : RWMutex) : (unlock.body m).2 =
    if m.mWriterHasLock then
      if 0 < m.mPendingWriterCount then some (.one .mPendingWriteCondition) else some (.all .mReadCondition)
    else if m.mReaderCount - 1 = 0 ∧ 0 < m.mPendingWriterCount then some (.one .mPendingWriteCondition) else none := by
  unfold unlock
  dsimp only
  split_ifs <;> rfl

/-- The lock that a thread has. -/
def holds : Phase Method → Option Method
  | .returned .readlock => some .readlock
  | .returned .writelock => some .writelock
  | _ => none

/-- A thread unlocks what it has locked, as the lock objects of the repository do, and has one lock at a time. -/
def disciplined (p : Phase Method) : Method → Prop
  | .unlock => (holds p).isSome
  | _ => holds p = none

instance (p : Phase Method) (k : Method) : Decidable (disciplined p k) :=
  match k with
  | .unlock | .readlock | .writelock => inferInstanceAs (Decidable (_ = _))

def program (T : Type*) : Program T RWMutex Method Condition where
  calls := calls
  initial m := m = create
  mayCall _ := disciplined

instance {T : Type*} (t : T) (p : Phase Method) (k : Method) : Decidable ((program T).mayCall t p k) :=
  inferInstanceAs (Decidable (disciplined p k))

@[simp] lemma program_calls (T : Type*) (k : Method) : (program T).calls k = calls k := rfl

variable {T : Type*} [DecidableEq T] [Fintype T]

def reading : Phase Method → Bool
  | .returned .readlock => true
  | _ => false

def writing : Phase Method → Bool
  | .returned .writelock => true
  | _ => false

/-- In `writelock`, and not yet out of its loop. -/
def pending : Phase Method → Bool
  | .asleep .writelock | .woken .writelock => true
  | _ => false

abbrev Locked (T : Type*) := Monitor.State T RWMutex Method

/-- In `unlock`, where no thread waits. -/
def unlocking : Phase Method → Bool
  | .asleep .unlock | .woken .unlock => true
  | _ => false

lemma holding_wake (p : Phase Method) : reading p.wake = reading p ∧ writing p.wake = writing p ∧
    pending p.wake = pending p ∧ unlocking p.wake = unlocking p := by
  cases p with
  | asleep k => cases k <;> simp [Phase.wake, reading, writing, pending, unlocking]
  | _ => simp [Phase.wake]

/-- The counters tell how many threads read, write, and wait to write; a writer is alone. -/
structure Consistent (s : Locked T) : Prop where
  readers : s.shared.mReaderCount = Program.count reading s.phase
  writers : (if s.shared.mWriterHasLock = true then 1 else 0) = Program.count writing s.phase
  pending : s.shared.mPendingWriterCount = Program.count pending s.phase
  exclusive : s.shared.mWriterHasLock = true → s.shared.mReaderCount = 0
  unlocking : Program.count unlocking s.phase = 0

variable {s : Locked T}

/-- A thread moves to another phase, and the shared state follows. -/
lemma Consistent.move (h : Consistent s) {m : RWMutex} {t : T} {p : Phase Method} {phase : T → Phase Method}
    (hphase : ∀ q : Phase Method → Bool, (∀ p, q p.wake = q p) → Program.count q phase +
      (if q (s.phase t) = true then 1 else 0) = Program.count q s.phase + if q p = true then 1 else 0)
    (hr : m.mReaderCount + (if reading (s.phase t) = true then 1 else 0) =
      s.shared.mReaderCount + if reading p = true then 1 else 0)
    (hw : (if m.mWriterHasLock = true then 1 else 0) + (if writing (s.phase t) = true then 1 else 0) =
      (if s.shared.mWriterHasLock = true then 1 else 0) + if writing p = true then 1 else 0)
    (hp : m.mPendingWriterCount + (if RWMutex.pending (s.phase t) = true then 1 else 0) =
      s.shared.mPendingWriterCount + if RWMutex.pending p = true then 1 else 0)
    (hu : RWMutex.unlocking p = false) (he : m.mWriterHasLock = true → m.mReaderCount = 0) : Consistent ⟨m, phase⟩ := by
  have h₁ := hphase reading fun p => (holding_wake p).1
  have h₂ := hphase writing fun p => (holding_wake p).2.1
  have h₃ := hphase RWMutex.pending fun p => (holding_wake p).2.2.1
  have h₄ := hphase RWMutex.unlocking fun p => (holding_wake p).2.2.2
  have := h.readers
  have := h.writers
  have := h.pending
  have := h.unlocking
  rw [hu] at h₄
  refine ⟨?_, ?_, ?_, he, ?_⟩ <;> dsimp only <;> simp only [Bool.false_eq_true, if_false] at h₄ <;> omega

lemma free (p : Phase Method) (h : holds p = none) : reading p = false ∧ writing p = false := by
  unfold holds at h
  split at h <;> simp_all [reading, writing]

lemma outside (p : Phase Method) (h : p.waiting = false) :
    RWMutex.pending p = false ∧ RWMutex.unlocking p = false := by
  cases p <;> simp_all [Phase.waiting, RWMutex.pending, RWMutex.unlocking]

lemma Consistent.writer (h : Consistent s) {t : T} (ht : writing (s.phase t) = true) : s.shared.mWriterHasLock = true := by
  have hpos := Program.count_pos.mpr ⟨t, ht⟩
  rw [← h.writers] at hpos
  by_contra hw
  simp [hw] at hpos

lemma Consistent.reader (h : Consistent s) {t : T} (ht : reading (s.phase t) = true) :
    0 < s.shared.mReaderCount ∧ s.shared.mWriterHasLock = false := by
  have hpos : 0 < s.shared.mReaderCount := h.readers ▸ Program.count_pos.mpr ⟨t, ht⟩
  exact ⟨hpos, by simpa using fun hw => hpos.ne' (h.exclusive hw)⟩

/-- The thread that unlocks has one of the locks, and the other kind is not taken. -/
lemma Consistent.unlocker (h : Consistent s) {t : T} (ht : disciplined (s.phase t) .unlock) :
    (s.shared.mWriterHasLock = true ∧ s.shared.mReaderCount = 0 ∧ writing (s.phase t) = true ∧ reading (s.phase t) = false) ∨
    (s.shared.mWriterHasLock = false ∧ 0 < s.shared.mReaderCount ∧ writing (s.phase t) = false ∧
      reading (s.phase t) = true) := by
  have hholds : s.phase t = .returned .readlock ∨ s.phase t = .returned .writelock := by
    simp only [disciplined, holds] at ht
    split at ht <;> simp_all
  rcases hholds with hp | hp
  · obtain ⟨hpos, hw⟩ := h.reader (t := t) (by simp [hp, reading])
    exact .inr ⟨hw, hpos, by simp [hp, writing], by simp [hp, reading]⟩
  · have hw := h.writer (t := t) (by simp [hp, writing])
    exact .inl ⟨hw, h.exclusive hw, by simp [hp, writing], by simp [hp, reading]⟩

lemma Consistent.blocked (h : Consistent s) {t : T} {k : Method} {m : RWMutex} (ht : (program T).Turn s t k m)
    (hg : ((program T).calls k).guard m = false) : Consistent ⟨m, Function.update s.phase t (.asleep k)⟩ := by
  have hphase (q : Phase Method → Bool) (_ : ∀ p, q p.wake = q p) := Program.count_update q s.phase t (.asleep k)
  have hexclusive := h.exclusive
  cases ht with
  | entered hm hw =>
    obtain ⟨hpending, hunlocking⟩ := outside _ hw
    cases k with
    | unlock => simp [calls, unlock, Call.guard] at hg
    | readlock =>
      obtain ⟨hreading, hwriting⟩ := free _ hm
      refine h.move hphase ?_ ?_ ?_ ?_ ?_ <;>
        simp_all [program, calls, readlock, reading, writing, RWMutex.pending, RWMutex.unlocking]
    | writelock =>
      obtain ⟨hreading, hwriting⟩ := free _ hm
      refine h.move hphase ?_ ?_ ?_ ?_ ?_ <;>
        simp_all [program, calls, writelock, reading, writing, RWMutex.pending, RWMutex.unlocking]
  | resumed hp =>
    cases k with
    | unlock => simp [calls, unlock, Call.guard] at hg
    | readlock | writelock =>
      refine h.move hphase ?_ ?_ ?_ ?_ ?_ <;>
        simp_all [reading, writing, RWMutex.pending, RWMutex.unlocking]

lemma Consistent.passed (h : Consistent s) {t : T} {k : Method} {m : RWMutex} (ht : (program T).Turn s t k m)
    (hg : ((program T).calls k).guard m = true) (n : Option (Notice Condition)) (pick : Option T) :
    Consistent ⟨(((program T).calls k).body m).1, (program T).notify (Function.update s.phase t (.returned k)) n pick⟩ := by
  have hphase (q : Phase Method → Bool) (hq : ∀ p, q p.wake = q p) :=
    Program.count_passed (M := program T) hq s.phase t (.returned k) n pick
  cases k with
  | readlock =>
    have hstart : m = s.shared ∧ reading (s.phase t) = false ∧ writing (s.phase t) = false ∧
        RWMutex.pending (s.phase t) = false := by
      cases ht with
      | entered hm hw => exact ⟨rfl, (free _ hm).1, (free _ hm).2, (outside _ hw).1⟩
      | resumed hp => simp [hp, reading, writing, RWMutex.pending]
    obtain ⟨rfl, hreading, hwriting, hpending⟩ := hstart
    simp only [program_calls, calls, readlock, Call.guard, Bool.not_eq_true', Bool.or_eq_false_iff] at hg
    refine h.move hphase ?_ ?_ ?_ ?_ ?_ <;>
      simp_all [program, calls, readlock, reading, writing, RWMutex.pending, RWMutex.unlocking]
  | writelock =>
    have hstart : m.mReaderCount = s.shared.mReaderCount ∧ m.mWriterHasLock = s.shared.mWriterHasLock ∧
        m.mPendingWriterCount - 1 + (if RWMutex.pending (s.phase t) = true then 1 else 0) =
          s.shared.mPendingWriterCount ∧
        reading (s.phase t) = false ∧ writing (s.phase t) = false := by
      cases ht with
      | entered hm hw =>
        simp [program, calls, writelock, (outside _ hw).1, free _ hm]
      | resumed hp =>
        have hpos : 0 < s.shared.mPendingWriterCount :=
          h.pending ▸ Program.count_pos.mpr ⟨t, by simp [hp, RWMutex.pending]⟩
        simp only [hp, reading, writing, RWMutex.pending, if_true, true_and, and_true]
        omega
    obtain ⟨hr, hw, hp, hreading, hwriting⟩ := hstart
    simp only [program_calls, calls, writelock, Call.guard, Bool.not_eq_true', Bool.or_eq_false_iff, decide_eq_false_iff_not] at hg
    have hr0 : s.shared.mReaderCount = 0 := by omega
    have hw0 : s.shared.mWriterHasLock = false := hw ▸ hg.1
    refine h.move hphase ?_ ?_ ?_ ?_ ?_ <;>
      simp_all [program, calls, writelock, reading, writing, RWMutex.pending, RWMutex.unlocking]
  | unlock =>
    cases ht with
    | resumed hp =>
      have hnone := Program.count_eq_zero.mp h.unlocking t
      simp [hp, RWMutex.unlocking] at hnone
    | entered hm hw =>
      obtain ⟨hpending, hunlocking⟩ := outside _ hw
      rcases h.unlocker hm with ⟨hlocked, hr0, hwriting, hreading⟩ | ⟨hlocked, hpos, hwriting, hreading⟩
      · have hstate : (((program T).calls .unlock).body (((program T).calls .unlock).enter s.shared)).1 =
            { s.shared with mWriterHasLock := false } := (unlock_state s.shared).trans (if_pos hlocked)
        rw [hstate]
        refine h.move hphase ?_ ?_ ?_ ?_ ?_ <;>
          simp_all [reading, writing, RWMutex.pending, RWMutex.unlocking]
      · have hstate : (((program T).calls .unlock).body (((program T).calls .unlock).enter s.shared)).1 =
            { s.shared with mReaderCount := s.shared.mReaderCount - 1 } :=
          (unlock_state s.shared).trans (if_neg (by simp [hlocked]))
        rw [hstate]
        refine h.move hphase ?_ ?_ ?_ ?_ ?_ <;>
          simp_all [reading, writing, RWMutex.pending, RWMutex.unlocking]
        omega

/-- The calls keep the counters right. -/
theorem Consistent.step (h : Consistent s) {s' : Locked T} (hstep : (program T).Step s s') : Consistent s' := by
  cases hstep with
  | @stirred t k hp =>
    have hk : k ≠ .unlock := by
      rintro rfl
      have hnone := Program.count_eq_zero.mp h.unlocking t
      simp [hp, RWMutex.unlocking] at hnone
    refine h.move (t := t) (p := .woken k) (fun q _ => Program.count_update q _ _ _) ?_ ?_ ?_ ?_ h.exclusive <;>
      cases k <;> simp_all [reading, writing, RWMutex.pending, RWMutex.unlocking]
  | @gaveUp t k _ ht => cases k <;> simp [program, calls, readlock, writelock, unlock] at ht
  | blocked ht hg => exact h.blocked ht hg
  | passed ht hg => exact h.passed ht hg _ _

theorem consistent_reach {ok : Locked T → Event T Method → Prop} (hr : Reach (program T).runs ok s) : Consistent s := by
  refine hr.invariant ?_ ?_
  · rintro s ⟨hshared, hidle⟩
    have hnone (q : Phase Method → Bool) (hq : q .idle = false) : Program.count q s.phase = 0 :=
      Program.count_eq_zero.mpr fun t => by rw [hidle t, hq]
    have hcreate : s.shared = create := hshared
    refine ⟨?_, ?_, ?_, ?_, hnone _ rfl⟩
    · rw [hnone _ rfl, hcreate, create]
    · rw [hnone _ rfl, hcreate, create]; rfl
    · rw [hnone _ rfl, hcreate, create]
    · simp [hcreate, create]
  · exact fun s e _ hs he _ => hs.step (Program.step_cases he)

/-- A writer is alone with its lock, what `unlock` asserts holds whenever a thread may call it, and the counters count
the threads that read and those that wait to write. -/
theorem locks_exclude (hr : Reach (program T).runs anyStep s) :
    (∀ t u, writing (s.phase t) = true → reading (s.phase u) = true ∨ writing (s.phase u) = true → t = u) ∧
    (∀ t, (program T).mayCall t (s.phase t) .unlock → s.shared.unlockAsserts) ∧
    s.shared.mReaderCount = Program.count reading s.phase ∧
    s.shared.mPendingWriterCount = Program.count RWMutex.pending s.phase := by
  have h := consistent_reach hr
  refine ⟨fun t u ht hu => ?_, fun t ht => ?_, h.readers, h.pending⟩
  · have hlocked := h.writer ht
    rcases hu with hu | hu
    · have hfree := (h.reader hu).2
      simp [hlocked] at hfree
    · refine Program.eq_of_count_le_one ?_ ht hu
      rw [← h.writers]
      split_ifs <;> omega
  · rcases h.unlocker ht with ⟨hlocked, hr0, -⟩ | ⟨hlocked, hpos, -⟩
    · simpa [unlockAsserts, hlocked] using hr0
    · simpa [unlockAsserts, hlocked] using hpos

def created : Locked T := ⟨create, fun _ => .idle⟩

lemma reach_created {ok : Locked T → Event T Method → Prop} : Reach (program T).runs ok created :=
  .init ⟨rfl, fun _ => rfl⟩

/-- Thread 0 reads, 1 waits to write, 2 waits to read, 0 lets go, and 1 goes on. -/
def contended : Locked (Fin 3) :=
  [.call 0 .readlock none, .call 1 .writelock none, .call 2 .readlock none, .call 0 .unlock (some 1),
    .resume 1 none].foldl (program (Fin 3)).runs.next created

lemma reach_contended : Reach (program (Fin 3)).runs anyStep contended := reach_created.run _ (by decide)

theorem locks_exclude_contended : writing (contended.phase 1) = true ∧ contended.shared.unlockAsserts :=
  ⟨by decide, (locks_exclude reach_contended).2.1 1 (by decide)⟩

lemma reading_of_step {s' : Locked T} (hstep : (program T).Step s s') (hp : 0 < s.shared.mPendingWriterCount) {t : T}
    (ht : reading (s'.phase t) = true) : reading (s.phase t) = true := by
  cases hstep with
  | @stirred u k hu =>
    by_cases htu : t = u
    · subst htu; simp [RWMutex.reading] at ht
    · simpa [Function.update_of_ne htu] using ht
  | @gaveUp u k _ =>
    by_cases htu : t = u
    · subst htu; simp [RWMutex.reading] at ht
    · simpa [Function.update_of_ne htu] using ht
  | @blocked u k m =>
    by_cases htu : t = u
    · subst htu; simp [RWMutex.reading] at ht
    · simpa [Function.update_of_ne htu] using ht
  | @passed u k m pick hturn hg =>
    have hsame : reading (Function.update s.phase u (.returned k) t) = true := by
      dsimp only at ht
      rcases Program.notify_or (M := program T) (Function.update s.phase u (.returned k))
        (((program T).calls k).body m).2 pick t with h | h
      · rwa [h] at ht
      · rwa [h, (holding_wake _).1] at ht
    by_cases htu : t = u
    · subst htu
      have hk : k = .readlock := by
        rw [Function.update_self] at hsame
        cases k <;> simp_all [RWMutex.reading]
      subst hk
      -- a reader's guard excludes pending writers
      have hnone : m.mPendingWriterCount = 0 := by
        simp only [program_calls, calls, readlock, Call.guard, Bool.not_eq_true', Bool.or_eq_false_iff,
          decide_eq_false_iff_not] at hg
        omega
      have hm : m = s.shared := by cases hturn <;> rfl
      rw [← hm, hnone] at hp
      exact absurd hp (lt_irrefl 0)
    · simpa [Function.update_of_ne htu] using hsame

/-- As long as a writer waits, no thread starts to read. -/
theorem readers_yield (es : List (Event T Method))
    (hp : Permitted (program T).runs (fun s _ => 0 < s.shared.mPendingWriterCount) s es) {t : T}
    (ht : reading ((es.foldl (program T).runs.next s).phase t) = true) : reading (s.phase t) = true := by
  induction es generalizing s with
  | nil => exact ht
  | cons e es ih => exact reading_of_step (Program.step_cases hp.1.1) hp.1.2 (ih hp.2 ht)

/-! ### Waking up -/

/-- One writer could go on. -/
def writerTokens (m : RWMutex) : ℕ∞ := if m.mWriterHasLock = false ∧ m.mReaderCount = 0 then 1 else 0

/-- All readers could go on. -/
def readerTokens (m : RWMutex) : ℕ∞ := if m.mWriterHasLock = false ∧ m.mPendingWriterCount = 0 then ⊤ else 0

lemma Consistent.no_writer_asleep (h : Consistent s) (hp : s.shared.mPendingWriterCount = 0) (u : T) :
    (program T).asleepOn .mPendingWriteCondition (s.phase u) = false := by
  have hnone := Program.count_eq_zero.mp (h.pending ▸ hp) u
  cases hu : s.phase u with
  | asleep k => cases k <;> simp_all [RWMutex.pending, Program.asleepOn, program, calls, readlock, unlock, Call.waitsOn]
  | _ => simp [Program.asleepOn]

lemma writers_signalled : (program T).Signals .mPendingWriteCondition writerTokens Consistent where
  blocked k m hk hg := by
    cases k with
    | writelock =>
      refine if_neg fun hfree => ?_
      simp [calls, writelock, Call.guard, hfree] at hg
    | _ => simp [calls, readlock, unlock, Call.waitsOn] at hk
  enter k m := by cases k <;> simp [program, calls, readlock, writelock, unlock, writerTokens]
  timed := .inl fun k _ => by cases k <;> rfl
  body s t k m hs ht hg := by
    cases k with
    | readlock => exact .inr (.inr (.inr (by simp [program, calls, readlock, Call.waitsOn, writerTokens])))
    | writelock =>
      have hfree : m.mWriterHasLock = false ∧ m.mReaderCount = 0 := by
        simpa [program, calls, writelock, Call.guard] using hg
      exact .inr (.inr (.inr (by simp [program, calls, writelock, Call.waitsOn, writerTokens, hfree])))
    | unlock =>
      cases ht with
      | resumed hp =>
        have hnone := Program.count_eq_zero.mp hs.unlocking t
        simp [hp, RWMutex.unlocking] at hnone
      | entered hm hw =>
        by_cases hp : s.shared.mPendingWriterCount = 0
        · exact .inr (.inl (hs.no_writer_asleep hp))
        · have hpos : 0 < s.shared.mPendingWriterCount := Nat.pos_of_ne_zero hp
          refine .inr (.inr (.inr ?_))
          cases hw : s.shared.mWriterHasLock
          · by_cases hr : s.shared.mReaderCount - 1 = 0 <;>
              simp [program, calls, unlock, Call.waitsOn, writerTokens, hw, hr, hpos]
          · simp [program, calls, unlock, Call.waitsOn, writerTokens, hw, hpos, hs.exclusive hw]

lemma readers_signalled : (program T).Signals .mReadCondition readerTokens Consistent where
  blocked k m hk hg := by
    cases k with
    | readlock =>
      refine if_neg fun hfree => ?_
      simp [calls, readlock, Call.guard, hfree] at hg
    | _ => simp [calls, writelock, unlock, Call.waitsOn] at hk
  enter k m := by cases k <;> simp [program, calls, readlock, writelock, unlock, readerTokens]
  timed := .inl fun k _ => by cases k <;> rfl
  body s t k m hs ht hg := by
    cases k with
    | readlock =>
      have hfree : m.mWriterHasLock = false ∧ m.mPendingWriterCount = 0 := by
        simpa [program, calls, readlock, Call.guard] using hg
      exact .inr (.inr (.inr (by simp [program, calls, readlock, Call.waitsOn, readerTokens, hfree])))
    | writelock => exact .inr (.inr (.inr (by simp [program, calls, writelock, Call.waitsOn, readerTokens])))
    | unlock =>
      by_cases hp : m.mPendingWriterCount = 0
      · cases hw : m.mWriterHasLock
        · refine .inr (.inr (.inr ?_))
          simp [program, calls, unlock, Call.waitsOn, readerTokens, hw, hp]
        · exact .inl (by simp [program, calls, unlock, hw, hp])
      · refine .inr (.inr (.inr ?_))
        have hpos : 0 < m.mPendingWriterCount := Nat.pos_of_ne_zero hp
        cases hw : m.mWriterHasLock
        · by_cases hr : m.mReaderCount - 1 = 0 <;>
            simp [program, calls, unlock, Call.waitsOn, readerTokens, hw, hr, hp, hpos]
        · simp [program, calls, unlock, Call.waitsOn, readerTokens, hw, hp, hpos]

/-- Where a writer could go on and one sleeps, another one is already awake. Where readers could go on, none sleeps. -/
theorem woken_in_time {ok : Locked T → Event T Method → Prop} (hr : Reach (program T).runs ok s) :
    (s.shared.mWriterHasLock = false → s.shared.mReaderCount = 0 → (∃ t, s.phase t = .asleep .writelock) →
      ∃ t, s.phase t = .woken .writelock) ∧
    (s.shared.mWriterHasLock = false → s.shared.mPendingWriterCount = 0 → ∀ t, s.phase t ≠ .asleep .readlock) := by
  refine ⟨fun hw hr0 ⟨t, ht⟩ => ?_, fun hw hp t ht => ?_⟩
  · rcases writers_signalled.covered (fun _ h => consistent_reach h) hr with hnone | hcover
    · have hnone := hnone t
      simp [ht, Program.asleepOn, program, calls, writelock, Call.waitsOn] at hnone
    · rw [writerTokens, if_pos ⟨hw, hr0⟩] at hcover
      obtain ⟨u, hu⟩ := Program.count_pos.mp (Nat.one_le_cast.mp hcover)
      refine ⟨u, ?_⟩
      cases hphase : s.phase u with
      | woken k =>
        cases k <;> simp_all [Program.wokenOn, program, calls, readlock, unlock, Call.waitsOn]
      | _ => simp [hphase, Program.wokenOn] at hu
  · rcases readers_signalled.covered (fun _ h => consistent_reach h) hr with hnone | hcover
    · have hnone := hnone t
      simp [ht, Program.asleepOn, program, calls, readlock, Call.waitsOn] at hnone
    · rw [readerTokens, if_pos ⟨hw, hp⟩, top_le_iff] at hcover
      exact absurd hcover (ENat.natCast_ne_top _)

/-! ### Every request is granted -/

/-- Threads that are awake go on, and threads release what they have. None makes a new request or wakes for no
reason. -/
def settles : Event T Method → Bool
  | .resume _ _ | .call _ .unlock _ => true
  | _ => false

/-- How far a thread is from being done, among `n` threads. -/
def load (n : ℕ) : Phase Method → ℕ
  | .asleep _ => 2 * (n + 1)
  | .woken _ => 2 * (n + 1) + 1
  | .returned .readlock | .returned .writelock => n + 1
  | _ => 0

lemma load_wake (n : ℕ) (p : Phase Method) : load n p.wake ≤ load n p + 1 := by
  cases p <;> simp [Phase.wake, load]

lemma load_le (n : ℕ) (p : Phase Method) : load n p ≤ 2 * n + 3 := by
  unfold load
  split <;> omega

lemma load_returned (n : ℕ) (k : Method) : load n (.returned k) ≤ n + 1 := by
  cases k <;> simp [load]

def totalLoad (s : Locked T) : ℕ := ∑ t, load (Fintype.card T) (s.phase t)

lemma attempt_decreases {t : T} {k : Method} {m : RWMutex} (pick : Option T)
    (hgo : (calls k).guard m = true → load (Fintype.card T) (.returned k) + Fintype.card T <
      load (Fintype.card T) (s.phase t))
    (hstay : (calls k).guard m = false → load (Fintype.card T) (.asleep k) < load (Fintype.card T) (s.phase t)) :
    totalLoad ((program T).attempt ⟨m, s.phase⟩ t k pick) < totalLoad s := by
  unfold Program.attempt
  split_ifs with hg
  · have hmove := Program.sum_update (load (Fintype.card T)) s.phase t (.returned k)
    have hnotify := Program.sum_notify_le (M := program T) (load_wake (Fintype.card T))
      (Function.update s.phase t (.returned k)) ((calls k).body m).2 pick
    have hless := hgo hg
    simp only [totalLoad]
    exact lt_of_le_of_lt hnotify (by omega)
  · have hmove := Program.sum_update (load (Fintype.card T)) s.phase t (.asleep k)
    have hless := hstay (by simpa using hg)
    simp only [totalLoad]
    omega

lemma settles_decreases {e : Event T Method} (he : (program T).runs.enabled s e) (hs : settles e = true) :
    totalLoad ((program T).runs.next s e) < totalLoad s := by
  cases e with
  | resume t pick =>
    simp only [Program.runs, Program.enabled, Program.next] at he ⊢
    cases hp : s.phase t with
    | woken k =>
      refine attempt_decreases pick (fun _ => ?_) fun _ => ?_
      · have hle := load_returned (Fintype.card T) k
        simp only [hp, load] at hle ⊢
        omega
      · simp [hp, load]
    | _ => simp [hp] at he
  | call t k pick =>
    cases k with
    | unlock =>
      have hheld : load (Fintype.card T) (s.phase t) = Fintype.card T + 1 := by
        have hm : (holds (s.phase t)).isSome := he.1
        unfold holds at hm
        split at hm <;> simp_all [load]
      show totalLoad ((program T).attempt ⟨s.shared, s.phase⟩ t .unlock pick) < totalLoad s
      refine attempt_decreases pick (fun _ => ?_) fun hg => ?_
      · rw [hheld]
        exact Nat.lt_add_one_of_le (Nat.zero_add _).le
      · simp [calls, unlock, Call.guard] at hg
    | _ => simp [settles] at hs
  | _ => simp [settles] at hs

lemma settling_run (es : List (Event T Method))
    (hp : Permitted (program T).runs (fun _ e => settles e = true) s es) :
    es.length + totalLoad (es.foldl (program T).runs.next s) ≤ totalLoad s := by
  induction es generalizing s with
  | nil => simp
  | cons e es ih =>
    have hfirst := settles_decreases hp.1.1 hp.1.2
    have hrest := ih hp.2
    simp only [List.length_cons, List.foldl_cons]
    omega

/-- When nobody can go on or release anything, nobody waits. -/
lemma settled_idle (hr : Reach (program T).runs anyStep s)
    (hdone : ∀ e : Event T Method, settles e = true → ¬(program T).runs.enabled s e) (t : T) :
    s.phase t = .idle ∨ s.phase t = .returned .unlock := by
  have hwoken (u : T) (k : Method) : s.phase u ≠ .woken k := by
    intro hu
    obtain ⟨pick, hpick⟩ := Program.exists_picks (M := program T) s.phase ((program T).noticeOf s.shared k)
    exact hdone (.resume u pick) rfl (by simpa [Program.runs, Program.enabled, hu] using hpick)
  have hheld (u : T) : holds (s.phase u) = none := by
    by_contra hu
    obtain ⟨pick, hpick⟩ := Program.exists_picks (M := program T) s.phase
      ((program T).noticeOf ((calls .unlock).enter s.shared) .unlock)
    refine hdone (.call u .unlock pick) rfl ⟨Option.isSome_iff_ne_none.mpr hu, ?_, hpick⟩
    cases hp : s.phase u <;> simp_all [holds, Phase.waiting]
  have h := consistent_reach hr
  have hw : s.shared.mWriterHasLock = false := by
    have hnone : Program.count writing s.phase = 0 := Program.count_eq_zero.mpr fun u => (free _ (hheld u)).2
    have hcount := h.writers
    rw [hnone] at hcount
    by_contra hlocked
    simp [hlocked] at hcount
  have hr0 : s.shared.mReaderCount = 0 :=
    h.readers.trans (Program.count_eq_zero.mpr fun u => (free _ (hheld u)).1)
  obtain ⟨hwriter, hreader⟩ := woken_in_time hr
  have hwriters (u : T) : s.phase u ≠ .asleep .writelock := fun hu => by
    obtain ⟨v, hv⟩ := hwriter hw hr0 ⟨u, hu⟩
    exact hwoken v _ hv
  have hp : s.shared.mPendingWriterCount = 0 := by
    refine h.pending.trans (Program.count_eq_zero.mpr fun u => ?_)
    have := hwoken u .writelock
    have := hwriters u
    unfold RWMutex.pending
    split <;> simp_all
  have hunlocking := Program.count_eq_zero.mp h.unlocking t
  have := hreader hw hp t
  have := hwriters t
  have := hheld t
  cases hphase : s.phase t with
  | idle => exact .inl rfl
  | woken k => exact absurd hphase (hwoken t k)
  | asleep k => cases k <;> simp_all [RWMutex.unlocking]
  | returned k => cases k <;> simp_all [holds]

/-- From every state, threads that only go on and release what they have are soon done, and once none of them can do
either, every request has been granted and every lock released. -/
theorem locks_granted (hr : Reach (program T).runs anyStep s) (es : List (Event T Method))
    (hp : Permitted (program T).runs (fun _ e => settles e = true) s es) :
    es.length ≤ Fintype.card T * (2 * Fintype.card T + 3) ∧
    ((∀ e, settles e = true → ¬(program T).runs.enabled (es.foldl (program T).runs.next s) e) →
      ∀ t, (es.foldl (program T).runs.next s).phase t = .idle ∨
        (es.foldl (program T).runs.next s).phase t = .returned .unlock) := by
  constructor
  · have hrun := settling_run es hp
    have hbound : totalLoad s ≤ Fintype.card T * (2 * Fintype.card T + 3) := by
      calc totalLoad s ≤ ∑ _t : T, (2 * Fintype.card T + 3) := Finset.sum_le_sum fun t _ => load_le _ _
        _ = Fintype.card T * (2 * Fintype.card T + 3) := by simp
    omega
  · refine fun hdone t => settled_idle (hr.run es ?_) hdone t
    exact hp.mono fun _ _ _ => trivial

/-- The writer lets go, and the reader goes on and lets go. -/
theorem locks_granted_contended :
    let es : List (Event (Fin 3) Method) := [.call 1 .unlock none, .resume 2 none, .call 2 .unlock none]
    es.length ≤ 27 ∧ ∀ t, (es.foldl (program (Fin 3)).runs.next contended).phase t = .returned .unlock :=
  ⟨(locks_granted reach_contended [.call 1 .unlock none, .resume 2 none, .call 2 .unlock none] (by decide)).1,
    by decide⟩

end RWMutex

end Resiprocate.Rutil
