import Resiprocate.RegistrationDatabase
import Resiprocate.TransitionSystem

/-! Threads that lock the records of the registration database, change them and unlock them. What a
thread does under a mutex is one step. A thread that waits for a record sleeps without the mutex. -/
namespace Resiprocate.Dum
open TransitionSystem

/-- Where a thread is in the code of the database: out of it, asleep in `lockRecord`, with a pointer
to the list of contacts in `updateContact` or `removeContact`, or at the call of `removeAor` in
`removeContact`. -/
inductive ThreadPlace (α ρ : Type*)
  | outside
  | waiting (aor : α)
  | updating (aor : α) (rec : ρ)
  | removing (aor : α) (rec : ρ)
  | emptied (aor : α)
  deriving DecidableEq

/-- The address whose list of contacts a thread has a pointer to. -/
def ThreadPlace.uses {α ρ : Type*} : ThreadPlace α ρ → Option α
  | .updating aor _ | .removing aor _ | .emptied aor => some aor
  | .outside | .waiting _ => none

def ThreadPlace.isOutside {α ρ : Type*} : ThreadPlace α ρ → Bool
  | .outside => true
  | .waiting _ | .updating _ _ | .removing _ _ | .emptied _ => false

inductive RecordCall (α ρ : Type*)
  | lockRecord (aor : α)
  | unlockRecord (aor : α)
  | addAor (aor : α) (contacts : List ρ)
  | removeAor (aor : α)
  | updateContact (aor : α) (rec : ρ)
  | removeContact (aor : α) (rec : ρ)
  deriving DecidableEq

/-- The record that the caller has to have locked. -/
def RecordCall.changes {α ρ : Type*} : RecordCall α ρ → Option α
  | .lockRecord _ => none
  | .unlockRecord aor | .addAor aor _ | .removeAor aor | .updateContact aor _
  | .removeContact aor _ => some aor

/-- A thread calls the database, or goes on with its call. -/
inductive ThreadStep (τ α ρ : Type*)
  | call (thread : τ) (c : RecordCall α ρ)
  | proceed (thread : τ)
  deriving DecidableEq

structure RegistrationThreads (τ α ρ : Type*) [LinearOrder α] where
  database : InMemoryRegistrationDatabase α ρ
  place : τ → ThreadPlace α ρ
  /-- Which records a thread has locked and not unlocked. -/
  holds : τ → α → Bool

namespace RegistrationThreads
variable {τ α ρ : Type*} [LinearOrder α]

def withDatabase (s : RegistrationThreads τ α ρ) (db : InMemoryRegistrationDatabase α ρ) :
    RegistrationThreads τ α ρ :=
  { s with database := db }

section Setters
variable (s : RegistrationThreads τ α ρ) (db : InMemoryRegistrationDatabase α ρ)

@[simp] theorem database_withDatabase : (s.withDatabase db).database = db := rfl
@[simp] theorem holds_withDatabase : (s.withDatabase db).holds = s.holds := rfl
@[simp] theorem place_withDatabase : (s.withDatabase db).place = s.place := rfl

end Setters

/-- Every locked record has one holder, and a thread with a pointer to a list of contacts holds the
record that has it. -/
structure Exclusive (s : RegistrationThreads τ α ρ) : Prop where
  locked : ∀ a, s.database.isLocked a ↔ ∃ t, s.holds t a
  one : ∀ t t' a, s.holds t a → s.holds t' a → t = t'
  inside : ∀ t a, (s.place t).uses = some a → s.holds t a ∧ (s.database.contactList a).isSome

namespace Exclusive
variable {s : RegistrationThreads τ α ρ} {t : τ} {aor : α}

/-- A change of the database that keeps the locks, and the lists that threads have pointers to. -/
theorem withDatabase (h : Exclusive s) {db : InMemoryRegistrationDatabase α ρ}
    (hlocked : ∀ a, db.isLocked a = s.database.isLocked a)
    (hlist : ∀ t a, (s.place t).uses = some a → (db.contactList a).isSome) :
    Exclusive (s.withDatabase db) := by
  refine ⟨fun a => ?_, h.one, fun t a ha => ⟨(h.inside t a ha).1, hlist t a ha⟩⟩
  rw [database_withDatabase, hlocked]
  exact h.locked a

theorem list (h : Exclusive s) {a : α} (ha : (s.place t).uses = some a) :
    (s.database.contactList a).isSome := (h.inside t a ha).2

/-- Only the holder of a record has a pointer to its list. -/
theorem unused (h : Exclusive s) (hholds : s.holds t aor) (ht : (s.place t).uses ≠ some aor) (u : τ) :
    (s.place u).uses ≠ some aor := by
  intro hu
  obtain rfl := h.one u t aor (h.inside u aor hu).1 hholds
  exact ht hu

/-- The record of one address is replaced while no thread has a pointer to its list. -/
theorem withRecord (h : Exclusive s) {db : InMemoryRegistrationDatabase α ρ}
    (hlocked : ∀ a, db.isLocked a = s.database.isLocked a)
    (hlist : ∀ a, a ≠ aor → db.contactList a = s.database.contactList a)
    (hunused : ∀ u, (s.place u).uses ≠ some aor) : Exclusive (s.withDatabase db) := by
  refine h.withDatabase hlocked fun u a hu => ?_
  rw [hlist a fun ha => hunused u (ha ▸ hu)]
  exact h.list hu

theorem writeContactList (h : Exclusive s) (write : List ρ → List ρ) :
    Exclusive (s.withDatabase (s.database.writeContactList aor write)) := by
  refine h.withDatabase (by simp) fun u a hu => ?_
  rw [InMemoryRegistrationDatabase.contactList_writeContactList]
  split_ifs
  · simpa using h.list hu
  · exact h.list hu

end Exclusive

/-- Locked addresses are keys of the map. -/
def Keyed (s : RegistrationThreads τ α ρ) : Prop :=
  ∀ a, s.database.isLocked a → s.database.isKey a

/-- A change of the database that locks no record and takes no key. -/
theorem Keyed.withDatabase {s : RegistrationThreads τ α ρ} (h : s.Keyed)
    {db : InMemoryRegistrationDatabase α ρ}
    (hlocked : ∀ a, db.isLocked a = s.database.isLocked a)
    (hkey : ∀ a, s.database.isKey a → db.isKey a) : (s.withDatabase db).Keyed :=
  fun a ha => hkey a (h a ((hlocked a).symm.trans ha))

/-- A locked record has exactly one holder, its address is a key, and its holder can unlock it. -/
def Sound (s : RegistrationThreads τ α ρ) : Prop :=
  (∀ a, s.database.isLocked a → (∃! t, s.holds t a) ∧ s.database.isKey a) ∧
    ∀ t a, s.holds t a → (s.database.unlockRecord a).isSome

theorem Exclusive.sound_iff {s : RegistrationThreads τ α ρ} (h : Exclusive s) :
    s.Sound ↔ s.Keyed := by
  constructor
  · exact fun hs a ha => (hs.1 a ha).2
  · refine fun hk => ⟨fun a ha => ⟨?_, hk a ha⟩, fun t a ht => ?_⟩
    · obtain ⟨t, ht⟩ := (h.locked a).mp ha
      exact ⟨t, ht, fun u hu => h.one u t a hu ht⟩
    · rw [InMemoryRegistrationDatabase.isSome_unlockRecord]
      exact hk a ((h.locked a).mpr ⟨t, ht⟩)

variable [DecidableEq τ]

def goTo (s : RegistrationThreads τ α ρ) (t : τ) (p : ThreadPlace α ρ) :
    RegistrationThreads τ α ρ :=
  { s with place := Function.update s.place t p }

def setHolds (s : RegistrationThreads τ α ρ) (t : τ) (aor : α) (b : Bool) :
    RegistrationThreads τ α ρ :=
  { s with holds := fun t' a => if t' = t ∧ a = aor then b else s.holds t' a }

/-- The loop of `lockRecord`: the thread sleeps while the record is locked, and locks it. -/
def acquire (s : RegistrationThreads τ α ρ) (t : τ) (aor : α) : RegistrationThreads τ α ρ :=
  if s.database.isLocked aor then s.goTo t (.waiting aor)
  else ((s.withDatabase (s.database.insertLock aor)).setHolds t aor true).goTo t .outside

section Setters
variable (s : RegistrationThreads τ α ρ) (t : τ) (aor : α) (p : ThreadPlace α ρ)
  (b : Bool)

@[simp] theorem database_goTo : (s.goTo t p).database = s.database := rfl
@[simp] theorem holds_goTo : (s.goTo t p).holds = s.holds := rfl
@[simp] theorem place_goTo : (s.goTo t p).place = Function.update s.place t p := rfl
@[simp] theorem database_setHolds : (s.setHolds t aor b).database = s.database := rfl
@[simp] theorem place_setHolds : (s.setHolds t aor b).place = s.place := rfl
@[simp] theorem holds_setHolds (t' : τ) (a : α) :
    (s.setHolds t aor b).holds t' a = if t' = t ∧ a = aor then b else s.holds t' a := rfl

end Setters

namespace Exclusive
variable {s : RegistrationThreads τ α ρ} {t : τ} {aor : α}

theorem goTo (h : Exclusive s) {p : ThreadPlace α ρ}
    (hp : ∀ a, p.uses = some a → s.holds t a ∧ (s.database.contactList a).isSome) :
    Exclusive (s.goTo t p) := by
  refine ⟨h.locked, h.one, fun t' a ha => ?_⟩
  by_cases ht : t' = t
  · subst ht
    exact hp a (by simpa using ha)
  · exact h.inside t' a (by simpa [ht] using ha)

theorem unlock (h : Exclusive s) (hholds : s.holds t aor) (ht : (s.place t).uses = none)
    {db : InMemoryRegistrationDatabase α ρ} (hdb : s.database.unlockRecord aor = some db) :
    Exclusive ((s.withDatabase db).setHolds t aor false) := by
  have hlocked := InMemoryRegistrationDatabase.isLocked_unlockRecord hdb
  constructor
  · intro a
    rw [database_setHolds, database_withDatabase, hlocked]
    by_cases ha : a = aor
    · subst ha
      -- its holder was the only one
      simp only [decide_true, Bool.not_true, Bool.false_and, Bool.false_eq_true, false_iff]
      rintro ⟨u, hu⟩
      by_cases hut : u = t
      · simp [hut] at hu
      · exact hut (h.one u t a (by simpa [hut] using hu) hholds)
    · simpa [ha, Ne.symm ha] using h.locked a
  · intro u v a hu hv
    rw [holds_setHolds] at hu hv
    split_ifs at hu hv
    exact h.one u v a hu hv
  · intro u a hu
    have hne : a ≠ aor := by
      rintro rfl
      exact h.unused hholds (by simp [ht]) u hu
    rw [database_setHolds, database_withDatabase,
      InMemoryRegistrationDatabase.contactList_unlockRecord hdb]
    exact ⟨by simpa [hne] using (h.inside u a hu).1, h.list hu⟩

theorem acquire (h : Exclusive s) : Exclusive (s.acquire t aor) := by
  unfold RegistrationThreads.acquire
  split
  case isTrue => exact h.goTo (by simp [ThreadPlace.uses])
  case isFalse hfree =>
    have hnone : ∀ t', s.holds t' aor = false := by
      intro t'
      by_contra hholds
      exact hfree ((h.locked aor).mpr ⟨t', by simpa using hholds⟩)
    apply Exclusive.goTo
    · constructor
      · intro a
        by_cases ha : a = aor
        · subst ha
          simp only [database_setHolds, database_withDatabase,
            InMemoryRegistrationDatabase.isLocked_insertLock, decide_true, Bool.true_or, true_iff]
          exact ⟨t, by simp⟩
        · simpa [ha, Ne.symm ha] using h.locked a
      · intro u v a hu hv
        by_cases ha : a = aor
        · subst ha
          simp_all
        · simp only [holds_setHolds, ha, and_false, if_false] at hu hv
          exact h.one u v a hu hv
      · intro u a ha
        obtain ⟨hu, hlist⟩ := h.inside u a ha
        refine ⟨?_, hlist⟩
        rw [holds_setHolds]
        split_ifs
        · rfl
        · exact hu
    · simp [ThreadPlace.uses]

end Exclusive

theorem keyed_acquire {s : RegistrationThreads τ α ρ} {t : τ} {aor : α} (h : s.Keyed) :
    (s.acquire t aor).Keyed ↔ s.database.isLocked aor ∨ s.database.isKey aor := by
  unfold acquire
  split
  case isTrue hlocked => exact ⟨fun _ => .inl hlocked, fun _ => h⟩
  case isFalse hfree =>
    constructor
    · intro hk
      exact .inr (by simpa using hk aor (by simp))
    · rintro hk a ha
      rcases hk with hlocked | hkey
      · exact absurd hlocked hfree
      · simp only [database_goTo, database_setHolds, database_withDatabase,
          InMemoryRegistrationDatabase.isLocked_insertLock, Bool.or_eq_true,
          decide_eq_true_eq] at ha
        rcases ha with rfl | ha
        · exact hkey
        · exact h a ha

def call (s : RegistrationThreads τ α ρ) (t : τ) : RecordCall α ρ → RegistrationThreads τ α ρ
  | .lockRecord aor => (s.withDatabase (s.database.insertRecord aor)).acquire t aor
  | .unlockRecord aor =>
    match s.database.unlockRecord aor with
    | some db => (s.withDatabase db).setHolds t aor false
    | none => s
  | .addAor aor contacts => s.withDatabase (s.database.addAor aor contacts)
  | .removeAor aor => s.withDatabase (s.database.removeAor aor)
  | .updateContact aor rec =>
    (s.withDatabase (s.database.makeContactList aor)).goTo t (.updating aor rec)
  | .removeContact aor rec =>
    if s.database.aorIsRegistered aor then s.goTo t (.removing aor rec) else s

theorem Exclusive.call {s : RegistrationThreads τ α ρ} {t : τ} {c : RecordCall α ρ}
    (h : Exclusive s) (ht : (s.place t).uses = none)
    (hc : ∀ aor ∈ c.changes, s.holds t aor) : Exclusive (s.call t c) := by
  cases c with
  | lockRecord aor => exact (h.withDatabase (by simp) fun u a hu => by simpa using h.list hu).acquire
  | unlockRecord aor =>
    simp only [RegistrationThreads.call]
    split
    case h_1 db hdb => exact h.unlock (hc aor rfl) ht hdb
    case h_2 => exact h
  | addAor aor contacts =>
    exact h.withRecord (by simp [InMemoryRegistrationDatabase.addAor])
      (fun a ha => by simp [Ne.symm ha]) (h.unused (hc aor rfl) (by simp [ht]))
  | removeAor aor =>
    exact h.withRecord (by simp) (fun a ha => by simp [Ne.symm ha])
      (h.unused (hc aor rfl) (by simp [ht]))
  | updateContact aor rec =>
    refine (h.withRecord (by simp) (fun a ha => by simp [Ne.symm ha])
      (h.unused (hc aor rfl) (by simp [ht]))).goTo fun a ha => ?_
    obtain rfl : aor = a := by simpa [ThreadPlace.uses] using ha
    exact ⟨hc aor rfl, by simp⟩
  | removeContact aor rec =>
    simp only [RegistrationThreads.call]
    split
    case isTrue hlist =>
      refine h.goTo fun a ha => ?_
      obtain rfl : aor = a := by simpa [ThreadPlace.uses] using ha
      exact ⟨hc aor rfl, hlist⟩
    case isFalse => exact h

theorem keyed_call {s : RegistrationThreads τ α ρ} {t : τ} {c : RecordCall α ρ} (h : s.Keyed) :
    (s.call t c).Keyed := by
  cases c with
  | lockRecord aor =>
    exact (keyed_acquire (h.withDatabase (by simp) (by simp +contextual))).mpr (.inr (by simp))
  | unlockRecord aor =>
    simp only [call]
    split
    case h_1 db hdb =>
      intro a ha
      have hlocked := InMemoryRegistrationDatabase.isLocked_unlockRecord hdb a
      rw [database_setHolds, database_withDatabase] at ha ⊢
      rw [ha] at hlocked
      have hne : a ≠ aor := by
        rintro rfl
        simp at hlocked
      rw [InMemoryRegistrationDatabase.isKey_unlockRecord hdb hne]
      exact h a (by simpa [Ne.symm hne] using hlocked.symm)
    case h_2 => exact h
  | addAor aor contacts =>
    exact h.withDatabase (by simp [InMemoryRegistrationDatabase.addAor]) (by simp +contextual)
  | removeAor aor => exact h.withDatabase (by simp) (by simp)
  | updateContact aor rec => exact h.withDatabase (by simp) (by simp +contextual)
  | removeContact aor rec =>
    simp only [call]
    split <;> exact h

variable [BEq ρ]

/-- The end of `removeContact`: the address goes when its last contact was erased. -/
def erase (s : RegistrationThreads τ α ρ) (t : τ) (aor : α) (rec : ρ) :
    RegistrationThreads τ α ρ :=
  let contacts := s.database.getContacts aor
  let erased := s.withDatabase (s.database.writeContactList aor (List.eraseP (· == rec)))
  if contacts.any (· == rec) && (contacts.eraseP (· == rec)).isEmpty then
    erased.goTo t (.emptied aor)
  else erased.goTo t .outside

def proceed (s : RegistrationThreads τ α ρ) (t : τ) : RegistrationThreads τ α ρ :=
  match s.place t with
  | .outside => s
  | .waiting aor => s.acquire t aor
  | .updating aor rec =>
    (s.withDatabase (s.database.writeContactList aor fun contacts =>
      (updateContactList rec contacts).1)).goTo t .outside
  | .removing aor rec => s.erase t aor rec
  | .emptied aor => (s.withDatabase (s.database.removeAor aor)).goTo t .outside

def next (s : RegistrationThreads τ α ρ) : ThreadStep τ α ρ → RegistrationThreads τ α ρ
  | .call t c => s.call t c
  | .proceed t => s.proceed t

/-- A thread that no other one interrupts does what `updateContact` does. -/
theorem database_updateContact (s : RegistrationThreads τ α ρ) (t : τ) (aor : α) (rec : ρ) :
    ((s.call t (.updateContact aor rec)).proceed t).database =
      (s.database.updateContact aor rec).1 := by
  simp [call, proceed, InMemoryRegistrationDatabase.updateContact]

theorem database_removeContact (s : RegistrationThreads τ α ρ) {t : τ} (ht : s.place t = .outside)
    (aor : α) (rec : ρ) :
    (((s.call t (.removeContact aor rec)).proceed t).proceed t).database =
      s.database.removeContact aor rec := by
  rcases hr : s.database.record aor with _ | _ | contacts
  · simp [call, proceed, InMemoryRegistrationDatabase.removeContact, hr, ht,
      InMemoryRegistrationDatabase.aorIsRegistered, InMemoryRegistrationDatabase.contactList]
  · simp [call, proceed, InMemoryRegistrationDatabase.removeContact, hr, ht,
      InMemoryRegistrationDatabase.aorIsRegistered, InMemoryRegistrationDatabase.contactList]
  · have hlist : s.database.contactList aor = some contacts := by
      simp [InMemoryRegistrationDatabase.contactList, hr]
    simp only [call, InMemoryRegistrationDatabase.aorIsRegistered, hlist, Option.isSome_some,
      if_true, InMemoryRegistrationDatabase.removeContact, hr]
    have herase : (s.goTo t (.removing aor rec)).proceed t =
        (s.goTo t (.removing aor rec)).erase t aor rec := by
      rw [proceed, place_goTo, Function.update_self]
    rw [herase]
    simp only [erase, database_goTo, InMemoryRegistrationDatabase.getContacts, hlist,
      Option.getD_some, InMemoryRegistrationDatabase.contactList_writeContactList, if_true,
      Option.map_some]
    split_ifs
    · simp [proceed]
    · simp [proceed]

/-- A thread changes and unlocks only records that it has locked. The assertion of `unlockRecord`
ends the run. -/
def allowed (s : RegistrationThreads τ α ρ) : ThreadStep τ α ρ → Bool
  | .call t c =>
    (s.place t).isOutside && (c.changes.all fun aor => s.holds t aor) &&
      match c with
      | .unlockRecord aor => (s.database.unlockRecord aor).isSome
      | _ => true
  | .proceed t => !(s.place t).isOutside

variable (τ α ρ) in
/-- Threads start outside of a database none of whose records is locked. -/
def runs : System (RegistrationThreads τ α ρ) (ThreadStep τ α ρ) where
  init s := (∀ a, s.database.isLocked a = false) ∧ (∀ t a, s.holds t a = false) ∧
    ∀ t, s.place t = .outside
  enabled s e := s.allowed e
  next s e := s.next e

instance (s : RegistrationThreads τ α ρ) (e : ThreadStep τ α ρ) :
    Decidable ((runs τ α ρ).enabled s e) :=
  inferInstanceAs (Decidable (s.allowed e = true))

namespace Exclusive
variable {s : RegistrationThreads τ α ρ} {t : τ}

theorem proceed (h : Exclusive s) : Exclusive (s.proceed t) := by
  unfold RegistrationThreads.proceed
  cases hp : s.place t with
  | outside => exact h
  | waiting aor => exact h.acquire
  | updating aor rec => exact (h.writeContactList _).goTo (by simp [ThreadPlace.uses])
  | removing aor rec =>
    have hin := h.inside t aor (by simp [hp, ThreadPlace.uses])
    simp only [erase]
    split
    · refine (h.writeContactList _).goTo fun a ha => ?_
      obtain rfl : aor = a := by simpa [ThreadPlace.uses] using ha
      exact ⟨hin.1, by simpa using hin.2⟩
    · exact (h.writeContactList _).goTo (by simp [ThreadPlace.uses])
  | emptied aor =>
    have hin := h.inside t aor (by simp [hp, ThreadPlace.uses])
    -- the pointer to the list is dropped before the address goes
    have hgo : Exclusive (s.goTo t .outside) := h.goTo (by simp [ThreadPlace.uses])
    have hunused : ∀ u, ((s.goTo t .outside).place u).uses ≠ some aor :=
      hgo.unused hin.1 (by simp [ThreadPlace.uses])
    exact hgo.withRecord (by simp) (fun a ha => by simp [Ne.symm ha]) hunused

theorem next {e : ThreadStep τ α ρ} (h : Exclusive s) (he : s.allowed e) :
    Exclusive (s.next e) := by
  cases e with
  | call t c =>
    simp only [allowed, Bool.and_eq_true, Option.all_eq_true] at he
    refine h.call ?_ he.1.2
    cases hp : s.place t <;> simp_all [ThreadPlace.isOutside, ThreadPlace.uses]
  | proceed t => exact h.proceed

end Exclusive

/-- A thread that wakes and can lock its record finds that its address is still a key. -/
def findsRecord (s : RegistrationThreads τ α ρ) : ThreadStep τ α ρ → Bool
  | .call _ _ => true
  | .proceed t =>
    match s.place t with
    | .waiting aor => s.database.isLocked aor || s.database.isKey aor
    | _ => true

section Keyed
variable {s : RegistrationThreads τ α ρ} {t : τ}

theorem keyed_next {e : ThreadStep τ α ρ} (h : s.Keyed) : (s.next e).Keyed ↔ s.findsRecord e := by
  cases e with
  | call t c => exact iff_of_true (keyed_call h) rfl
  | proceed t =>
    simp only [RegistrationThreads.next, proceed, findsRecord]
    cases hp : s.place t with
    | outside => exact iff_of_true h rfl
    | waiting aor => exact (keyed_acquire h).trans (Bool.or_eq_true _ _).symm.to_iff
    | updating aor rec => exact iff_of_true (h.withDatabase (by simp) (by simp)) rfl
    | removing aor rec =>
      refine iff_of_true ?_ rfl
      simp only [erase]
      split
      · exact h.withDatabase (by simp) (by simp)
      · exact h.withDatabase (by simp) (by simp)
    | emptied aor => exact iff_of_true (h.withDatabase (by simp) (by simp)) rfl

end Keyed

theorem exclusive {ok : RegistrationThreads τ α ρ → ThreadStep τ α ρ → Prop}
    {s : RegistrationThreads τ α ρ} (h : Reach (runs τ α ρ) ok s) : Exclusive s := by
  refine h.invariant ?_ fun _ _ _ hs he _ => hs.next he
  rintro s ⟨hfree, hholds, hplace⟩
  exact ⟨by simp [hfree, hholds], by simp [hholds], by simp [hplace, ThreadPlace.uses]⟩

/-- While every thread that wakes finds its record, locked records are keys with one holder, and
the first one that does not ends that. -/
theorem locked_record_kept {s : RegistrationThreads τ α ρ}
    (h : Reach (runs τ α ρ) (fun s e => s.findsRecord e) s) :
    s.Sound ∧ ∀ e, s.allowed e → ((s.next e).Sound ↔ s.findsRecord e) := by
  have hs := exclusive h
  have hk : s.Keyed := by
    refine h.invariant ?_ fun _ _ _ hk _ hok => (keyed_next hk).mpr hok
    rintro s ⟨hfree, -, -⟩ a ha
    simp [hfree] at ha
  exact ⟨hs.sound_iff.mpr hk, fun e he => (hs.next he).sound_iff.trans (keyed_next hk)⟩

/-- No thread is in a database with no address. -/
def idle (τ α ρ : Type*) [LinearOrder α] : RegistrationThreads τ α ρ where
  database := ⟨∅, ∅⟩
  place _ := .outside
  holds _ _ := false

theorem init_idle : (runs τ α ρ).init (idle τ α ρ) := by
  simp [runs, idle, InMemoryRegistrationDatabase.isLocked]

/-- One thread registers a contact while another waits for the record. -/
theorem locked_record_kept_registered :
    let s := [.call 1 (.lockRecord 7), .call 2 (.lockRecord 7), .call 1 (.updateContact 7 5),
      .proceed 1, .call 1 (.unlockRecord 7), .proceed 2].foldl (runs ℕ ℕ ℕ).next (idle ℕ ℕ ℕ)
    s.holds 2 7 = true ∧ s.Sound :=
  ⟨by decide, (locked_record_kept (Reach.run (.init init_idle) _ (by decide))).1⟩

/-- The thread that waits inserted a null record, and the holder erases it. -/
theorem not_locked_record_kept :
    ¬(∀ s, Reach (runs ℕ ℕ ℕ) anyStep s → s.Sound) := by
  intro h
  have hrun := h _ (Reach.run (.init init_idle) [.call 1 (.lockRecord 7), .call 2 (.lockRecord 7),
    .call 1 (.unlockRecord 7), .proceed 2] (by decide))
  exact absurd (hrun.2 2 7 (by decide)) (by decide)

end RegistrationThreads

end Resiprocate.Dum
