import Mathlib

/-! The registration database in memory. An address of record is a key of its map, with a list of
contacts or with a null pointer, or it is no key. A thread locks the record of an address before it
changes it. -/
namespace Resiprocate.Dum

inductive UpdateStatus
  | CONTACT_UPDATED
  | CONTACT_CREATED
  deriving DecidableEq

/-- `InMemoryRegistrationDatabase`, without checks for expiry. -/
structure InMemoryRegistrationDatabase (α ρ : Type*) [LinearOrder α] where
  mDatabase : Std.ExtTreeMap α (Option (List ρ))
  mLockedRecords : Std.ExtTreeSet α

/-- The loop of `updateContact`: the first record that matches is replaced. -/
def updateContactList {ρ : Type*} [BEq ρ] (rec : ρ) : List ρ → List ρ × UpdateStatus
  | [] => ([rec], .CONTACT_CREATED)
  | c :: cs =>
    if c == rec then (rec :: cs, .CONTACT_UPDATED)
    else (c :: (updateContactList rec cs).1, (updateContactList rec cs).2)

namespace InMemoryRegistrationDatabase
variable {α ρ : Type*} [LinearOrder α]

local instance transCmp_aor : Std.TransCmp (compare : α → α → Ordering) := inferInstance

/-- What the map has for an address. -/
def record (db : InMemoryRegistrationDatabase α ρ) (aor : α) : Option (Option (List ρ)) :=
  db.mDatabase[aor]?

/-- The list that an address points to. -/
def contactList (db : InMemoryRegistrationDatabase α ρ) (aor : α) : Option (List ρ) :=
  (db.record aor).join

def setRecord (db : InMemoryRegistrationDatabase α ρ) (aor : α) (contacts : Option (List ρ)) :
    InMemoryRegistrationDatabase α ρ :=
  { db with mDatabase := db.mDatabase.insert aor contacts }

/-- `mDatabase.erase`. -/
def eraseRecord (db : InMemoryRegistrationDatabase α ρ) (aor : α) :
    InMemoryRegistrationDatabase α ρ :=
  { db with mDatabase := db.mDatabase.erase aor }

def isKey (db : InMemoryRegistrationDatabase α ρ) (aor : α) : Bool := db.mDatabase.contains aor

def isLocked (db : InMemoryRegistrationDatabase α ρ) (aor : α) : Bool :=
  db.mLockedRecords.contains aor

def addAor (db : InMemoryRegistrationDatabase α ρ) (aor : α) (contacts : List ρ) :
    InMemoryRegistrationDatabase α ρ :=
  db.setRecord aor (some contacts)

def removeAor (db : InMemoryRegistrationDatabase α ρ) (aor : α) :
    InMemoryRegistrationDatabase α ρ :=
  match db.record aor with
  | some (some _) => db.setRecord aor none
  | _ => db

def getAors (db : InMemoryRegistrationDatabase α ρ) : List α := db.mDatabase.keys

def aorIsRegistered (db : InMemoryRegistrationDatabase α ρ) (aor : α) : Bool :=
  (db.contactList aor).isSome

def getContacts (db : InMemoryRegistrationDatabase α ρ) (aor : α) : List ρ :=
  (db.contactList aor).getD []

/-- The first part of `lockRecord`: a null record is inserted if there is none. -/
def insertRecord (db : InMemoryRegistrationDatabase α ρ) (aor : α) :
    InMemoryRegistrationDatabase α ρ :=
  { db with mDatabase := db.mDatabase.insertIfNew aor none }

/-- The end of `lockRecord`. -/
def insertLock (db : InMemoryRegistrationDatabase α ρ) (aor : α) :
    InMemoryRegistrationDatabase α ρ :=
  { db with mLockedRecords := db.mLockedRecords.insert aor }

/-- The end of `unlockRecord`. -/
def eraseLock (db : InMemoryRegistrationDatabase α ρ) (aor : α) :
    InMemoryRegistrationDatabase α ρ :=
  { db with mLockedRecords := db.mLockedRecords.erase aor }

/-- `lockRecord` as far as it goes without waiting. -/
def lockRecord (db : InMemoryRegistrationDatabase α ρ) (aor : α) :
    Option (InMemoryRegistrationDatabase α ρ) :=
  if (db.insertRecord aor).isLocked aor then none else some ((db.insertRecord aor).insertLock aor)

/-- `unlockRecord`: it asserts that the address is a key, and erases a null record. -/
def unlockRecord (db : InMemoryRegistrationDatabase α ρ) (aor : α) :
    Option (InMemoryRegistrationDatabase α ρ) :=
  match db.record aor with
  | none => none
  | some none => some ((db.eraseRecord aor).eraseLock aor)
  | some (some _) => some (db.eraseLock aor)

/-- The part of `updateContact` under the mutex: it finds the list of contacts or makes one. -/
def makeContactList (db : InMemoryRegistrationDatabase α ρ) (aor : α) :
    InMemoryRegistrationDatabase α ρ :=
  match db.record aor with
  | some (some _) => db
  | _ => db.setRecord aor (some [])

/-- What is done through the pointer to the list of contacts, outside the mutex. -/
def writeContactList (db : InMemoryRegistrationDatabase α ρ) (aor : α) (write : List ρ → List ρ) :
    InMemoryRegistrationDatabase α ρ :=
  match db.record aor with
  | some (some contacts) => db.setRecord aor (some (write contacts))
  | _ => db

section Record
variable (db : InMemoryRegistrationDatabase α ρ) (aor a : α) (contacts : Option (List ρ))

theorem isKey_eq : db.isKey a = (db.record a).isSome :=
  Std.ExtTreeMap.contains_eq_isSome_getElem?

@[simp] theorem record_setRecord :
    (db.setRecord aor contacts).record a = if aor = a then some contacts else db.record a := by
  simp [record, setRecord, Std.ExtTreeMap.getElem?_insert]

@[simp] theorem record_eraseRecord :
    (db.eraseRecord aor).record a = if aor = a then none else db.record a := by
  simp [record, eraseRecord, Std.ExtTreeMap.getElem?_erase]

@[simp] theorem record_insertRecord :
    (db.insertRecord aor).record a =
      if aor = a then some (db.record a).join else db.record a := by
  simp only [record, insertRecord, Std.ExtTreeMap.getElem?_insertIfNew]
  by_cases h : aor = a
  · subst h
    by_cases hmem : aor ∈ db.mDatabase <;> simp [hmem]
  · simp [h]

@[simp] theorem record_insertLock : (db.insertLock aor).record a = db.record a := rfl

@[simp] theorem record_eraseLock : (db.eraseLock aor).record a = db.record a := rfl

@[simp] theorem record_removeAor :
    (db.removeAor aor).record a =
      if aor = a then (db.record a).map fun _ => none else db.record a := by
  by_cases h : aor = a
  · subst h
    rcases hr : db.record aor with _ | _ | contacts <;> simp [removeAor, hr]
  · rcases hr : db.record aor with _ | _ | contacts <;> simp [removeAor, hr, h]

@[simp] theorem record_makeContactList :
    (db.makeContactList aor).record a =
      if aor = a then some (some (db.getContacts a)) else db.record a := by
  by_cases h : aor = a
  · subst h
    rcases hr : db.record aor with _ | _ | contacts <;>
      simp [makeContactList, getContacts, contactList, hr]
  · rcases hr : db.record aor with _ | _ | contacts <;> simp [makeContactList, hr, h]

@[simp] theorem record_writeContactList (write : List ρ → List ρ) :
    (db.writeContactList aor write).record a =
      if aor = a then (db.record a).map (Option.map write) else db.record a := by
  by_cases h : aor = a
  · subst h
    rcases hr : db.record aor with _ | _ | contacts <;> simp [writeContactList, hr]
  · rcases hr : db.record aor with _ | _ | contacts <;> simp [writeContactList, hr, h]

@[simp] theorem isLocked_setRecord : (db.setRecord aor contacts).isLocked a = db.isLocked a := rfl

@[simp] theorem isLocked_eraseRecord : (db.eraseRecord aor).isLocked a = db.isLocked a := rfl

@[simp] theorem isLocked_insertRecord : (db.insertRecord aor).isLocked a = db.isLocked a := rfl

@[simp] theorem isLocked_insertLock :
    (db.insertLock aor).isLocked a = (decide (aor = a) || db.isLocked a) := by
  by_cases h : aor = a <;> simp [isLocked, insertLock, Std.ExtTreeSet.contains_insert, h]

@[simp] theorem isLocked_eraseLock :
    (db.eraseLock aor).isLocked a = (!decide (aor = a) && db.isLocked a) := by
  by_cases h : aor = a <;> simp [isLocked, eraseLock, Std.ExtTreeSet.contains_erase, h]

@[simp] theorem isLocked_removeAor : (db.removeAor aor).isLocked a = db.isLocked a := by
  unfold removeAor
  split <;> simp

@[simp] theorem isLocked_makeContactList :
    (db.makeContactList aor).isLocked a = db.isLocked a := by
  unfold makeContactList
  split <;> simp

@[simp] theorem isLocked_writeContactList (write : List ρ → List ρ) :
    (db.writeContactList aor write).isLocked a = db.isLocked a := by
  unfold writeContactList
  split <;> simp

end Record

/-- `unlockRecord` runs on when the address is a key. It erases a null record and the lock. -/
theorem unlockRecord_eq_some {db db' : InMemoryRegistrationDatabase α ρ} {aor : α} :
    db.unlockRecord aor = some db' ↔ db.isKey aor ∧
      db' = (if (db.contactList aor).isSome then db else db.eraseRecord aor).eraseLock aor := by
  rw [isKey_eq]
  rcases hr : db.record aor with _ | _ | contacts <;>
    simp [unlockRecord, contactList, hr, eq_comm]

theorem isSome_unlockRecord {db : InMemoryRegistrationDatabase α ρ} {aor : α} :
    (db.unlockRecord aor).isSome = db.isKey aor := by
  rw [isKey_eq]
  rcases hr : db.record aor with _ | _ | contacts <;> simp [unlockRecord, hr]

section ContactList
variable (db : InMemoryRegistrationDatabase α ρ) {aor a : α}

@[simp] theorem contactList_insertRecord :
    (db.insertRecord aor).contactList a = db.contactList a := by
  by_cases h : aor = a <;> simp [contactList, h]

@[simp] theorem contactList_insertLock :
    (db.insertLock aor).contactList a = db.contactList a := rfl

@[simp] theorem contactList_eraseLock :
    (db.eraseLock aor).contactList a = db.contactList a := rfl

@[simp] theorem contactList_removeAor :
    (db.removeAor aor).contactList a = if aor = a then none else db.contactList a := by
  by_cases h : aor = a
  · subst h
    cases hr : db.record aor <;> simp [contactList, hr]
  · simp [contactList, h]

@[simp] theorem contactList_addAor (contacts : List ρ) :
    (db.addAor aor contacts).contactList a =
      if aor = a then some contacts else db.contactList a := by
  by_cases h : aor = a <;> simp [contactList, addAor, h]

@[simp] theorem contactList_makeContactList :
    (db.makeContactList aor).contactList a =
      if aor = a then some (db.getContacts a) else db.contactList a := by
  by_cases h : aor = a <;> simp [contactList, h]

@[simp] theorem contactList_writeContactList (write : List ρ → List ρ) :
    (db.writeContactList aor write).contactList a =
      if aor = a then (db.contactList a).map write else db.contactList a := by
  by_cases h : aor = a
  · subst h
    rcases hr : db.record aor with _ | _ | contacts <;> simp [contactList, hr]
  · simp [contactList, h]

@[simp] theorem contactList_eraseRecord :
    (db.eraseRecord aor).contactList a = if aor = a then none else db.contactList a := by
  by_cases h : aor = a <;> simp [contactList, h]

end ContactList

section Key
variable (db : InMemoryRegistrationDatabase α ρ) (aor a : α)

@[simp] theorem isKey_insertLock : (db.insertLock aor).isKey a = db.isKey a := rfl

@[simp] theorem isKey_insertRecord :
    (db.insertRecord aor).isKey a = (decide (aor = a) || db.isKey a) := by
  by_cases h : aor = a <;> simp [isKey_eq, h]

@[simp] theorem isKey_addAor (contacts : List ρ) :
    (db.addAor aor contacts).isKey a = (decide (aor = a) || db.isKey a) := by
  by_cases h : aor = a <;> simp [isKey_eq, addAor, h]

@[simp] theorem isKey_removeAor : (db.removeAor aor).isKey a = db.isKey a := by
  by_cases h : aor = a <;> simp [isKey_eq, h]

@[simp] theorem isKey_makeContactList :
    (db.makeContactList aor).isKey a = (decide (aor = a) || db.isKey a) := by
  by_cases h : aor = a <;> simp [isKey_eq, h]

@[simp] theorem isKey_writeContactList (write : List ρ → List ρ) :
    (db.writeContactList aor write).isKey a = db.isKey a := by
  by_cases h : aor = a <;> simp [isKey_eq, h]

end Key

section Unlock
variable {db db' : InMemoryRegistrationDatabase α ρ} {aor : α}

theorem contactList_unlockRecord (h : db.unlockRecord aor = some db') (a : α) :
    db'.contactList a = db.contactList a := by
  obtain ⟨-, rfl⟩ := unlockRecord_eq_some.mp h
  rw [contactList_eraseLock]
  split_ifs with hlist
  · rfl
  · rw [contactList_eraseRecord]
    split_ifs with ha
    · subst ha
      exact (Option.not_isSome_iff_eq_none.mp hlist).symm
    · rfl

theorem isLocked_unlockRecord (h : db.unlockRecord aor = some db') (a : α) :
    db'.isLocked a = (!decide (aor = a) && db.isLocked a) := by
  obtain ⟨-, rfl⟩ := unlockRecord_eq_some.mp h
  rw [isLocked_eraseLock]
  split_ifs <;> simp

theorem isKey_unlockRecord (h : db.unlockRecord aor = some db') {a : α} (ha : a ≠ aor) :
    db'.isKey a = db.isKey a := by
  obtain ⟨-, rfl⟩ := unlockRecord_eq_some.mp h
  rw [isKey_eq, isKey_eq, record_eraseLock]
  split_ifs <;> simp [Ne.symm ha]

end Unlock

variable [BEq ρ]

def updateContact (db : InMemoryRegistrationDatabase α ρ) (aor : α) (rec : ρ) :
    InMemoryRegistrationDatabase α ρ × UpdateStatus :=
  ((db.makeContactList aor).writeContactList aor fun contacts => (updateContactList rec contacts).1,
    (updateContactList rec (db.getContacts aor)).2)

/-- The loop of `removeContact` erases the first record that matches. The address goes when its
list is empty after that. -/
def removeContact (db : InMemoryRegistrationDatabase α ρ) (aor : α) (rec : ρ) :
    InMemoryRegistrationDatabase α ρ :=
  match db.record aor with
  | some (some contacts) =>
    let erased := db.writeContactList aor (List.eraseP (· == rec))
    if contacts.any (· == rec) && (erased.getContacts aor).isEmpty then erased.removeAor aor
    else erased
  | _ => db

end InMemoryRegistrationDatabase

end Resiprocate.Dum
