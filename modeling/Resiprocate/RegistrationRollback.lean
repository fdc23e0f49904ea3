import Resiprocate.ServerRegistration

/-! What a REGISTER that fails leaves in the database. Only the application's rejection puts back
what the request has written, and it puts back a list of contacts also where there was none. -/
namespace Resiprocate.Dum

/-- What one contact of a request asks to be written. -/
inductive ContactWrite (ρ : Type*)
  | update (rec : ρ)
  | remove (rec : ρ)

/-- The bindings of an address after a write. No binding is left by a removal of the last one. -/
def ContactWrite.apply {ρ : Type*} [BEq ρ] (bindings : Option (List ρ)) :
    ContactWrite ρ → Option (List ρ)
  | .update rec => some (updateContactList rec (bindings.getD [])).1
  | .remove rec =>
    bindings.bind fun contacts =>
      if contacts.any (· == rec) && (contacts.eraseP (· == rec)).isEmpty then none
      else some (contacts.eraseP (· == rec))

/-- How a REGISTER comes to fail: before its record is locked, after the writes of the contacts
before the one that is refused, or when the application rejects it. -/
inductive RegistrationFailure (ρ : Type*)
  | beforeLock
  | amid (writes : List (ContactWrite ρ))
  | byApplication

namespace InMemoryRegistrationDatabase
variable {α ρ : Type*} [LinearOrder α]

/-- The database has the same contacts, registered addresses and keys. -/
def Same (db db' : InMemoryRegistrationDatabase α ρ) : Prop :=
  (∀ a, db'.getContacts a = db.getContacts a) ∧
    (∀ a, db'.aorIsRegistered a = db.aorIsRegistered a) ∧ db'.getAors = db.getAors

theorem same_iff {db db' : InMemoryRegistrationDatabase α ρ} :
    db.Same db' ↔ ∀ a, db'.record a = db.record a := by
  constructor
  · rintro ⟨hcontacts, hregistered, haors⟩ a
    have hkey : db'.isKey a = db.isKey a := by
      rw [Bool.eq_iff_iff]
      simp only [isKey, Std.ExtTreeMap.contains_iff_mem, ← Std.ExtTreeMap.mem_keys]
      rw [show db'.mDatabase.keys = db.mDatabase.keys from haors]
    have hc := hcontacts a
    have hr := hregistered a
    rw [isKey_eq, isKey_eq] at hkey
    rcases h : db.record a with _ | _ | l <;> rcases h' : db'.record a with _ | _ | l' <;>
      simp_all [aorIsRegistered, getContacts, contactList]
  · intro h
    have hmap : db'.mDatabase = db.mDatabase := Std.ExtTreeMap.ext_getElem? fun a => h a
    exact ⟨fun a => by simp [getContacts, contactList, h], fun a => by
      simp [aorIsRegistered, contactList, h], by rw [getAors, getAors, hmap]⟩

section Write
variable [BEq ρ] (db : InMemoryRegistrationDatabase α ρ) (aor a : α) (rec : ρ)

theorem record_updateContact :
    (db.updateContact aor rec).1.record a =
      if aor = a then some (ContactWrite.apply (db.contactList a) (.update rec))
      else db.record a := by
  by_cases h : aor = a
  · subst h
    simp [updateContact, ContactWrite.apply, getContacts]
  · simp [updateContact, h]

theorem record_removeContact :
    (db.removeContact aor rec).record a =
      if aor = a then (db.record a).map fun b => ContactWrite.apply b (.remove rec)
      else db.record a := by
  by_cases h : aor = a
  · subst h
    rcases hr : db.record aor with _ | _ | contacts
    · simp [removeContact, hr]
    · simp [removeContact, hr, ContactWrite.apply]
    · have herased : (db.writeContactList aor (List.eraseP (· == rec))).getContacts aor =
          contacts.eraseP (· == rec) := by
        simp [getContacts, contactList, hr]
      simp only [removeContact, hr, herased]
      split_ifs with hempty <;> simp [hr, ContactWrite.apply, hempty]
  · rcases hr : db.record aor with _ | _ | contacts
    · simp [removeContact, hr, h]
    · simp [removeContact, hr, h]
    · simp only [removeContact, hr]
      split_ifs <;> simp [h]

@[simp] theorem isLocked_updateContact :
    (db.updateContact aor rec).1.isLocked a = db.isLocked a := by
  simp [updateContact]

@[simp] theorem isLocked_removeContact :
    (db.removeContact aor rec).isLocked a = db.isLocked a := by
  unfold removeContact
  split
  · dsimp only
    split_ifs <;> simp
  · rfl

end Write

end InMemoryRegistrationDatabase

namespace ServerRegistration
variable {α υ : Type*} [LinearOrder α]

/-- A registration that has its record locked in a database that was `db` before, with these
bindings by now. -/
structure Holding (db : InMemoryRegistrationDatabase α (ContactInstanceRecord υ)) (aor : α)
    (bindings : Option (List (ContactInstanceRecord υ))) (r : ServerRegistration α υ) : Prop where
  aor_eq : r.mAor = aor
  record_aor : r.database.record aor = some bindings
  record_of_ne : ∀ a, a ≠ aor → r.database.record a = db.record a
  locked : ∀ a, r.database.isLocked a = (decide (aor = a) || db.isLocked a)
  original : r.mOriginalContacts = some (db.getContacts aor)
  lockCalls : r.lockCalls = [.lockRecord]

/-- A registration that has released its record with these bindings. -/
structure Released (db : InMemoryRegistrationDatabase α (ContactInstanceRecord υ)) (aor : α)
    (bindings : Option (List (ContactInstanceRecord υ))) (r : ServerRegistration α υ) : Prop where
  record_aor : r.database.record aor = bindings.map some
  record_of_ne : ∀ a, a ≠ aor → r.database.record a = db.record a
  locked : ∀ a, r.database.isLocked a = db.isLocked a
  lockCalls : r.lockCalls = [.lockRecord, .unlockRecord]

section Lock
variable {db : InMemoryRegistrationDatabase α (ContactInstanceRecord υ)} {aor : α}
  {bindings : Option (List (ContactInstanceRecord υ))} {r : ServerRegistration α υ}

/-- A record that is locked can be released. -/
theorem Holding.unlock (h : Holding db aor bindings r) (hfree : db.isLocked aor = false) :
    ∃ r', r.unlockRecord = some r' ∧ Released db aor bindings r' := by
  have hlist : r.database.contactList aor = bindings := by
    simp [InMemoryRegistrationDatabase.contactList, h.record_aor]
  have hkey : r.database.isKey aor := by
    simp [InMemoryRegistrationDatabase.isKey_eq, h.record_aor]
  refine ⟨_, by rw [unlockRecord, h.aor_eq,
    InMemoryRegistrationDatabase.unlockRecord_eq_some.mpr ⟨hkey, rfl⟩, Option.map_some], ?_⟩
  rw [hlist]
  constructor
  · cases bindings <;> simp [h.record_aor]
  · intro a ha
    cases bindings <;> simp [h.record_of_ne a ha, Ne.symm ha]
  · intro a
    have hlocked := h.locked a
    by_cases ha : aor = a
    · subst ha
      cases bindings <;> simp [hfree]
    · cases bindings <;> simp [hlocked, ha]
  · simp [h.lockCalls]

/-- What the registration has beside its database and its lock is of no account. -/
theorem Holding.congr {r' : ServerRegistration α υ} (h : Holding db aor bindings r)
    (hdb : r'.database = r.database) (haor : r'.mAor = r.mAor)
    (horiginal : r'.mOriginalContacts = r.mOriginalContacts) (hcalls : r'.lockCalls = r.lockCalls) :
    Holding db aor bindings r' :=
  ⟨haor.trans h.aor_eq, hdb ▸ h.record_aor, hdb ▸ h.record_of_ne, hdb ▸ h.locked,
    horiginal.trans h.original, hcalls.trans h.lockCalls⟩

/-- The holder of a record changes it. -/
theorem Holding.withDatabase {bindings' : Option (List (ContactInstanceRecord υ))}
    {db' : InMemoryRegistrationDatabase α (ContactInstanceRecord υ)} (h : Holding db aor bindings r)
    (haor : db'.record aor = some bindings')
    (hne : ∀ a, a ≠ aor → db'.record a = r.database.record a)
    (hlocked : ∀ a, db'.isLocked a = r.database.isLocked a) :
    Holding db aor bindings' (r.withDatabase db') :=
  ⟨h.aor_eq, haor, fun a ha => (hne a ha).trans (h.record_of_ne a ha),
    fun a => (hlocked a).trans (h.locked a), h.original, h.lockCalls⟩

theorem Holding.removeAor (h : Holding db aor bindings r) :
    Holding db aor none (r.withDatabase (r.database.removeAor r.mAor)) := by
  rw [h.aor_eq]
  exact h.withDatabase (by simp [h.record_aor]) (fun a ha => by simp [Ne.symm ha]) (by simp)

theorem Holding.addAor (h : Holding db aor bindings r) (contacts : List (ContactInstanceRecord υ)) :
    Holding db aor (some contacts) (r.withDatabase (r.database.addAor r.mAor contacts)) := by
  rw [h.aor_eq]
  exact h.withDatabase (by simp [InMemoryRegistrationDatabase.addAor])
    (fun a ha => by simp [InMemoryRegistrationDatabase.addAor, Ne.symm ha])
    (by simp [InMemoryRegistrationDatabase.addAor])

/-- The rejecting application leaves the contacts that the address had, as a list. -/
theorem Holding.reject (h : Holding db aor bindings r) (hfree : db.isLocked aor = false)
    (statusCode : ℕ) :
    ∃ r', r.reject statusCode = some r' ∧ Released db aor (some (db.getContacts aor)) r' := by
  obtain ⟨r', hr', hreleased⟩ := (h.removeAor.addAor (db.getContacts aor)).unlock hfree
  refine ⟨r'.send ⟨statusCode, none⟩, ?_, ⟨hreleased.record_aor, hreleased.record_of_ne,
    hreleased.locked, hreleased.lockCalls⟩⟩
  simp only [ServerRegistration.reject, h.original]
  exact congrArg (Option.map _) hr'

theorem Holding.refuse (h : Holding db aor bindings r) (hfree : db.isLocked aor = false)
    (failure : Refusal) : ∃ r', r.refuse failure = some r' ∧ Released db aor bindings r' :=
  Holding.unlock (h.congr rfl rfl rfl rfl) hfree

variable [BEq υ]

theorem Holding.removeContact (h : Holding db aor bindings r) (rec : ContactInstanceRecord υ) :
    Holding db aor (ContactWrite.apply bindings (.remove rec))
      (r.withDatabase (r.database.removeContact r.mAor rec)) := by
  rw [h.aor_eq]
  exact h.withDatabase
    (by simp [InMemoryRegistrationDatabase.record_removeContact, h.record_aor])
    (fun a ha => by simp [InMemoryRegistrationDatabase.record_removeContact, Ne.symm ha]) (by simp)

theorem Holding.updateContact (h : Holding db aor bindings r) (rec : ContactInstanceRecord υ) :
    Holding db aor (ContactWrite.apply bindings (.update rec))
      (r.withDatabase (r.database.updateContact r.mAor rec).1) := by
  rw [h.aor_eq]
  refine h.withDatabase ?_
    (fun a ha => by simp [InMemoryRegistrationDatabase.record_updateContact, Ne.symm ha]) (by simp)
  simp [InMemoryRegistrationDatabase.record_updateContact,
    InMemoryRegistrationDatabase.contactList, h.record_aor]

end Lock

section Failure
variable (interop : InteropHelper) (handler : ServerRegistrationHandler α υ)
  (msg : RegisterRequest α υ) (now : ℕ)

/-- The writes before the contact that is refused, if one is. -/
def refusedAfter (globalExpires count : ℕ) :
    List (RegisterContact υ) → Option (List (ContactWrite (ContactInstanceRecord υ)))
  | [] => none
  | contact :: contacts =>
    if !contact.isWellFormed then some []
    else
      let expires := handler.getContactExpires contact globalExpires
      if contact.isAllContacts then if 1 < count || expires != 0 then some [] else none
      else
        let flow := tryFlow interop (makeRecord msg now expires contact) msg
        if (testFlowRequirements flow.record msg flow.hasFlow).isSome then some []
        else
          (refusedAfter globalExpires count contacts).map
            ((if expires = 0 then .remove flow.record else .update flow.record) :: ·)

/-- The request is refused before its record is locked. -/
def refusedEarly : Bool := !msg.schemeSupported || 400 ≤ (handler.getGlobalExpires msg).2

/-- The writes before the contact that is refused, if the request has one. -/
def refusedAmid : Option (List (ContactWrite (ContactInstanceRecord υ))) :=
  msg.contacts.bind fun contacts =>
    refusedAfter interop handler msg now (handler.getGlobalExpires msg).1 contacts.length contacts

def failure : RegistrationFailure (ContactInstanceRecord υ) :=
  if refusedEarly handler msg then .beforeLock
  else (refusedAmid interop handler msg now).elim .byApplication .amid

variable [BEq υ]

/-- What is in the database is not lost when the request fails: nothing is written before, or the
address has no null record and the writes undo each other, or the rejecting application finds a
list of contacts to put back. -/
def leavesRecord (db : InMemoryRegistrationDatabase α (ContactInstanceRecord υ)) : Prop :=
  match failure interop handler msg now with
  | .beforeLock => True
  | .amid writes =>
    db.record msg.aor ≠ some none ∧
      writes.foldl ContactWrite.apply (db.contactList msg.aor) = db.contactList msg.aor
  | .byApplication => (db.contactList msg.aor).isSome

instance [DecidableEq υ] (db : InMemoryRegistrationDatabase α (ContactInstanceRecord υ)) :
    Decidable (leavesRecord interop handler msg now db) :=
  match h : failure interop handler msg now with
  | .beforeLock => isTrue (by simp [leavesRecord, h])
  | .amid writes =>
    decidable_of_iff (db.record msg.aor ≠ some none ∧
      writes.foldl ContactWrite.apply (db.contactList msg.aor) = db.contactList msg.aor)
      (by simp [leavesRecord, h])
  | .byApplication =>
    decidable_of_iff ((db.contactList msg.aor).isSome = true) (by simp [leavesRecord, h])

end Failure

variable [BEq υ]

/-- How the loop over the contacts ends: after these writes with the record released, or with a
callback while it is locked. -/
def Ends (db : InMemoryRegistrationDatabase α (ContactInstanceRecord υ)) (aor : α)
    (bindings : Option (List (ContactInstanceRecord υ)))
    (result : Option (ServerRegistration α υ × Option RegistrationCallback)) :
    Option (List (ContactWrite (ContactInstanceRecord υ))) → Prop
  | some writes => ∃ r, result = some (r, none) ∧
      Released db aor (writes.foldl ContactWrite.apply bindings) r
  | none => ∃ r callback bindings', result = some (r, some callback) ∧
      Holding db aor bindings' r

section Ends
variable {interop : InteropHelper} {handler : ServerRegistrationHandler α υ}
  {msg : RegisterRequest α υ} {now : ℕ}
  {db : InMemoryRegistrationDatabase α (ContactInstanceRecord υ)} {aor : α}
  {bindings : Option (List (ContactInstanceRecord υ))} {r : ServerRegistration α υ}

theorem Ends.cons {result : Option (ServerRegistration α υ × Option RegistrationCallback)}
    {write : ContactWrite (ContactInstanceRecord υ)}
    {writes : Option (List (ContactWrite (ContactInstanceRecord υ)))}
    (h : Ends db aor (ContactWrite.apply bindings write) result writes) :
    Ends db aor bindings result (writes.map (write :: ·)) := by
  cases writes with
  | none => exact h
  | some writes => exact h

theorem Holding.ends_refuse (h : Holding db aor bindings r) (hfree : db.isLocked aor = false)
    (failure : Refusal) : Ends db aor bindings ((r.refuse failure).map (·, none)) (some []) := by
  obtain ⟨r', hr', hreleased⟩ := h.refuse hfree failure
  exact ⟨r', by rw [hr', Option.map_some], hreleased⟩

theorem Holding.ends_processContacts (interop : InteropHelper)
    (handler : ServerRegistrationHandler α υ) (msg : RegisterRequest α υ) (now : ℕ)
    (h : Holding db aor bindings r) (hfree : db.isLocked aor = false) (globalExpires count : ℕ)
    (op : RegistrationOperation) (contacts : List (RegisterContact υ)) :
    Ends db aor bindings
      (processContacts interop handler msg now globalExpires count op contacts r)
      (refusedAfter interop handler msg now globalExpires count contacts) := by
  induction contacts generalizing op r bindings with
  | nil => exact ⟨r, op.callback, bindings, rfl, h⟩
  | cons contact contacts ih =>
    simp only [processContacts, refusedAfter]
    by_cases hformed : contact.isWellFormed
    case neg =>
      simp only [hformed, Bool.not_false, if_true]
      exact h.ends_refuse hfree _
    simp only [hformed, Bool.not_true, Bool.false_eq_true, if_false]
    by_cases hall : contact.isAllContacts
    · simp only [hall, if_true]
      split_ifs with hinvalid
      · exact h.ends_refuse hfree _
      · exact ⟨_, _, _, rfl, h.removeAor⟩
    · simp only [hall, Bool.false_eq_true, if_false]
      set flow := tryFlow interop
        (makeRecord msg now (handler.getContactExpires contact globalExpires) contact) msg
      cases testFlowRequirements flow.record msg flow.hasFlow with
      | some failure =>
        simp only [Option.isSome_some, if_true]
        refine Holding.ends_refuse ?_ hfree failure
        exact h.congr rfl rfl rfl rfl
      | none =>
        simp only [Option.isSome_none, Bool.false_eq_true, if_false]
        apply Ends.cons
        split_ifs
        · refine ih ?_ _
          exact (h.removeContact flow.record).congr rfl rfl rfl rfl
        · refine ih ?_ _
          exact (h.updateContact flow.record).congr rfl rfl rfl rfl
omit [BEq υ] in
/-- A new registration waits for its record while it is locked. -/
theorem lockRecord_create_of_isLocked (hlocked : db.isLocked msg.aor) :
    (create db msg).lockRecord = none := by
  simp [ServerRegistration.lockRecord, create, InMemoryRegistrationDatabase.lockRecord, hlocked]

omit [BEq υ] in
theorem lockRecord_create_of_free (hfree : db.isLocked msg.aor = false) :
    ∃ r, (create db msg).lockRecord = some r ∧
      Holding db msg.aor (db.contactList msg.aor)
        { r with mOriginalContacts := some (r.database.getContacts r.mAor) } := by
  refine ⟨{ create db msg with
      database := (db.insertRecord msg.aor).insertLock msg.aor, lockCalls := [.lockRecord] }, ?_, ?_⟩
  · simp [ServerRegistration.lockRecord, create, InMemoryRegistrationDatabase.lockRecord, hfree]
  refine ⟨rfl, by simp [InMemoryRegistrationDatabase.contactList],
    fun a ha => by simp [Ne.symm ha], by simp, ?_, rfl⟩
  simp [InMemoryRegistrationDatabase.getContacts, create]

/-- Once it has locked its record, a request ends with the record released. -/
theorem Ends.rejectHanded (statusCode : ℕ)
    {result : Option (ServerRegistration α υ × Option RegistrationCallback)}
    {writes : Option (List (ContactWrite (ContactInstanceRecord υ)))}
    (h : Ends db aor bindings result writes) (hfree : db.isLocked aor = false) :
    ∃ r, result.bind (ServerRegistration.rejectHanded statusCode) = some r ∧
      Released db aor (writes.elim (some (db.getContacts aor))
        fun writes => writes.foldl ContactWrite.apply bindings) r := by
  cases writes with
  | some writes =>
    obtain ⟨r, rfl, hreleased⟩ := h
    exact ⟨r, rfl, hreleased⟩
  | none =>
    obtain ⟨r, callback, bindings', rfl, hholding⟩ := h
    exact hholding.reject hfree statusCode

theorem Holding.ends_processLocked (interop : InteropHelper)
    (handler : ServerRegistrationHandler α υ) (msg : RegisterRequest α υ) (now : ℕ)
    (h : Holding db aor bindings
      { r with mOriginalContacts := some (r.database.getContacts r.mAor) })
    (hfree : db.isLocked aor = false) :
    Ends db aor bindings (processLocked interop handler msg now (handler.getGlobalExpires msg).1 r)
      (refusedAmid interop handler msg now) := by
  simp only [processLocked, refusedAmid]
  cases msg.contacts with
  | none => exact ⟨_, _, _, rfl, h⟩
  | some contacts => exact h.ends_processContacts interop handler msg now hfree _ _ _ _

/-- A request that is refused early changes nothing. -/
theorem fail_of_refusedEarly (statusCode : ℕ) (h : refusedEarly handler msg) :
    ∃ r, fail interop handler msg now db statusCode = some r ∧ r.database = db ∧
      r.lockCalls = [] := by
  simp only [fail, dispatch, processRegistration]
  by_cases hscheme : msg.schemeSupported
  · have hcode : 400 ≤ (handler.getGlobalExpires msg).2 := by
      simpa [refusedEarly, hscheme] using h
    simp only [hscheme, Bool.not_true, Bool.false_eq_true, if_false, hcode, if_true]
    exact ⟨_, rfl, rfl, rfl⟩
  · simp only [hscheme, Bool.not_false, if_true]
    exact ⟨_, rfl, rfl, rfl⟩

theorem fail_of_not_refusedEarly (statusCode : ℕ) (h : ¬refusedEarly handler msg) :
    fail interop handler msg now db statusCode = (create db msg).lockRecord.bind fun r =>
      (processLocked interop handler msg now (handler.getGlobalExpires msg).1 r).bind
        (ServerRegistration.rejectHanded statusCode) := by
  obtain ⟨hscheme, hcode⟩ : msg.schemeSupported ∧ ¬400 ≤ (handler.getGlobalExpires msg).2 := by
    simpa [refusedEarly] using h
  simp only [fail, dispatch, processRegistration, hscheme, Bool.not_true, Bool.false_eq_true,
    if_false, hcode, Option.bind_assoc]

/-- A request that locks its record ends with the record released. -/
theorem fail_released (statusCode : ℕ) (h : ¬refusedEarly handler msg)
    (hfree : db.isLocked msg.aor = false) :
    ∃ r, fail interop handler msg now db statusCode = some r ∧
      Released db msg.aor ((refusedAmid interop handler msg now).elim
        (some (db.getContacts msg.aor))
        fun writes => writes.foldl ContactWrite.apply (db.contactList msg.aor)) r := by
  obtain ⟨r, hr, hholding⟩ := lockRecord_create_of_free hfree
  rw [fail_of_not_refusedEarly statusCode h, hr, Option.bind_some]
  exact (hholding.ends_processLocked interop handler msg now hfree).rejectHanded statusCode hfree

end Ends

/-- A failed request leaves the contacts, the registered addresses and the keys as they were, and
the lock that it took it has released once. -/
def AllOrNothing (db : InMemoryRegistrationDatabase α (ContactInstanceRecord υ))
    (r : ServerRegistration α υ) : Prop :=
  db.Same r.database ∧ (∀ a, r.database.isLocked a = db.isLocked a) ∧
    (r.lockCalls = [] ∨ r.lockCalls = [.lockRecord, .unlockRecord])

omit [BEq υ] in
theorem Released.allOrNothing_iff {db : InMemoryRegistrationDatabase α (ContactInstanceRecord υ)}
    {aor : α} {bindings : Option (List (ContactInstanceRecord υ))} {r : ServerRegistration α υ}
    (h : Released db aor bindings r) : AllOrNothing db r ↔ db.record aor = bindings.map some := by
  simp only [AllOrNothing, InMemoryRegistrationDatabase.same_iff, h.locked, h.lockCalls, implies_true,
    or_true, and_true]
  constructor
  · exact fun hsame => (hsame aor).symm.trans h.record_aor
  · intro haor a
    by_cases ha : a = aor
    · rw [ha, h.record_aor, haor]
    · exact h.record_of_ne a ha

/-- A request that fails is all or nothing just when nothing of the record was lost before it could
be put back. It does not wait if the record is free. -/
theorem failed_register_all_or_nothing (interop : InteropHelper)
    (handler : ServerRegistrationHandler α υ) (msg : RegisterRequest α υ) (now statusCode : ℕ)
    (db : InMemoryRegistrationDatabase α (ContactInstanceRecord υ)) :
    (db.isLocked msg.aor = false → (fail interop handler msg now db statusCode).isSome) ∧
      ∀ r, fail interop handler msg now db statusCode = some r →
        (AllOrNothing db r ↔ leavesRecord interop handler msg now db) := by
  simp only [leavesRecord, failure]
  by_cases hearly : refusedEarly handler msg
  · obtain ⟨r₁, hr₁, hdb, hcalls⟩ : ∃ r, fail interop handler msg now db statusCode = some r ∧
        r.database = db ∧ r.lockCalls = [] := fail_of_refusedEarly statusCode hearly
    refine ⟨by simp [hr₁], fun r hr => ?_⟩
    obtain rfl := Option.some.inj (hr₁.symm.trans hr)
    simp [hearly, AllOrNothing, hdb, hcalls, InMemoryRegistrationDatabase.same_iff]
  simp only [hearly]
  by_cases hlocked : db.isLocked msg.aor
  · simp [hlocked, fail_of_not_refusedEarly statusCode hearly,
      lockRecord_create_of_isLocked hlocked]
  · obtain ⟨r₁, hr₁, hreleased⟩ : ∃ r, fail interop handler msg now db statusCode = some r ∧
        Released db msg.aor _ r := fail_released statusCode hearly (by simpa using hlocked)
    refine ⟨by simp [hr₁], fun r hr => ?_⟩
    obtain rfl := Option.some.inj (hr₁.symm.trans hr)
    rw [hreleased.allOrNothing_iff]
    cases refusedAmid interop handler msg now with
    | none =>
      rcases hrecord : db.record msg.aor with _ | _ | contacts <;>
        simp [InMemoryRegistrationDatabase.getContacts, InMemoryRegistrationDatabase.contactList,
          hrecord]
    | some writes =>
      rcases hrecord : db.record msg.aor with _ | _ | contacts <;>
        simp [InMemoryRegistrationDatabase.contactList, hrecord, eq_comm]

/-- A REGISTER with these contacts from a client that needs no flow. -/
def plainRegister (contacts : List (RegisterContact ℕ)) : RegisterRequest ℕ ℕ where
  aor := 7
  schemeSupported := true
  contacts := some contacts
  expires := some 600
  source := .unset
  publicAddress := .unset
  userAgent := none
  paths := []
  viaCount := 1
  supportsOutbound := false
  behindNAT := false
  behindNATPrivateToPublic := false

def plainContact (uri : ℕ) (expires : Option ℕ) : RegisterContact ℕ :=
  ⟨true, false, uri, false, false, none, false, expires, none, none⟩

/-- What does not parse as a contact. -/
def malformedContact : RegisterContact ℕ :=
  ⟨false, false, 0, false, false, none, false, none, none, none⟩

/-- No setting is switched on. -/
def plainInterop : InteropHelper := ⟨false, false, false, .ClientNATDetectionDisabled, false⟩

/-- Expiries between a minute and an hour are as they are asked for. -/
def hourProfile : ServerRegistrationHandler ℕ ℕ := .ofProfile ⟨60, 3600, 3600⟩

/-- The address 7 with these contacts. -/
def registered (contacts : List (RegisterContact ℕ)) :
    InMemoryRegistrationDatabase ℕ (ContactInstanceRecord ℕ) where
  mDatabase := (∅ : Std.ExtTreeMap ℕ _).insert 7
    (some (contacts.map (makeRecord (plainRegister []) 0 600)))
  mLockedRecords := ∅

/-- A contact is added and removed again before the malformed one. -/
theorem failed_register_all_or_nothing_undone :
    let db := registered [plainContact 1 none]
    let msg := plainRegister [plainContact 2 none, plainContact 2 (some 0), malformedContact]
    ∃ r, fail plainInterop hourProfile msg 5 db 403 = some r ∧ AllOrNothing db r := by
  intro db msg
  have hspec := failed_register_all_or_nothing plainInterop hourProfile msg 5 403 db
  obtain ⟨r, hr⟩ := Option.isSome_iff_exists.mp (hspec.1 (by decide))
  exact ⟨r, hr, (hspec.2 r hr).mpr (by decide)⟩

/-- A contact is added before the malformed one, and stays. -/
theorem not_failed_register_all_or_nothing :
    ¬∀ (interop : InteropHelper) (handler : ServerRegistrationHandler ℕ ℕ)
      (msg : RegisterRequest ℕ ℕ) (now statusCode : ℕ)
      (db : InMemoryRegistrationDatabase ℕ (ContactInstanceRecord ℕ)),
      ∀ r, fail interop handler msg now db statusCode = some r → AllOrNothing db r := by
  intro h
  let db := registered [plainContact 1 none]
  let msg := plainRegister [plainContact 2 none, malformedContact]
  obtain ⟨r, hr⟩ := Option.isSome_iff_exists.mp
    (by decide : (fail plainInterop hourProfile msg 5 db 403).isSome)
  have hsame := h plainInterop hourProfile msg 5 403 db r hr
  have hcontacts : (fail plainInterop hourProfile msg 5 db 403).map
      (fun r => r.database.getContacts 7) = some (db.getContacts 7) := by
    rw [hr, Option.map_some, hsame.1.1 7]
  exact absurd hcontacts (by decide)

end ServerRegistration

end Resiprocate.Dum
