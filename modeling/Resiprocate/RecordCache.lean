import Resiprocate.DnsQuery

/-! The cache of DNS records in memory: a set and a list of the least recently used share its
entries. -/
namespace Resiprocate.RecordCache
open Dns

/-- What ends a call. -/
inductive CacheStop
  | dns (stop : DnsStop)
  /-- The assertion of `purge`. -/
  | purgeAssertion
  /-- An entry that was deleted is used. -/
  | dangling
  /-- An element that is in a list is put on it. -/
  | pushedTwice

/-- The factory of a type; an exception makes no record. -/
abbrev Factory (δ : Type) := DnsMessage δ → RROverlay δ → Option (DnsRecord δ)

/-- The set and the list have addresses of entries, the least recently used first. -/
structure RRCache (δ : Type) where
  memory : ℕ → Option (RRList δ)
  allocated : ℕ
  mRRSet : List ℕ
  mLruHead : List ℕ
  mUserDefinedTTL : ℕ
  mSize : ℕ

section
variable {δ : Type}

/-- When a list of these records expires: with its first record, and one without records at the
largest time, which wraps around. -/
def updateExpiry (create : RROverlay δ → Option (DnsRecord δ)) (now ttl : ℕ)
    (overlays : List (RROverlay δ)) : ℕ :=
  let created := overlays.filter fun overlay => (create overlay).isSome
  let first := created.foldl (fun e overlay => min e (ttl64 overlay.mTTL)) (2 ^ 64 - 1)
  (max first ttl + now) % 2 ^ 64

/-- `RRList::update` -/
def update (create : RROverlay δ → Option (DnsRecord δ)) (now ttl : ℕ)
    (overlays : List (RROverlay δ)) (l : RRList δ) : RRList δ :=
  { l with
    mRecords := overlays.filterMap create
    mAbsoluteExpiry := updateExpiry create now ttl overlays }

/-- `update` with a record of the file of hosts. -/
def updateHost (name : δ) (address now : ℕ) (l : RRList δ) : RRList δ :=
  { l with mRecords := [.host name address], mAbsoluteExpiry := (now + 3600) % 2 ^ 64 }

/-- An `RRList` of a key alone. -/
def keyOf (key : δ) (rrtype : ℕ) : RRList δ := ⟨key, rrtype, [], .SUCCESS, 2 ^ 64 - 1⟩

variable [LinearOrder δ] (lowercase : δ → δ)

/-- `CompareT` -/
def before (lhs rhs : RRList δ) : Bool :=
  if lhs.mRRType < rhs.mRRType then true
  else if rhs.mRRType < lhs.mRRType then false
  else lowercase lhs.mKey < lowercase rhs.mKey

namespace RRCache

def deref (c : RRCache δ) (p : ℕ) : Except CacheStop (RRList δ) :=
  match c.memory p with
  | some l => .ok l
  | none => .error .dangling

/-- `mRRSet.find`: the entry that comes neither before nor after the key. -/
def find (c : RRCache δ) (key : RRList δ) : Option ℕ :=
  c.mRRSet.find? fun p => (c.memory p).any fun l => !before lowercase l key && !before lowercase key l

def write (c : RRCache δ) (p : ℕ) (l : RRList δ) : RRCache δ :=
  { c with memory := Function.update c.memory p (some l) }

def pushBack (c : RRCache δ) (p : ℕ) : Except CacheStop (RRCache δ) :=
  if p ∈ c.mLruHead then .error .pushedTwice else .ok { c with mLruHead := c.mLruHead ++ [p] }

def touch (c : RRCache δ) (p : ℕ) : Except CacheStop (RRCache δ) :=
  { c with mLruHead := c.mLruHead.erase p }.pushBack p

/-- `delete` of an entry, which removes itself from its list, and its `erase` from the set. -/
def drop (c : RRCache δ) (p : ℕ) : RRCache δ :=
  { c with
    memory := Function.update c.memory p none
    mRRSet := c.mRRSet.erase p
    mLruHead := c.mLruHead.erase p }

def purge (c : RRCache δ) : Except CacheStop (RRCache δ) :=
  if c.mRRSet.length < c.mSize then .ok c
  else
    match c.mLruHead with
    | [] => .error .purgeAssertion
    | lst :: _ => do
      let l ← c.deref lst
      match c.find lowercase l with
      | none => .error .purgeAssertion
      | some it => return { c with mLruHead := c.mLruHead.erase lst }.drop it

/-- A new entry. -/
def add (c : RRCache δ) (val : RRList δ) : Except CacheStop (RRCache δ) := do
  let p := c.allocated
  let c := { c.write p val with allocated := p + 1, mRRSet := c.mRRSet ++ [p] }
  let c ← c.pushBack p
  c.purge lowercase

/-- The entry of the key is updated, or there is a new one. -/
def store (c : RRCache δ) (key : RRList δ) (change : RRList δ → RRList δ) :
    Except CacheStop (RRCache δ) :=
  match c.find lowercase key with
  | some p => do
    let l ← c.deref p
    (c.write p (change l)).touch p
  | none => c.add lowercase (change key)

def updateCacheFromHostFile (c : RRCache δ) (now : ℕ) (name : δ) (address : ℕ) :
    Except CacheStop (RRCache δ) :=
  c.store lowercase (keyOf name T_A) (updateHost name address now)

/-- The name that it is called with is not used. -/
def updateCache (mFactoryMap : ℕ → Option (Factory δ)) (c : RRCache δ) (now : ℕ)
    (m : DnsMessage δ) (rrType : ℕ) (overlays : List (RROverlay δ)) : Except CacheStop (RRCache δ) :=
  match overlays with
  | [] => .error (.dns .emptyOverlays)
  | overlay :: _ =>
    match mFactoryMap rrType with
    | none => .error (.dns .factoryAssertion)
    | some create =>
      c.store lowercase (keyOf overlay.mDomain rrType)
        (update (create m) now c.mUserDefinedTTL overlays)

def cacheTTL (c : RRCache δ) (now : ℕ) (m : DnsMessage δ) (target : δ) (rrType : ℕ)
    (status : AresStatus) (overlay : RROverlay δ) : Except CacheStop (RRCache δ) :=
  match m.getTTL overlay with
  | .error stop => .error (.dns stop)
  | .ok none => .ok c
  | .ok (some ttl) =>
    let val := ⟨target, rrType, [], status, (max ttl c.mUserDefinedTTL + now) % 2 ^ 64⟩
    match c.find lowercase val with
    | some it => do
      let _ ← c.deref it
      (c.drop it).add lowercase val
    | none => c.add lowercase val

def lookup (c : RRCache δ) (now : ℕ) (target : δ) (type : ℕ) :
    Except CacheStop (RRCache δ × Option (CachedRecords δ)) :=
  match c.find lowercase (keyOf target type) with
  | none => .ok (c, none)
  | some it => do
    let l ← c.deref it
    if l.mAbsoluteExpiry ≤ now then return (c.drop it, none)
    else
      let c ← c.touch it
      return (c, some ⟨l.mRecords, l.mStatus⟩)

/-- The loop of `logCache`; the entries that are `gone` are deleted. -/
def sweep (gone : RRList δ → Bool) (c : RRCache δ) (entries : List ℕ) : Except CacheStop (RRCache δ) :=
  entries.foldlM (fun c p => do
    let l ← c.deref p
    return if gone l then c.drop p else c) c

/-- A line is written for each of the other entries. -/
def logCache (c : RRCache δ) (now : ℕ) : Except CacheStop (RRCache δ) :=
  c.sweep (fun l => l.mAbsoluteExpiry ≤ now) c.mRRSet

def clearCache (c : RRCache δ) : Except CacheStop (RRCache δ) := c.sweep (fun _ => true) c.mRRSet

end RRCache

/-- The calls of a cache. -/
inductive Call (δ : Type)
  | updateCache (m : DnsMessage δ) (rrType : ℕ) (overlays : List (RROverlay δ))
  | updateCacheFromHostFile (name : δ) (address : ℕ)
  | cacheTTL (m : DnsMessage δ) (target : δ) (rrType : ℕ) (status : AresStatus)
      (overlay : RROverlay δ)
  | lookup (target : δ) (type : ℕ)
  | clearCache
  | logCache

variable (mFactoryMap : ℕ → Option (Factory δ))

def perform (c : RRCache δ) (now : ℕ) : Call δ → Except CacheStop (RRCache δ)
  | .updateCache m rrType overlays => c.updateCache lowercase mFactoryMap now m rrType overlays
  | .updateCacheFromHostFile name address => c.updateCacheFromHostFile lowercase now name address
  | .cacheTTL m target rrType status overlay =>
    c.cacheTTL lowercase now m target rrType status overlay
  | .lookup target type => Prod.fst <$> c.lookup lowercase now target type
  | .clearCache => c.clearCache
  | .logCache => c.logCache now

/-- Calls one after another, each at its time. -/
def run (c : RRCache δ) (calls : List (ℕ × Call δ)) : Except CacheStop (RRCache δ) :=
  calls.foldlM (fun c call => perform lowercase mFactoryMap c call.1 call.2) c

def fresh (mUserDefinedTTL mSize : ℕ) : RRCache δ :=
  ⟨fun _ => none, 0, [], [], mUserDefinedTTL, mSize⟩
end

end Resiprocate.RecordCache
