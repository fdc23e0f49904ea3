import Resiprocate.DnsMessage

/-! The cache of DNS records and the queries that use it. A query follows the aliases that the cache
has for its name, asks the resolver when it finds no records, and caches what comes back. -/
namespace Resiprocate.Dns

/-- The status codes of the resolver. -/
inductive AresStatus
  | SUCCESS
  | ENODATA
  | EFORMERR
  | ESERVFAIL
  | ENOTFOUND
  | ENOTIMP
  | EREFUSED
  | EBADQUERY
  | EBADNAME
  | EBADFAMILY
  | EBADRESP
  | ECONNREFUSED
  | ETIMEOUT
  | EOF
  | EFILE
  | ENOMEM
  | EDESTRUCTION
  | other (code : ℕ)
  deriving DecidableEq

inductive DnsRecord (δ : Type)
  | host (name : δ) (address : ℕ)
  | cname (name cname : δ)
  | other (overlay : RROverlay δ)

/-- `RRList` -/
structure RRList (δ : Type) where
  mKey : δ
  mRRType : ℕ
  mRecords : List (DnsRecord δ)
  mStatus : AresStatus
  mAbsoluteExpiry : ℕ

/-- What a `DnsStub` is given: the file of hosts, and whether a record other than an alias can be
made of an overlay. -/
structure DnsProvider (δ : Type) extends DnsConfig where
  hostFileLookup : δ → Option ℕ
  parses : DnsMessage δ → RROverlay δ → Bool

/-- The set of lists, the least recently used first. -/
structure RRCache (δ : Type) where
  mRRSet : List (RRList δ)
  mUserDefinedTTL : ℕ
  mSize : ℕ

/-- The result of a lookup. -/
structure CachedRecords (δ : Type) where
  records : List (DnsRecord δ)
  status : AresStatus

section
variable {δ : Type} [LinearOrder δ]

/-- `create` of the factory of a type; an exception makes no record. -/
def createRecord (provider : DnsProvider δ) (m : DnsMessage δ) (overlay : RROverlay δ) :
    Option (DnsRecord δ) :=
  if overlay.mType = T_CNAME then do
    let name ← m.expandName (overlay.mData - overlay.mNameLen - RRFIXEDSZ)
    let cname ← m.expandName overlay.mData
    return .cname name.1 cname.1
  else if provider.parses m overlay then some (.other overlay)
  else none

/-- A `ttl` as `uint64_t`; it was an `int`. -/
def ttl64 (ttl : ℕ) : ℕ := if ttl < 2 ^ 31 then ttl else 2 ^ 64 - 2 ^ 32 + ttl

namespace RRList

def isKey (l : RRList δ) (target : δ) (type : ℕ) : Bool := l.mKey = target && l.mRRType = type

/-- `update`: the list expires with its first record, and a list of none with the largest time,
which wraps around. -/
def update (provider : DnsProvider δ) (now : ℕ) (m : DnsMessage δ) (overlays : List (RROverlay δ))
    (ttl : ℕ) (l : RRList δ) : RRList δ :=
  let created := overlays.filter fun overlay => (createRecord provider m overlay).isSome
  let first := created.foldl (fun e overlay => min e (ttl64 overlay.mTTL)) (2 ^ 64 - 1)
  { l with
    mRecords := overlays.filterMap (createRecord provider m)
    mAbsoluteExpiry := (max first ttl + now) % 2 ^ 64 }

end RRList

namespace RRCache

def find (c : RRCache δ) (target : δ) (type : ℕ) : Option (RRList δ) :=
  c.mRRSet.find? (·.isKey target type)

def remove (c : RRCache δ) (target : δ) (type : ℕ) : RRCache δ :=
  { c with mRRSet := c.mRRSet.filter fun l => !l.isKey target type }

/-- The list is the most recently used one. -/
def insert (c : RRCache δ) (l : RRList δ) : RRCache δ :=
  { c.remove l.mKey l.mRRType with
    mRRSet := (c.remove l.mKey l.mRRType).mRRSet ++ [l] }

def purge (c : RRCache δ) : RRCache δ :=
  if c.mRRSet.length < c.mSize then c else { c with mRRSet := c.mRRSet.tail }

def lookup (c : RRCache δ) (now : ℕ) (target : δ) (type : ℕ) :
    RRCache δ × Option (CachedRecords δ) :=
  match c.find target type with
  | none => (c, none)
  | some l =>
    if l.mAbsoluteExpiry ≤ now then (c.remove target type, none)
    else (c.insert l, some ⟨l.mRecords, l.mStatus⟩)

/-- A list replaces the one of its key, or is new. -/
def store (c : RRCache δ) (l : RRList δ) : RRCache δ :=
  match c.find l.mKey l.mRRType with
  | some _ => c.insert l
  | none => (c.insert l).purge

def updateCacheFromHostFile (c : RRCache δ) (now : ℕ) (name : δ) (address : ℕ) : RRCache δ :=
  match c.find name T_A with
  | some l =>
    c.insert { l with mRecords := [.host name address], mAbsoluteExpiry := now + 3600 }
  | none => c.store ⟨name, T_A, [.host name address], .SUCCESS, now + 3600⟩

/-- The types that have a factory. -/
def hasFactory (cfg : DnsConfig) (type : ℕ) : Bool :=
  type = T_CNAME || type = T_NAPTR || type = T_SRV || (cfg.useIPv6 && type = T_AAAA) || type = T_A

/-- The overlays of one type and one domain. -/
def updateCache (c : RRCache δ) (provider : DnsProvider δ) (now : ℕ) (m : DnsMessage δ)
    (overlays : List (RROverlay δ)) : Except DnsStop (RRCache δ) :=
  match overlays with
  | [] => .ok c
  | overlay :: _ =>
    if !hasFactory provider.toDnsConfig overlay.mType then .error .factoryAssertion
    else
      let l := (c.find overlay.mDomain overlay.mType).getD
        ⟨overlay.mDomain, overlay.mType, [], .SUCCESS, 0⟩
      .ok (c.store (l.update provider now m overlays c.mUserDefinedTTL))

def cacheTTL (c : RRCache δ) (now : ℕ) (target : δ) (rrType : ℕ) (status : AresStatus) (ttl : ℕ) :
    RRCache δ :=
  (c.insert ⟨target, rrType, [], status, max ttl c.mUserDefinedTTL + now⟩).purge

/-- `DnsStub::cache`: the overlays are cached by their type and domain. -/
def cache (c : RRCache δ) (provider : DnsProvider δ) (now : ℕ) (m : DnsMessage δ) :
    Except DnsStop (RRCache δ) := do
  let overlays ← m.overlays provider.toDnsConfig
  let groups := overlays.splitBy fun r₁ r₂ => r₁.mType = r₂.mType && r₁.mDomain = r₂.mDomain
  groups.foldlM (fun c group => c.updateCache provider now m group) c

end RRCache

/-! ### Queries -/

/-- `DnsStub::Query`, with a number that tells it from the others. -/
structure Query (δ : Type) where
  id : ℕ
  mRRType : ℕ
  mTarget : δ
  mReQuery : ℕ
  mFollowCname : Bool

/-- What becomes of a query: its sink is notified, or the resolver is asked for a name. -/
inductive QueryOutcome (δ : Type)
  | notifyUser (status : AresStatus) (records : List (DnsRecord δ))
  | lookupRecords (target : δ) (mReQuery : ℕ)

/-- `cnames[0]`; all records of a list of aliases are aliases. -/
def firstCname : List (DnsRecord δ) → Option δ
  | .cname _ cname :: _ => some cname
  | _ => none

def MAX_REQUERIES : ℕ := 5

namespace Query
variable (provider : DnsProvider δ) (now : ℕ)

/-- The loop of `go` over the aliases in the cache, for at most `n` rounds; `none` is a loop that
goes on. -/
def aliasLoop : ℕ → RRCache δ → δ → Option (Except DnsStop (RRCache δ × δ))
  | 0, _, _ => none
  | n + 1, c, target =>
    match c.lookup now target T_CNAME with
    | (c, none) => some (.ok (c, target))
    | (c, some cnames) =>
      match firstCname cnames.records with
      | none => some (.error .emptyRecords)
      | some cname => aliasLoop n c cname

/-- The records of a name are looked up for the sink, if there are any. -/
def answerWith (q : Query δ) (c : RRCache δ) (target : δ) : RRCache δ × QueryOutcome δ :=
  let (c, result) := c.lookup now target q.mRRType
  (c, .notifyUser ((result.map (·.status)).getD .SUCCESS) ((result.map (·.records)).getD []))

/-- The rest of `go`, for a name without an alias in the cache. -/
def askFor (q : Query δ) (c : RRCache δ) (target : δ) :
    Except DnsStop (RRCache δ × QueryOutcome δ) :=
  let (c, found) := if target = q.mTarget then (c, none) else c.lookup now target q.mRRType
  match found with
  | some found => .ok (c, .notifyUser found.status found.records)
  | none =>
    if provider.hostFileLookupLookupOnlyMode then
      if q.mRRType ≠ T_A then .error .typeAssertion
      else
        match provider.hostFileLookup target with
        | some address =>
          .ok (q.answerWith now (c.updateCacheFromHostFile now q.mTarget address) q.mTarget)
        | none => .ok (c, .notifyUser .ENOTFOUND [])
    else .ok (c, .lookupRecords target q.mReQuery)

/-- `go`, with at most `n` rounds of its loop. -/
def go (q : Query δ) (n : ℕ) (c : RRCache δ) :
    Option (Except DnsStop (RRCache δ × QueryOutcome δ)) :=
  match c.lookup now q.mTarget q.mRRType with
  | (c, some found) => some (.ok (c, .notifyUser found.status found.records))
  | (c, none) =>
    if q.mRRType = T_CNAME then some (q.askFor provider now c q.mTarget)
    else
      match aliasLoop now n c q.mTarget with
      | none => none
      | some (.error stop) => some (.error stop)
      | some (.ok (c, target)) => some (q.askFor provider now c target)

/-- The loop of `followCname`, in which `n` more rounds are left after this one. -/
def followLoop : ℕ → RRCache δ → δ → ℕ → Except DnsStop (RRCache δ × δ × ℕ)
  | n, c, target, mReQuery =>
    match c.lookup now target T_CNAME with
    | (c, none) => .ok (c, target, mReQuery)
    | (c, some cnames) =>
      match firstCname cnames.records, n with
      | none, _ => .error .emptyRecords
      | some cname, 0 => .ok (c, cname, mReQuery + 1)
      | some cname, n + 1 => followLoop n c cname (mReQuery + 1)

/-- `followCname` once the answer is cached. The first record of the answer is at `p`. -/
def followCached (q : Query δ) (m : DnsMessage δ) (p : ℕ) (name : δ) (c : RRCache δ) :
    Except DnsStop (RRCache δ × QueryOutcome δ) := do
  if q.mRRType = T_CNAME then return q.answerWith now c name
  else
    let type ← m.numberAt p 2
    if type ≠ T_CNAME then return q.answerWith now c name
    else if q.mFollowCname ∧ q.mReQuery < MAX_REQUERIES then
      let (c, target, mReQuery) ← followLoop now (MAX_REQUERIES - (q.mReQuery + 2)) c name
        (q.mReQuery + 1)
      match c.lookup now target q.mRRType with
      | (c, none) => return (c, .lookupRecords target mReQuery)
      | (c, some _) => return q.answerWith now c target
    else return (c, .notifyUser .ENODATA [])

def followCname (q : Query δ) (m : DnsMessage δ) (p : ℕ) (c : RRCache δ) :
    Except DnsStop (RRCache δ × QueryOutcome δ) :=
  match m.expandName p with
  | none => .ok (c, .notifyUser .EFORMERR [])
  | some (name, len) =>
    match c.cache provider now m with
    | .error (.thrown _) => .ok (c, .notifyUser .EFORMERR [])
    | .error stop => .error stop
    | .ok c => q.followCached now m (p + len) name c

/-- `process` of an answer. -/
def processAnswer (q : Query δ) (m : DnsMessage δ) (c : RRCache δ) :
    Except DnsStop (RRCache δ × QueryOutcome δ) :=
  match m.skipQuestions m.qdcount HFIXEDSZ with
  | .error (.thrown _) => .ok (c, .notifyUser .EFORMERR [])
  | .error stop => .error stop
  | .ok p =>
    if m.ancount = 0 then .ok (c, .notifyUser .SUCCESS [])
    else q.followCname provider now m p c

/-- `process` of a failure of which the cache takes note. -/
def processFailure (q : Query δ) (status : AresStatus) (m : DnsMessage δ) (c : RRCache δ) :
    Except DnsStop (RRCache δ × QueryOutcome δ) :=
  match if q.mRRType = T_A then provider.hostFileLookup q.mTarget else none with
  | some address =>
    .ok (q.answerWith now (c.updateCacheFromHostFile now q.mTarget address) q.mTarget)
  | none =>
    match m.failureTTL provider.toDnsConfig with
    | .error (.thrown _) => .ok (c, .notifyUser status [])
    | .error stop => .error stop
    | .ok none => .ok (c, .notifyUser status [])
    | .ok (some ttl) =>
      .ok (c.cacheTTL now q.mTarget q.mRRType status ttl, .notifyUser status [])

def process (q : Query δ) (status : AresStatus) (m : DnsMessage δ) (c : RRCache δ) :
    Except DnsStop (RRCache δ × QueryOutcome δ) :=
  match status with
  | .SUCCESS => q.processAnswer provider now m c
  | .ENODATA | .EFORMERR | .ESERVFAIL | .ENOTFOUND | .ENOTIMP | .EREFUSED =>
    q.processFailure provider now status m c
  | .ECONNREFUSED | .ETIMEOUT | .EBADRESP | .EOF | .EFILE | .ENOMEM | .EDESTRUCTION | .EBADNAME
  | .EBADQUERY => .ok (c, .notifyUser status [])
  | .EBADFAMILY | .other _ => .error .statusAssertion

end Query
end

end Resiprocate.Dns
