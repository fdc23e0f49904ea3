import Resiprocate.DnsQuery

/-! The stub: the queries made of it go, the resolver answers those it was asked for, and the cache
is cleared or limited in between. -/
namespace Resiprocate.Dns

/-- The stub, and what was done for the queries by their numbers. -/
structure DnsStub (δ : Type) where
  mRRCache : RRCache δ
  /-- Those that the resolver has not answered yet. -/
  mQueries : List (Query δ)
  /-- How many queries were made. -/
  made : ℕ
  /-- The queries of each lookup of the resolver. -/
  asked : List ℕ
  /-- The queries of each notified sink. -/
  notified : List ℕ

inductive StubEvent (δ : Type)
  | query (target : δ) (rrType : ℕ) (followCname : Bool)
  /-- The resolver answers one of the queries; each lookup has one answer. -/
  | onDnsRaw (i : ℕ) (status : AresStatus) (m : DnsMessage δ)
  | clearDnsCache
  | setDnsCacheTTL (ttl : ℕ)
  | setDnsCacheSize (size : ℕ)

namespace RRCache
variable {δ : Type}

def DEFAULT_USER_DEFINED_TTL : ℕ := 10
def DEFAULT_SIZE : ℕ := 512
def MIN_TO_SEC : ℕ := 60

def empty : RRCache δ := ⟨[], DEFAULT_USER_DEFINED_TTL, DEFAULT_SIZE⟩

def clearCache (c : RRCache δ) : RRCache δ := { c with mRRSet := [] }

def setTTL (c : RRCache δ) (ttl : ℕ) : RRCache δ :=
  if 0 < ttl then { c with mUserDefinedTTL := ttl * MIN_TO_SEC } else c

def setSize (c : RRCache δ) (size : ℕ) : RRCache δ := { c with mSize := size }

end RRCache

namespace DnsStub
variable {δ : Type}

/-- The stub before the first query. -/
def initial : DnsStub δ := ⟨.empty, [], 0, [], []⟩

/-- What a query did to the cache, and what becomes of it. -/
def conclude (stub : DnsStub δ) (q : Query δ) (result : RRCache δ × QueryOutcome δ) : DnsStub δ :=
  match result with
  | (c, .notifyUser _ _) => { stub with mRRCache := c, notified := stub.notified ++ [q.id] }
  | (c, .lookupRecords _ mReQuery) =>
    { stub with
      mRRCache := c
      mQueries := stub.mQueries ++ [{ q with mReQuery := mReQuery }]
      asked := stub.asked ++ [q.id] }

variable [LinearOrder δ] (provider : DnsProvider δ)

def query (stub : DnsStub δ) (n now : ℕ) (target : δ) (rrType : ℕ) (followCname : Bool) :
    Option (Except DnsStop (DnsStub δ)) :=
  let q : Query δ := ⟨stub.made, rrType, target, 0, followCname⟩
  (q.go provider now n stub.mRRCache).map
    (·.map ({ stub with made := stub.made + 1 }.conclude q))

def onDnsRaw (stub : DnsStub δ) (now i : ℕ) (status : AresStatus) (m : DnsMessage δ) :
    Except DnsStop (DnsStub δ) :=
  match stub.mQueries[i]? with
  | none => .ok stub
  | some q =>
    (q.process provider now status m stub.mRRCache).map
      ({ stub with mQueries := stub.mQueries.eraseIdx i }.conclude q)

/-- An event at a time; the loop of `go` has at most `n` rounds. -/
def step (n now : ℕ) (stub : DnsStub δ) : StubEvent δ → Option (Except DnsStop (DnsStub δ))
  | .query target rrType followCname => stub.query provider n now target rrType followCname
  | .onDnsRaw i status m => some (stub.onDnsRaw provider now i status m)
  | .clearDnsCache => some (.ok { stub with mRRCache := stub.mRRCache.clearCache })
  | .setDnsCacheTTL ttl => some (.ok { stub with mRRCache := stub.mRRCache.setTTL ttl })
  | .setDnsCacheSize size => some (.ok { stub with mRRCache := stub.mRRCache.setSize size })

/-- `none` is a run in which a `go` has not ended after `n` rounds. -/
def run (n : ℕ) (stub : DnsStub δ) : List (ℕ × StubEvent δ) → Option (Except DnsStop (DnsStub δ))
  | [] => some (.ok stub)
  | (now, event) :: events =>
    match stub.step provider n now event with
    | some (.ok stub) => run n stub events
    | stopped => stopped

end DnsStub
end Resiprocate.Dns
