import Mathlib
import Resiprocate.BigEndian

/-! A DNS message as it comes from the resolver, and how its records are found. A read past the end
of the buffer stops the parser as `outOfBounds`, where the source reads on. -/
namespace Resiprocate.Dns
open BigEndian (value)

inductive DnsStop
  /-- An exception, which the callers catch. -/
  | thrown (message : String)
  | outOfBounds
  /-- An assertion of `RRCache::getTTL`. -/
  | ttlAssertion
  /-- `*overlays.begin()` of no overlays. -/
  | emptyOverlays
  /-- The assertion of `RRCache::updateCache`. -/
  | factoryAssertion
  /-- `cnames[0]` of no records. -/
  | emptyRecords
  /-- The assertions of `Query::process`. -/
  | statusAssertion
  /-- The assertion of `Query::go`. -/
  | typeAssertion
  deriving DecidableEq

/-- The answer to a query. Names have the type `δ`. -/
structure DnsMessage (δ : Type) where
  /-- `abuf` -/
  bytes : List UInt8
  header : 12 ≤ bytes.length
  /-- `ares_expand_name` at an offset: the name and the length of its encoding. -/
  expandName : ℕ → Option (δ × ℕ)
  inside : ∀ p name len, expandName p = some (name, len) → p + len ≤ bytes.length

def T_A : ℕ := 1
def T_CNAME : ℕ := 5
def T_SOA : ℕ := 6
def T_AAAA : ℕ := 28
def T_SRV : ℕ := 33
def T_NAPTR : ℕ := 35

def HFIXEDSZ : ℕ := 12
def QFIXEDSZ : ℕ := 4
def RRFIXEDSZ : ℕ := 10

/-- What the build and the provider of a `DnsStub` decide. -/
structure DnsConfig where
  useIPv6 : Bool
  hostFileLookupLookupOnlyMode : Bool

def DnsConfig.supportedType (cfg : DnsConfig) (type : ℕ) : Bool :=
  if cfg.hostFileLookupLookupOnlyMode then type = T_A
  else
    type = T_A || (cfg.useIPv6 && type = T_AAAA) || type = T_NAPTR || type = T_SRV ||
      type = T_CNAME || type = T_SOA

/-- A record of the message; `mData` is an offset. -/
structure RROverlay (δ : Type) where
  mData : ℕ
  mDataLen : ℕ
  mNameLen : ℕ
  mTTL : ℕ
  mType : ℕ
  mDomain : δ

namespace DnsMessage
variable {δ : Type} (m : DnsMessage δ) (cfg : DnsConfig)

/-- `alen` -/
def alen : ℕ := m.bytes.length

/-- A number of `n` bytes in network byte order. -/
def numberAt (p n : ℕ) : Except DnsStop ℕ :=
  if p + n ≤ m.alen then .ok (value ((m.bytes.drop p).take n)) else .error .outOfBounds

/-- A field of the header. -/
def headerField (p : ℕ) : ℕ := value ((m.bytes.drop p).take 2)

def qdcount : ℕ := m.headerField 4
def ancount : ℕ := m.headerField 6
def nscount : ℕ := m.headerField 8
def arcount : ℕ := m.headerField 10

def skipDNSQuestion (p : ℕ) : Except DnsStop ℕ :=
  match m.expandName p with
  | none => .error (.thrown "Failed DNS preparse")
  | some (_, len) =>
    if m.alen < p + len + QFIXEDSZ then .error (.thrown "Failed DNS preparse")
    else .ok (p + len + QFIXEDSZ)

/-- The loop over the questions. -/
def skipQuestions : ℕ → ℕ → Except DnsStop ℕ
  | 0, p => .ok p
  | n + 1, p => do skipQuestions n (← m.skipDNSQuestion p)

/-- The constructor. -/
def overlayAt (p : ℕ) : Except DnsStop (RROverlay δ) :=
  match m.expandName p with
  | none => .error (.thrown "Failed parse of RR")
  | some (name, len) =>
    if m.alen < p + len + RRFIXEDSZ then .error (.thrown "Failed parse of RR")
    else do
      let type ← m.numberAt (p + len) 2
      let dataLen ← m.numberAt (p + len + 8) 2
      let ttl ← m.numberAt (p + len + 4) 4
      if m.alen < p + len + RRFIXEDSZ + dataLen then .error (.thrown "Failed parse of RR")
      else return ⟨p + len + RRFIXEDSZ, dataLen, len, ttl, type, name⟩

/-- The next offset, and the overlays with that of the record. -/
def createOverlay (p : ℕ) (overlays : List (RROverlay δ)) (discard : Bool) :
    Except DnsStop (ℕ × List (RROverlay δ)) :=
  match m.expandName p with
  | none => .error (.thrown "Failed overlay creation")
  | some (_, len) => do
    -- the fixed part is read before it is known to be there
    let type ← m.numberAt (p + len) 2
    let dlen ← m.numberAt (p + len + 8) 2
    if !cfg.supportedType type then return (p + len + RRFIXEDSZ + dlen, overlays)
    else if !discard then
      let overlay ← m.overlayAt p
      return (p + len + RRFIXEDSZ + dlen, overlays ++ [overlay])
    else return (p + len + RRFIXEDSZ + dlen, overlays)

/-- The loop over the records of a section. -/
def createOverlays (discard : Bool) :
    ℕ → ℕ → List (RROverlay δ) → Except DnsStop (ℕ × List (RROverlay δ))
  | 0, p, overlays => .ok (p, overlays)
  | n + 1, p, overlays => do
    let next ← m.createOverlay cfg p overlays discard
    createOverlays discard n next.1 next.2

end DnsMessage

section
variable {δ : Type} [LinearOrder δ]

/-- The order of overlays: by their type, then by their domain. -/
def RROverlay.le (r₁ r₂ : RROverlay δ) : Bool :=
  r₁.mType < r₂.mType || (r₁.mType = r₂.mType && r₁.mDomain ≤ r₂.mDomain)

namespace DnsMessage
variable (m : DnsMessage δ) (cfg : DnsConfig)

/-- The records that `DnsStub::cache` collects, sorted. -/
def overlays : Except DnsStop (List (RROverlay δ)) := do
  let p ← m.skipQuestions m.qdcount HFIXEDSZ
  let answers ← m.createOverlays cfg false m.ancount p []
  let servers ← m.createOverlays cfg true m.nscount answers.1 answers.2
  let additional ← m.createOverlays cfg false m.arcount servers.1 servers.2
  let sorted := additional.2.mergeSort RROverlay.le
  if sorted.isEmpty then .error .emptyOverlays else return sorted

/-- `RRCache::getTTL`; `none` is a negative number. -/
def getTTL (overlay : RROverlay δ) : Except DnsStop (Option ℕ) :=
  if overlay.mType ≠ T_SOA then .ok none
  else
    match m.expandName overlay.mData with
    | none => .error .ttlAssertion
    | some (_, len) =>
      match m.expandName (overlay.mData + len) with
      | none => .error .ttlAssertion
      | some (_, len') => do
        let ttl ← m.numberAt (overlay.mData + len + len' + 16) 4
        return if ttl < 2 ^ 31 then some ttl else none

/-- What `DnsStub::cacheTTL` finds in a failure. -/
def failureTTL : Except DnsStop (Option ℕ) := do
  let p ← m.skipQuestions m.qdcount HFIXEDSZ
  if m.ancount ≠ 0 then return none
  else if m.nscount = 0 then return none
  else
    let soa ← m.createOverlay cfg p [] false
    match soa.2 with
    | [] => return none
    | overlay :: _ => m.getTTL overlay

end DnsMessage
end

end Resiprocate.Dns
