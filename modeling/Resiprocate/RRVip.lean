import Resiprocate.DnsMessage
import Resiprocate.ParseBuffer
import Resiprocate.TransitionSystem

/-! Preferred records of the DNS cache. The transforms of NAPTR and SRV records get the cache's own records
and change their order or priority; what was first cached is not kept. -/
namespace Resiprocate.Dns
open TransitionSystem Rutil

/-- `++` of an `int`. -/
def increment (x : ℤ) : ℤ := if x = 2147483647 then -2147483648 else x + 1

/-- The records of a type, with the field by which they are preferred. -/
structure Ranked (ρ : Type) where
  rank : ρ → ℤ
  setRank : ρ → ℤ → ρ
  isSameValue : ρ → Bytes → Bool
  rank_set : ∀ r x, rank (setRank r x) = x
  set_rank : ∀ r, setRank r (rank r) = r
  set_set : ∀ r x y, setRank (setRank r x) y = setRank r y
  isSameValue_set : ∀ r x value, isSameValue (setRank r x) value = isSameValue r value

namespace Ranked
variable {ρ : Type} (A : Ranked ρ)

/-- The local `min` at the end of its loop. -/
def least : List ρ → ℤ
  | [] => 0
  | r :: rs => (r :: rs).foldl (fun min r => if A.rank r < min then A.rank r else min) (A.rank r)

/-- `transform` of a vip, with `invalidVip`. Every record is put back by one, the vip to where the first
was. -/
def transform (mVip : Bytes) (src : List ρ) : Bool × List ρ :=
  match src.findIdx? (A.isSameValue · mVip) with
  | none => (true, src)
  | some vip =>
    (false, (src.map fun r => A.setRank r (increment (A.rank r))).modify vip (A.setRank · (A.least src)))

end Ranked

structure RegExp where
  mRegexp : Bytes
  mReplacement : Bytes
  deriving DecidableEq

structure DnsNaptrRecord where
  mOrder : ℤ
  mPreference : ℤ
  mFlags : Bytes
  mService : Bytes
  mRegexp : RegExp
  mReplacement : Bytes
  mName : Bytes
  deriving DecidableEq

structure DnsSrvRecord where
  mPriority : ℤ
  mWeight : ℤ
  mPort : ℕ
  mTarget : Bytes
  mName : Bytes
  deriving DecidableEq

def DnsNaptrRecord.isSameValue (r : DnsNaptrRecord) (value : Bytes) : Bool := r.mReplacement == value

def DnsSrvRecord.isSameValue (r : DnsSrvRecord) (value : Bytes) : Bool :=
  value == r.mTarget ++ literal ":" ++ literal r.mPort.repr

def naptrRecords : Ranked DnsNaptrRecord where
  rank r := r.mOrder
  setRank r x := { r with mOrder := x }
  isSameValue := DnsNaptrRecord.isSameValue
  rank_set _ _ := rfl
  set_rank _ := rfl
  set_set _ _ _ := rfl
  isSameValue_set _ _ _ := rfl

def srvRecords : Ranked DnsSrvRecord where
  rank r := r.mPriority
  setRank r x := { r with mPriority := x }
  isSameValue := DnsSrvRecord.isSameValue
  rank_set _ _ := rfl
  set_rank _ := rfl
  set_set _ _ _ := rfl
  isSameValue_set _ _ _ := rfl

/-- `NaptrTransform::transform`. -/
def naptrTransform : Bytes → List DnsNaptrRecord → Bool × List DnsNaptrRecord := naptrRecords.transform

/-- `SrvTransform::transform`. -/
def srvTransform : Bytes → List DnsSrvRecord → Bool × List DnsSrvRecord := srvRecords.transform

/-- The vips, by target and type. -/
structure RRVip where
  mTransforms : Bytes × ℕ → Option Bytes

namespace RRVip

def vip (m : RRVip) (target : Bytes) (rrType : ℕ) (vip : Bytes) : RRVip :=
  ⟨Function.update m.mTransforms (target, rrType) (some vip)⟩

def removeVip (m : RRVip) (target : Bytes) (rrType : ℕ) : RRVip :=
  ⟨Function.update m.mTransforms (target, rrType) none⟩

variable {ρ : Type}

/-- A vip that no record has is removed. -/
def transform (m : RRVip) (A : Ranked ρ) (target : Bytes) (rrType : ℕ) (src : List ρ) : RRVip × List ρ :=
  match m.mTransforms (target, rrType) with
  | none => (m, src)
  | some mVip =>
    match A.transform mVip src with
    | (true, src) => (m.removeVip target rrType, src)
    | (false, src) => (m, src)

/-- `DnsStub::Query::go` with the records that are cached. -/
def go (m : RRVip) (A : Ranked ρ) (target : Bytes) (rrType : ℕ) (records : List ρ) : RRVip × List ρ :=
  if records.isEmpty then (m, records) else m.transform A target rrType records

end RRVip

/-- The vips and one list of records of the cache. -/
structure Vipped (ρ : Type) where
  vips : RRVip
  records : List ρ

inductive VipCall
  | vip (target : Bytes) (rrType : ℕ) (vip : Bytes)
  | removeVip (target : Bytes) (rrType : ℕ)
  | lookUp

namespace Vipped
variable {ρ : Type} (A : Ranked ρ) (target : Bytes) (rrType : ℕ)

/-- A look-up returns the records that it leaves in the cache. -/
def next (s : Vipped ρ) : VipCall → Vipped ρ
  | .vip target rrType vip => { s with vips := s.vips.vip target rrType vip }
  | .removeVip target rrType => { s with vips := s.vips.removeVip target rrType }
  | .lookUp =>
    let result := s.vips.go A target rrType s.records
    ⟨result.1, result.2⟩

/-- The list is cached for the target and the type. There are factories for four types. -/
def life (first : List ρ) : System (Vipped ρ) VipCall where
  init s := s.records = first
  enabled _ e := ∀ target rrType vip, e = .vip target rrType vip → rrType ∈ [T_A, T_AAAA, T_NAPTR, T_SRV]
  next := next A target rrType

/-- The index of the record that a look-up prefers. -/
def preferred (s : Vipped ρ) : Option ℕ :=
  (s.vips.mTransforms (target, rrType)).bind fun mVip => s.records.findIdx? (A.isSameValue · mVip)

/-- The records that the look-ups preferred, the latest first. -/
def remember (s : Vipped ρ) (e : VipCall) (past : List ℕ) : List ℕ :=
  match e with
  | .lookUp => (s.preferred A target rrType).toList ++ past
  | _ => past

/-- The life with the look-ups so far. -/
def remembered (first : List ρ) : System (Vipped ρ × List ℕ) VipCall :=
  (life A target rrType first).observe [] (remember A target rrType)

end Vipped

namespace Ranked
variable {ρ : Type} (A : Ranked ρ)

def rankAt (records : List ρ) (j : ℕ) : ℤ := (records[j]?).elim 0 A.rank

/-- What a look-up should return: the preferred record is strictly the first and the others are ordered as
they were first cached; if no record is preferred, all is as it was first cached. -/
def Served (first result : List ρ) : Option ℕ → Prop
  | none => result = first
  | some vip =>
    result.map (A.setRank · 0) = first.map (A.setRank · 0) ∧ ∀ j < first.length, j ≠ vip →
      A.rankAt result vip < A.rankAt result j ∧ ∀ k < first.length, k ≠ vip →
        (A.rankAt result j ≤ A.rankAt result k ↔ A.rankAt first j ≤ A.rankAt first k)

/-- No record that is put back is at the greatest `int`. -/
def InRange (records : List ρ) (vip : ℕ) : Prop :=
  ∀ j < records.length, j ≠ vip → A.rankAt records j ≠ 2147483647

instance (records : List ρ) (vip : ℕ) : Decidable (A.InRange records vip) :=
  inferInstanceAs (Decidable (∀ j < records.length, j ≠ vip → A.rankAt records j ≠ 2147483647))

/-- The look-ups so far do not show. Where a record other than the vip was preferred later than another, or
was and the other was not, it was first cached strictly before it; and if no record is preferred, then none
was, or all were one after the other from the last to the first. -/
def Unseen (first : List ρ) (past : List ℕ) : Option ℕ → Prop
  | none => past = [] ∨ ∀ j < first.length, j ∈ past ∧ A.rankAt first j = A.least first + past.idxOf j
  | some vip => ∀ j < first.length, ∀ k < first.length, j ≠ vip → k ≠ vip →
    past.idxOf j < past.idxOf k → A.rankAt first j < A.rankAt first k

end Ranked

end Resiprocate.Dns
