import Mathlib.Data.List.Perm.Basic

/-! Lists combined place by place, where what is left of the longer one stays. With an operation that is
associative and commutative the lists of a family can be combined in any order. -/
namespace Resiprocate.PaddedZip

variable {α : Type*} {f : α → α → α}

def zipLongest (f : α → α → α) : List α → List α → List α
  | [], bs => bs
  | as, [] => as
  | a :: as, b :: bs => f a b :: zipLongest f as bs

@[simp] theorem zipLongest_nil_left (bs : List α) : zipLongest f [] bs = bs := by
  cases bs <;> rfl

@[simp] theorem zipLongest_nil_right (as : List α) : zipLongest f as [] = as := by
  cases as <;> rfl

@[simp] theorem zipLongest_cons (a b : α) (as bs : List α) :
    zipLongest f (a :: as) (b :: bs) = f a b :: zipLongest f as bs := rfl

theorem zipLongest_comm [Std.Commutative f] (as bs : List α) : zipLongest f as bs = zipLongest f bs as := by
  induction as generalizing bs with
  | nil => simp
  | cons a as ih =>
    cases bs with
    | nil => simp
    | cons b bs =>
      rw [zipLongest_cons, zipLongest_cons, (Std.Commutative.comm a b : f a b = f b a), ih]

theorem zipLongest_assoc [Std.Associative f] (as bs cs : List α) :
    zipLongest f (zipLongest f as bs) cs = zipLongest f as (zipLongest f bs cs) := by
  induction as generalizing bs cs with
  | nil => simp
  | cons a as ih =>
    cases bs with
    | nil => simp
    | cons b bs =>
      cases cs with
      | nil => simp
      | cons c cs =>
        simp only [zipLongest_cons, ih]
        rw [(Std.Associative.assoc a b c : f (f a b) c = f a (f b c))]

instance [Std.Associative f] [Std.Commutative f] : RightCommutative (zipLongest f) where
  right_comm as bs cs := by rw [zipLongest_assoc, zipLongest_comm bs cs, ← zipLongest_assoc]

/-- The order of the lists does not matter. -/
theorem foldl_zipLongest_perm [Std.Associative f] [Std.Commutative f] {ls ls' : List (List α)}
    (h : ls.Perm ls') (start : List α) : ls.foldl (zipLongest f) start = ls'.foldl (zipLongest f) start :=
  h.foldl_eq start

/-- Combining by `zipWith` after the first list has been padded with a unit to the length of the other. -/
theorem zipLongest_eq_padded {unit : α} (hunit : ∀ b, f unit b = b) (as bs : List α) :
    zipLongest f as bs =
      List.zipWith f (as ++ List.replicate (bs.length - as.length) unit) bs ++ as.drop bs.length := by
  induction as generalizing bs with
  | nil =>
    induction bs with
    | nil => rfl
    | cons b bs ihb =>
      simpa [List.replicate_succ, hunit] using ihb
  | cons a as ih =>
    cases bs with
    | nil => simp
    | cons b bs => simp [ih]

end Resiprocate.PaddedZip
