import Mathlib

/-! A walk over two lists that are sorted by a key. It passes over the element with the smaller key and
compares two elements whose keys are equal: the first of a key with the first, the second with the
second, as far as both lists go. -/
namespace Resiprocate.MergeWalk

variable {α κ : Type*} [LinearOrder κ] (key : α → κ) (same : α → α → Bool)

def walk : List α → List α → Bool
  | a :: as, b :: bs =>
    if key a < key b then walk as (b :: bs)
    else if key b < key a then walk (a :: as) bs
    else same a b && walk as bs
  | _, _ => true
termination_by as bs => as.length + bs.length

/-- The elements with a key, in pairs. -/
def pairs (k : κ) (as bs : List α) : List (α × α) :=
  (as.filter fun a => key a = k).zip (bs.filter fun b => key b = k)

def SortedBy (as : List α) : Prop := as.Pairwise fun a b => key a ≤ key b

variable {key same} {a b : α} {as bs : List α} {k : κ}

@[simp] theorem pairs_nil_left : pairs key k [] bs = [] := rfl

@[simp] theorem pairs_nil_right : pairs key k as [] = [] := by
  rw [pairs, List.filter_nil, List.zip_nil_right]

theorem pairs_cons_left (h : key a ≠ k) : pairs key k (a :: as) bs = pairs key k as bs := by
  rw [pairs, pairs, List.filter_cons_of_neg (by simpa using h)]

theorem pairs_cons_right (h : key b ≠ k) : pairs key k as (b :: bs) = pairs key k as bs := by
  rw [pairs, pairs, List.filter_cons_of_neg (by simpa using h)]

theorem pairs_cons_cons (hkey : key a = key b) :
    pairs key (key a) (a :: as) (b :: bs) = (a, b) :: pairs key (key a) as bs := by
  rw [pairs, pairs, List.filter_cons_of_pos (by simp), List.filter_cons_of_pos (by simp [hkey]),
    List.zip_cons_cons]

theorem filter_below (hsorted : SortedBy key (b :: bs)) (h : k < key b) :
    ((b :: bs).filter fun c => key c = k) = [] := by
  rw [List.filter_eq_nil_iff]
  intro c hc
  have hle : key b ≤ key c := by
    rcases List.mem_cons.mp hc with rfl | hc
    · exact le_rfl
    · exact List.rel_of_pairwise_cons hsorted hc
  simpa using (h.trans_le hle).ne'

theorem pairs_below_left (hsorted : SortedBy key (a :: as)) (h : k < key a) :
    pairs key k (a :: as) bs = [] := by
  rw [pairs, filter_below hsorted h, List.zip_nil_left]

theorem pairs_below_right (hsorted : SortedBy key (b :: bs)) (h : k < key b) :
    pairs key k as (b :: bs) = [] := by
  rw [pairs, filter_below hsorted h, List.zip_nil_right]

/-- The walk finds what the pairs of every key are. -/
theorem walk_iff (has : SortedBy key as) (hbs : SortedBy key bs) :
    walk key same as bs = true ↔ ∀ k, ∀ p ∈ pairs key k as bs, same p.1 p.2 = true := by
  fun_induction walk key same as bs with
  | case1 a as b bs hlt ih =>
    rw [ih has.tail hbs]
    apply forall_congr'
    intro k
    by_cases hk : key a = k
    · subst hk
      have hright : ∀ cs, pairs key (key a) cs (b :: bs) = [] := fun _ => pairs_below_right hbs hlt
      rw [hright, hright]
    · rw [pairs_cons_left hk]
  | case2 a as b bs hlt hgt ih =>
    rw [ih has hbs.tail]
    apply forall_congr'
    intro k
    by_cases hk : key b = k
    · subst hk
      have hleft : ∀ cs, pairs key (key b) (a :: as) cs = [] := fun _ => pairs_below_left has hgt
      rw [hleft, hleft]
    · rw [pairs_cons_right hk]
  | case3 a as b bs hlt hgt ih =>
    have hkey : key a = key b := le_antisymm (not_lt.mp hgt) (not_lt.mp hlt)
    rw [Bool.and_eq_true, ih has.tail hbs.tail]
    constructor
    · rintro ⟨hsame, hrest⟩ k p hp
      by_cases hk : key a = k
      · subst hk
        rw [pairs_cons_cons hkey] at hp
        rcases List.mem_cons.mp hp with rfl | hp
        · exact hsame
        · exact hrest _ p hp
      · rw [pairs_cons_left hk, pairs_cons_right (hkey ▸ hk)] at hp
        exact hrest k p hp
    · intro hall
      refine ⟨hall (key a) (a, b) ?_, fun k p hp => hall k p ?_⟩
      · rw [pairs_cons_cons hkey]
        exact List.mem_cons_self
      · by_cases hk : key a = k
        · subst hk
          rw [pairs_cons_cons hkey]
          exact List.mem_cons_of_mem _ hp
        · rwa [pairs_cons_left hk, pairs_cons_right (hkey ▸ hk)]
  | case4 as bs h =>
    have hnil : ∀ k, pairs key k as bs = [] := by
      intro k
      cases as with
      | nil => exact pairs_nil_left
      | cons a as =>
        cases bs with
        | nil => exact pairs_nil_right
        | cons b bs => exact absurd rfl (h a as b bs rfl)
    exact iff_of_true rfl fun k p hp => absurd hp (by rw [hnil k]; exact List.not_mem_nil)

theorem swap_mem_pairs {p : α × α} (h : p ∈ pairs key k as bs) : p.swap ∈ pairs key k bs as := by
  have hmem := List.mem_map_of_mem (f := Prod.swap) h
  rwa [pairs, List.zip_swap] at hmem

/-- An element of a list is paired with itself there. -/
theorem eq_of_mem_pairs {p : α × α} (h : p ∈ pairs key k as as) : p.1 = p.2 := by
  rw [pairs, List.zip, List.zipWith_self] at h
  obtain ⟨a, -, rfl⟩ := List.mem_map.mp h
  rfl

end Resiprocate.MergeWalk
