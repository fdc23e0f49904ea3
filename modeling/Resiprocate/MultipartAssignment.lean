import Resiprocate.Uri

/-! Multipart bodies keep pointers to their parts. An assignment deletes the parts of the target, and
appends copies to the pointers that are still there. What a body is parsed to is a parameter. -/
namespace Resiprocate.Stack
open Rutil
open Uri (ParseState)

structure MultipartMixedContents (τ : Type) where
  mHeaderField : Bytes
  mState : ParseState
  mType : τ
  mContents : List ℕ
  deriving DecidableEq

namespace MultipartMixedContents

/-- Bodies by their names, and what the addresses of parts hold: nothing after a deletion. The addresses
from `next` on have not been used. -/
structure Memory (τ κ : Type) where
  bodies : ℕ → MultipartMixedContents τ
  cells : ℕ → Option κ
  next : ℕ

/-- The parts that `parse` appends, and whether it threw nothing. -/
abbrev Parser (τ κ : Type) := τ → Bytes → List κ × Bool

variable {τ κ : Type}

namespace Memory

def setBody (i : ℕ) (body : MultipartMixedContents τ) (m : Memory τ κ) : Memory τ κ :=
  { m with bodies := Function.update m.bodies i body }

/-- `mContents.push_back` of a new part. -/
def pushBack (i : ℕ) (m : Memory τ κ) (part : κ) : Memory τ κ :=
  { setBody i { m.bodies i with mContents := (m.bodies i).mContents ++ [m.next] } m with
    cells := Function.update m.cells m.next (some part)
    next := m.next + 1 }

/-- `checkParsed() const`, whatever is thrown. -/
def checkParsed (parse : Parser τ κ) (i : ℕ) (m : Memory τ κ) : Memory τ κ :=
  let body := m.bodies i
  if body.mState = .NOT_PARSED then
    let (parts, threwNothing) := parse body.mType body.mHeaderField
    let m := parts.foldl (pushBack i) (setBody i { body with mState := .MALFORMED } m)
    if threwNothing then setBody i { m.bodies i with mState := .WELL_FORMED } m else m
  else m

/-- `clear`: the pointers stay. -/
def clear (i : ℕ) (m : Memory τ κ) : Memory τ κ :=
  { m with cells := fun p => if p ∈ (m.bodies i).mContents then none else m.cells p }

/-- `Contents::operator=` -/
def assignContents (i : ℕ) (rhs : MultipartMixedContents τ) (m : Memory τ κ) : Memory τ κ :=
  setBody i { m.bodies i with
    mHeaderField := if rhs.mState = .DIRTY then [] else rhs.mHeaderField
    mState := rhs.mState
    mType := rhs.mType } m

/-- `push_back` of the clone of a part. Cloning one that is deleted is undefined. -/
def pushClone (i : ℕ) (m : Memory τ κ) (p : ℕ) : Memory τ κ :=
  match m.cells p with
  | some part => pushBack i m part
  | none => m

/-- `operator=` of the body `i` from the body `j`. -/
def assign (i j : ℕ) (m : Memory τ κ) : Memory τ κ :=
  if i = j then m
  else (m.bodies j).mContents.foldl (pushClone i) (clear i (assignContents i (m.bodies j) m))

/-- What the entries of the part list of a body point to. -/
def entries (m : Memory τ κ) (i : ℕ) : List (Option κ) := (m.bodies i).mContents.map m.cells

/-- What `parts()` gives. -/
def parts (parse : Parser τ κ) (i : ℕ) (m : Memory τ κ) : List (Option κ) := (m.checkParsed parse i).entries i

/-- Each body has parts of its own that are not deleted, and none before it is parsed. -/
structure Valid (m : Memory τ κ) : Prop where
  live : ∀ i, ∀ p ∈ (m.bodies i).mContents, p < m.next ∧ (m.cells p).isSome
  separate : ∀ i j, i ≠ j → ∀ p ∈ (m.bodies i).mContents, p ∉ (m.bodies j).mContents
  unparsed : ∀ i, (m.bodies i).mState = .NOT_PARSED → (m.bodies i).mContents = []

/-- All pointers are to addresses that have been used. -/
def Used (m : Memory τ κ) : Prop := ∀ i, ∀ p ∈ (m.bodies i).mContents, p < m.next

variable {parse : Parser τ κ} {m : Memory τ κ} {i j : ℕ}

@[simp] theorem setBody_same (body : MultipartMixedContents τ) : (setBody i body m).bodies i = body := by
  simp [setBody]

theorem setBody_other (hij : j ≠ i) (body : MultipartMixedContents τ) :
    (setBody i body m).bodies j = m.bodies j := by
  simp [setBody, hij]

@[simp] theorem setBody_cells (body : MultipartMixedContents τ) : (setBody i body m).cells = m.cells := rfl

@[simp] theorem setBody_next (body : MultipartMixedContents τ) : (setBody i body m).next = m.next := rfl

theorem used_setBody {body : MultipartMixedContents τ} (hm : m.Used)
    (hbody : ∀ p ∈ body.mContents, p < m.next) : (setBody i body m).Used := by
  intro k p hp
  by_cases hk : k = i
  · subst hk
    rw [setBody_same] at hp
    exact hbody p hp
  · rw [setBody_other hk] at hp
    exact hm k p hp

theorem entries_setBody {body : MultipartMixedContents τ} (hbody : body.mContents = (m.bodies i).mContents)
    (j : ℕ) : (setBody i body m).entries j = m.entries j := by
  unfold entries
  by_cases hj : j = i
  · subst hj
    rw [setBody_same, setBody_cells, hbody]
  · rw [setBody_other hj, setBody_cells]

/-! ### New parts -/

/-- A new address is in no part list. -/
theorem entries_update_next (hm : m.Used) (c : Option κ) (j : ℕ) :
    (m.bodies j).mContents.map (Function.update m.cells m.next c) = m.entries j := by
  refine List.map_congr_left fun p hp => Function.update_of_ne ?_ _ _
  exact Nat.ne_of_lt (hm j p hp)

theorem used_pushBack (hm : m.Used) (part : κ) : (pushBack i m part).Used := by
  intro k p hp
  by_cases hk : k = i
  · subst hk
    rw [pushBack, setBody_same] at hp
    rcases List.mem_append.mp hp with hp | hp
    · exact Nat.lt_succ_of_lt (hm k p hp)
    · rw [List.mem_singleton.mp hp]
      exact Nat.lt_succ_self _
  · rw [pushBack, setBody_other hk] at hp
    exact Nat.lt_succ_of_lt (hm k p hp)

theorem entries_pushBack_self (hm : m.Used) (part : κ) :
    (pushBack i m part).entries i = m.entries i ++ [some part] := by
  unfold entries pushBack
  simp only [setBody_same, List.map_append, List.map_singleton, Function.update_self]
  rw [entries_update_next hm, entries]

theorem entries_pushBack_other (hm : m.Used) (hij : j ≠ i) (part : κ) :
    (pushBack i m part).entries j = m.entries j := by
  unfold entries pushBack
  simp only [setBody_other hij]
  exact entries_update_next hm _ j

/-- The parts that a body still gets when it is read. -/
def pending (parse : Parser τ κ) (body : MultipartMixedContents τ) : List κ :=
  if body.mState = .NOT_PARSED then (parse body.mType body.mHeaderField).1 else []

theorem pending_pushBack (part : κ) (j : ℕ) :
    pending parse ((pushBack i m part).bodies j) = pending parse (m.bodies j) := by
  unfold pushBack
  by_cases hj : j = i
  · subst hj
    rw [setBody_same]
    rfl
  · simp only [setBody_other hj]

/-- What a run of new parts does to the part lists. -/
structure Appended (parse : Parser τ κ) (i : ℕ) (parts : List κ) (m m' : Memory τ κ) : Prop where
  used : m'.Used
  self : m'.entries i = m.entries i ++ parts.map some
  others : ∀ j ≠ i, m'.entries j = m.entries j
  pending : ∀ j, pending parse (m'.bodies j) = pending parse (m.bodies j)

theorem appended_foldl (parts : List κ) : ∀ {m : Memory τ κ}, m.Used →
    Appended parse i parts m (parts.foldl (pushBack i) m) := by
  induction parts with
  | nil => exact fun hm => ⟨hm, (List.append_nil _).symm, fun _ _ => rfl, fun _ => rfl⟩
  | cons part parts ih =>
    intro m hm
    have hrest := ih (used_pushBack (i := i) hm part)
    refine ⟨hrest.used, ?_, ?_, ?_⟩
    · rw [List.foldl_cons, hrest.self, entries_pushBack_self hm, List.append_assoc]
      rfl
    · intro j hj
      rw [List.foldl_cons, hrest.others j hj, entries_pushBack_other hm hj]
    · intro j
      rw [List.foldl_cons, hrest.pending j, pending_pushBack]

theorem parts_eq (hm : m.Used) :
    m.parts parse i = m.entries i ++ (pending parse (m.bodies i)).map some := by
  by_cases hstate : (m.bodies i).mState = .NOT_PARSED
  · have hused : (setBody i { m.bodies i with mState := .MALFORMED } m).Used := used_setBody hm (hm i)
    have hstarted : (setBody i { m.bodies i with mState := .MALFORMED } m).entries i = m.entries i := by
      apply entries_setBody
      rfl
    have happended := (appended_foldl (parse (m.bodies i).mType (m.bodies i).mHeaderField).1 hused :
      Appended parse i _ _ _).self
    rw [pending, if_pos hstate, ← hstarted, ← happended, parts, checkParsed, if_pos hstate]
    dsimp only
    split_ifs
    · apply entries_setBody
      rfl
    · rfl
  · rw [pending, if_neg hstate, parts, checkParsed, if_neg hstate]
    exact (List.append_nil _).symm

/-! ### Assignment -/

/-- Clones of parts that are not deleted are new parts. -/
theorem foldl_pushClone : ∀ (ps : List ℕ) (parts : List κ) {m : Memory τ κ}, (∀ p ∈ ps, p < m.next) →
    ps.map m.cells = parts.map some → ps.foldl (pushClone i) m = parts.foldl (pushBack i) m
  | [], [], _, _, _ => rfl
  | [], part :: parts, _, _, h => by simp at h
  | p :: ps, [], _, _, h => by simp at h
  | p :: ps, part :: parts, m, hused, h => by
    rw [List.map_cons, List.map_cons, List.cons.injEq] at h
    have hclone : pushClone i m p = pushBack i m part := by rw [pushClone, h.1]
    have hcells : ps.map (pushBack i m part).cells = ps.map m.cells := by
      refine List.map_congr_left fun q hq => Function.update_of_ne ?_ _ _
      exact Nat.ne_of_lt (hused q (List.mem_cons_of_mem p hq))
    rw [List.foldl_cons, List.foldl_cons, hclone]
    refine foldl_pushClone ps parts (fun q hq => ?_) (hcells.trans h.2)
    exact Nat.lt_succ_of_lt (hused q (List.mem_cons_of_mem p hq))

/-- The parts that a body has. -/
def partsOf (m : Memory τ κ) (i : ℕ) : List κ := (m.bodies i).mContents.filterMap m.cells

theorem entries_eq_partsOf (hm : m.Valid) (i : ℕ) : m.entries i = (m.partsOf i).map some := by
  have hlive : ∀ ps : List ℕ, (∀ p ∈ ps, (m.cells p).isSome) →
      ps.map m.cells = (ps.filterMap m.cells).map some := by
    intro ps
    induction ps with
    | nil => exact fun _ => rfl
    | cons p ps ih =>
      intro hps
      obtain ⟨part, hpart⟩ := Option.isSome_iff_exists.mp (hps p List.mem_cons_self)
      rw [List.map_cons, List.filterMap_cons_some hpart, List.map_cons, hpart,
        ih fun q hq => hps q (List.mem_cons_of_mem p hq)]
  exact hlive _ fun p hp => (hm.live i p hp).2

/-- The target before its new parts are appended. -/
def emptied (i j : ℕ) (m : Memory τ κ) : Memory τ κ := clear i (assignContents i (m.bodies j) m)

theorem emptied_contents (i j k : ℕ) (m : Memory τ κ) :
    ((emptied i j m).bodies k).mContents = (m.bodies k).mContents := by
  by_cases hk : k = i
  · subst hk
    simp [emptied, clear, assignContents]
  · simp [emptied, clear, assignContents, setBody_other hk]

theorem emptied_cells (i j : ℕ) (m : Memory τ κ) :
    (emptied i j m).cells = fun p => if p ∈ (m.bodies i).mContents then none else m.cells p := by
  simp [emptied, clear, assignContents]

theorem entries_emptied_self : (emptied i j m).entries i = List.replicate (m.bodies i).mContents.length none := by
  rw [entries, emptied_contents, emptied_cells, List.map_congr_left fun p hp => if_pos hp, List.map_const']

theorem entries_emptied_other (hm : m.Valid) (hij : j ≠ i) : (emptied i j m).entries j = m.entries j := by
  rw [entries, emptied_contents, emptied_cells]
  exact List.map_congr_left fun p hp => if_neg (hm.separate j i hij p hp)

/-- What an assignment leaves: the entries of the parts that were deleted are still there. -/
structure Assigned (parse : Parser τ κ) (i j : ℕ) (m m' : Memory τ κ) : Prop where
  used : m'.Used
  target : m'.entries i = List.replicate (m.bodies i).mContents.length none ++ (m.partsOf j).map some
  source : m'.entries j = (m.partsOf j).map some
  pendingTarget : pending parse (m'.bodies i) = pending parse (m.bodies j)
  pendingSource : pending parse (m'.bodies j) = pending parse (m.bodies j)

theorem assigned (parse : Parser τ κ) (hm : m.Valid) (hij : i ≠ j) : Assigned parse i j m (m.assign i j) := by
  have hused : (emptied i j m).Used := fun k p hp => by
    rw [emptied_contents] at hp
    exact (hm.live k p hp).1
  have hclones : (m.bodies j).mContents.map (emptied i j m).cells = (m.partsOf j).map some := by
    rw [← entries_eq_partsOf hm, ← entries_emptied_other hm hij.symm, entries, emptied_contents]
  have hloop : m.assign i j = (m.partsOf j).foldl (pushBack i) (emptied i j m) := by
    rw [assign, if_neg hij]
    exact foldl_pushClone _ _ (fun p hp => (hm.live j p hp).1) hclones
  have happended : Appended parse i _ _ _ := appended_foldl (m.partsOf j) hused
  rw [hloop]
  refine ⟨happended.used, ?_, ?_, ?_, ?_⟩
  · rw [happended.self, entries_emptied_self]
  · rw [happended.others j hij.symm, entries_emptied_other hm hij.symm, entries_eq_partsOf hm]
  · rw [happended.pending]
    by_cases hstate : (m.bodies j).mState = .NOT_PARSED <;>
      simp [emptied, clear, assignContents, pending, hstate]
  · rw [happended.pending]
    simp [emptied, clear, assignContents, setBody_other hij.symm]

/-- The part list of the target is that of the source, without deleted entries. -/
def SameParts (parse : Parser τ κ) (i j : ℕ) (m : Memory τ κ) : Prop :=
  m.parts parse i = m.parts parse j ∧ ∀ entry ∈ m.parts parse i, entry.isSome

theorem isSome_of_mem_map_some {parts : List κ} : ∀ entry ∈ parts.map some, entry.isSome := by
  simp

/-- An assignment gives the parts of the source exactly if a body is assigned to itself or the target had
no parts. -/
theorem assign_parts (parse : Parser τ κ) (i j : ℕ) (hm : m.Valid) :
    SameParts parse i j (m.assign i j) ↔ i = j ∨ (m.bodies i).mContents = [] := by
  by_cases hij : i = j
  · subst hij
    have hself : m.assign i i = m := if_pos rfl
    rw [hself, SameParts, parts_eq fun k p hp => (hm.live k p hp).1, entries_eq_partsOf hm, ← List.map_append]
    simp only [true_and, true_or, iff_true]
    exact isSome_of_mem_map_some
  · have hassigned := assigned parse hm hij
    rw [SameParts, parts_eq hassigned.used, parts_eq hassigned.used, hassigned.target, hassigned.source,
      hassigned.pendingTarget, hassigned.pendingSource]
    constructor
    · rintro ⟨hsame, -⟩
      have hlength := congrArg List.length hsame
      simp only [List.length_append, List.length_replicate, List.length_map] at hlength
      exact .inr (List.eq_nil_of_length_eq_zero (by omega))
    · rintro (heq | hnone)
      · exact absurd heq hij
      · rw [hnone, List.length_nil, List.replicate_zero, List.nil_append, ← List.map_append]
        exact ⟨rfl, isSome_of_mem_map_some⟩

/-- The body 0 has the parts of `held`, the body 1 one part. -/
def sample (held : List ℕ) : Memory Unit ℕ where
  bodies i := ⟨[], .DIRTY, (), if i = 0 then held else if i = 1 then [3] else []⟩
  cells := some
  next := 4

/-- A body without parts gets the part of the other. -/
theorem assign_parts_empty : SameParts (fun _ _ => ([], true)) 0 1 ((sample []).assign 0 1) := by
  refine (assign_parts _ 0 1 ⟨?_, ?_, ?_⟩).mpr (.inr rfl)
  · intro i p hp
    have hp3 : p = 3 := by
      simp only [sample] at hp
      split_ifs at hp <;> simp_all
    exact ⟨by rw [hp3]; decide, rfl⟩
  · intro i j hij p hp hp'
    simp only [sample] at hp hp'
    split_ifs at hp hp' <;> simp_all
  · exact fun i hi => nomatch hi

/-- Two entries are still there after their parts have been deleted. -/
theorem not_assign_parts : ((sample [1, 2]).assign 0 1).parts (fun _ _ => ([], true)) 0 = [none, none, some 3] ∧
    ((sample [1, 2]).assign 0 1).parts (fun _ _ => ([], true)) 1 = [some 3] := by
  decide

end Memory
end MultipartMixedContents
end Resiprocate.Stack
