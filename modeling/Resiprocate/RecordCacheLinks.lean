import Resiprocate.RecordCache

/-! The set and the list of a record cache keep the same entries. -/
namespace Resiprocate.RecordCache
open Dns
variable {δ : Type} {lowercase : δ → δ}

/-! ### Keys -/

/-- Two entries of one key. -/
def Same (lowercase : δ → δ) (l k : RRList δ) : Prop :=
  l.mRRType = k.mRRType ∧ lowercase l.mKey = lowercase k.mKey

theorem not_before_iff [LinearOrder δ] {l k : RRList δ} :
    (!before lowercase l k && !before lowercase k l) = true ↔ Same lowercase l k := by
  unfold before Same
  rcases lt_trichotomy l.mRRType k.mRRType with htype | htype | htype
  · simp [htype, htype.ne]
  · simp only [htype, lt_irrefl, if_false, true_and, Bool.and_eq_true, Bool.not_eq_true',
      decide_eq_false_iff_not, not_lt]
    exact ⟨fun h => le_antisymm h.2 h.1, fun h => ⟨h.ge, h.le⟩⟩
  · simp [htype, htype.ne']

theorem Same.symm {l k : RRList δ} (h : Same lowercase l k) : Same lowercase k l :=
  ⟨h.1.symm, h.2.symm⟩

theorem Same.trans {l k j : RRList δ} (h : Same lowercase l k) (h' : Same lowercase k j) :
    Same lowercase l j := ⟨h.1.trans h'.1, h.2.trans h'.2⟩

theorem Same.rfl {l : RRList δ} : Same lowercase l l := ⟨Eq.refl _, Eq.refl _⟩

namespace RRCache

/-- The set has the entry at the address. -/
def Has (c : RRCache δ) (p : ℕ) (l : RRList δ) : Prop := p ∈ c.mRRSet ∧ c.memory p = some l

theorem Has.eq {c : RRCache δ} {p : ℕ} {l k : RRList δ} (h : c.Has p l) (h' : c.Has p k) : l = k :=
  Option.some_injective _ (h.2.symm.trans h'.2)

/-- The set and the list have the same entries, each once, that are in memory and have different
keys. -/
structure Linked (lowercase : δ → δ) (c : RRCache δ) : Prop where
  perm : c.mLruHead.Perm c.mRRSet
  nodup : c.mRRSet.Nodup
  live : ∀ p ∈ c.mRRSet, ∃ l, c.memory p = some l
  allocated : ∀ p, c.allocated ≤ p → c.memory p = none
  keys : ∀ p q l k, c.Has p l → c.Has q k → Same lowercase l k → p = q

variable {c : RRCache δ} {p : ℕ} {l key : RRList δ}

theorem deref_has (h : c.Has p l) : c.deref p = .ok l := by
  simp only [deref, h.2]

theorem Linked.find_eq_some [LinearOrder δ] (h : c.Linked lowercase) :
    c.find lowercase key = some p ↔ ∃ l, c.Has p l ∧ Same lowercase l key := by
  have hmatch (q : ℕ) : ((c.memory q).any fun l =>
      !before lowercase l key && !before lowercase key l) = true ↔
        ∃ l, c.memory q = some l ∧ Same lowercase l key := by
    simp only [Option.any_eq_true_iff_get, Option.isSome_iff_exists, not_before_iff]
    constructor
    · rintro ⟨⟨l, hl⟩, hsame⟩
      simp only [hl, Option.get_some] at hsame
      exact ⟨l, hl, hsame⟩
    · rintro ⟨l, hl, hsame⟩
      exact ⟨⟨l, hl⟩, by simpa only [hl, Option.get_some] using hsame⟩
  unfold find
  constructor
  · intro hfind
    have hfound := List.find?_some hfind
    obtain ⟨l, hl, hsame⟩ := (hmatch p).mp hfound
    exact ⟨l, ⟨List.mem_of_find?_eq_some hfind, hl⟩, hsame⟩
  · rintro ⟨l, hhas, hsame⟩
    cases hfind : c.mRRSet.find? fun q => (c.memory q).any fun l =>
        !before lowercase l key && !before lowercase key l with
    | none => exact absurd ((hmatch p).mpr ⟨l, hhas.2, hsame⟩) (List.find?_eq_none.mp hfind p hhas.1)
    | some q =>
      have hfound := List.find?_some hfind
      obtain ⟨k, hk, hsame'⟩ := (hmatch q).mp hfound
      rw [h.keys q p k l ⟨List.mem_of_find?_eq_some hfind, hk⟩ hhas (hsame'.trans hsame.symm)]

theorem Linked.find_eq_none [LinearOrder δ] (h : c.Linked lowercase) :
    c.find lowercase key = none ↔ ∀ p l, c.Has p l → ¬Same lowercase l key := by
  constructor
  · intro hfind p l hhas hsame
    rw [h.find_eq_some.mpr ⟨l, hhas, hsame⟩] at hfind
    cases hfind
  · intro hnone
    cases hfind : c.find lowercase key with
    | none => rfl
    | some p =>
      obtain ⟨l, hhas, hsame⟩ := h.find_eq_some.mp hfind
      exact absurd hsame (hnone p l hhas)

/-! ### The operations on the links -/

@[simp] theorem drop_memory : (c.drop p).memory = Function.update c.memory p none := rfl

@[simp] theorem write_memory : (c.write p l).memory = Function.update c.memory p (some l) := rfl

theorem Linked.has_drop (h : c.Linked lowercase) {q : ℕ} {k : RRList δ} :
    (c.drop p).Has q k ↔ q ≠ p ∧ c.Has q k := by
  unfold Has drop
  rw [h.nodup.mem_erase_iff]
  by_cases hq : q = p <;> simp [hq]

theorem Linked.drop (h : c.Linked lowercase) (p : ℕ) : (c.drop p).Linked lowercase where
  perm := h.perm.erase p
  nodup := h.nodup.erase p
  live q hq := by
    have hmem := (h.nodup.mem_erase_iff).mp hq
    obtain ⟨l, hl⟩ := h.live q hmem.2
    exact ⟨l, by rw [drop_memory, Function.update_of_ne hmem.1, hl]⟩
  allocated q hq := by
    by_cases hp : q = p
    · rw [hp, drop_memory, Function.update_self]
    · rw [drop_memory, Function.update_of_ne hp]
      exact h.allocated q hq
  keys q r k j hk hj := h.keys q r k j (h.has_drop.mp hk).2 (h.has_drop.mp hj).2

theorem Linked.touch (h : c.Linked lowercase) (hp : p ∈ c.mRRSet) :
    ∃ c', c.touch p = .ok c' ∧ c'.Linked lowercase ∧ c' = { c with mLruHead := c'.mLruHead } := by
  have hlru : c.mLruHead.Nodup := h.perm.nodup_iff.mpr h.nodup
  have hnot : p ∉ c.mLruHead.erase p := fun hmem => (hlru.mem_erase_iff.mp hmem).1 rfl
  refine ⟨{ c with mLruHead := c.mLruHead.erase p ++ [p] }, if_neg hnot, ?_, rfl⟩
  refine { h with perm := ?_ }
  calc c.mLruHead.erase p ++ [p]
    _ |>.Perm (p :: c.mLruHead.erase p) := List.perm_append_singleton p _
    _ |>.Perm c.mLruHead := (List.perm_cons_erase (h.perm.mem_iff.mpr hp)).symm
    _ |>.Perm c.mRRSet := h.perm

theorem has_write (hhas : c.Has p key) {q : ℕ} {k : RRList δ} :
    (c.write p l).Has q k ↔ q = p ∧ k = l ∨ q ≠ p ∧ c.Has q k := by
  unfold Has write
  by_cases hq : q = p
  · simp [hq, hhas.1, eq_comm]
  · simp [hq]

theorem Linked.write (h : c.Linked lowercase) (hhas : c.Has p key) (hsame : Same lowercase l key) :
    (c.write p l).Linked lowercase where
  perm := h.perm
  nodup := h.nodup
  live q hq := by
    by_cases hp : q = p
    · exact ⟨l, by rw [hp, write_memory, Function.update_self]⟩
    · rw [write_memory, Function.update_of_ne hp]
      exact h.live q hq
  allocated q hq := by
    have hp : q ≠ p := by
      rintro rfl
      have := h.allocated q hq
      rw [hhas.2] at this
      cases this
    rw [write_memory, Function.update_of_ne hp]
    exact h.allocated q hq
  keys q r k j hk hj hkj := by
    rcases (has_write hhas).mp hk with ⟨rfl, rfl⟩ | ⟨_, hk'⟩ <;>
      rcases (has_write hhas).mp hj with ⟨rfl, rfl⟩ | ⟨_, hj'⟩
    · rfl
    · exact h.keys q r key j hhas hj' (hsame.symm.trans hkj)
    · exact h.keys q r k key hk' hhas (hkj.trans hsame)
    · exact h.keys q r k j hk' hj' hkj

end RRCache

end Resiprocate.RecordCache
