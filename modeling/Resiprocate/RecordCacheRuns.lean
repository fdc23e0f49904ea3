import Resiprocate.RecordCacheLinks

/-! What every call of a record cache keeps, and which records a lookup finds. -/
namespace Resiprocate.RecordCache
open Dns
variable {δ : Type} {lowercase : δ → δ}

namespace RRCache

/-- A cache between two calls. -/
structure Sound (mSize : ℕ) (lowercase : δ → δ) (c : RRCache δ) : Prop
    extends Linked lowercase c where
  size : c.mSize = mSize
  two : 2 ≤ mSize
  room : c.mRRSet.length < mSize

variable {mSize : ℕ} {c : RRCache δ} {p : ℕ} {l key : RRList δ}

theorem sound_fresh (lowercase : δ → δ) (mUserDefinedTTL : ℕ) (hsize : 2 ≤ mSize) :
    (fresh mUserDefinedTTL mSize).Sound mSize lowercase where
  perm := .refl _
  nodup := .nil
  live _ hp := absurd hp List.not_mem_nil
  allocated _ _ := rfl
  keys _ _ _ _ hl := absurd hl.1 List.not_mem_nil
  size := rfl
  two := hsize
  room := by
    show 0 < mSize
    omega

theorem Sound.drop (h : c.Sound mSize lowercase) (p : ℕ) : (c.drop p).Sound mSize lowercase where
  toLinked := h.toLinked.drop p
  size := h.size
  two := h.two
  room := List.length_erase_le.trans_lt h.room

/-! ### A new entry -/

/-- The cache with a new entry, which is the most recently used one. -/
def inserted (c : RRCache δ) (val : RRList δ) : RRCache δ :=
  { c.write c.allocated val with
    allocated := c.allocated + 1
    mRRSet := c.mRRSet ++ [c.allocated]
    mLruHead := c.mLruHead ++ [c.allocated] }

theorem Linked.new_notMem (h : c.Linked lowercase) : c.allocated ∉ c.mRRSet := by
  intro hmem
  obtain ⟨l, hl⟩ := h.live _ hmem
  rw [h.allocated _ le_rfl] at hl
  cases hl

theorem Linked.has_inserted (h : c.Linked lowercase) {q : ℕ} {k : RRList δ} :
    (c.inserted l).Has q k ↔ q = c.allocated ∧ k = l ∨ c.Has q k := by
  have hnew := h.new_notMem
  unfold Has inserted
  by_cases hq : q = c.allocated
  · subst hq
    simp [hnew, eq_comm]
  · simp [hq]

theorem Linked.inserted (h : c.Linked lowercase) (hkey : ∀ p k, c.Has p k → ¬Same lowercase k l) :
    (c.inserted l).Linked lowercase where
  perm := h.perm.append_right _
  nodup := by
    rw [RRCache.inserted, List.nodup_append]
    refine ⟨h.nodup, List.nodup_singleton _, ?_⟩
    rintro a ha b hb rfl
    exact h.new_notMem (List.mem_singleton.mp hb ▸ ha)
  live q hq := by
    by_cases hp : q = c.allocated
    · exact ⟨l, by simp [RRCache.inserted, hp]⟩
    · have hmem : q ∈ c.mRRSet := by simpa [RRCache.inserted, hp] using hq
      obtain ⟨k, hk⟩ := h.live q hmem
      exact ⟨k, by simpa [RRCache.inserted, hp] using hk⟩
  allocated q hq := by
    have hlt : c.allocated < q := hq
    simpa [RRCache.inserted, hlt.ne'] using h.allocated q hlt.le
  keys q r k j hk hj hsame := by
    rcases h.has_inserted.mp hk with ⟨rfl, rfl⟩ | hk' <;>
      rcases h.has_inserted.mp hj with ⟨rfl, rfl⟩ | hj'
    · rfl
    · exact absurd hsame.symm (hkey r j hj')
    · exact absurd hsame (hkey q k hk')
    · exact h.keys q r k j hk' hj' hsame

theorem pushBack_ok (h : p ∉ c.mLruHead) :
    c.pushBack p = .ok { c with mLruHead := c.mLruHead ++ [p] } := if_neg h

variable [LinearOrder δ]

/-- A full set loses the least recently used entry. -/
theorem Linked.purge (h : c.Linked lowercase) (hsize : 0 < c.mSize)
    (hfull : c.mRRSet.length ≤ c.mSize) :
    c.mRRSet.length < c.mSize ∧ c.purge lowercase = .ok c ∨
      ∃ lst rest, c.mLruHead = lst :: rest ∧ c.mSize ≤ c.mRRSet.length ∧
        c.purge lowercase = .ok (c.drop lst) ∧ (c.drop lst).mRRSet.length < c.mSize := by
  by_cases hlt : c.mRRSet.length < c.mSize
  · exact .inl ⟨hlt, if_pos hlt⟩
  · right
    cases hlru : c.mLruHead with
    | nil =>
      have hlength := h.perm.length_eq
      rw [hlru, List.length_nil] at hlength
      omega
    | cons lst rest =>
      have hmem : lst ∈ c.mRRSet := h.perm.mem_iff.mp (hlru ▸ List.mem_cons_self)
      obtain ⟨l, hl⟩ := h.live lst hmem
      have hfind : c.find lowercase l = some lst := h.find_eq_some.mpr ⟨l, ⟨hmem, hl⟩, .rfl⟩
      refine ⟨lst, rest, rfl, not_lt.mp hlt, ?_, ?_⟩
      · have hnodup : c.mLruHead.Nodup := h.perm.nodup_iff.mpr h.nodup
        have htwice : (c.mLruHead.erase lst).erase lst = c.mLruHead.erase lst :=
          List.erase_of_not_mem fun hm => (hnodup.mem_erase_iff.mp hm).1 rfl
        have hdrop : { c with mLruHead := c.mLruHead.erase lst }.drop lst = c.drop lst := by
          simp only [RRCache.drop, htwice]
        rw [hlru] at hdrop
        simp only [RRCache.purge, hlt, if_false, hlru, deref_has ⟨hmem, hl⟩]
        simp only [bind, Except.bind, hfind, hdrop]
        rfl
      · have hlength : (c.drop lst).mRRSet.length = c.mRRSet.length - 1 :=
          List.length_erase_of_mem hmem
        omega

theorem Sound.add (h : c.Sound mSize lowercase) (hkey : ∀ p k, c.Has p k → ¬Same lowercase k l) :
    ∃ c', c.add lowercase l = .ok c' ∧ c'.Sound mSize lowercase ∧ ∃ p, c'.Has p l := by
  have hlinked := h.toLinked.inserted hkey
  have hlength : (c.inserted l).mRRSet.length = c.mRRSet.length + 1 := List.length_append
  have hnot : c.allocated ∉ c.mLruHead := fun hmem => h.new_notMem (h.perm.mem_iff.mp hmem)
  have hpush : c.add lowercase l = (c.inserted l).purge lowercase := by
    have hok : ({ c.write c.allocated l with
        allocated := c.allocated + 1, mRRSet := c.mRRSet ++ [c.allocated] } : RRCache δ).pushBack
          c.allocated = .ok (c.inserted l) := pushBack_ok hnot
    exact congrArg (fun result => result >>= RRCache.purge lowercase) hok
  have hhas : (c.inserted l).Has c.allocated l := h.has_inserted.mpr (.inl ⟨rfl, rfl⟩)
  have hsize : (c.inserted l).mSize = mSize := h.size
  have hroom := h.room
  have htwo := h.two
  rw [hpush]
  rcases hlinked.purge (by omega) (by omega) with ⟨hlt, hpurge⟩ | ⟨lst, rest, hlru, hfull, hpurge, hlt⟩
  · exact ⟨_, hpurge, ⟨hlinked, hsize, htwo, hsize ▸ hlt⟩, _, hhas⟩
  · refine ⟨_, hpurge, ⟨hlinked.drop lst, hsize, htwo, hsize ▸ hlt⟩, _, hlinked.has_drop.mpr ⟨?_, hhas⟩⟩
    rintro rfl
    -- the new entry is the last of two at least
    cases hold : c.mLruHead with
    | nil =>
      have hempty := h.perm.length_eq
      rw [hold, List.length_nil] at hempty
      omega
    | cons a older =>
      have hfirst : a = c.allocated := by
        have := hlru
        rw [inserted, hold] at this
        exact (List.cons.inj this).1
      exact hnot (hold ▸ hfirst ▸ List.mem_cons_self)

omit [LinearOrder δ] in
theorem Sound.touch (h : c.Sound mSize lowercase) (hhas : c.Has p l) :
    ∃ c', c.touch p = .ok c' ∧ c'.Sound mSize lowercase ∧ ∀ q k, c'.Has q k ↔ c.Has q k := by
  obtain ⟨c', htouch, hlinked, heq⟩ := h.toLinked.touch hhas.1
  refine ⟨c', htouch, ⟨hlinked, ?_, h.two, ?_⟩, fun q k => ?_⟩
  · rw [heq]
    exact h.size
  · rw [heq]
    exact h.room
  · rw [heq]
    rfl

/-! ### The calls -/

/-- An entry of the key becomes the changed one, which is that of the key alone if there was none. -/
theorem Sound.store (h : c.Sound mSize lowercase) (key : RRList δ) {change : RRList δ → RRList δ}
    (hchange : ∀ l, Same lowercase (change l) l) :
    ∃ c', c.store lowercase key change = .ok c' ∧ c'.Sound mSize lowercase ∧
      ∃ q l, c'.Has q (change l) ∧ Same lowercase l key ∧
        ((∃ p, c.Has p l) ∨ l = key ∧ ∀ p k, c.Has p k → ¬Same lowercase k key) := by
  unfold RRCache.store
  cases hfind : c.find lowercase key with
  | none =>
    have hkey := h.find_eq_none.mp hfind
    obtain ⟨c', hadd, hsound, q, hq⟩ := h.add (l := change key)
      fun p k hk hsame => hkey p k hk (hsame.trans (hchange key))
    exact ⟨c', hadd, hsound, q, key, hq, .rfl, .inr ⟨rfl, hkey⟩⟩
  | some p =>
    obtain ⟨l, hl, hsame⟩ := h.find_eq_some.mp hfind
    have hwrite : (c.write p (change l)).Sound mSize lowercase :=
      ⟨h.toLinked.write hl (hchange l), h.size, h.two, h.room⟩
    have hhas : (c.write p (change l)).Has p (change l) := (has_write hl).mpr (.inl ⟨rfl, rfl⟩)
    obtain ⟨c', htouch, hsound, hiff⟩ := hwrite.touch hhas
    refine ⟨c', ?_, hsound, p, l, (hiff p _).mpr hhas, hsame, .inl ⟨p, hl⟩⟩
    simp only [deref_has hl]
    exact htouch

theorem Sound.cacheTTL (h : c.Sound mSize lowercase) (now : ℕ) (m : DnsMessage δ) (target : δ)
    (rrType : ℕ) (status : AresStatus) (overlay : RROverlay δ) :
    (∃ stop, c.cacheTTL lowercase now m target rrType status overlay = .error (.dns stop)) ∨
      ∃ c', c.cacheTTL lowercase now m target rrType status overlay = .ok c' ∧
        c'.Sound mSize lowercase := by
  unfold RRCache.cacheTTL
  rcases m.getTTL overlay with stop | _ | ttl
  · exact .inl ⟨stop, rfl⟩
  · exact .inr ⟨c, rfl, h⟩
  · right
    generalize hval : (⟨target, rrType, [], status,
      (max ttl c.mUserDefinedTTL + now) % 2 ^ 64⟩ : RRList δ) = val
    simp only [hval]
    cases hfind : c.find lowercase val with
    | none =>
      obtain ⟨c', hadd, hsound, _⟩ := h.add (h.find_eq_none.mp hfind)
      exact ⟨c', hadd, hsound⟩
    | some it =>
      obtain ⟨l, hl, hsame⟩ := h.find_eq_some.mp hfind
      have hkey : ∀ p k, (c.drop it).Has p k → ¬Same lowercase k val := by
        intro p k hk hsame'
        obtain ⟨hne, hk⟩ := h.has_drop.mp hk
        exact hne (h.keys p it k l hk hl (hsame'.trans hsame.symm))
      obtain ⟨c', hadd, hsound, _⟩ := (h.drop it).add hkey
      refine ⟨c', ?_, hsound⟩
      simp only [deref_has hl]
      exact hadd

/-- What a lookup finds. -/
theorem Sound.lookup (h : c.Sound mSize lowercase) (now : ℕ) (target : δ) (type : ℕ) :
    ((∀ p l, c.Has p l → ¬Same lowercase l (keyOf target type)) ∧
      c.lookup lowercase now target type = .ok (c, none)) ∨
    ∃ p l, c.Has p l ∧ Same lowercase l (keyOf target type) ∧
      ((l.mAbsoluteExpiry ≤ now ∧ c.lookup lowercase now target type = .ok (c.drop p, none)) ∨
        now < l.mAbsoluteExpiry ∧ ∃ c', c'.Sound mSize lowercase ∧ (∀ q k, c'.Has q k ↔ c.Has q k) ∧
          c.lookup lowercase now target type = .ok (c', some ⟨l.mRecords, l.mStatus⟩)) := by
  unfold RRCache.lookup
  cases hfind : c.find lowercase (keyOf target type) with
  | none => exact .inl ⟨h.find_eq_none.mp hfind, rfl⟩
  | some p =>
    obtain ⟨l, hl, hsame⟩ := h.find_eq_some.mp hfind
    refine .inr ⟨p, l, hl, hsame, ?_⟩
    simp only [deref_has hl, bind, Except.bind]
    rcases Nat.lt_or_ge now l.mAbsoluteExpiry with hlt | hge
    · obtain ⟨c', htouch, hsound, hiff⟩ := h.touch hl
      refine .inr ⟨hlt, c', hsound, hiff, ?_⟩
      rw [if_neg (not_le.mpr hlt), htouch]
      rfl
    · exact .inl ⟨hge, if_pos hge⟩

omit [LinearOrder δ] in
/-- A loop over some of the entries. -/
theorem Sound.sweep (gone : RRList δ → Bool) {entries : List ℕ} (h : c.Sound mSize lowercase)
    (hnodup : entries.Nodup) (hentries : ∀ p ∈ entries, p ∈ c.mRRSet) :
    ∃ c', c.sweep gone entries = .ok c' ∧ c'.Sound mSize lowercase ∧
      ∀ q k, c'.Has q k ↔ c.Has q k ∧ (q ∈ entries → gone k = false) := by
  induction entries generalizing c with
  | nil => exact ⟨c, rfl, h, fun q k => by simp⟩
  | cons p entries ih =>
    obtain ⟨hp, hnodup⟩ := List.nodup_cons.mp hnodup
    obtain ⟨l, hl⟩ := h.live p (hentries p List.mem_cons_self)
    have hhas : c.Has p l := ⟨hentries p List.mem_cons_self, hl⟩
    have hrest : ∀ q ∈ entries, q ∈ c.mRRSet := fun q hq => hentries q (List.mem_cons_of_mem p hq)
    have hstep : c.sweep gone (p :: entries) =
        (if gone l then c.drop p else c).sweep gone entries := by
      simp only [RRCache.sweep, List.foldlM_cons, deref_has hhas]
      rfl
    rw [hstep]
    cases hgone : gone l with
    | true =>
      obtain ⟨c', hsweep, hsound, hiff⟩ := ih (h.drop p) hnodup fun q hq =>
        (h.nodup.mem_erase_iff).mpr ⟨fun heq => hp (heq ▸ hq), hrest q hq⟩
      refine ⟨c', hsweep, hsound, fun q k => ?_⟩
      rw [hiff, h.has_drop, List.mem_cons]
      constructor
      · rintro ⟨⟨hne, hk⟩, hkept⟩
        exact ⟨hk, fun hq => hkept (hq.resolve_left hne)⟩
      · rintro ⟨hk, hkept⟩
        refine ⟨⟨?_, hk⟩, fun hq => hkept (.inr hq)⟩
        rintro rfl
        rw [hk.eq hhas, hgone] at hkept
        cases hkept (.inl rfl)
    | false =>
      obtain ⟨c', hsweep, hsound, hiff⟩ := ih h hnodup hrest
      refine ⟨c', hsweep, hsound, fun q k => ?_⟩
      rw [hiff, List.mem_cons]
      constructor
      · rintro ⟨hk, hkept⟩
        refine ⟨hk, ?_⟩
        rintro (rfl | hq)
        · rw [hk.eq hhas, hgone]
        · exact hkept hq
      · exact fun ⟨hk, hkept⟩ => ⟨hk, fun hq => hkept (.inr hq)⟩

end RRCache

end Resiprocate.RecordCache
