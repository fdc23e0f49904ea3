import Resiprocate.HeldBytes
import Resiprocate.ParseBuffer

/-! The coding of character data in XML. The decoder reads memory, in which bytes that are not the
string's follow it. -/
namespace Resiprocate.Data
open Rutil (literal)
open HeldBytes

def xmlCharDataEncodeChar (c : UInt8) : List UInt8 :=
  if c = 38 then literal "&amp;"
  else if c = 60 then literal "&lt;"
  else if c = 62 then literal "&gt;"
  else if c = 39 then literal "&apos;"
  else if c = 34 then literal "&quot;"
  else [c]

def xmlCharDataEncode (d : List UInt8) : List UInt8 := d.flatMap xmlCharDataEncodeChar

/-- What is looked for after an ampersand, in its order, and the characters that are written. -/
def entities : List (List UInt8 × UInt8) :=
  [(literal "amp;", 38), (literal "lt;", 60), (literal "gt;", 62), (literal "apos;", 39),
    (literal "quot;", 34)]

def matchesAt (memory : ℕ → UInt8) : ℕ → List UInt8 → Bool
  | _, [] => true
  | p, c :: s => memory p == c && matchesAt memory (p + 1) s

/-- The entity whose ampersand is at `p`, where the counter is `i`. -/
def findEntity (memory : ℕ → UInt8) (size p i : ℕ) : Option (List UInt8 × UInt8) :=
  entities.find? fun e => i + e.1.length < size && matchesAt memory (p + 1) e.1

/-- The loop of `xmlCharDataDecode` at the offset `p`, where the counter is `i`; `none` is a loop that
has not ended. -/
def xmlCharDataDecodeLoop (memory : ℕ → UInt8) (size : ℕ) : ℕ → ℕ → ℕ → Option (List UInt8)
  | 0, _, _ => none
  | fuel + 1, p, i =>
    if p = size then some []
    else
      let c := memory p
      if c = 38 then
        match findEntity memory size p i with
        | some e =>
          -- the pointer skips the entity, and the counter does not
          (xmlCharDataDecodeLoop memory size fuel (p + e.1.length + 1) (i + 1)).map (e.2 :: ·)
        | none => (xmlCharDataDecodeLoop memory size fuel (p + 1) (i + 1)).map (c :: ·)
      else (xmlCharDataDecodeLoop memory size fuel (p + 1) (i + 1)).map (c :: ·)

/-- `xmlCharDataDecode` of a string that the memory begins with ends, with these bytes. -/
def XmlDecodes (memory : ℕ → UInt8) (size : ℕ) (out : List UInt8) : Prop :=
  ∃ fuel, xmlCharDataDecodeLoop memory size fuel 0 0 = some out

/-! ### Entities inside the string -/

/-- The entity that a string begins with, after an ampersand. -/
def entityAt (s : List UInt8) : Option (List UInt8 × UInt8) := entities.find? (·.1.isPrefixOf s)

def xmlDecoded : List UInt8 → List UInt8
  | [] => []
  | c :: s =>
    if c = 38 then
      match entityAt s with
      | some e => e.2 :: xmlDecoded (s.drop e.1.length)
      | none => c :: xmlDecoded s
    else c :: xmlDecoded s
termination_by s => s.length

/-- An ampersand without an entity is not so close to the end that the rest of the string begins an
entity and the counter, which is `lag` behind, lets it be looked for. -/
def EntitiesInside (lag : ℕ) : List UInt8 → Prop
  | [] => True
  | c :: s =>
    if c = 38 then
      match entityAt s with
      | some e => EntitiesInside (lag + e.1.length) (s.drop e.1.length)
      | none =>
        (∀ e ∈ entities, s <+: e.1 → s.length + lag < e.1.length) ∧ EntitiesInside lag s
    else EntitiesInside lag s
termination_by s => s.length

variable {memory : ℕ → UInt8} {size p i lag : ℕ} {s : List UInt8}

theorem matchesAt_iff : matchesAt memory p s = true ↔ Holds memory p s := by
  induction s generalizing p with
  | nil => simp [matchesAt]
  | cons c s ih => simp [matchesAt, ih]

/-- No entity begins another, and a character is coded as its entity or is no ampersand. -/
theorem entity_table : (∀ e ∈ entities, ∀ e' ∈ entities, e.1 <+: e'.1 → e = e') ∧
    ∀ c : UInt8, (∃ e ∈ entities, xmlCharDataEncodeChar c = 38 :: e.1 ∧ e.2 = c) ∨
      (xmlCharDataEncodeChar c = [c] ∧ c ≠ 38) := by
  refine ⟨?_, forall_byte ?_⟩ <;> decide +kernel

theorem entities_begin : ∀ e ∈ entities, ∀ e' ∈ entities, e.1 <+: e'.1 → e = e' := entity_table.1

theorem entityAt_begins {e : List UInt8 × UInt8} (h : entityAt s = some e) :
    e ∈ entities ∧ e.1 <+: s := by
  have hbegins := List.find?_some h
  exact ⟨List.mem_of_find?_eq_some h, List.isPrefixOf_iff_prefix.mp hbegins⟩

/-- What is looked for in memory is what the string has, if no entity that goes beyond its end is
looked for. -/
theorem findEntity_eq (hs : Holds memory (p + 1) s) (hsize : p + 1 + s.length = size)
    (hlag : i + lag = p)
    (hbeyond : ∀ e ∈ entities, s.length < e.1.length → s <+: e.1 → s.length + lag < e.1.length) :
    findEntity memory size p i = entityAt s := by
  unfold findEntity entityAt
  refine List.find?_congr fun e he => ?_
  rw [Bool.eq_iff_iff, Bool.and_eq_true, decide_eq_true_eq, matchesAt_iff,
    List.isPrefixOf_iff_prefix]
  constructor
  · rintro ⟨hguard, hholds⟩
    rcases Nat.lt_or_ge s.length e.1.length with hlt | hge
    · have := hbeyond e he hlt (hs.isPrefix hholds hlt.le)
      omega
    · exact hholds.isPrefix hs hge
  · intro hbegins
    have := hbegins.length_le
    exact ⟨by omega, hs.of_isPrefix hbegins⟩

/-- An entity that the string has is no beginning of another. -/
theorem beyond_of_entityAt {e : List UInt8 × UInt8} (h : entityAt s = some e) :
    ∀ e' ∈ entities, s.length < e'.1.length → s <+: e'.1 → s.length + lag < e'.1.length := by
  intro e' he' hlt hbegins
  obtain ⟨he, hs⟩ := entityAt_begins h
  obtain rfl := entities_begin e he e' he' (hs.trans hbegins)
  exact absurd hs.length_le (by omega)

/-! ### Strings that are read inside -/

theorem loop_plain (hc : memory p ≠ 38) (hp : p ≠ size) (fuel : ℕ) :
    xmlCharDataDecodeLoop memory size (fuel + 1) p i =
      (xmlCharDataDecodeLoop memory size fuel (p + 1) (i + 1)).map (memory p :: ·) := by
  rw [xmlCharDataDecodeLoop, if_neg hp]
  exact if_neg hc

theorem loop_entity {e : List UInt8 × UInt8} (hc : memory p = 38) (hp : p ≠ size)
    (he : findEntity memory size p i = some e) (fuel : ℕ) :
    xmlCharDataDecodeLoop memory size (fuel + 1) p i =
      (xmlCharDataDecodeLoop memory size fuel (p + e.1.length + 1) (i + 1)).map (e.2 :: ·) := by
  rw [xmlCharDataDecodeLoop, if_neg hp]
  dsimp only
  rw [if_pos hc, he]

theorem loop_ampersand (hc : memory p = 38) (hp : p ≠ size)
    (he : findEntity memory size p i = none) (fuel : ℕ) :
    xmlCharDataDecodeLoop memory size (fuel + 1) p i =
      (xmlCharDataDecodeLoop memory size fuel (p + 1) (i + 1)).map (memory p :: ·) := by
  rw [xmlCharDataDecodeLoop, if_neg hp]
  dsimp only
  rw [if_pos hc, he]

theorem loop_inside (hinside : EntitiesInside lag s) (hs : Holds memory p s)
    (hsize : p + s.length = size) (hlag : i + lag = p) :
    ∃ fuel, xmlCharDataDecodeLoop memory size fuel p i = some (xmlDecoded s) := by
  induction lag, s using EntitiesInside.induct generalizing p i with
  | case1 lag =>
    obtain rfl : p = size := hsize
    exact ⟨1, by rw [xmlDecoded]; exact if_pos rfl⟩
  | case2 lag s e he ih =>
    simp only [holds_cons] at hs
    simp only [List.length_cons] at hsize
    rw [EntitiesInside, if_pos rfl, he] at hinside
    have hlength := (entityAt_begins he).2.length_le
    have hp : p ≠ size := by omega
    have hfind : findEntity memory size p i = entityAt s :=
      findEntity_eq hs.2 (by omega) hlag (beyond_of_entityAt he)
    obtain ⟨fuel, hrun⟩ := ih hinside (p := p + e.1.length + 1) (i := i + 1)
      (by rw [Nat.add_right_comm]; exact hs.2.drop) (by simp; omega) (by omega)
    refine ⟨fuel + 1, ?_⟩
    rw [loop_entity hs.1 hp (hfind.trans he), hrun, xmlDecoded, if_pos rfl, he]
    rfl
  | case3 lag s he ih =>
    simp only [holds_cons] at hs
    simp only [List.length_cons] at hsize
    rw [EntitiesInside, if_pos rfl, he] at hinside
    have hp : p ≠ size := by omega
    have hfind : findEntity memory size p i = entityAt s :=
      findEntity_eq hs.2 (by omega) hlag fun e he _ => hinside.1 e he
    obtain ⟨fuel, hrun⟩ := ih hinside.2 hs.2 (by omega) (i := i + 1) (by omega)
    refine ⟨fuel + 1, ?_⟩
    rw [loop_ampersand hs.1 hp (hfind.trans he), hrun, xmlDecoded, if_pos rfl, he, hs.1]
    rfl
  | case4 lag c s hc ih =>
    simp only [holds_cons] at hs
    simp only [List.length_cons] at hsize
    rw [EntitiesInside, if_neg hc] at hinside
    obtain ⟨fuel, hrun⟩ := ih hinside hs.2 (by omega) (i := i + 1) (by omega)
    refine ⟨fuel + 1, ?_⟩
    rw [loop_plain (by rwa [hs.1]) (by omega), hrun, xmlDecoded, if_neg hc, hs.1]
    rfl

/-! ### Strings that are not -/

/-- Beyond the end the pointer does not come back to it. -/
theorem loop_beyond (hp : size < p) (fuel : ℕ) : xmlCharDataDecodeLoop memory size fuel p i = none := by
  induction fuel generalizing p i with
  | zero => rfl
  | succ fuel ih =>
    have hne : p ≠ size := by omega
    by_cases hc : memory p = 38
    · cases he : findEntity memory size p i with
      | some e => rw [loop_entity hc hne he, ih (by omega), Option.map_none]
      | none => rw [loop_ampersand hc hne he, ih (by omega), Option.map_none]
    · rw [loop_plain hc hne, ih (by omega), Option.map_none]

/-- What is in memory at the entity that goes beyond the end is found, and skipped. -/
theorem loop_entity_beyond {e : List UInt8 × UInt8} (he : e ∈ entities) (hc : memory p = 38)
    (hp : p < size) (hholds : Holds memory (p + 1) e.1) (hguard : i + e.1.length < size)
    (hbeyond : size < p + e.1.length + 1) (fuel : ℕ) :
    xmlCharDataDecodeLoop memory size fuel p i = none := by
  cases fuel with
  | zero => rfl
  | succ fuel =>
    obtain ⟨e', he'⟩ : ∃ e', findEntity memory size p i = some e' := by
      refine Option.isSome_iff_exists.mp (List.find?_isSome.mpr ⟨e, he, ?_⟩)
      rw [Bool.and_eq_true, decide_eq_true_eq, matchesAt_iff]
      exact ⟨hguard, hholds⟩
    have hmem := List.mem_of_find?_eq_some he'
    have hfound := List.find?_some he'
    rw [Bool.and_eq_true, decide_eq_true_eq, matchesAt_iff] at hfound
    have heq : e' = e := by
      rcases Nat.le_total e'.1.length e.1.length with hle | hle
      · exact entities_begin e' hmem e he (hfound.2.isPrefix hholds hle)
      · exact (entities_begin e he e' hmem (hholds.isPrefix hfound.2 hle)).symm
    rw [loop_entity hc (by omega) he', heq, loop_beyond hbeyond, Option.map_none]

/-- What follows the string in memory completes an entity that goes beyond its end. -/
theorem loop_outside {whole : List UInt8} (houtside : ¬EntitiesInside lag s)
    (hs : whole.drop p = s) (hlag : i + lag = p) : ∃ following, ∀ fuel,
      xmlCharDataDecodeLoop (followedBy whole following) whole.length fuel p i = none := by
  induction lag, s using EntitiesInside.induct generalizing p i with
  | case1 lag => exact absurd (by rw [EntitiesInside]; trivial) houtside
  | case2 lag s e he ih =>
    rw [EntitiesInside, if_pos rfl, he] at houtside
    have hlength := congrArg List.length hs
    rw [List.length_drop, List.length_cons] at hlength
    have hrest : whole.drop (p + e.1.length + 1) = s.drop e.1.length := by
      rw [Nat.add_assoc, ← List.drop_drop, hs, List.drop_succ_cons]
    obtain ⟨following, hnone⟩ := ih houtside hrest (i := i + 1) (by omega)
    have hheld := holds_followedBy_drop hs following
    rw [holds_cons] at hheld
    have hfind : findEntity (followedBy whole following) whole.length p i = entityAt s :=
      findEntity_eq hheld.2 (by omega) hlag (beyond_of_entityAt he)
    refine ⟨following, fun fuel => ?_⟩
    cases fuel with
    | zero => rfl
    | succ fuel => rw [loop_entity hheld.1 (by omega) (hfind.trans he), hnone, Option.map_none]
  | case3 lag s he ih =>
    rw [EntitiesInside, if_pos rfl, he] at houtside
    have hlength := congrArg List.length hs
    rw [List.length_drop, List.length_cons] at hlength
    have hrest : whole.drop (p + 1) = s := by
      rw [← List.drop_drop, hs, List.drop_one, List.tail_cons]
    by_cases hnear : ∀ e ∈ entities, s <+: e.1 → s.length + lag < e.1.length
    · obtain ⟨following, hnone⟩ := ih (fun h => houtside ⟨hnear, h⟩) hrest (i := i + 1) (by omega)
      have hheld := holds_followedBy_drop hs following
      rw [holds_cons] at hheld
      have hfind : findEntity (followedBy whole following) whole.length p i = entityAt s :=
        findEntity_eq hheld.2 (by omega) hlag fun e he _ => hnear e he
      refine ⟨following, fun fuel => ?_⟩
      cases fuel with
      | zero => rfl
      | succ fuel => rw [loop_ampersand hheld.1 (by omega) (hfind.trans he), hnone, Option.map_none]
    · push Not at hnear
      obtain ⟨e, hmem, hbegins, hguard⟩ := hnear
      -- the string has not the whole entity
      have hproper : s.length < e.1.length := by
        refine lt_of_le_of_ne hbegins.length_le fun heq => ?_
        have hsome : (entityAt s).isSome := List.find?_isSome.mpr
          ⟨e, hmem, List.isPrefixOf_iff_prefix.mpr (hbegins.eq_of_length heq ▸ List.prefix_refl _)⟩
        rw [he] at hsome
        cases hsome
      refine ⟨_, loop_entity_beyond hmem ?_ (by omega) (holds_following 0 hrest (by omega) hbegins)
        (by omega) (by omega)⟩
      have hheld := holds_followedBy_drop hs fun i => (e.1[s.length + i]?).getD 0
      exact (holds_cons.mp hheld).1
  | case4 lag c s hc ih =>
    rw [EntitiesInside, if_neg hc] at houtside
    have hlength := congrArg List.length hs
    rw [List.length_drop, List.length_cons] at hlength
    have hrest : whole.drop (p + 1) = s := by
      rw [← List.drop_drop, hs, List.drop_one, List.tail_cons]
    obtain ⟨following, hnone⟩ := ih houtside hrest (i := i + 1) (by omega)
    have hheld := holds_followedBy_drop hs following
    rw [holds_cons] at hheld
    refine ⟨following, fun fuel => ?_⟩
    cases fuel with
    | zero => rfl
    | succ fuel => rw [loop_plain (by rwa [hheld.1]) (by omega), hnone, Option.map_none]

/-! ### The round trip -/

theorem encoded_entity {e : List UInt8 × UInt8} (he : e ∈ entities) (rest : List UInt8) :
    entityAt (e.1 ++ rest) = some e := by
  obtain ⟨e', he'⟩ : ∃ e', entityAt (e.1 ++ rest) = some e' :=
    Option.isSome_iff_exists.mp (List.find?_isSome.mpr
      ⟨e, he, List.isPrefixOf_iff_prefix.mpr (List.prefix_append _ _)⟩)
  obtain ⟨hmem, hbegins⟩ := entityAt_begins he'
  have heq : e' = e := by
    rcases List.prefix_or_prefix_of_prefix hbegins (List.prefix_append e.1 rest) with h | h
    · exact entities_begin e' hmem e he h
    · exact (entities_begin e he e' hmem h).symm
  rw [he', heq]

theorem encodeChar_cases (c : UInt8) :
    (∃ e ∈ entities, xmlCharDataEncodeChar c = 38 :: e.1 ∧ e.2 = c) ∨
      (xmlCharDataEncodeChar c = [c] ∧ c ≠ 38) := entity_table.2 c

theorem encodeChar_decoded (c : UInt8) (rest : List UInt8) (lag : ℕ)
    (hrest : ∀ lag, EntitiesInside lag rest) :
    xmlDecoded (xmlCharDataEncodeChar c ++ rest) = c :: xmlDecoded rest ∧
      EntitiesInside lag (xmlCharDataEncodeChar c ++ rest) := by
  rcases encodeChar_cases c with ⟨e, he, hcode, rfl⟩ | ⟨hcode, hc⟩
  · have hentity := encoded_entity he rest
    rw [hcode, List.cons_append, xmlDecoded, if_pos rfl, EntitiesInside, if_pos rfl, hentity]
    dsimp only
    rw [List.drop_left]
    exact ⟨rfl, hrest _⟩
  · rw [hcode, List.singleton_append, xmlDecoded, if_neg hc, EntitiesInside, if_neg hc]
    exact ⟨rfl, hrest lag⟩

theorem xmlDecoded_encode (d : List UInt8) (lag : ℕ) :
    xmlDecoded (xmlCharDataEncode d) = d ∧ EntitiesInside lag (xmlCharDataEncode d) := by
  induction d generalizing lag with
  | nil => exact ⟨by rw [xmlCharDataEncode, List.flatMap_nil, xmlDecoded],
      by rw [xmlCharDataEncode, List.flatMap_nil, EntitiesInside]; trivial⟩
  | cons c d ih =>
    obtain ⟨hdecoded, hinside⟩ := encodeChar_decoded c (xmlCharDataEncode d) lag fun lag => (ih lag).2
    rw [(ih 0).1] at hdecoded
    exact ⟨hdecoded, hinside⟩

theorem not_decodes_outside {s : List UInt8} (houtside : ¬EntitiesInside 0 s) :
    ¬∃ out, ∀ following, XmlDecodes (followedBy s following) s.length out := by
  rintro ⟨out, hout⟩
  obtain ⟨following, hnone⟩ := loop_outside houtside (List.drop_zero (l := s)) rfl
  obtain ⟨fuel, hfuel⟩ := hout following
  rw [hnone] at hfuel
  cases hfuel

/-- A code is decoded to its string whatever follows it in memory, and what is decoded of a string
does not depend on what follows it, exactly if its entities are looked for inside. -/
theorem xml_coding (d s : List UInt8) :
    ((∀ following, XmlDecodes (followedBy (xmlCharDataEncode d) following)
        (xmlCharDataEncode d).length d) ∧
      ∃ out, ∀ following, XmlDecodes (followedBy s following) s.length out) ↔
      EntitiesInside 0 s := by
  have hends (s : List UInt8) (hs : EntitiesInside 0 s) (following : ℕ → UInt8) :
      XmlDecodes (followedBy s following) s.length (xmlDecoded s) :=
    loop_inside hs (holds_followedBy s following) (Nat.zero_add _) rfl
  constructor
  · rintro ⟨-, hout⟩
    by_contra houtside
    exact not_decodes_outside houtside hout
  · intro hs
    refine ⟨fun following => ?_, xmlDecoded s, hends s hs⟩
    obtain ⟨hdecoded, hinside⟩ := xmlDecoded_encode d 0
    have hrun := hends _ hinside following
    rwa [hdecoded] at hrun

/-- `&amp;&am` is read on if `p;` follows it in memory. -/
theorem not_xml_coding : ¬∃ out, ∀ following,
    XmlDecodes (followedBy (literal "&amp;&am") following) (literal "&amp;&am").length out := by
  have hstring : literal "&amp;&am" = 38 :: (literal "amp;" ++ 38 :: literal "am") := by
    decide +kernel
  have hfirst : entityAt (literal "amp;" ++ 38 :: literal "am") = some (literal "amp;", 38) :=
    encoded_entity (e := (literal "amp;", 38)) List.mem_cons_self _
  have hsecond : entityAt (literal "am") = none := by decide +kernel
  refine not_decodes_outside ?_
  rw [hstring, EntitiesInside, if_pos rfl, hfirst]
  dsimp only
  rw [List.drop_left, EntitiesInside, if_pos rfl, hsecond]
  rintro ⟨hnear, -⟩
  exact absurd (hnear (literal "amp;", 38) List.mem_cons_self (by decide +kernel)) (by decide +kernel)

end Resiprocate.Data
