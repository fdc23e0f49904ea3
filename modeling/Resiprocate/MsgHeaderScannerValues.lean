import Resiprocate.MsgHeaderScannerChunks

/-! What the scanner promises of the values it hands out: no leading whitespace, line breaks
only as folds, and in comma-separated fields commas only inside quotes and angle brackets. -/
namespace Resiprocate.Scanner
open StreamMachine

/-! ### Line breaks and quotes in a value -/

instance : Fintype CharCategory :=
  .ofList [.chunkTermSentinel, .other, .fieldName, .whitespace, .colon, .doubleQuotationMark,
    .leftAngleBracket, .rightAngleBracket, .backslash, .comma, .carriageReturn, .lineFeed]
    fun k => by cases k <;> simp

instance : Fintype State :=
  .ofList ([.msgStart, .halfLineBreakAtMsgStart, .scanStatusLine, .halfLineBreakAfterStatusLine,
    .afterLineBreakAfterStatusLine, .scanFieldName, .scanNValueInQuotes,
    .afterEscCharInQuotesInNValue, .halfLineBreakInQuotesInNValue, .afterLineBreakInQuotesInNValue,
    .scanNValueInAngles, .halfLineBreakInAnglesInNValue, .afterLineBreakInAnglesInNValue,
    .halfLineBreakAfterLineBreak] ++ [true, false].flatMap fun x =>
      [.scanWhitespaceAfterFieldName x, .scanWhitespaceOrValue x,
        .halfLineBreakInWhitespaceBeforeValue x, .afterLineBreakInWhitespaceBeforeValue x,
        .scanValue x, .halfLineBreakInValue x, .afterLineBreakInValue x])
    fun s => by cases s <;> simp

/-- How far a line break has been read. -/
inductive Break
  | none | cr | crlf | broken
  deriving DecidableEq, Repr

/-- A line break is CR, LF and then a space or a tab; anything else is broken. -/
def Break.next : Break → CharCategory → Break
  | .none, .carriageReturn => .cr
  | .none, .lineFeed => .broken
  | .none, _ => .none
  | .cr, .lineFeed => .crlf
  | .crlf, .whitespace => .none
  | _, _ => .broken

/-- Where in the quoting of a comma-separated value a character stands. -/
inductive Quoting
  | outside | quoted | escaped | angled
  deriving DecidableEq, Repr

/-- Backslashes count in quotes only; brackets and quotes do not nest. -/
def Quoting.next : Quoting → CharCategory → Quoting
  | .outside, .doubleQuotationMark => .quoted
  | .outside, .leftAngleBracket => .angled
  | .outside, _ => .outside
  | .quoted, .doubleQuotationMark => .outside
  | .quoted, .backslash => .escaped
  | .quoted, _ => .quoted
  | .escaped, _ => .quoted
  | .angled, .rightAngleBracket => .outside
  | .angled, _ => .angled

/-- The category a character of the chunk is looked up by: NUL counts as any other. -/
def category (c : UInt8) : CharCategory :=
  if charCategory c = .chunkTermSentinel then .other else charCategory c

def breaks (v : Bytes) : Break := v.foldl (fun b c => b.next (category c)) .none

def quoting (v : Bytes) : Quoting := v.foldl (fun q c => q.next (category c)) .outside

theorem breaks_snoc (v : Bytes) (c : UInt8) : breaks (v ++ [c]) = (breaks v).next (category c) := by
  simp [breaks]

theorem quoting_snoc (v : Bytes) (c : UInt8) :
    quoting (v ++ [c]) = (quoting v).next (category c) := by
  simp [quoting]

theorem transition_eq (state : State) (c : UInt8) :
    transition state c = stateMachine state (category c) := by
  simp only [transition, category]
  by_cases hc : charCategory c = .chunkTermSentinel
  · simp [hc, stateMachine_sentinel]
  · have hne : (stateMachine state (charCategory c)).action ≠ .chunkTermSentinel := by
      revert hc
      generalize charCategory c = k
      revert state k
      decide
    simp [hc, hne]

section Categories
variable {c : UInt8}

/-- The characters of the categories that the contract speaks of. -/
def CharCategory.holds (k : CharCategory) (c : UInt8) : Prop :=
  match k with
  | .carriageReturn => c = 13
  | .lineFeed => c = 10
  | .whitespace => c = 32 ∨ c = 9
  | .comma => c = 44
  | .fieldName => isFieldNameChar c = true
  | _ => True

theorem category_holds (c : UInt8) : (category c).holds c := by
  have hholds : (charCategory c).holds c := by
    unfold charCategory
    repeat' refine iteInduction (motive := (CharCategory.holds · c)) (fun h => ?_) fun _ => ?_
    all_goals first | exact h | trivial
  unfold category
  split
  · trivial
  · exact hholds

theorem category_carriageReturn : category c = .carriageReturn ↔ c = 13 := by
  constructor
  · intro h
    simpa [h, CharCategory.holds] using category_holds c
  · rintro rfl
    decide

theorem category_lineFeed : category c = .lineFeed ↔ c = 10 := by
  constructor
  · intro h
    simpa [h, CharCategory.holds] using category_holds c
  · rintro rfl
    decide

theorem category_whitespace : category c = .whitespace ↔ c = 32 ∨ c = 9 := by
  constructor
  · intro h
    simpa [h, CharCategory.holds] using category_holds c
  · rintro (rfl | rfl) <;> decide

theorem category_comma : category c = .comma ↔ c = 44 := by
  constructor
  · intro h
    simpa [h, CharCategory.holds] using category_holds c
  · rintro rfl
    decide

theorem isFieldNameChar_of_category (h : category c = .fieldName) : isFieldNameChar c = true := by
  simpa [h, CharCategory.holds] using category_holds c

end Categories

/-! ### The contract -/

/-- A value with no leading whitespace whose carriage returns and line feeds are all part of a
line break followed by whitespace. -/
structure FoldedValue (v : Bytes) : Prop where
  leading : ∀ c rest, v = c :: rest → c ≠ 32 ∧ c ≠ 9
  carriageReturn : ∀ p q, v = p ++ 13 :: q → ∃ c r, q = 10 :: c :: r ∧ (c = 32 ∨ c = 9)
  lineFeed : ∀ p q, v = p ++ 10 :: q → ∃ p', p = p' ++ [13]

/-- A value of a comma-separated field: commas stand in quotes or angle brackets, and all of
these are closed. -/
structure TokenizedValue (v : Bytes) : Prop where
  comma : ∀ p q, v = p ++ 44 :: q → quoting p ≠ .outside
  closed : quoting v = .outside

def LegalName (name : Bytes) : Prop := name ≠ [] ∧ ∀ c ∈ name, isFieldNameChar c = true

/-- What the header parsers may rely on of a value handed to them. -/
def Event.Contract {κ : Type*} (H : Headers κ) : Event κ → Prop
  | .setStartLine _ => True
  | .addHeader kind name value => LegalName name ∧ kind = H.getType name ∧ FoldedValue value ∧
      (H.isCommaTokenizing kind = true → TokenizedValue value)

/-! ### Text read so far -/

/-- Once a line break is broken it stays so. -/
theorem breaks_append_of_broken {p : Bytes} (h : breaks p = .broken) (q : Bytes) :
    breaks (p ++ q) = .broken := by
  induction q using List.reverseRecOn with
  | nil => simpa using h
  | append_singleton q c ih =>
    rw [← List.append_assoc, breaks_snoc, ih]
    cases category c <;> rfl

theorem cr_of_breaks {v : Bytes} (h : breaks v = .cr) : ∃ p, v = p ++ [13] ∧ breaks p = .none := by
  induction v using List.reverseRecOn with
  | nil => cases h
  | append_singleton p c =>
    rw [breaks_snoc] at h
    have hb : breaks p = .none ∧ category c = .carriageReturn := by
      revert h
      generalize breaks p = b
      generalize category c = k
      cases b <;> cases k <;> simp [Break.next]
    exact ⟨p, by rw [category_carriageReturn.1 hb.2], hb.1⟩

theorem crlf_of_breaks {v : Bytes} (h : breaks v = .crlf) :
    ∃ p, v = p ++ [13, 10] ∧ breaks p = .none := by
  induction v using List.reverseRecOn with
  | nil => cases h
  | append_singleton p c =>
    rw [breaks_snoc] at h
    have hb : breaks p = .cr ∧ category c = .lineFeed := by
      revert h
      generalize breaks p = b
      generalize category c = k
      cases b <;> cases k <;> simp [Break.next]
    obtain ⟨p', rfl, hp'⟩ := cr_of_breaks hb.1
    exact ⟨p', by simp [category_lineFeed.1 hb.2], hp'⟩

/-- A text in which no line break is broken and none is open has only folds. -/
theorem FoldedValue.of_breaks {v : Bytes} (hlead : ∀ c rest, v = c :: rest → c ≠ 32 ∧ c ≠ 9)
    (h : breaks v = .none) : FoldedValue v := by
  have hsound : ∀ p q, v = p ++ q → breaks p ≠ .broken := by
    rintro p q rfl hp
    rw [breaks_append_of_broken hp] at h
    cases h
  refine ⟨hlead, ?_, ?_⟩
  · intro p q hv
    have hcr : breaks (p ++ [13]) = .cr := by
      have hb := hsound (p ++ [13]) q (by simp [hv])
      rw [breaks_snoc] at hb ⊢
      revert hb
      cases breaks p <;> decide
    cases q with
    | nil =>
      rw [hv, hcr] at h
      cases h
    | cons d q =>
      have hd := hsound (p ++ [13] ++ [d]) q (by simp [hv])
      rw [breaks_snoc, hcr] at hd
      have hlf : category d = .lineFeed := by
        revert hd
        cases category d <;> simp [Break.next]
      have hcrlf : breaks (p ++ [13] ++ [d]) = .crlf := by
        rw [breaks_snoc, hcr, hlf]
        rfl
      cases q with
      | nil =>
        rw [show v = p ++ [13] ++ [d] by simp [hv], hcrlf] at h
        cases h
      | cons e q =>
        have he := hsound (p ++ [13] ++ [d] ++ [e]) q (by simp [hv])
        rw [breaks_snoc, hcrlf] at he
        have hws : category e = .whitespace := by
          revert he
          cases category e <;> simp [Break.next]
        exact ⟨e, q, by rw [category_lineFeed.1 hlf], category_whitespace.1 hws⟩
  · intro p q hv
    have hb := hsound (p ++ [10]) q (by simp [hv])
    rw [breaks_snoc, category_lineFeed.2 rfl] at hb
    have hcr : breaks p = .cr := by
      revert hb
      cases breaks p <;> simp [Break.next]
    obtain ⟨p', hp', -⟩ := cr_of_breaks hcr
    exact ⟨p', hp'⟩

/-- Commas read so far stand in quotes or brackets. -/
def CommasInside (v : Bytes) : Prop := ∀ p q, v = p ++ 44 :: q → quoting p ≠ .outside

theorem CommasInside.snoc {v : Bytes} (h : CommasInside v) {c : UInt8}
    (hc : category c = .comma → quoting v ≠ .outside) : CommasInside (v ++ [c]) := by
  intro p q hv
  cases q using List.reverseRecOn with
  | nil =>
    have hlast : v = p ∧ c = 44 := by simpa using List.append_inj' hv rfl
    rw [← hlast.1]
    exact hc (category_comma.2 hlast.2)
  | append_singleton q d =>
    rw [← List.cons_append, ← List.append_assoc] at hv
    exact h p q (List.append_inj' hv rfl).1

theorem CommasInside.of_append {v w : Bytes} (h : CommasInside (v ++ w)) : CommasInside v :=
  fun p q hv => h p (q ++ w) (by simp [hv])

/-! ### What the states stand for -/

namespace State

/-- In the states between a field name and the end of its last value: whether the field is
comma-separated. -/
def multi? : State → Option Bool
  | .scanWhitespaceAfterFieldName x | .scanWhitespaceOrValue x
  | .halfLineBreakInWhitespaceBeforeValue x | .afterLineBreakInWhitespaceBeforeValue x
  | .scanValue x | .halfLineBreakInValue x | .afterLineBreakInValue x => some x
  | .scanNValueInQuotes | .afterEscCharInQuotesInNValue | .halfLineBreakInQuotesInNValue
  | .afterLineBreakInQuotesInNValue | .scanNValueInAngles | .halfLineBreakInAnglesInNValue
  | .afterLineBreakInAnglesInNValue => some true
  | _ => none

/-- In the states inside a value: how far a line break has been read. -/
def break? : State → Option Break
  | .scanValue _ | .scanNValueInQuotes | .afterEscCharInQuotesInNValue | .scanNValueInAngles =>
    some .none
  | .halfLineBreakInValue _ | .halfLineBreakInQuotesInNValue | .halfLineBreakInAnglesInNValue =>
    some .cr
  | .afterLineBreakInValue _ | .afterLineBreakInQuotesInNValue
  | .afterLineBreakInAnglesInNValue => some .crlf
  | _ => none

/-- In the states inside a comma-separated value: where in its quoting the scan stands. -/
def quoting? : State → Option Quoting
  | .scanValue true | .halfLineBreakInValue true | .afterLineBreakInValue true => some .outside
  | .scanNValueInQuotes | .halfLineBreakInQuotesInNValue | .afterLineBreakInQuotesInNValue =>
    some .quoted
  | .afterEscCharInQuotesInNValue => some .escaped
  | .scanNValueInAngles | .halfLineBreakInAnglesInNValue | .afterLineBreakInAnglesInNValue =>
    some .angled
  | _ => none

end State

/-! ### Facts of the table -/

/-- What the table says of a step within a text or into one, of one that ends a text, and of one that leaves a line
break behind. -/
theorem table_steps : ∀ (s : State) (k : CharCategory),
    (((stateMachine s k).action = .none → (stateMachine s k).nextState.multi? = s.multi? ∧
      (stateMachine s k).nextState.break? = s.break?.map (·.next k) ∧
      (stateMachine s k).nextState.quoting? = s.quoting?.map (·.next k) ∧
      (s.quoting? = some .outside → k ≠ .comma) ∧
      ((stateMachine s k).nextState = .scanFieldName → s = .scanFieldName ∧ k = .fieldName)) ∧
    ((stateMachine s k).action = .startText → (stateMachine s k).nextState.multi? = s.multi? ∧
      (∀ b, (stateMachine s k).nextState.break? = some b →
        b = .none ∧ Break.none.next k = .none ∧ k ≠ .whitespace) ∧
      (∀ q, (stateMachine s k).nextState.quoting? = some q →
        q = Quoting.outside.next k ∧ k ≠ .comma) ∧
      ((stateMachine s k).nextState = .scanFieldName → k = .fieldName))) ∧
    (((stateMachine s k).action = .termStatusLine → (stateMachine s k).nextState.multi? = none ∧
      (stateMachine s k).nextState.break? = none ∧ (stateMachine s k).nextState.quoting? = none ∧
      (stateMachine s k).nextState ≠ .scanFieldName) ∧
    ((stateMachine s k).action = .termFieldName → s = .scanFieldName ∧
      (stateMachine s k).nextState.multi? = some false ∧
      (stateMachine s k).nextState.toMulti.multi? = some true ∧
      (stateMachine s k).nextState.break? = none ∧
      (stateMachine s k).nextState.toMulti.break? = none ∧
      (stateMachine s k).nextState.quoting? = none ∧
      (stateMachine s k).nextState.toMulti.quoting? = none ∧
      (stateMachine s k).nextState ≠ .scanFieldName ∧
      (stateMachine s k).nextState.toMulti ≠ .scanFieldName) ∧
    ((stateMachine s k).action = .termValue → s.multi? = some true ∧ s.break? = some .none ∧
      s.quoting? = some .outside ∧ (stateMachine s k).nextState.multi? = some true ∧
      (stateMachine s k).nextState.break? = none ∧ (stateMachine s k).nextState.quoting? = none ∧
      (stateMachine s k).nextState ≠ .scanFieldName)) ∧
    (((stateMachine s k).action = .termValueAfterLineBreak ∨
        (stateMachine s k).action = .beyondEmptyValue →
      s.multi?.isSome = true ∧ (stateMachine s k).nextState.multi? = none ∧
      (stateMachine s k).nextState.break? = none ∧ (stateMachine s k).nextState.quoting? = none ∧
      ((stateMachine s k).nextState = .scanFieldName → k = .fieldName)) ∧
    ((stateMachine s k).action = .termValueAfterLineBreak →
      s.break? = some .crlf ∧ (s.multi? = some true → s.quoting? = some .outside))) := by
  intro s k
  refine ⟨⟨?_, ?_⟩, ⟨?_, ?_, ?_⟩, ⟨?_, ?_⟩⟩ <;> revert s k <;> decide +kernel

section Table
variable (s : State) (k : CharCategory)

/-- Reading on within a text moves along with the line break and the quoting. -/
theorem table_none (h : (stateMachine s k).action = .none) :
    (stateMachine s k).nextState.multi? = s.multi? ∧
    (stateMachine s k).nextState.break? = s.break?.map (·.next k) ∧
    (stateMachine s k).nextState.quoting? = s.quoting?.map (·.next k) ∧
    (s.quoting? = some .outside → k ≠ .comma) ∧
    ((stateMachine s k).nextState = .scanFieldName → s = .scanFieldName ∧ k = .fieldName) :=
  (table_steps s k).1.1 h

/-- A text starts with a character that is no line break; a field name with a legal one. -/
theorem table_startText (h : (stateMachine s k).action = .startText) :
    (stateMachine s k).nextState.multi? = s.multi? ∧
    (∀ b, (stateMachine s k).nextState.break? = some b →
      b = .none ∧ Break.none.next k = .none ∧ k ≠ .whitespace) ∧
    (∀ q, (stateMachine s k).nextState.quoting? = some q →
      q = Quoting.outside.next k ∧ k ≠ .comma) ∧
    ((stateMachine s k).nextState = .scanFieldName → k = .fieldName) :=
  (table_steps s k).1.2 h

/-- Where the status line ends there is no value yet. -/
theorem table_termStatusLine (h : (stateMachine s k).action = .termStatusLine) :
    (stateMachine s k).nextState.multi? = none ∧ (stateMachine s k).nextState.break? = none ∧
    (stateMachine s k).nextState.quoting? = none ∧
    (stateMachine s k).nextState ≠ .scanFieldName :=
  (table_steps s k).2.1.1 h

theorem table_termFieldName (h : (stateMachine s k).action = .termFieldName) :
    s = .scanFieldName ∧ (stateMachine s k).nextState.multi? = some false ∧
    (stateMachine s k).nextState.toMulti.multi? = some true ∧
    (stateMachine s k).nextState.break? = none ∧
    (stateMachine s k).nextState.toMulti.break? = none ∧
    (stateMachine s k).nextState.quoting? = none ∧
    (stateMachine s k).nextState.toMulti.quoting? = none ∧
    (stateMachine s k).nextState ≠ .scanFieldName ∧
    (stateMachine s k).nextState.toMulti ≠ .scanFieldName :=
  (table_steps s k).2.1.2.1 h

/-- A value ends with its field, or before a comma outside quotes and brackets. -/
theorem table_termValue (h : (stateMachine s k).action = .termValue) :
    s.multi? = some true ∧ s.break? = some .none ∧ s.quoting? = some .outside ∧
    (stateMachine s k).nextState.multi? = some true ∧
    (stateMachine s k).nextState.break? = none ∧ (stateMachine s k).nextState.quoting? = none ∧
    (stateMachine s k).nextState ≠ .scanFieldName :=
  (table_steps s k).2.1.2.2 h

theorem table_lineBreak (h : (stateMachine s k).action = .termValueAfterLineBreak ∨
      (stateMachine s k).action = .beyondEmptyValue) :
    s.multi?.isSome = true ∧ (stateMachine s k).nextState.multi? = none ∧
    (stateMachine s k).nextState.break? = none ∧ (stateMachine s k).nextState.quoting? = none ∧
    ((stateMachine s k).nextState = .scanFieldName → k = .fieldName) :=
  (table_steps s k).2.2.1 h

theorem table_termValueAfterLineBreak
    (h : (stateMachine s k).action = .termValueAfterLineBreak) :
    s.break? = some .crlf ∧ (s.multi? = some true → s.quoting? = some .outside) :=
  (table_steps s k).2.2.2 h

end Table

/-! ### The invariant -/

/-- What holds of the text begun and of the field at hand in every state. -/
structure Scan.Good {κ : Type*} (H : Headers κ) (m : Scan κ) : Prop where
  name : m.state = .scanFieldName → ∃ t, m.text = some t ∧ LegalName t
  field : ∀ x, m.state.multi? = some x → LegalName m.fieldName ∧
    m.fieldKind = H.getType m.fieldName ∧ H.isCommaTokenizing m.fieldKind = x
  value : ∀ b, m.state.break? = some b → ∃ t, m.text = some t ∧ t ≠ [] ∧
    (∀ c rest, t = c :: rest → c ≠ 32 ∧ c ≠ 9) ∧ breaks t = b
  tokens : ∀ q, m.state.quoting? = some q → ∃ t, m.text = some t ∧ quoting t = q ∧ CommasInside t

variable {κ : Type*} (H : Headers κ)

namespace Scan.Good
variable {H} {m : Scan κ} (hm : m.Good H)
include hm

/-- What is emitted when a value ends: the text read so far, or all of it but the line break. -/
theorem contract {x : Bool} (hx : m.state.multi? = some x) {v : Bytes}
    (hlead : ∀ c rest, v = c :: rest → c ≠ 32 ∧ c ≠ 9) (hbreaks : breaks v = .none)
    (htokens : x = true → TokenizedValue v) :
    (Event.addHeader m.fieldKind m.fieldName v).Contract H := by
  obtain ⟨hname, hkind, hcomma⟩ := hm.field x hx
  exact ⟨hname, hkind, .of_breaks hlead hbreaks, fun h => htokens (hcomma ▸ h)⟩

theorem contract_afterLineBreak {x : Bool} (hx : m.state.multi? = some x)
    (hbreak : m.state.break? = some .crlf) (hquoting : x = true → m.state.quoting? = some .outside) :
    (Event.addHeader m.fieldKind m.fieldName
      (m.tail.take (m.tail.length - 2))).Contract H := by
  obtain ⟨t, ht, -, hlead, hcrlf⟩ := hm.value _ hbreak
  obtain ⟨v, rfl, hv⟩ := crlf_of_breaks hcrlf
  have htail : m.tail.take (m.tail.length - 2) = v := by simp [Scan.tail, ht]
  rw [htail]
  refine hm.contract hx ?_ hv ?_
  · rintro c rest rfl
    exact hlead c (rest ++ [13, 10]) rfl
  · intro hmulti
    obtain ⟨t, ht', hq, hcommas⟩ := hm.tokens _ (hquoting hmulti)
    cases ht.symm.trans ht'
    refine ⟨hcommas.of_append, ?_⟩
    -- neither CR nor LF changes the quoting outside of an escape
    rw [show v ++ [13, 10] = v ++ [13] ++ [10] by simp, quoting_snoc, quoting_snoc] at hq
    revert hq
    cases quoting v <;> decide

theorem contract_comma (hx : m.state.multi? = some true) (hbreak : m.state.break? = some .none)
    (hquoting : m.state.quoting? = some .outside) :
    (Event.addHeader m.fieldKind m.fieldName m.tail).Contract H := by
  obtain ⟨t, ht, -, hlead, hnone⟩ := hm.value _ hbreak
  have htail : m.tail = t := by simp [Scan.tail, ht]
  rw [htail]
  refine hm.contract hx hlead hnone fun _ => ?_
  obtain ⟨t', ht', hq, hcommas⟩ := hm.tokens _ hquoting
  cases ht.symm.trans ht'
  exact ⟨hcommas, hq⟩

/-- A character that carries a text on. -/
theorem extend {c : UInt8} (h : (stateMachine m.state (category c)).action = .none) :
    ({ m with state := (stateMachine m.state (category c)).nextState }.extend c : Scan κ).Good H := by
  obtain ⟨hmulti, hbreak, hquoting, hcomma, hname⟩ := table_none m.state (category c) h
  refine ⟨?_, ?_, ?_, ?_⟩
  · intro hs
    obtain ⟨hs, hc⟩ := hname hs
    obtain ⟨t, ht, hne, hlegal⟩ := hm.name hs
    refine ⟨t ++ [c], by simp [Scan.extend, ht], by simp, ?_⟩
    intro d hd
    rcases List.mem_append.1 hd with hd | hd
    · exact hlegal d hd
    · rw [List.mem_singleton.1 hd]
      exact isFieldNameChar_of_category hc
  · intro x hx
    exact hm.field x (hmulti ▸ hx)
  · intro b hb
    simp only [Scan.extend, hbreak, Option.map_eq_some_iff] at hb
    obtain ⟨b, hb, rfl⟩ := hb
    obtain ⟨t, ht, hne, hlead, rfl⟩ := hm.value b hb
    refine ⟨t ++ [c], by simp [Scan.extend, ht], by simp, ?_, breaks_snoc t c⟩
    obtain ⟨d, t, rfl⟩ := List.exists_cons_of_ne_nil hne
    rintro _ _ ⟨⟩
    exact hlead d t rfl
  · intro q hq
    simp only [Scan.extend, hquoting, Option.map_eq_some_iff] at hq
    obtain ⟨q, hq, rfl⟩ := hq
    obtain ⟨t, ht, rfl, hcommas⟩ := hm.tokens q hq
    refine ⟨t ++ [c], by simp [Scan.extend, ht], quoting_snoc t c, hcommas.snoc fun hc ho => ?_⟩
    exact hcomma (ho ▸ hq) hc

/-- A character that starts a text. -/
theorem startText {c : UInt8} (h : (stateMachine m.state (category c)).action = .startText) :
    ({ m with
      state := (stateMachine m.state (category c)).nextState, text := some [c] } : Scan κ).Good H := by
  obtain ⟨hmulti, hbreak, hquoting, hname⟩ := table_startText m.state (category c) h
  refine ⟨?_, ?_, ?_, ?_⟩
  · intro hs
    exact ⟨[c], rfl, by simp, by simpa using isFieldNameChar_of_category (hname hs)⟩
  · intro x hx
    exact hm.field x (hmulti ▸ hx)
  · intro b hb
    obtain ⟨rfl, hnone, hws⟩ := hbreak b hb
    refine ⟨[c], rfl, by simp, ?_, hnone⟩
    rintro _ _ ⟨⟩
    exact not_or.1 (mt category_whitespace.2 hws)
  · intro q hq
    obtain ⟨rfl, hc⟩ := hquoting q hq
    refine ⟨[c], rfl, rfl, ?_⟩
    have hnil : CommasInside [] := fun p q h => by simp at h
    exact hnil.snoc fun h => absurd h hc

omit hm in
/-- A state outside values in which a legal character, or none, has started a field name. -/
theorem outside {m : Scan κ} (hmulti : m.state.multi? = none) (hbreak : m.state.break? = none)
    (hquoting : m.state.quoting? = none)
    (hname : m.state = .scanFieldName → ∃ t, m.text = some t ∧ LegalName t) : m.Good H :=
  ⟨hname, by simp [hmulti], by simp [hbreak], by simp [hquoting]⟩

/-- After the field name, its kind tells whether the field is comma-separated. -/
theorem termFieldName {c : UInt8}
    (h : (stateMachine m.state (category c)).action = .termFieldName) :
    ({ m with
      state := if H.isCommaTokenizing (H.getType m.tail) then
          (stateMachine m.state (category c)).nextState.toMulti
        else (stateMachine m.state (category c)).nextState
      text := none, fieldName := m.tail, fieldKind := H.getType m.tail } : Scan κ).Good H := by
  obtain ⟨hs, h₁, h₂, h₃, h₄, h₅, h₆, h₇, h₈⟩ := table_termFieldName m.state (category c) h
  obtain ⟨t, ht, hlegal⟩ := hm.name hs
  have htail : m.tail = t := by simp [Scan.tail, ht]
  cases hcomma : H.isCommaTokenizing (H.getType m.tail) with
  | true =>
    refine ⟨by simp [h₈], ?_, by simp [h₄], by simp [h₆]⟩
    rintro x hx
    simp only [if_true, h₂, Option.some.injEq] at hx
    exact ⟨htail ▸ hlegal, rfl, hx ▸ hcomma⟩
  | false =>
    refine ⟨by simp [h₇], ?_, by simp [h₃], by simp [h₅]⟩
    rintro x hx
    simp only [Bool.false_eq_true, if_false, h₁, Option.some.injEq] at hx
    exact ⟨htail ▸ hlegal, rfl, hx ▸ hcomma⟩

theorem step (c : UInt8) : (∀ e ∈ (Scan.step H m c).1, e.Contract H) ∧
    ∀ m', (Scan.step H m c).2 = .inl m' → m'.Good H := by
  have htail : m.text.getD [] = m.tail := rfl
  simp only [Scan.step, transition_eq, htail]
  cases haction : (stateMachine m.state (category c)).action with
  | none =>
    refine ⟨by simp, ?_⟩
    rintro _ ⟨⟩
    exact hm.extend haction
  | termStatusLine =>
    obtain ⟨h₁, h₂, h₃, h₄⟩ := table_termStatusLine m.state (category c) haction
    refine ⟨by simp [Event.Contract], ?_⟩
    rintro _ ⟨⟩
    exact outside h₁ h₂ h₃ fun h => absurd h h₄
  | termFieldName =>
    refine ⟨by simp, ?_⟩
    rintro _ ⟨⟩
    exact hm.termFieldName haction
  | beyondEmptyValue =>
    obtain ⟨hfield, h₁, h₂, h₃, h₄⟩ := table_lineBreak m.state (category c) (.inr haction)
    obtain ⟨x, hx⟩ := Option.isSome_iff_exists.1 hfield
    refine ⟨?_, ?_⟩
    · simp only [Scan.addHeader, List.mem_singleton]
      rintro _ rfl
      refine hm.contract hx (by simp) rfl fun _ => ⟨by simp, rfl⟩
    · rintro _ ⟨⟩
      exact outside h₁ h₂ h₃ fun h =>
        ⟨[c], rfl, by simp, by simpa using isFieldNameChar_of_category (h₄ h)⟩
  | termValueAfterLineBreak =>
    obtain ⟨hfield, h₁, h₂, h₃, h₄⟩ := table_lineBreak m.state (category c) (.inl haction)
    obtain ⟨hcrlf, hout⟩ := table_termValueAfterLineBreak m.state (category c) haction
    obtain ⟨x, hx⟩ := Option.isSome_iff_exists.1 hfield
    refine ⟨?_, ?_⟩
    · simp only [Scan.addHeader, List.mem_singleton]
      rintro _ rfl
      exact hm.contract_afterLineBreak hx hcrlf fun h => hout (h ▸ hx)
    · rintro _ ⟨⟩
      exact outside h₁ h₂ h₃ fun h =>
        ⟨[c], rfl, by simp, by simpa using isFieldNameChar_of_category (h₄ h)⟩
  | termValue =>
    obtain ⟨hx, hbreak, hquoting, h₁, h₂, h₃, h₄⟩ := table_termValue m.state (category c) haction
    refine ⟨?_, ?_⟩
    · simp only [Scan.addHeader, List.mem_singleton]
      rintro _ rfl
      exact hm.contract_comma hx hbreak hquoting
    · rintro _ ⟨⟩
      refine ⟨fun h => absurd h h₄, ?_, by simp [h₂], by simp [h₃]⟩
      intro x hx'
      exact hm.field x (hx.trans (h₁.symm.trans hx'))
  | startText =>
    refine ⟨by simp, ?_⟩
    rintro _ ⟨⟩
    exact hm.startText haction
  | endHeader => exact ⟨by simp, by simp⟩
  | chunkTermSentinel | error => exact ⟨by simp, by simp⟩

end Scan.Good

/-- A scanner that starts with a message, or with a fragment that has no start line. -/
theorem Scan.good_start {s : MsgHeaderScanner κ}
    (h : s.mState = .msgStart ∨ s.mState = .afterLineBreakAfterStatusLine) :
    (Scan.ofScanner s none).Good H := by
  rcases h with h | h <;> exact .outside (by simp [ofScanner, h, State.multi?])
    (by simp [ofScanner, h, State.break?]) (by simp [ofScanner, h, State.quoting?])
    (by simp [ofScanner, h])

/-- Every value handed on, however the input is cut into chunks, meets the contract. -/
theorem scanChunks_contract (s : MsgHeaderScanner κ) (chunks : List Bytes) :
    (∀ e ∈ (MsgHeaderScanner.scanChunks H s.prepareForMessage [] chunks).events, e.Contract H) ∧
    ∀ hasStartLine, ∀ e ∈
      (MsgHeaderScanner.scanChunks H (s.prepareForFrag hasStartLine) [] chunks).events,
        e.Contract H := by
  have hevents : ∀ s : MsgHeaderScanner κ, s.mPrevScanChunkNumSavedTextChars = 0 →
      (s.mState = .msgStart ∨ s.mState = .afterLineBreakAfterStatusLine) →
      ∀ e ∈ (MsgHeaderScanner.scanChunks H s [] chunks).events, e.Contract H := by
    intro s hsaved hstate e he
    have hseen := MsgHeaderScanner.scanChunks_seen H (MsgHeaderScanner.holds_of_unsaved hsaved) chunks
    have hout : (MsgHeaderScanner.scanChunks H s [] chunks).events =
        (run (Scan.step H) (Scan.ofScanner s none) chunks.flatten).1 := by
      have := congrArg MsgHeaderScanner.Seen.events hseen
      rwa [MsgHeaderScanner.seenOf_events] at this
    rw [hout] at he
    exact (run_invariant (fun m c hm => hm.step c) (Scan.good_start H hstate)
      chunks.flatten).1 e he
  refine ⟨hevents _ rfl (.inl rfl), fun hasStartLine => hevents _ rfl ?_⟩
  cases hasStartLine
  · exact .inr rfl
  · exact .inl rfl

end Resiprocate.Scanner
