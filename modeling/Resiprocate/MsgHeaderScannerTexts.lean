import Resiprocate.MsgHeaderScannerValues

/-! How much text a scan has in hand: no more than the longest start line, field name or value
with its line end. And a field name left over from another message makes no difference. -/
namespace Resiprocate.Scanner
open StreamMachine

variable {κ : Type*} (H : Headers κ)

/-! ### Text begun -/

/-- The states in which no text has begun. -/
def State.between : State → Bool
  | .msgStart | .halfLineBreakAtMsgStart | .halfLineBreakAfterStatusLine
  | .afterLineBreakAfterStatusLine | .scanWhitespaceAfterFieldName _ | .scanWhitespaceOrValue _
  | .halfLineBreakInWhitespaceBeforeValue _ | .afterLineBreakInWhitespaceBeforeValue _ => true
  | _ => false

/-- What the table says of the states in which no text has begun. -/
theorem table_between : ∀ (s : State) (k : CharCategory),
    ((stateMachine s k).action = .none →
      ((stateMachine s k).nextState.between = true → s.between = true) ∧
      ((stateMachine s k).nextState = .halfLineBreakAfterLineBreak → s.between = true)) ∧
    ((stateMachine s k).action = .startText ∨ (stateMachine s k).action = .beyondEmptyValue →
      s.between = true ∧ (stateMachine s k).nextState.between = false) ∧
    ((stateMachine s k).action = .termValueAfterLineBreak →
      (stateMachine s k).nextState.between = false) := by
  intro s k
  refine ⟨?_, ?_, ?_⟩ <;> revert s k <;> decide +kernel

section Table
variable (s : State) (k : CharCategory)

theorem table_between_none (h : (stateMachine s k).action = .none) :
    ((stateMachine s k).nextState.between = true → s.between = true) ∧
    ((stateMachine s k).nextState = .halfLineBreakAfterLineBreak → s.between = true) :=
  (table_between s k).1 h

/-- Texts start where none has begun, and the text that starts is not yet over. -/
theorem table_between_startText (h : (stateMachine s k).action = .startText ∨
      (stateMachine s k).action = .beyondEmptyValue) :
    s.between = true ∧ (stateMachine s k).nextState.between = false :=
  (table_between s k).2.1 h

theorem table_between_termValueAfterLineBreak
    (h : (stateMachine s k).action = .termValueAfterLineBreak) :
    (stateMachine s k).nextState.between = false :=
  (table_between s k).2.2 h

theorem table_endHeader (h : (stateMachine s k).action = .endHeader) :
    s = .halfLineBreakAfterLineBreak := by
  revert s k
  decide +kernel

theorem table_multi_termStatusLine (h : (stateMachine s k).action = .termStatusLine) :
    s.multi? = none := by
  revert s k
  decide +kernel

end Table

/-- Text is in hand only where it has begun; the CR of the empty line may stand alone. -/
structure Scan.Texts (m : Scan κ) : Prop where
  between : m.state.between = true → m.text = none
  last : m.state = .halfLineBreakAfterLineBreak → m.tail.length ≤ 1

namespace Scan.Texts
variable {H} {m : Scan κ}

theorem of_none (h : m.text = none) : m.Texts :=
  ⟨fun _ => h, fun _ => by simp [Scan.tail, h]⟩

theorem tail_eq (hm : m.Texts) (h : m.state.between = true) : m.tail = [] := by
  simp [Scan.tail, hm.between h]

/-- A text of one character in a state in which it has begun. -/
theorem of_singleton {c : UInt8} (htext : m.text = some [c]) (h : m.state.between = false) :
    m.Texts :=
  ⟨by simp [h], fun _ => by simp [Scan.tail, htext]⟩

theorem step (hm : m.Texts) (c : UInt8) {m' : Scan κ} (h : (Scan.step H m c).2 = .inl m') :
    m'.Texts := by
  simp only [Scan.step, transition_eq] at h
  cases haction : (stateMachine m.state (category c)).action with
  | none =>
    obtain ⟨hbetween, hlast⟩ := table_between_none m.state (category c) haction
    simp only [haction, Sum.inl.injEq] at h
    subst h
    refine ⟨fun h => ?_, fun h => ?_⟩
    · simp [extend, hm.between (hbetween h)]
    · simp [extend, tail, hm.between (hlast h)]
  | termStatusLine | termFieldName =>
    simp only [haction, Sum.inl.injEq] at h
    subst h
    exact of_none rfl
  | beyondEmptyValue =>
    simp only [haction, addHeader, Sum.inl.injEq] at h
    subst h
    exact of_singleton rfl (table_between_startText _ _ (.inr haction)).2
  | termValueAfterLineBreak =>
    simp only [haction, addHeader, Sum.inl.injEq] at h
    subst h
    exact of_singleton rfl (table_between_termValueAfterLineBreak _ _ haction)
  | termValue =>
    simp only [haction, addHeader, Sum.inl.injEq] at h
    subst h
    exact of_none rfl
  | startText =>
    simp only [haction, Sum.inl.injEq] at h
    subst h
    exact of_singleton rfl (table_between_startText _ _ (.inl haction)).2
  | endHeader | chunkTermSentinel | error => simp [haction] at h

end Scan.Texts

/-! ### Texts of a bounded size -/

/-- Start line, field name, and value with its line end take at most `size` bytes. -/
def Event.Fits (size : ℕ) : Event κ → Prop
  | .setStartLine text => text.length ≤ size
  | .addHeader _ name value => name.length ≤ size ∧ value.length + 2 ≤ size

/-- The text begun, and the field name of the value to come, take at most `size` bytes. -/
structure Scan.Fits (size : ℕ) (m : Scan κ) : Prop where
  text : m.tail.length ≤ size
  name : m.state.multi? ≠ none → m.fieldName.length ≤ size

/-- The scan fits because what it comes to fits: a text only grows until it is handed on. -/
theorem Scan.Texts.fits_of_step {H : Headers κ} {m : Scan κ} (hm : m.Texts) {size : ℕ}
    (hsize : 0 < size) {c : UInt8} (hevents : ∀ e ∈ (Scan.step H m c).1, e.Fits size)
    (hnext : ∀ m', (Scan.step H m c).2 = .inl m' → m'.Fits size)
    (hsound : ∀ m', (Scan.step H m c).2 ≠ .inr (m', false)) : m.Fits size := by
  simp only [Scan.step, transition_eq] at hevents hnext hsound
  cases haction : (stateMachine m.state (category c)).action with
  | none =>
    simp only [haction] at hnext
    obtain ⟨htext, hname⟩ := hnext _ rfl
    have hmulti := (table_none m.state (category c) haction).1
    refine ⟨?_, fun h => hname (by simpa [extend, hmulti] using h)⟩
    cases ht : m.text with
    | none => simp [tail, ht]
    | some t =>
      simp only [tail, extend, ht, Option.map_some, Option.getD_some, List.length_append] at htext
      simp only [tail, ht, Option.getD_some]
      omega
  | termStatusLine =>
    simp only [haction, List.mem_singleton, forall_eq] at hevents
    exact ⟨hevents, fun h => absurd (table_multi_termStatusLine _ _ haction) h⟩
  | termFieldName =>
    simp only [haction] at hnext
    obtain ⟨hs, h₁, h₂, -⟩ := table_termFieldName m.state (category c) haction
    obtain ⟨-, hname⟩ := hnext _ rfl
    refine ⟨hname ?_, by simp [hs, State.multi?]⟩
    dsimp only
    split
    · simp [h₂]
    · simp [h₁]
  | beyondEmptyValue =>
    simp only [haction, addHeader, List.mem_singleton, forall_eq] at hevents
    have hnone := hm.tail_eq (table_between_startText _ _ (.inr haction)).1
    exact ⟨by simp [hnone], fun _ => hevents.1⟩
  | termValueAfterLineBreak =>
    simp only [haction, addHeader, List.mem_singleton, forall_eq] at hevents
    have hvalue := hevents.2
    rw [List.length_take] at hvalue
    refine ⟨?_, fun _ => hevents.1⟩
    unfold tail
    omega
  | termValue =>
    simp only [haction, addHeader, List.mem_singleton, forall_eq] at hevents
    exact ⟨(Nat.le_add_right _ 2).trans hevents.2, fun _ => hevents.1⟩
  | startText =>
    simp only [haction] at hnext
    obtain ⟨-, hname⟩ := hnext _ rfl
    have hmulti := (table_startText m.state (category c) haction).1
    have hnone := hm.tail_eq (table_between_startText _ _ (.inl haction)).1
    exact ⟨by simp [hnone], fun h => hname (by simpa [hmulti] using h)⟩
  | endHeader =>
    have hs := table_endHeader _ _ haction
    exact ⟨(hm.last hs).trans hsize, by simp [hs, State.multi?]⟩
  | chunkTermSentinel | error => simp [haction] at hsound

/-- A scan on the way to the end of a header fits if all that it will still hand on does. -/
theorem Scan.Texts.fits_of_run {H : Headers κ} {m m' : Scan κ} (hm : m.Texts) {size : ℕ}
    (hsize : 0 < size) {data rest : Bytes} {events : List (Event κ)}
    (hrun : run (Scan.step H) m data = (events, .inr ((m', true), rest)))
    (hevents : ∀ e ∈ events, e.Fits size) : m.Fits size := by
  induction data generalizing m events with
  | nil => cases hrun
  | cons c data ih =>
    rw [run_cons] at hrun
    have hback := hm.fits_of_step (H := H) hsize (c := c)
    have hnext : ∀ m', (Scan.step H m c).2 = .inl m' → m'.Texts := fun m' => hm.step c
    generalize Scan.step H m c = r at hrun hback hnext
    obtain ⟨out, m₁ | ⟨m₁, ended⟩⟩ := r
    · obtain ⟨rfl, hrest⟩ : events = out ++ (run (Scan.step H) m₁ data).1 ∧
          (run (Scan.step H) m₁ data).2 = .inr ((m', true), rest) :=
        ⟨(congrArg Prod.fst hrun).symm, (congrArg Prod.snd hrun :)⟩
      have hm₁ := ih (hnext m₁ rfl) (Prod.ext rfl hrest)
        fun e he => hevents e (List.mem_append_right _ he)
      refine hback (fun e he => hevents e (List.mem_append_left _ he)) ?_ (by simp)
      rintro _ ⟨⟩
      exact hm₁
    · cases hrun
      exact hback hevents (by simp) (by simp)

/-- The header count never goes down. -/
theorem Scan.numHeaders_step (m : Scan κ) (c : UInt8) :
    m.numHeaders ≤ (Sum.elim id Prod.fst (Scan.step H m c).2).numHeaders := by
  simp only [Scan.step]
  cases (transition m.state c).action <;> simp [addHeader, extend]

theorem Scan.numHeaders_run {m : Scan κ} {data rest : Bytes} {events : List (Event κ)}
    {m' : Scan κ} {ended : Bool}
    (h : run (Scan.step H) m data = (events, .inr ((m', ended), rest))) :
    m.numHeaders ≤ m'.numHeaders := by
  induction data generalizing m events with
  | nil => cases h
  | cons c data ih =>
    have hstep := m.numHeaders_step H c
    rw [run_cons] at h
    generalize Scan.step H m c = r at h hstep
    obtain ⟨out, m₁ | ⟨m₁, ended₁⟩⟩ := r
    · exact hstep.trans (ih (Prod.ext rfl (congrArg Prod.snd h :)))
    · cases h
      exact hstep

/-! ### Field names of other messages -/

/-- Scans that differ at most in a field name that will not be used. -/
structure Scan.Alike (m m' : Scan κ) : Prop where
  state : m.state = m'.state
  text : m.text = m'.text
  numHeaders : m.numHeaders = m'.numHeaders
  field : m.state.multi? ≠ none → m.fieldName = m'.fieldName ∧ m.fieldKind = m'.fieldKind

theorem Scan.Alike.step {m m' : Scan κ} (h : m.Alike m') (c : UInt8) :
    (Scan.step H m c).1 = (Scan.step H m' c).1 ∧
      Sum.LiftRel Scan.Alike (fun x y => x.1.numHeaders = y.1.numHeaders ∧ x.2 = y.2)
        (Scan.step H m c).2 (Scan.step H m' c).2 := by
  obtain ⟨hstate, htext, hnum, hfield⟩ := h
  simp only [Scan.step, transition_eq, ← hstate, ← htext]
  cases haction : (stateMachine m.state (category c)).action with
  | none =>
    have hmulti := (table_none m.state (category c) haction).1
    refine ⟨rfl, .inl ⟨rfl, ?_, hnum, fun h => hfield (hmulti ▸ h)⟩⟩
    simp [extend, htext]
  | termStatusLine =>
    have hmulti := (table_termStatusLine m.state (category c) haction).1
    exact ⟨rfl, .inl ⟨rfl, rfl, hnum, fun h => absurd hmulti h⟩⟩
  | termFieldName => exact ⟨rfl, .inl ⟨rfl, rfl, hnum, fun _ => ⟨rfl, rfl⟩⟩⟩
  | beyondEmptyValue =>
    obtain ⟨hsome, hmulti, -⟩ := table_lineBreak m.state (category c) (.inr haction)
    obtain ⟨hname, hkind⟩ := hfield (Option.isSome_iff_ne_none.1 hsome)
    refine ⟨by simp [addHeader, hname, hkind], .inl ⟨rfl, rfl, ?_, fun h => absurd hmulti h⟩⟩
    exact congrArg (· + 1) hnum
  | termValueAfterLineBreak =>
    obtain ⟨hsome, hmulti, -⟩ := table_lineBreak m.state (category c) (.inl haction)
    obtain ⟨hname, hkind⟩ := hfield (Option.isSome_iff_ne_none.1 hsome)
    refine ⟨by simp [addHeader, hname, hkind], .inl ⟨rfl, rfl, ?_, fun h => absurd hmulti h⟩⟩
    exact congrArg (· + 1) hnum
  | termValue =>
    have hsome := (table_termValue m.state (category c) haction).1
    obtain ⟨hname, hkind⟩ := hfield (by simp [hsome])
    refine ⟨by simp [addHeader, hname, hkind], .inl ⟨rfl, rfl, ?_, fun _ => ⟨hname, hkind⟩⟩⟩
    exact congrArg (· + 1) hnum
  | startText =>
    have hmulti := (table_startText m.state (category c) haction).1
    exact ⟨rfl, .inl ⟨rfl, rfl, hnum, fun h => hfield (hmulti ▸ h)⟩⟩
  | endHeader | chunkTermSentinel | error => exact ⟨rfl, .inr ⟨hnum, rfl⟩⟩

/-- Back at the start of a message, with the field name last read still in place. -/
def Scan.restart (m : Scan κ) : Scan κ := { m with state := .msgStart, text := none, numHeaders := 0 }

/-- At the start of a message it does not matter which field name was read last. -/
theorem Scan.alike_restart (m m' : Scan κ) : m.restart.Alike m'.restart :=
  ⟨rfl, rfl, rfl, by simp [restart, State.multi?]⟩

/-- A scan that is left somewhere after one message is left there after any other. -/
theorem Scan.tail_restart {m₁ m : Scan κ} {data : Bytes} {events : List (Event κ)}
    (h : run (Scan.step H) m₁.restart data = (events, .inl m)) (m₀ : Scan κ) :
    ∃ m', run (Scan.step H) m₀.restart data = (events, .inl m') ∧ m'.tail = m.tail := by
  obtain ⟨hout, hend⟩ := run_related (R := Scan.Alike) (fun _ _ c h => h.step H c)
    (alike_restart m₁ m₀) data
  rw [h] at hout hend
  generalize run (Scan.step H) m₀.restart data = r at hout hend
  obtain ⟨out, x⟩ := r
  obtain halike | ⟨⟩ := hend
  cases hout
  exact ⟨_, rfl, by rw [tail, tail, halike.text]⟩

/-- A header that ends when it is scanned after one message ends so after any other. -/
theorem Scan.run_restart {m₀ m : Scan κ} {header rest : Bytes} {events : List (Event κ)}
    (h : run (Scan.step H) m₀.restart header = (events, .inr ((m, true), rest))) (m₁ : Scan κ) :
    ∃ m', run (Scan.step H) m₁.restart header = (events, .inr ((m', true), rest)) ∧
      m'.numHeaders = m.numHeaders := by
  obtain ⟨hout, hend⟩ := run_related (R := Scan.Alike) (fun _ _ c h => h.step H c)
    (alike_restart m₁ m₀) header
  rw [h] at hout hend
  generalize run (Scan.step H) m₁.restart header = r at hout hend
  obtain ⟨out, x⟩ := r
  obtain ⟨⟩ | ⟨⟨hnum, hended⟩, hrest⟩ := hend
  rename_i y
  obtain ⟨⟨m', ended⟩, rest'⟩ := y
  cases hout
  cases hended
  cases hrest
  exact ⟨m', rfl, hnum⟩

/-- A scan that starts on a line break is back where it started. -/
theorem Scan.run_crlf (m : Scan κ) (data : Bytes) :
    run (Scan.step H) m.restart (13 :: 10 :: data) = run (Scan.step H) m.restart data := by
  rfl

end Resiprocate.Scanner
