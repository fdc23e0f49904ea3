import Resiprocate.StreamMachine
import Resiprocate.MsgHeaderScanner

/-! The scanner as a machine that reads one byte at a time and holds the text begun so far.
Where a header is cut into chunks makes no difference to it; `scanChunk` refines it. -/
namespace Resiprocate.Scanner
open StreamMachine

/-! ### The byte machine -/

/-- What a scan has in hand between two bytes: the text begun, if any, ends with the last byte
read. -/
structure Scan (κ : Type*) where
  state : State
  text : Option Bytes
  numHeaders : ℕ
  fieldName : Bytes
  fieldKind : κ

variable {κ : Type*}

namespace Scan

def ofScanner (s : MsgHeaderScanner κ) (text : Option Bytes) : Scan κ :=
  ⟨s.mState, text, s.mNumHeaders, s.mFieldName, s.mFieldKind⟩

/-- Reads on in a text that has begun. -/
def extend (m : Scan κ) (c : UInt8) : Scan κ := { m with text := m.text.map (· ++ [c]) }

def addHeader (m : Scan κ) (value : Bytes) (text : Option Bytes) :
    List (Event κ) × (Scan κ ⊕ Scan κ × Bool) :=
  ([.addHeader m.fieldKind m.fieldName value],
    .inl { m with text := text, numHeaders := m.numHeaders + 1 })

/-- One byte. A scan that stops tells whether the header has ended or is in error. -/
def step (H : Headers κ) : Step (Scan κ) UInt8 (Event κ) (Scan κ × Bool) := fun m c =>
  let t := transition m.state c
  let text := m.text.getD []
  let m := { m with state := t.nextState }
  match t.action with
  | .none => ([], .inl (m.extend c))
  | .termStatusLine => ([.setStartLine text], .inl { m with text := none })
  | .termFieldName =>
    let kind := H.getType text
    ([], .inl { m with
      state := if H.isCommaTokenizing kind then m.state.toMulti else m.state
      text := none, fieldName := text, fieldKind := kind })
  | .beyondEmptyValue => m.addHeader [] (some [c])
  | .termValueAfterLineBreak => m.addHeader (text.take (text.length - 2)) (some [c])
  | .termValue => m.addHeader text none
  | .startText => ([], .inl { m with text := some [c] })
  | .endHeader => ([], .inr (m, true))
  | .chunkTermSentinel | .error => ([], .inr (m, false))

/-- The bytes that have to be presented again. -/
def tail (m : Scan κ) : Bytes := m.text.getD []

end Scan

/-! ### Reading a chunk -/

theorem stateMachine_sentinel (state : State) :
    stateMachine state .chunkTermSentinel = ⟨.chunkTermSentinel, state⟩ := by
  cases state with
  | scanWhitespaceOrValue multi => cases multi <;> rfl
  | scanValue multi => cases multi <;> rfl
  | _ => rfl

/-- The cursor stands where the machine has read the chunk up to `rest`. -/
structure Cursor.Shows (chunk rest : Bytes) (k : Cursor κ) (m : Scan κ) : Prop where
  state : k.localState = m.state
  numHeaders : k.scanner.mNumHeaders = m.numHeaders
  fieldName : k.scanner.mFieldName = m.fieldName
  fieldKind : k.scanner.mFieldKind = m.fieldKind
  suffix : rest <:+ chunk
  start : ∀ start, k.textStart = some start → start < chunk.length - rest.length
  text : m.text = k.textStart.map fun start =>
    (chunk.drop start).take (chunk.length - rest.length - start)

/-- What a scan of a chunk reports of a run of the machine. -/
structure Scanned.Reports (chunk : Bytes) (r : Scanned κ)
    (o : Outcome (Scan κ) UInt8 (Event κ) (Scan κ × Bool)) : Prop where
  events : r.events = o.1
  more : ∀ m, o.2 = .inl m → r.result = .scrNextChunk ∧ r.unprocessed = m.tail.length ∧
    chunk.drop (chunk.length - r.unprocessed) = m.tail ∧
    r.scanner.mPrevScanChunkNumSavedTextChars = m.tail.length ∧ (m.text ≠ some []) ∧
    Scan.ofScanner r.scanner m.text = m
  ended : ∀ m rest, o.2 = .inr ((m, true), rest) →
    r.result = .scrEnd ∧ r.unprocessed = rest.length ∧ r.scanner.mNumHeaders = m.numHeaders ∧
    r.scanner.mFieldName = m.fieldName ∧ r.scanner.mFieldKind = m.fieldKind
  error : ∀ m rest, o.2 = .inr ((m, false), rest) →
    r.result = .scrError ∧ r.unprocessed = rest.length + 1 ∧ r.scanner.mNumHeaders = m.numHeaders

theorem Scanned.Reports.after {chunk : Bytes} {r : Scanned κ}
    {o : Outcome (Scan κ) UInt8 (Event κ) (Scan κ × Bool)} (h : r.Reports chunk o)
    (events : List (Event κ)) : (r.after events).Reports chunk (StreamMachine.after events o) :=
  ⟨by simp [Scanned.after, StreamMachine.after, h.events], h.more, h.ended, h.error⟩

namespace Cursor.Shows
variable {chunk rest : Bytes} {k : Cursor κ} {m : Scan κ}

theorem text_eq {c : UInt8} (h : k.Shows chunk (c :: rest) m) :
    k.text chunk (chunk.length - (rest.length + 1)) = m.text.getD [] := by
  rw [h.text, Cursor.text]
  cases k.textStart <;> simp

/-- The text begun grows by the byte read. -/
theorem text_extend {c : UInt8} (h : k.Shows chunk (c :: rest) m) :
    m.text.map (· ++ [c]) = k.textStart.map fun start =>
      (chunk.drop start).take (chunk.length - rest.length - start) := by
  rw [h.text]
  cases hs : k.textStart with
  | none => rfl
  | some start =>
    have hstart := h.start start hs
    obtain ⟨p, hp⟩ := h.suffix
    have hlen : chunk.length = p.length + rest.length + 1 := by simp [← hp]; omega
    simp only [Option.map_some, Option.some.injEq]
    rw [List.length_cons] at hstart ⊢
    have hp' : start < p.length := by omega
    have h₁ : chunk.length - rest.length - start = (p.length - start) + 1 := by omega
    have h₂ : chunk.length - (rest.length + 1) - start = p.length - start := by omega
    rw [h₁, h₂, ← hp, List.drop_append_of_le_length hp'.le]
    have hdrop : (p.drop start).length = p.length - start := by simp
    rw [← hdrop, List.take_left', List.take_append, List.take_of_length_le (by omega)]
    · simp
    · rfl

/-- The cursor after a byte that leaves the text as it is, or ends it. -/
theorem next {c : UInt8} (h : k.Shows chunk (c :: rest) m) {k' : Cursor κ} {m' : Scan κ}
    (hstate : k'.localState = m'.state) (hnum : k'.scanner.mNumHeaders = m'.numHeaders)
    (hname : k'.scanner.mFieldName = m'.fieldName) (hkind : k'.scanner.mFieldKind = m'.fieldKind)
    (htext : k'.textStart = k.textStart ∧ m'.text = m.text.map (· ++ [c]) ∨
      k'.textStart = none ∧ m'.text = none ∨
      k'.textStart = some (chunk.length - (rest.length + 1)) ∧ m'.text = some [c]) :
    k'.Shows chunk rest m' := by
  have hsuffix : rest <:+ chunk := (List.suffix_cons c rest).trans h.suffix
  have hlen := h.suffix.length_le
  rw [List.length_cons] at hlen
  refine ⟨hstate, hnum, hname, hkind, hsuffix, ?_, ?_⟩
  · intro start hstart
    rcases htext with ⟨hk, -⟩ | ⟨hk, -⟩ | ⟨hk, -⟩
    · have := h.start start (hk ▸ hstart)
      rw [List.length_cons] at this
      omega
    · simp [hk] at hstart
    · rw [hk] at hstart
      cases hstart
      omega
  · rcases htext with ⟨hk, hm⟩ | ⟨hk, hm⟩ | ⟨hk, hm⟩
    · rw [hm, hk, h.text_extend]
    · rw [hm, hk]
      rfl
    · rw [hm, hk]
      obtain ⟨p, hp⟩ := h.suffix
      have hchunk : chunk.length = p.length + (rest.length + 1) := by simp [← hp]
      have h₁ : chunk.length - (rest.length + 1) = p.length := by omega
      have h₂ : chunk.length - rest.length - p.length = 1 := by omega
      rw [h₁, Option.map_some, h₂, ← hp]
      simp

/-- At the end of the chunk the text begun is what has to be presented again. -/
theorem reports_nextChunk (h : k.Shows chunk [] m) :
    (k.nextChunk chunk).Reports chunk ([], .inl m) := by
  refine ⟨rfl, ?_, by simp, by simp⟩
  rintro _ ⟨⟩
  have htext := h.text
  have hstart := h.start
  simp only [Cursor.nextChunk, stateMachine_sentinel, Scan.tail]
  cases hk : k.textStart with
  | none =>
    simp only [hk, Option.map_none] at htext
    refine ⟨trivial, by simp [htext], by simp [htext], by simp [htext], by simp [htext], ?_⟩
    simp [Scan.ofScanner, h.state, h.numHeaders, h.fieldName, h.fieldKind]
  | some start =>
    have hlt := hstart start hk
    simp only [List.length_nil, Nat.sub_zero] at hlt
    have htail : m.text = some (chunk.drop start) := by
      rw [htext, hk]
      simp
    have hdrop : chunk.length - (chunk.length - start) = start := by omega
    refine ⟨trivial, by simp [htail], by simp [htail, hdrop], by simp [htail], ?_, ?_⟩
    · rw [htail]
      intro hnil
      simp only [Option.some.injEq, List.drop_eq_nil_iff] at hnil
      omega
    · simp [Scan.ofScanner, h.state, h.numHeaders, h.fieldName, h.fieldKind]

end Cursor.Shows

/-- The loop of `scanChunk` does what the machine does on the rest of the chunk. -/
theorem scanLoop_reports (H : Headers κ) {chunk rest : Bytes} {k : Cursor κ} {m : Scan κ}
    (h : k.Shows chunk rest m) :
    (scanLoop H chunk rest k).Reports chunk (run (Scan.step H) m rest) := by
  induction rest generalizing k m with
  | nil => exact h.reports_nextChunk
  | cons c rest ih =>
    have hstate := h.state
    have htext := h.text_eq
    simp only [scanLoop, run, Scan.step, hstate]
    cases haction : (transition m.state c).action with
    | none =>
      exact ih (h.next rfl h.numHeaders h.fieldName h.fieldKind (.inl ⟨rfl, rfl⟩))
    | termStatusLine =>
      rw [← htext]
      refine Scanned.Reports.after (ih ?_) _
      exact h.next rfl h.numHeaders h.fieldName h.fieldKind (.inr (.inl ⟨rfl, rfl⟩))
    | termFieldName =>
      simp only [Cursor.termFieldName, ← htext]
      exact ih (h.next rfl h.numHeaders rfl rfl (.inr (.inl ⟨rfl, rfl⟩)))
    | beyondEmptyValue =>
      simp only [Cursor.addHeader, Scan.addHeader, h.fieldName, h.fieldKind]
      refine Scanned.Reports.after (ih ?_) _
      exact h.next rfl (congrArg (· + 1) h.numHeaders) rfl rfl (.inr (.inr ⟨rfl, rfl⟩))
    | termValueAfterLineBreak =>
      simp only [Cursor.addHeader, Scan.addHeader, h.fieldName, h.fieldKind, ← htext]
      refine Scanned.Reports.after (ih ?_) _
      exact h.next rfl (congrArg (· + 1) h.numHeaders) rfl rfl (.inr (.inr ⟨rfl, rfl⟩))
    | termValue =>
      simp only [Cursor.addHeader, Scan.addHeader, h.fieldName, h.fieldKind, ← htext]
      refine Scanned.Reports.after (ih ?_) _
      exact h.next rfl (congrArg (· + 1) h.numHeaders) rfl rfl (.inr (.inl ⟨rfl, rfl⟩))
    | startText =>
      exact ih (h.next rfl h.numHeaders h.fieldName h.fieldKind (.inr (.inr ⟨rfl, rfl⟩)))
    | endHeader =>
      refine ⟨rfl, by simp, ?_, by simp⟩
      rintro _ _ ⟨⟩
      exact ⟨rfl, rfl, h.numHeaders, h.fieldName, h.fieldKind⟩
    | chunkTermSentinel | error =>
      refine ⟨rfl, by simp, by simp, ?_⟩
      rintro _ _ ⟨⟩
      exact ⟨rfl, rfl, h.numHeaders⟩

/-! ### Chunk by chunk -/

namespace MsgHeaderScanner

/-- The members hold the machine between two chunks. -/
structure Holds (s : MsgHeaderScanner κ) (m : Scan κ) : Prop where
  scan : Scan.ofScanner s m.text = m
  saved : s.mPrevScanChunkNumSavedTextChars = m.tail.length
  text : m.text ≠ some []

theorem scanChunk_reports (H : Headers κ) {s : MsgHeaderScanner κ} {m : Scan κ} (h : s.Holds m)
    (c : Bytes) : (s.scanChunk H (m.tail ++ c)).Reports (m.tail ++ c) (run (Scan.step H) m c) := by
  have hdrop : (m.tail ++ c).drop s.mPrevScanChunkNumSavedTextChars = c := by
    rw [h.saved, List.drop_left]
  simp only [scanChunk, hdrop]
  apply scanLoop_reports
  have hm := h.scan
  refine ⟨congrArg Scan.state hm, congrArg Scan.numHeaders hm, congrArg Scan.fieldName hm,
    congrArg Scan.fieldKind hm, List.suffix_append _ _, ?_, ?_⟩
  · intro start hstart
    split at hstart
    · cases hstart
    · cases hstart
      rw [h.saved] at *
      simp
      omega
  · rw [h.saved]
    cases htext : m.text with
    | none => simp [Scan.tail, htext]
    | some t =>
      have hne : t ≠ [] := fun ht => h.text (by rw [htext, ht])
      have htail : m.tail = t := by simp [Scan.tail, htext]
      simp [htail, hne]

/-- What the caller of a scan sees of it. -/
structure Seen (κ : Type*) where
  events : List (Event κ)
  numHeaders : ℕ
  result : ScanChunkResult
  unconsumed : ℕ

/-- The outcome of a run of the machine as the caller sees it. -/
def seenOf (o : Outcome (Scan κ) UInt8 (Event κ) (Scan κ × Bool)) : Seen κ :=
  match o with
  | (out, .inl m) => ⟨out, m.numHeaders, .scrNextChunk, m.tail.length⟩
  | (out, .inr ((m, true), rest)) => ⟨out, m.numHeaders, .scrEnd, rest.length⟩
  | (out, .inr ((m, false), rest)) => ⟨out, m.numHeaders, .scrError, rest.length + 1⟩

end MsgHeaderScanner

def Scanned.seen (r : Scanned κ) : MsgHeaderScanner.Seen κ :=
  ⟨r.events, r.scanner.mNumHeaders, r.result, r.unprocessed⟩

open MsgHeaderScanner

theorem Scanned.seen_after (events : List (Event κ)) (r : Scanned κ) :
    (r.after events).seen = { r.seen with events := events ++ r.seen.events } := rfl

theorem seenOf_after (events : List (Event κ))
    (o : Outcome (Scan κ) UInt8 (Event κ) (Scan κ × Bool)) :
    seenOf (StreamMachine.after events o) =
      { seenOf o with events := events ++ (seenOf o).events } := by
  obtain ⟨out, m | ⟨⟨m, _ | _⟩, rest⟩⟩ := o <;> rfl

theorem MsgHeaderScanner.seenOf_events (o : Outcome (Scan κ) UInt8 (Event κ) (Scan κ × Bool)) :
    (seenOf o).events = o.1 := by
  obtain ⟨out, m | ⟨⟨m, _ | _⟩, rest⟩⟩ := o <;> rfl

theorem Scanned.Reports.seen {chunk : Bytes} {r : Scanned κ}
    {o : Outcome (Scan κ) UInt8 (Event κ) (Scan κ × Bool)} (h : r.Reports chunk o) :
    r.seen = seenOf o := by
  obtain ⟨out, m | ⟨⟨m, ended⟩, rest⟩⟩ := o
  · obtain ⟨hresult, hlen, -, -, -, hm⟩ := h.more m rfl
    simp [Scanned.seen, seenOf, h.events, hresult, hlen, ← congrArg Scan.numHeaders hm,
      Scan.ofScanner]
  · cases ended with
    | true =>
      obtain ⟨hresult, hlen, hnum, -⟩ := h.ended m rest rfl
      simp [Scanned.seen, seenOf, h.events, hresult, hlen, hnum]
    | false =>
      obtain ⟨hresult, hlen, hnum⟩ := h.error m rest rfl
      simp [Scanned.seen, seenOf, h.events, hresult, hlen, hnum]

namespace MsgHeaderScanner

/-- Scanning chunk by chunk is one run of the machine over all of them. -/
theorem scanChunks_seen (H : Headers κ) {s : MsgHeaderScanner κ} {m : Scan κ} (h : s.Holds m)
    (chunks : List Bytes) :
    (scanChunks H s m.tail chunks).seen = seenOf (run (Scan.step H) m chunks.flatten) := by
  induction chunks generalizing s m with
  | nil =>
    simp [scanChunks, Scanned.seen, seenOf, run, ← congrArg Scan.numHeaders h.scan, Scan.ofScanner]
  | cons c cs ih =>
    have hr := scanChunk_reports H h c
    rw [List.flatten_cons, run_append]
    simp only [scanChunks]
    generalize s.scanChunk H (m.tail ++ c) = r at hr
    generalize run (Scan.step H) m c = o at hr
    obtain ⟨out, m' | ⟨⟨m', ended⟩, rest⟩⟩ := o
    · -- the chunk is consumed and its tail goes in front of the next one
      obtain ⟨hresult, -, htail, hsaved, hne, hm⟩ := hr.more m' rfl
      simp only [hresult, htail, resume]
      rw [Scanned.seen_after, ih ⟨hm, hsaved, hne⟩, seenOf_after, hr.events]
    · cases ended with
      | true =>
        obtain ⟨hresult, hlen, hnum, -⟩ := hr.ended m' rest rfl
        simp [hresult, Scanned.seen, seenOf, resume, hr.events, hlen, hnum]
      | false =>
        obtain ⟨hresult, hlen, hnum⟩ := hr.error m' rest rfl
        simp [hresult, Scanned.seen, seenOf, resume, hr.events, hlen, hnum]
        omega

/-- A scanner with no text begun. -/
theorem holds_of_unsaved {s : MsgHeaderScanner κ} (h : s.mPrevScanChunkNumSavedTextChars = 0) :
    s.Holds (Scan.ofScanner s none) :=
  ⟨rfl, h, nofun⟩

theorem scanChunk_seen (H : Headers κ) {s : MsgHeaderScanner κ}
    (h : s.mPrevScanChunkNumSavedTextChars = 0) (chunk : Bytes) :
    (s.scanChunk H chunk).seen = seenOf (run (Scan.step H) (Scan.ofScanner s none) chunk) :=
  (scanChunk_reports H (holds_of_unsaved h) chunk).seen

/-- However a header is cut into chunks, the calls made on the message, the header count, the
result and the number of bytes left over are those of one scan of the whole. -/
theorem scanChunks_eq_scanChunk (H : Headers κ) (s : MsgHeaderScanner κ) (chunks : List Bytes) :
    (scanChunks H s.prepareForMessage [] chunks).seen =
      (s.prepareForMessage.scanChunk H chunks.flatten).seen ∧
    ∀ hasStartLine, (scanChunks H (s.prepareForFrag hasStartLine) [] chunks).seen =
      ((s.prepareForFrag hasStartLine).scanChunk H chunks.flatten).seen := by
  have hunsaved : ∀ s : MsgHeaderScanner κ, s.mPrevScanChunkNumSavedTextChars = 0 →
      (scanChunks H s [] chunks).seen = (s.scanChunk H chunks.flatten).seen := by
    intro s hs
    rw [scanChunk_seen H hs]
    exact scanChunks_seen H (holds_of_unsaved hs) chunks
  exact ⟨hunsaved _ rfl, fun _ => hunsaved _ rfl⟩

end MsgHeaderScanner

end Resiprocate.Scanner
