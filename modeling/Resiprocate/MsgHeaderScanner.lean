import Mathlib

/-! The message header scanner: character categories, the transition table and `scanChunk`.
The text property masks, which nothing reads, are left out. -/
namespace Resiprocate.Scanner

abbrev Bytes := List UInt8

/-! ### Character categories -/

inductive CharCategory
  | chunkTermSentinel | other | fieldName | whitespace | colon | doubleQuotationMark
  | leftAngleBracket | rightAngleBracket | backslash | comma | carriageReturn | lineFeed
  deriving DecidableEq, Repr

/-- Letters, digits and the characters ``-.!%*_+`'~``. -/
def isFieldNameChar (c : UInt8) : Bool :=
  decide (97 ≤ c ∧ c ≤ 122 ∨ 65 ≤ c ∧ c ≤ 90 ∨ 48 ≤ c ∧ c ≤ 57 ∨
    c ∈ [45, 46, 33, 37, 42, 95, 43, 96, 39, 126])

/-- `charInfoArray[c].category`. -/
def charCategory (c : UInt8) : CharCategory :=
  if c = 0 then .chunkTermSentinel
  else if c = 32 ∨ c = 9 then .whitespace
  else if c = 58 then .colon
  else if c = 34 then .doubleQuotationMark
  else if c = 60 then .leftAngleBracket
  else if c = 62 then .rightAngleBracket
  else if c = 92 then .backslash
  else if c = 44 then .comma
  else if c = 13 then .carriageReturn
  else if c = 10 then .lineFeed
  else if isFieldNameChar c then .fieldName
  else .other

/-! ### The state machine -/

/-- The source's states. Where it has a state for single values and one for multi-values
(`…1…` and `…N…`), `multi` tells them apart. -/
inductive State
  | msgStart
  | halfLineBreakAtMsgStart
  | scanStatusLine
  | halfLineBreakAfterStatusLine
  | afterLineBreakAfterStatusLine
  | scanFieldName
  | scanWhitespaceAfterFieldName (multi : Bool)
  | scanWhitespaceOrValue (multi : Bool)
  | halfLineBreakInWhitespaceBeforeValue (multi : Bool)
  | afterLineBreakInWhitespaceBeforeValue (multi : Bool)
  | scanValue (multi : Bool)
  | halfLineBreakInValue (multi : Bool)
  | afterLineBreakInValue (multi : Bool)
  | scanNValueInQuotes
  | afterEscCharInQuotesInNValue
  | halfLineBreakInQuotesInNValue
  | afterLineBreakInQuotesInNValue
  | scanNValueInAngles
  | halfLineBreakInAnglesInNValue
  | afterLineBreakInAnglesInNValue
  | halfLineBreakAfterLineBreak
  deriving DecidableEq, Repr

/-- `localState += deltaOfNStateFrom1State`, which is only applied to single-value states. -/
def State.toMulti : State → State
  | .scanWhitespaceAfterFieldName _ => .scanWhitespaceAfterFieldName true
  | .scanWhitespaceOrValue _ => .scanWhitespaceOrValue true
  | .halfLineBreakInWhitespaceBeforeValue _ => .halfLineBreakInWhitespaceBeforeValue true
  | .afterLineBreakInWhitespaceBeforeValue _ => .afterLineBreakInWhitespaceBeforeValue true
  | .scanValue _ => .scanValue true
  | .halfLineBreakInValue _ => .halfLineBreakInValue true
  | .afterLineBreakInValue _ => .afterLineBreakInValue true
  | s => s

inductive TransitionAction
  | none | termStatusLine | termFieldName | beyondEmptyValue | termValueAfterLineBreak
  | termValue | startText | endHeader | chunkTermSentinel | error
  deriving DecidableEq, Repr

structure TransitionInfo where
  action : TransitionAction
  nextState : State
  deriving DecidableEq, Repr

/-- `specDefaultTransition`: line breaks are errors unless said otherwise, and the sentinel
leaves the state alone. -/
def defaultTransition (state : State) (action : TransitionAction) (nextState : State) :
    CharCategory → TransitionInfo
  | .carriageReturn | .lineFeed => ⟨.error, state⟩
  | .chunkTermSentinel => ⟨.chunkTermSentinel, state⟩
  | _ => ⟨action, nextState⟩

/-- `specHalfLineBreakState`. -/
def halfLineBreak (state afterLineBreak : State) : CharCategory → TransitionInfo
  | .lineFeed => ⟨.none, afterLineBreak⟩
  | c => defaultTransition state .error state c

/-- The table that `initStateMachine` and `specXValueStates` fill in. -/
def stateMachine : State → CharCategory → TransitionInfo
  | .msgStart, .carriageReturn => ⟨.none, .halfLineBreakAtMsgStart⟩
  | .msgStart, c => defaultTransition .msgStart .startText .scanStatusLine c
  | .halfLineBreakAtMsgStart, c => halfLineBreak .halfLineBreakAtMsgStart .msgStart c
  | .scanStatusLine, .carriageReturn => ⟨.termStatusLine, .halfLineBreakAfterStatusLine⟩
  | .scanStatusLine, c => defaultTransition .scanStatusLine .none .scanStatusLine c
  | .halfLineBreakAfterStatusLine, c =>
    halfLineBreak .halfLineBreakAfterStatusLine .afterLineBreakAfterStatusLine c
  | .afterLineBreakAfterStatusLine, .fieldName => ⟨.startText, .scanFieldName⟩
  | .afterLineBreakAfterStatusLine, .carriageReturn => ⟨.none, .halfLineBreakAfterLineBreak⟩
  | .afterLineBreakAfterStatusLine, c =>
    defaultTransition .afterLineBreakAfterStatusLine .error .afterLineBreakAfterStatusLine c
  | .scanFieldName, .fieldName => ⟨.none, .scanFieldName⟩
  | .scanFieldName, .whitespace => ⟨.termFieldName, .scanWhitespaceAfterFieldName false⟩
  | .scanFieldName, .colon => ⟨.termFieldName, .scanWhitespaceOrValue false⟩
  | .scanFieldName, c => defaultTransition .scanFieldName .error .scanFieldName c
  | .scanWhitespaceAfterFieldName x, .whitespace => ⟨.none, .scanWhitespaceAfterFieldName x⟩
  | .scanWhitespaceAfterFieldName x, .colon => ⟨.none, .scanWhitespaceOrValue x⟩
  | .scanWhitespaceAfterFieldName x, c =>
    defaultTransition (.scanWhitespaceAfterFieldName x) .error (.scanWhitespaceAfterFieldName x) c
  | .scanWhitespaceOrValue x, .whitespace => ⟨.none, .scanWhitespaceOrValue x⟩
  | .scanWhitespaceOrValue true, .comma => ⟨.error, .scanWhitespaceOrValue true⟩
  | .scanWhitespaceOrValue true, .leftAngleBracket => ⟨.startText, .scanNValueInAngles⟩
  | .scanWhitespaceOrValue true, .doubleQuotationMark => ⟨.startText, .scanNValueInQuotes⟩
  | .scanWhitespaceOrValue x, .carriageReturn => ⟨.none, .halfLineBreakInWhitespaceBeforeValue x⟩
  | .scanWhitespaceOrValue x, c =>
    defaultTransition (.scanWhitespaceOrValue x) .startText (.scanValue x) c
  | .halfLineBreakInWhitespaceBeforeValue x, c =>
    halfLineBreak (.halfLineBreakInWhitespaceBeforeValue x)
      (.afterLineBreakInWhitespaceBeforeValue x) c
  | .afterLineBreakInWhitespaceBeforeValue _, .fieldName => ⟨.beyondEmptyValue, .scanFieldName⟩
  | .afterLineBreakInWhitespaceBeforeValue x, .whitespace => ⟨.none, .scanWhitespaceOrValue x⟩
  | .afterLineBreakInWhitespaceBeforeValue _, .carriageReturn =>
    ⟨.beyondEmptyValue, .halfLineBreakAfterLineBreak⟩
  | .afterLineBreakInWhitespaceBeforeValue x, c =>
    defaultTransition (.afterLineBreakInWhitespaceBeforeValue x) .error
      (.afterLineBreakInWhitespaceBeforeValue x) c
  | .scanValue true, .comma => ⟨.termValue, .scanWhitespaceOrValue true⟩
  | .scanValue true, .leftAngleBracket => ⟨.none, .scanNValueInAngles⟩
  | .scanValue true, .doubleQuotationMark => ⟨.none, .scanNValueInQuotes⟩
  | .scanValue x, .carriageReturn => ⟨.none, .halfLineBreakInValue x⟩
  | .scanValue x, c => defaultTransition (.scanValue x) .none (.scanValue x) c
  | .halfLineBreakInValue x, c =>
    halfLineBreak (.halfLineBreakInValue x) (.afterLineBreakInValue x) c
  | .afterLineBreakInValue _, .fieldName => ⟨.termValueAfterLineBreak, .scanFieldName⟩
  | .afterLineBreakInValue x, .whitespace => ⟨.none, .scanValue x⟩
  | .afterLineBreakInValue _, .carriageReturn =>
    ⟨.termValueAfterLineBreak, .halfLineBreakAfterLineBreak⟩
  | .afterLineBreakInValue x, c =>
    defaultTransition (.afterLineBreakInValue x) .error (.afterLineBreakInValue x) c
  | .scanNValueInQuotes, .doubleQuotationMark => ⟨.none, .scanValue true⟩
  | .scanNValueInQuotes, .backslash => ⟨.none, .afterEscCharInQuotesInNValue⟩
  | .scanNValueInQuotes, .carriageReturn => ⟨.none, .halfLineBreakInQuotesInNValue⟩
  | .scanNValueInQuotes, c => defaultTransition .scanNValueInQuotes .none .scanNValueInQuotes c
  | .afterEscCharInQuotesInNValue, c =>
    defaultTransition .afterEscCharInQuotesInNValue .none .scanNValueInQuotes c
  | .halfLineBreakInQuotesInNValue, c =>
    halfLineBreak .halfLineBreakInQuotesInNValue .afterLineBreakInQuotesInNValue c
  | .afterLineBreakInQuotesInNValue, .whitespace => ⟨.none, .scanNValueInQuotes⟩
  | .afterLineBreakInQuotesInNValue, c =>
    defaultTransition .afterLineBreakInQuotesInNValue .error .afterLineBreakInQuotesInNValue c
  | .scanNValueInAngles, .rightAngleBracket => ⟨.none, .scanValue true⟩
  | .scanNValueInAngles, .carriageReturn => ⟨.none, .halfLineBreakInAnglesInNValue⟩
  | .scanNValueInAngles, c => defaultTransition .scanNValueInAngles .none .scanNValueInAngles c
  | .halfLineBreakInAnglesInNValue, c =>
    halfLineBreak .halfLineBreakInAnglesInNValue .afterLineBreakInAnglesInNValue c
  | .afterLineBreakInAnglesInNValue, .whitespace => ⟨.none, .scanNValueInAngles⟩
  | .afterLineBreakInAnglesInNValue, c =>
    defaultTransition .afterLineBreakInAnglesInNValue .error .afterLineBreakInAnglesInNValue c
  | .halfLineBreakAfterLineBreak, .lineFeed => ⟨.endHeader, .msgStart⟩
  | .halfLineBreakAfterLineBreak, c => halfLineBreak .halfLineBreakAfterLineBreak .msgStart c

/-- The transition on a character of the chunk. A NUL that is not the sentinel is looked up
again as an ordinary character. -/
def transition (state : State) (c : UInt8) : TransitionInfo :=
  let t := stateMachine state (charCategory c)
  if t.action = .chunkTermSentinel then stateMachine t.nextState .other else t

/-! ### `scanChunk` -/

/-- The kinds of header fields, as `Headers::getType` and `Headers::isCommaTokenizing` have
them. -/
structure Headers (κ : Type*) where
  getType : Bytes → κ
  isCommaTokenizing : κ → Bool

/-- The calls the scanner makes on its message. -/
inductive Event (κ : Type*)
  | setStartLine (text : Bytes)
  | addHeader (kind : κ) (name value : Bytes)
  deriving DecidableEq

/-- The members of the scanner. -/
structure MsgHeaderScanner (κ : Type*) where
  mState : State
  mPrevScanChunkNumSavedTextChars : ℕ
  mNumHeaders : ℕ
  mFieldName : Bytes
  mFieldKind : κ

inductive ScanChunkResult
  | scrEnd | scrNextChunk | scrError
  deriving DecidableEq, Repr

/-- What `scanChunk` returns and leaves behind. `unprocessed` counts the characters from
`*unprocessedCharPtr` to the end of the chunk. -/
structure Scanned (κ : Type*) where
  result : ScanChunkResult
  unprocessed : ℕ
  scanner : MsgHeaderScanner κ
  events : List (Event κ)

/-- The members and the local variables of `scanChunk`; pointers are offsets into the chunk. -/
structure Cursor (κ : Type*) where
  scanner : MsgHeaderScanner κ
  localState : State
  textStart : Option ℕ

namespace MsgHeaderScanner
variable {κ : Type*}

def prepareForMessage (s : MsgHeaderScanner κ) : MsgHeaderScanner κ :=
  { s with mState := .msgStart, mPrevScanChunkNumSavedTextChars := 0, mNumHeaders := 0 }

def prepareForFrag (s : MsgHeaderScanner κ) (hasStartLine : Bool) : MsgHeaderScanner κ :=
  { s with
    mState := if hasStartLine then .msgStart else .afterLineBreakAfterStatusLine
    mPrevScanChunkNumSavedTextChars := 0
    mNumHeaders := 0 }

end MsgHeaderScanner

namespace Cursor
variable {κ : Type*} (H : Headers κ) (chunk : Bytes)

/-- The characters from `textStartCharPtr` up to `charPtr`. -/
def text (k : Cursor κ) (charPtr : ℕ) : Bytes :=
  match k.textStart with
  | some start => (chunk.drop start).take (charPtr - start)
  | none => []

/-- `processMsgHeaderFieldNameAndValue`, and the header is counted. -/
def addHeader (k : Cursor κ) (value : Bytes) : Event κ × Cursor κ :=
  (.addHeader k.scanner.mFieldKind k.scanner.mFieldName value,
    { k with scanner := { k.scanner with mNumHeaders := k.scanner.mNumHeaders + 1 } })

def termFieldName (k : Cursor κ) (charPtr : ℕ) : Cursor κ :=
  let name := k.text chunk charPtr
  let kind := H.getType name
  { scanner := { k.scanner with mFieldName := name, mFieldKind := kind }
    localState := if H.isCommaTokenizing kind then k.localState.toMulti else k.localState
    textStart := none }

/-- The chunk is consumed: the state and the text begun are kept for the next one. -/
def nextChunk (k : Cursor κ) : Scanned κ :=
  let saved := match k.textStart with
    | some start => chunk.length - start
    | none => 0
  { result := .scrNextChunk
    unprocessed := saved
    scanner := { k.scanner with
      mState := (stateMachine k.localState .chunkTermSentinel).nextState
      mPrevScanChunkNumSavedTextChars := saved }
    events := [] }

end Cursor

/-- Puts events in front of those of a scan. -/
def Scanned.after {κ : Type*} (events : List (Event κ)) (r : Scanned κ) : Scanned κ :=
  { r with events := events ++ r.events }

/-- The loop over the rest of the chunk. When nothing is left, the sentinel is read. -/
def scanLoop {κ : Type*} (H : Headers κ) (chunk : Bytes) : Bytes → Cursor κ → Scanned κ
  | [], k => k.nextChunk chunk
  | c :: rest, k =>
    let charPtr := chunk.length - (rest.length + 1)
    let t := transition k.localState c
    let k := { k with localState := t.nextState }
    match t.action with
    | .none => scanLoop H chunk rest k
    | .termStatusLine =>
      (scanLoop H chunk rest { k with textStart := none }).after
        [.setStartLine (k.text chunk charPtr)]
    | .termFieldName => scanLoop H chunk rest (k.termFieldName H chunk charPtr)
    | .beyondEmptyValue =>
      let (e, k) := k.addHeader []
      (scanLoop H chunk rest { k with textStart := some charPtr }).after [e]
    | .termValueAfterLineBreak =>
      let value := k.text chunk charPtr
      let (e, k) := k.addHeader (value.take (value.length - 2))
      (scanLoop H chunk rest { k with textStart := some charPtr }).after [e]
    | .termValue =>
      let (e, k) := k.addHeader (k.text chunk charPtr)
      (scanLoop H chunk rest { k with textStart := none }).after [e]
    | .startText => scanLoop H chunk rest { k with textStart := some charPtr }
    | .endHeader => ⟨.scrEnd, rest.length, k.scanner, []⟩
    | .chunkTermSentinel | .error => ⟨.scrError, rest.length + 1, k.scanner, []⟩

namespace MsgHeaderScanner
variable {κ : Type*}

/-- `scanChunk`. The text saved from the chunk before stands at the head of this one. -/
def scanChunk (H : Headers κ) (s : MsgHeaderScanner κ) (chunk : Bytes) : Scanned κ :=
  let saved := s.mPrevScanChunkNumSavedTextChars
  scanLoop H chunk (chunk.drop saved) ⟨s, s.mState, if saved = 0 then none else some 0⟩

/-- Scans a header chunk by chunk; the unprocessed tail of each chunk is put in front of the
next one, and `unprocessed` counts to the end of the last. -/
def scanChunks (H : Headers κ) : MsgHeaderScanner κ → Bytes → List Bytes → Scanned κ
  | s, tail, [] => ⟨.scrNextChunk, tail.length, s, []⟩
  | s, tail, c :: cs =>
    let chunk := tail ++ c
    let r := s.scanChunk H chunk
    match r.result with
    | .scrNextChunk =>
      (scanChunks H r.scanner (chunk.drop (chunk.length - r.unprocessed)) cs).after r.events
    | _ => { r with unprocessed := r.unprocessed + cs.flatten.length }

end MsgHeaderScanner

end Resiprocate.Scanner
