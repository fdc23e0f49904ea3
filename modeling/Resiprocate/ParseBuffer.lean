import Mathlib

/-! `ParseBuffer`: a position in a buffer. Addresses are integers; `memory` is what they hold, also
outside of the buffer, and `reads` keeps the addresses that have been read. -/
namespace Resiprocate.Rutil

abbrev Bytes := List UInt8

structure ParseBuffer where
  memory : ℤ → UInt8
  mBuff : ℤ
  mPosition : ℤ
  mEnd : ℤ
  reads : List ℤ

/-- Operations throw `ParseException` with a message. -/
abbrev Parse := EStateM String ParseBuffer

/-- Bytes as they stand in a message. -/
def quoted (bytes : Bytes) : String := String.ofList (bytes.map fun c => Char.ofNat c.toNat)

/-- The bytes of a literal. -/
def literal (s : String) : Bytes := s.toList.map fun c => UInt8.ofNat c.toNat

/-- `tolower`. -/
def toLower (c : UInt8) : UInt8 := if 65 ≤ c && c ≤ 90 then c + 32 else c

/-- `strncasecmp` finds no difference: it ends after a zero that both have. -/
def sameNoCase : Bytes → Bytes → Bool
  | c :: cs, d :: ds => toLower c == toLower d && (c == 0 || sameNoCase cs ds)
  | _, _ => true

def isEqualNoCase (left right : Bytes) : Bool := left.length == right.length && sameNoCase left right

/-- `isdigit`. -/
def isDigit (c : UInt8) : Bool := 48 ≤ c && c ≤ 57

/-- The value of a digit. -/
def digitVal (c : UInt8) : ℕ := (c - 48).toNat

/-- `ParseBuffer::Whitespace`. -/
def isWhitespace (c : UInt8) : Bool := c == 32 || c == 9 || c == 13 || c == 10

namespace ParseBuffer

def eof (pb : ParseBuffer) : Bool := pb.mEnd ≤ pb.mPosition

def bof (pb : ParseBuffer) : Bool := pb.mPosition ≤ pb.mBuff

/-- The buffer holds `text` and nothing has been read. -/
def ofText (text : Bytes) : ParseBuffer where
  memory a := if 0 ≤ a then text.getD a.toNat 0 else 0
  mBuff := 0
  mPosition := 0
  mEnd := text.length
  reads := []

/-- `*a`. -/
def readAt (a : ℤ) : Parse UInt8 :=
  modifyGet fun pb => (pb.memory a, { pb with reads := a :: pb.reads })

/-- `*mPosition`. -/
def peek : Parse UInt8 := do readAt (← get).mPosition

/-- `mPosition += count`. -/
def advance (count : ℤ) : Parse Unit :=
  modify fun pb => { pb with mPosition := pb.mPosition + count }

def position : Parse ℤ := do return (← get).mPosition

def fail {α : Type} (msg : String) : Parse α := throw msg

def assertNotEof : Parse Unit := do if (← get).eof then fail "unexpected eof"

section Loops
variable {σ : Type}

/-- `while (mPosition < mEnd)`; every turn advances, and `fuel` counts the turns. -/
def whileNotEof (body : σ → Parse (ForInStep σ)) : ℕ → σ → Parse σ
  | 0, s => pure s
  | fuel + 1, s => do
    if (← get).eof then pure s
    else match ← body s with
      | .yield s => whileNotEof body fuel s
      | .done s => pure s

/-- `while (mPosition < mEnd)` from where the position is. -/
def untilEof (body : σ → Parse (ForInStep σ)) (s : σ) : Parse σ := do
  let pb ← get
  whileNotEof body (pb.mEnd - pb.mPosition).toNat s

end Loops

/-- Goes on while the byte at the position is one of `test`. -/
def skipWhile (test : UInt8 → Bool) : Parse Unit :=
  untilEof (fun _ => do if test (← peek) then advance 1; return .yield () else return .done ()) ()

/-- `skipChar()`. -/
def skipChar : Parse Unit := do
  if (← get).eof then fail "skipped over eof"
  advance 1

/-- `skipChar(c)`. -/
def skipCharIs (c : UInt8) : Parse Unit := do
  if (← get).eof then fail "skipped over eof"
  if (← peek) ≠ c then fail ("expected '" ++ quoted [c] ++ "'")
  advance 1

/-- The loop of `skipChars` over the characters that are left; `all` is all of them. -/
def skipCharsLoop (all : Bytes) : Bytes → Parse Unit
  | [] => pure ()
  | c :: cs => do
    let bad := fail ("Expected \"" ++ quoted all ++ "\"")
    if (← get).eof then bad
    if c ≠ (← peek) then bad
    advance 1
    skipCharsLoop all cs

/-- `skipChars` of a string. -/
def skipChars (cs : Bytes) : Parse Unit := skipCharsLoop cs cs

/-- `skipChars` of a set. -/
def skipCharsIn (cs : UInt8 → Bool) : Parse Unit := skipWhile cs

def skipNonWhitespace : Parse Unit := do
  assertNotEof
  skipWhile fun c => !isWhitespace c

def skipWhitespace : Parse Unit := skipWhile isWhitespace

inductive LWSState
  | ws | cr | lf
  deriving DecidableEq

/-- A turn of the loop of `skipLWS`. Its switch is on the character after `c`. -/
def skipLWSTurn (state : LWSState) : Parse (ForInStep LWSState) := do
  let c ← peek
  advance 1
  if c = 92 then
    let _ ← peek
    advance 1
  let x ← peek
  advance 1
  if x = 32 ∨ x = 9 then return .yield .ws
  else if x = 13 then return .yield .cr
  else if x = 10 then return .yield (if state = .cr then .lf else .ws)
  else
    advance (if state = .lf then -3 else -1)
    return .done state

def skipLWS : Parse Unit := do let _ ← untilEof skipLWSTurn .ws

/-- Whether the bytes from `a` on are `cs`. -/
def matchFrom : Bytes → ℤ → Parse Bool
  | [], _ => return true
  | c :: cs, a => do if c ≠ (← readAt a) then return false else matchFrom cs (a + 1)

/-- The loop of `skipToChars(const char*)`. -/
def skipToCharsLoop (cs : Bytes) : ℕ → Parse Unit
  | 0 => pure ()
  | fuel + 1 => do
    let pb ← get
    if pb.mPosition < pb.mEnd - cs.length + 1 then
      if ← matchFrom cs pb.mPosition then return
      advance 1
      skipToCharsLoop cs fuel
    else modify fun pb => { pb with mPosition := pb.mEnd }

/-- `skipToChars(const char*)`. -/
def skipToChars (cs : Bytes) : Parse Unit := do
  let pb ← get
  skipToCharsLoop cs ((pb.mEnd - pb.mPosition).toNat + 2)

/-- Whether the bytes from `a` on are `cs`, if the buffer does not end before that is known. -/
def matchInside : Bytes → ℤ → Parse (Option Bool)
  | [], _ => return some true
  | c :: cs, a => do
    if a = (← get).mEnd then return none
    if c ≠ (← readAt a) then return some false else matchInside cs (a + 1)

/-- The loop of `skipToChars(const Data&)`. -/
def skipToDataLoop (sub : Bytes) : ℕ → Parse Unit
  | 0 => pure ()
  | fuel + 1 => do
    match ← matchInside sub (← get).mPosition with
    | none => modify fun pb => { pb with mPosition := pb.mEnd }
    | some true => return
    | some false =>
      advance 1
      skipToDataLoop sub fuel

/-- `skipToChars(const Data&)`. -/
def skipToData (sub : Bytes) : Parse Unit := do
  if sub = [] then
    fail "ParseBuffer::skipToChars() called with an empty string. Don't do this!"
  let pb ← get
  skipToDataLoop sub ((pb.mEnd - pb.mPosition).toNat + 1)

/-- Whether the byte at `a` is a backslash. -/
def backslashAt (a : ℤ) : Parse Bool := do return (← readAt a) == 92

/-- Just after CRLF: it is terminating unless a backslash is before it that has none before it. -/
def terminates : Parse Bool := do
  let pb ← get
  if pb.mPosition - 3 < pb.mBuff then return true
  if !(← backslashAt (pb.mPosition - 3)) then return true
  if pb.mPosition - 4 ≤ pb.mBuff then return false
  backslashAt (pb.mPosition - 4)

/-- A turn of the loop of `skipToTermCRLF`. -/
def skipToTermCRLFTurn : Parse (ForInStep Unit) := do
  skipToData [13, 10]
  advance 2
  let c ← peek
  if c = 32 ∨ c = 9 then return .yield ()
  if ← terminates then
    advance (-2)
    return .done ()
  return .yield ()

def skipToTermCRLF : Parse Unit := untilEof (fun _ => skipToTermCRLFTurn) ()

/-- `memchr` and the branch for its null pointer. -/
def skipToChar (c : UInt8) : Parse Unit := skipWhile fun x => x ≠ c

/-- `oneOf` is membership. -/
def oneOf (cs : Bytes) (c : UInt8) : Bool := cs.contains c

def skipToOneOf (cs : Bytes) : Parse Unit := skipWhile fun x => !oneOf cs x

/-- `skipToOneOf` of two strings. -/
def skipToOneOf₂ (cs₁ cs₂ : Bytes) : Parse Unit := skipWhile fun x => !(oneOf cs₁ x || oneOf cs₂ x)

/-- `skipToOneOf` of a set. -/
def skipToOneIn (cs : UInt8 → Bool) : Parse Unit := skipWhile fun x => !cs x

def skipToEndQuote (quote : UInt8) : Parse ℤ := do
  let found ← untilEof (fun _ => do
    let c ← peek
    if c = 92 then advance 2; return .yield false
    else if c = quote then return .done true
    else advance 1; return .yield false) false
  if found then position else fail ("Missing '" ++ quoted [quote] ++ "'")

def skipN (count : ℤ) : Parse Unit := do
  advance count
  let pb ← get
  if pb.mEnd < pb.mPosition then fail "skipped eof"

/-- `skipBackChar()`. -/
def skipBackChar : Parse ℤ := do
  if (← get).bof then fail "backed over beginning of buffer"
  advance (-1)
  position

/-- `skipBackChar(c)`. -/
def skipBackCharIs (c : UInt8) : Parse ℤ := do
  if (← get).bof then fail "backed over beginning of buffer"
  advance (-1)
  if (← peek) ≠ c then fail ("Expected '" ++ quoted [c] ++ "'")
  position

def skipBackN (count : ℤ) : Parse ℤ := do
  advance (-count)
  if (← get).bof then fail "backed over beginning of buffer"
  position

/-- Goes back while the byte before the position is one of `test`. -/
def skipBackLoop (test : UInt8 → Bool) : ℕ → Parse ℤ
  | 0 => do return (← get).mBuff
  | fuel + 1 => do
    let pb ← get
    if pb.bof then return pb.mBuff
    advance (-1)
    if test (← peek) then skipBackLoop test fuel
    else
      advance 1
      position

def skipBackWhile (test : UInt8 → Bool) : Parse ℤ := do
  let pb ← get
  skipBackLoop test (pb.mPosition - pb.mBuff).toNat

def skipBackWhitespace : Parse ℤ := skipBackWhile isWhitespace

def skipBackToChar (c : UInt8) : Parse ℤ := skipBackWhile fun x => x ≠ c

def skipBackToOneOf (cs : Bytes) : Parse ℤ := skipBackWhile fun x => !oneOf cs x

/-- `while (!eof() && isdigit(*mPosition))`: `next` goes over a digit or fails. -/
def digits {σ : Type} (next : σ → UInt8 → Parse σ) (s : σ) : Parse σ :=
  untilEof (fun s => do
    let c ← peek
    if isDigit c then return .yield (← next s c) else return .done s) s

/-- The bytes from `start` up to the position or up to the end, as a message quotes them. -/
def textBetween (pb : ParseBuffer) (start stop : ℤ) : Bytes :=
  (List.range (stop - start).toNat).map fun i : ℕ => pb.memory (start + i)

def integer : Parse ℤ := do
  if (← get).eof then fail "Expected a digit, got eof "
  let sign ← peek
  let negative := sign = 45
  if sign = 45 ∨ sign = 43 then
    advance 1
    assertNotEof
  if !isDigit (← peek) then
    let pb ← get
    fail ("Expected a digit, got: " ++ quoted (pb.textBetween pb.mPosition pb.mEnd))
  let absoluteLimit := if negative then 2147483648 else 2147483647
  let num ← digits (fun num c => do
    advance 1
    if absoluteLimit / 10 < num ∨ num = absoluteLimit / 10 ∧ absoluteLimit % 10 < digitVal c then
      fail "Overflow detected."
    return num * 10 + digitVal c) 0
  return if negative then -(num : ℤ) else num

def uInt8 : Parse UInt8 := do
  let start ← position
  let num ← digits (fun last c => do
    let num := last * 10 + (c - 48)
    if last > num then fail "Overflow detected."
    advance 1
    return num) 0
  if (← position) = start then fail "Expected a digit"
  return num

def uInt32 : Parse UInt32 := do
  let start ← position
  let num ← digits (fun num c => do
    advance 1
    return num * 10 + (digitVal c).toUInt32) 0
  let size := (← position) - start
  if size = 0 then fail "Expected a digit"
  if size < 10 then return num
  if size = 10 then
    let first ← readAt start
    if first < 52 ∨ first = 52 ∧ 4000000000 ≤ num then return num
  fail "Overflow detected"

def uInt64 : Parse UInt64 := do
  let start ← position
  let num ← digits (fun num c => do
    advance 1
    return num * 10 + (digitVal c).toUInt64) 0
  let size := (← position) - start
  if size = 0 then fail "Expected a digit"
  if size < 20 then return num
  if size = 20 then
    if (← readAt start) = 49 ∧ 10000000000000000000 ≤ num then return num
  fail "Overflow detected"

/-- The digits after the point of a qvalue: up to three of them count. -/
def qValDigits (num : ℤ) : Parse ℤ := do
  let r ← untilEof (fun r : ℤ × ℕ => do
    let c ← peek
    if isDigit c ∧ r.2 ≠ 0 then
      skipChar
      return .yield (r.1 + digitVal c * r.2, r.2 / 10)
    else return .done r) (num, 100)
  return r.1

/-- `!eof() && *mPosition == c`. -/
def looksAt (c : UInt8) : Parse Bool := do
  if (← get).eof then return false
  return (← peek) == c

/-- What `qVal` tries. -/
def qValBody : Parse ℤ := do
  let num ← integer
  if num ≠ 0 ∧ num ≠ 1 then return 0
  let num := if num = 1 then 1000 else 0
  if ← looksAt 46 then
    skipChar
    qValDigits num
  else return num

def qVal : Parse ℤ := do
  let s ← position
  tryCatch qValBody fun _ => do
    let pb ← get
    fail ("Expected a floating point value, got: " ++ quoted (pb.textBetween s pb.mPosition))

/-- `*position()`. -/
def current : Parse UInt8 := do
  assertNotEof
  peek

/-- `reset`, whose assertion is about `pos`. -/
def reset (pos : ℤ) : Parse Unit := modify fun pb => { pb with mPosition := pos }

/-- The bytes from `start` to the position. -/
def data (start : ℤ) : Parse Bytes := do
  let pb ← get
  if ¬ (pb.mBuff ≤ start ∧ start ≤ pb.mPosition) then fail "Bad anchor position"
  return pb.textBetween start pb.mPosition

/-- Another buffer, over the bytes from `start` to `stop`, for `m`. -/
def within {α : Type} (start stop : ℤ) (m : Parse α) : Parse α := fun pb =>
  match m { pb with mBuff := start, mPosition := start, mEnd := stop } with
  | .ok a sub => .ok a { pb with reads := sub.reads }
  | .error msg sub => .error msg { pb with reads := sub.reads }

end ParseBuffer

end Resiprocate.Rutil
