import Resiprocate.ParseBuffer

/-! MIME types with their parameters: how they are written and how they are read. -/
namespace Resiprocate.Stack
open Rutil Rutil.ParseBuffer

/-- The values that `QValue::setValue` lets through. -/
abbrev QValue := Fin 1001

namespace QValue

def setValue (val : ℤ) : QValue := if val < 0 ∨ 1000 < val then 1000 else Fin.ofNat 1001 val.toNat

def digit (n : ℕ) : UInt8 := 48 + UInt8.ofNat n

def encode (q : QValue) : Bytes :=
  if q.val = 1000 then literal "1.0"
  else literal "0." ++ digit (q.val / 100) ::
    (if q.val % 100 = 0 then []
    else digit (q.val % 100 / 10) :: if q.val % 10 = 0 then [] else [digit (q.val % 10)])

end QValue

/-- What is after the name of a parameter. An `UnknownParameter` without a value is a flag. -/
inductive ParameterValue
  | flag
  | data (value : Bytes) (quoted : Bool)
  | qvalue (q : QValue)
  deriving DecidableEq

structure Parameter where
  name : Bytes
  value : ParameterValue
  deriving DecidableEq

def Parameter.encode (p : Parameter) : Bytes :=
  match p.value with
  | .flag => p.name
  | .data value true => p.name ++ 61 :: 34 :: value ++ [34]
  | .data value false => if value = [] then p.name else p.name ++ 61 :: value
  | .qvalue q => p.name ++ 61 :: q.encode

/-- The classes of the parameters that a MIME type knows. -/
inductive ParameterKind
  | data | quotedData | qvalue
  deriving DecidableEq

namespace Mime

/-- `Mime::ParameterFactories`. -/
def parameterFactories : List (String × ParameterKind) :=
  [("access-type", .data), ("boundary", .data), ("charset", .data), ("directory", .data),
    ("expiration", .quotedData), ("micalg", .data), ("mode", .data), ("name", .data),
    ("permission", .data), ("protocol", .quotedData), ("q", .qvalue), ("server", .data),
    ("site", .data), ("size", .data), ("smime-type", .data), ("url", .quotedData)]

/-- The name and the class of a known parameter. -/
def factory (name : Bytes) : Option (Bytes × ParameterKind) :=
  (parameterFactories.find? fun f => isEqualNoCase name (literal f.1)).map fun f =>
    (literal f.1, f.2)

end Mime

namespace ParserCategory

def terminators1 : Bytes := literal " \t\r\n;=?>"

def terminators2 : Bytes := literal " \t\r\n;?>"

/-- A value in quotes, or up to a terminator. -/
def parseValue : Parse ParameterValue := do
  if (← current) = 34 then
    skipChar
    let pos ← position
    let _ ← skipToEndQuote 34
    let value ← data pos
    skipChar
    return .data value true
  else
    let pos ← position
    skipToOneOf terminators2
    return .data (← data pos) false

/-- The constructor of `DataParameter`. -/
def dataParameter : Parse ParameterValue := do
  skipWhitespace
  skipCharIs 61
  skipWhitespace
  if oneOf terminators2 (← current) then fail "Empty value in string-type parameter."
  parseValue

/-- The constructor of `QuotedDataParameter`. -/
def quotedDataParameter : Parse ParameterValue := do
  match ← dataParameter with
  | .data value _ => return .data value true
  | value => return value

/-- The constructor of `QValueParameter`. -/
def qValueParameter : Parse ParameterValue := do
  skipWhitespace
  if !(← get).eof then
    if (← peek) ≠ 61 then fail "parameter constructor expected '='"
  skipChar
  skipWhitespace
  return .qvalue (QValue.setValue (← qVal))

/-- The constructor of `UnknownParameter`. -/
def unknownParameter : Parse ParameterValue := do
  skipWhitespace
  if ← looksAt 61 then
    skipCharIs 61
    skipWhitespace
    parseValue
  else return .flag

/-- `createParam`. -/
def createParam : ParameterKind → Parse ParameterValue
  | .data => dataParameter
  | .quotedData => quotedDataParameter
  | .qvalue => qValueParameter

/-- `mParameters` and `mUnknownParameters`. -/
structure Parameters where
  known : List Parameter
  unknown : List Parameter
  deriving DecidableEq

/-- The parameter whose name has been read. -/
def parseParameter (key : Bytes) (ps : Parameters) : Parse Parameters := do
  match Mime.factory key with
  | none => return { ps with unknown := ps.unknown ++ [⟨key, ← unknownParameter⟩] }
  | some (name, kind) => return { ps with known := ps.known ++ [⟨name, ← createParam kind⟩] }

def parseParametersTurn (ps : Parameters) : Parse (ForInStep Parameters) := do
  let start ← position
  skipWhitespace
  if ← looksAt 59 then
    skipChar
    skipWhitespace
    let keyStart ← position
    skipToOneOf terminators1
    let key ← data keyStart
    if key = [] then return .yield ps
    return .yield (← parseParameter key ps)
  else
    reset start
    return .done ps

def parseParameters : Parse Parameters := untilEof parseParametersTurn ⟨[], []⟩

/-- After the first semicolon there is a space if there is a parameter `msgr`. -/
def encodeParameters (ps : Parameters) : Bytes :=
  let msgr := ps.unknown.any fun p => isEqualNoCase p.name (literal "msgr")
  (match ps.known with
    | [] => []
    | p :: rest => 59 :: (if msgr then [32] else []) ++ p.encode ++
      rest.flatMap fun p => 59 :: p.encode) ++
    ps.unknown.flatMap fun p => 59 :: p.encode

end ParserCategory

structure Mime where
  mType : Bytes
  mSubType : Bytes
  parameters : ParserCategory.Parameters
  deriving DecidableEq

namespace Mime
open ParserCategory

def encode (m : Mime) : Bytes := m.mType ++ 47 :: m.mSubType ++ encodeParameters m.parameters

def delimiter1 : Bytes := literal "\r\n\t /"

def delimiter2 : Bytes := literal "\r\n\t ;"

def parse : Parse Mime := do
  skipWhitespace
  let anchor ← position
  skipToOneOf delimiter1
  let mType ← data anchor
  skipWhitespace
  skipCharIs 47
  skipWhitespace
  let anchor ← position
  skipToOneOf delimiter2
  let mSubType ← data anchor
  skipWhitespace
  return ⟨mType, mSubType, ← parseParameters⟩

end Mime
end Resiprocate.Stack
