import Resiprocate.Base64
import Resiprocate.Uri

/-! `Via`: how it is parsed and written. What a branch is, and how it is read, are parameters of the
parser. -/
namespace Resiprocate.Stack
open Rutil Rutil.ParseBuffer DnsUtil
open Uri (UnknownParameter dataOf uInt32Parameter)

structure BranchParameter where
  mHasMagicCookie : Bool
  mIsMyBranch : Bool
  mTransactionId : Bytes
  mTransportSeq : UInt32
  mClientData : Bytes
  mInteropMagicCookie : Option Bytes
  mSigcompCompartment : Bytes
  deriving DecidableEq

/-- What is written after the name. -/
def BranchParameter.encode (b : BranchParameter) : Bytes :=
  let encoded (d : Bytes) := if d ≠ [] then Data.base64encode true d else []
  61 :: (if b.mHasMagicCookie then b.mInteropMagicCookie.getD (literal "z9hG4bK") else []) ++
    (if b.mIsMyBranch then
      literal "-524287-" ++ literal (toString b.mTransportSeq.toNat) ++ 45 :: encoded b.mClientData ++
        45 :: encoded b.mSigcompCompartment ++ [45]
    else []) ++
    b.mTransactionId

namespace Via

inductive DataParameterType
  | comp | received | maddr | sigcompId
  deriving DecidableEq

/-- The types that `Via` has a factory for. -/
inductive ParameterType
  | data (type : DataParameterType)
  | ttl | rport | branch
  deriving DecidableEq

inductive Parameter (β : Type)
  | data (type : DataParameterType) (mValue : Bytes) (mQuoted : Bool)
  | ttl (mValue : UInt32)
  | rport (mValue : Int32) (mHasValue : Bool)
  | branch (b : β)
  deriving DecidableEq

/-- `ParameterTypes::ParameterNames` -/
def parameterNames : List (String × ParameterType) :=
  [("branch", .branch), ("comp", .data .comp), ("maddr", .data .maddr), ("received", .data .received),
    ("rport", .rport), ("ttl", .ttl), ("sigcomp-id", .data .sigcompId)]

namespace ParameterType

/-- `ParameterTypes::getType`, where the types without a factory are unknown as well. -/
def getType (name : Bytes) : Option ParameterType :=
  (parameterNames.find? fun entry => isEqualNoCase name (literal entry.1)).map Prod.snd

def getName : ParameterType → Bytes
  | data .comp => literal "comp"
  | data .received => literal "received"
  | data .maddr => literal "maddr"
  | data .sigcompId => literal "sigcomp-id"
  | ttl => literal "ttl"
  | rport => literal "rport"
  | branch => literal "branch"

end ParameterType

variable {β : Type}

namespace Parameter

def getType : Parameter β → ParameterType
  | data type _ _ => .data type
  | ttl _ => .ttl
  | rport _ _ => .rport
  | branch _ => .branch

/-- `DataParameter::encode` asserts that a value without quotes is not empty. -/
def encode (encodeBranch : β → Bytes) (p : Parameter β) : Bytes :=
  p.getType.getName ++
    match p with
    | data _ mValue true => 61 :: 34 :: mValue ++ [34]
    | data _ mValue false => 61 :: mValue
    | ttl mValue => 61 :: literal (toString mValue.toNat)
    | rport mValue mHasValue =>
      if mHasValue = true ∨ 0 < mValue then 61 :: literal (toString mValue.toInt) else []
    | branch b => encodeBranch b

end Parameter
end Via

structure Via (β : Type) where
  mProtocolName : Bytes
  mProtocolVersion : Bytes
  mTransport : Bytes
  mSentHost : Bytes
  mSentPort : Int32
  mParameters : List (Via.Parameter β)
  mUnknownParameters : List UnknownParameter
  deriving DecidableEq

namespace Via
variable {β : Type}

/-! ### Parsing -/

/-- The constructor of `RportParameter`. -/
def rportParameter : Parse (Parameter β) := do
  skipWhitespace
  if ← looksAt 61 then
    skipChar
    skipWhitespace
    tryCatch (do return .rport (Int32.ofInt (← integer)) true) fun _ => return .rport 0 false
  else return .rport 0 false

def createParam (parseBranch : Parse β) : ParameterType → Parse (Parameter β)
  | .data .sigcompId => do
    let (value, isQuoted) := dataOf (← ParserCategory.quotedDataParameter)
    return .data .sigcompId value isQuoted
  | .data type => do
    let (value, isQuoted) := dataOf (← ParserCategory.dataParameter)
    return .data type value isQuoted
  | .ttl => do return .ttl (← uInt32Parameter)
  | .rport => rportParameter
  | .branch => do return .branch (← parseBranch)

/-- The parameter whose name has been read. -/
def parseParameter (parseBranch : Parse β) (key : Bytes) (via : Via β) : Parse (Via β) := do
  match ParameterType.getType key with
  | none =>
    let (value, isQuoted) := dataOf (← ParserCategory.unknownParameter)
    return { via with mUnknownParameters := via.mUnknownParameters ++ [⟨key, value, isQuoted⟩] }
  | some type =>
    let p ← createParam parseBranch type
    return { via with mParameters := via.mParameters ++ [p] }

/-- A turn of the loop of `parseParameters`. -/
def parseParametersTurn (parseBranch : Parse β) (via : Via β) : Parse (ForInStep (Via β)) := do
  let start ← position
  skipWhitespace
  if ← looksAt 59 then
    skipChar
    skipWhitespace
    let keyStart ← position
    skipToOneOf ParserCategory.terminators1
    let key ← data keyStart
    if key = [] then return .yield via
    return .yield (← parseParameter parseBranch key via)
  else
    reset start
    return .done via

def parseParameters (parseBranch : Parse β) (via : Via β) : Parse (Via β) :=
  untilEof (parseParametersTurn parseBranch) via

/-- What ends a protocol name or version. -/
def wos : Bytes := literal "\r\n\t /"

/-- Text up to one of `wos`, and what is after the next slash. -/
def parseProtocolPart : Parse Bytes := do
  skipWhitespace
  let startMark ← position
  skipToOneOf wos
  let part ← data startMark
  skipToChar 47
  skipChar
  return part

def parseTransport : Parse Bytes := do
  skipWhitespace
  let startMark ← position
  skipNonWhitespace
  data startMark

def parseSentHost (inet : Inet) : Parse Bytes := do
  skipWhitespace
  let startMark ← position
  assertNotEof
  if (← readAt startMark) = 91 then
    skipChar
    let startMark ← position
    skipToChar 93
    let mSentHost ← data startMark
    if canonicalizeIpV6Address inet mSentHost = [] then fail Uri.v6Unparsable
    skipChar
    return mSentHost
  else
    skipToOneOf (literal ";: \t\r\n")
    data startMark

def parseSentPort : Parse Int32 := do
  skipToOneOf (literal ";:")
  if ← looksAt 58 then
    skipCharIs 58
    let mSentPort ← integer
    skipToOneOf (literal "; \t\r\n")
    return Int32.ofInt mSentPort
  else return 0

def parse (inet : Inet) (parseBranch : Parse β) : Parse (Via β) := do
  let mProtocolName ← parseProtocolPart
  let mProtocolVersion ← parseProtocolPart
  let mTransport ← parseTransport
  let mSentHost ← parseSentHost inet
  let mSentPort ← parseSentPort
  parseParameters parseBranch ⟨mProtocolName, mProtocolVersion, mTransport, mSentHost, mSentPort, [], []⟩

/-! ### Writing -/

/-- After the first semicolon there is a space if there is a parameter `msgr`. -/
def encodeParameters (encodeBranch : β → Bytes) (via : Via β) : Bytes :=
  let msgr := via.mUnknownParameters.any fun p => isEqualNoCase p.mName (literal "msgr")
  (match via.mParameters with
    | [] => []
    | p :: rest => 59 :: (if msgr then [32] else []) ++ p.encode encodeBranch ++
      rest.flatMap fun p => 59 :: p.encode encodeBranch) ++
    via.mUnknownParameters.flatMap fun p => 59 :: p.encode

def encodeParsed (encodeBranch : β → Bytes) (via : Via β) : Bytes :=
  via.mProtocolName ++ 47 :: via.mProtocolVersion ++ 47 :: via.mTransport ++ 32 ::
    (if isIpV6Address via.mSentHost then 91 :: via.mSentHost ++ [93] else via.mSentHost) ++
    (if via.mSentPort ≠ 0 then 58 :: literal (toString via.mSentPort.toInt) else []) ++
    encodeParameters encodeBranch via

end Via
end Resiprocate.Stack
