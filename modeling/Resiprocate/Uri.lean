import Resiprocate.DecimalCoding
import Resiprocate.HexCoding
import Resiprocate.Mime

/-! `Uri`: how it is parsed, written, assigned and compared. The messages that embedded headers are
turned into are a parameter, as are `inet_pton` and `inet_ntop`. -/
namespace Resiprocate.Data

/-- `memcmp` over as many bytes as both have. -/
def memcmp : List UInt8 → List UInt8 → Ordering
  | c :: cs, d :: ds => if c < d then .lt else if d < c then .gt else memcmp cs ds
  | _, _ => .eq

/-- `operator<` -/
def less (lhs rhs : List UInt8) : Bool :=
  match memcmp lhs rhs with
  | .lt => true
  | .gt => false
  | .eq => lhs.length < rhs.length

/-- The characters of `Data(val)`, whose buffer holds nothing before. -/
def ofInt (val : Int32) : List UInt8 := (ofInt32 (fun _ => 0) val).getD []

/-- `escapeToStream` -/
def escapeToStream (shouldEscape : UInt8 → Bool) : List UInt8 → List UInt8
  | 37 :: high :: low :: p =>
    if isHex high && isHex low then 37 :: high :: low :: escapeToStream shouldEscape p
    else escapeByte 37 ++ escapeToStream shouldEscape (high :: low :: p)
  | c :: p => escapeByte c ++ escapeToStream shouldEscape p
  | [] => []
where
  escapeByte (c : UInt8) : List UInt8 :=
    if shouldEscape c then
      [37, (Rutil.literal "0123456789ABCDEF").getD (c.toNat / 16) 0,
        (Rutil.literal "0123456789ABCDEF").getD (c.toNat % 16) 0]
    else [c]

end Resiprocate.Data

namespace Resiprocate.DnsUtil
open Rutil (Bytes isDigit toLower)

/-- What `inet_pton` and `inet_ntop` do for `AF_INET6`. -/
structure Inet where
  pton : Bytes → Option (BitVec 128)
  ntop : BitVec 128 → Bytes

/-- No text is an address. -/
def Inet.noAddresses : Inet := ⟨fun _ => none, fun _ => []⟩

def isxdigit (c : UInt8) : Bool := (Data.hexDigit c).isSome

/-- A hexadecimal digit or a colon, and a colon among the first five characters. -/
def isIpV6Address (ipAddress : Bytes) : Bool :=
  match ipAddress with
  | [] | [_] => false
  | first :: _ => (isxdigit first || first == 58) && (ipAddress.take 5).any (· == 58)

/-- `inet_pton` is given a string that ends at a zero. -/
def canonicalizeIpV6Address (inet : Inet) (ipV6Address : Bytes) : Bytes :=
  match inet.pton (ipV6Address.takeWhile (· ≠ 0)) with
  | none => []
  | some dst => inet.ntop dst

end Resiprocate.DnsUtil

namespace Resiprocate.Rutil.ParseBuffer

/-- Operations on a buffer and on what is filled from it. What they throw leaves it as filled by then. -/
abbrev Fill (σ : Type) := EStateM String (ParseBuffer × σ)

namespace Fill
variable {σ α : Type}

def onBuffer (m : Parse α) : Fill σ α := fun s =>
  match m s.1 with
  | .ok a pb => .ok a (pb, s.2)
  | .error msg pb => .error msg (pb, s.2)

instance : MonadLift Parse (Fill σ) := ⟨onBuffer⟩

def fill (f : σ → σ) : Fill σ Unit := modify fun s => (s.1, f s.2)

/-- As many turns as `fuel`, while `body` says to go on and the end is not reached. -/
def whileNotEof (body : Fill σ Bool) : ℕ → Fill σ Unit
  | 0 => pure ()
  | fuel + 1 => do
    if (← get).1.eof then pure ()
    else if ← body then whileNotEof body fuel

/-- `while (!pb.eof())`; a turn that goes on advances. -/
def untilEof (body : Fill σ Bool) : Fill σ Unit := do
  let pb := (← get).1
  whileNotEof body (pb.mEnd - pb.mPosition).toNat

end Fill

def atEof : Parse Bool := do return (← get).eof

/-- `hexToByte`. Fifteen rows of the table are written out, so that the last one is of zeros. -/
def hexToByte (c : UInt8) : Option ℕ := if 240 ≤ c then some 0 else Data.hexDigit c

/-- The loop of `dataUnescaped`. -/
def unescaped : Bytes → Except String Bytes
  | [] => .ok []
  | c :: rest => do
    if c ≠ 37 then return c :: (← unescaped rest)
    match rest with
    | high :: low :: rest =>
      match hexToByte high, hexToByte low with
      | some h, some l =>
        let escaped := UInt8.ofNat (h * 16 + l)
        if 31 < escaped ∧ escaped ≠ 127 ∧ escaped ≠ 58 then return escaped :: (← unescaped rest)
        else return 37 :: high :: low :: (← unescaped rest)
      | _, _ => throw "Illegal escaping, not hex"
    | _ => throw "Illegal escaping"

def dataUnescaped (start : ℤ) : Parse Bytes := do
  match unescaped (← data start) with
  | .ok bytes => return bytes
  | .error msg => fail msg

end Resiprocate.Rutil.ParseBuffer

namespace Resiprocate.Stack
open Rutil Rutil.ParseBuffer DnsUtil

namespace Uri

/-- The parameters of a `Uri` that are a `DataParameter`, or a class derived from it. -/
inductive DataParameterType
  | gr | comp | maddr | method | transport | user | extension | sigcompId | rinstance | wsSrcIp
  deriving DecidableEq

inductive UInt32ParameterType
  | duration | ttl | wsSrcPort
  deriving DecidableEq

inductive ExistsParameterType
  | ob | lr | addTransport
  deriving DecidableEq

/-- The types that `Uri` has a factory for. -/
inductive ParameterType
  | data (type : DataParameterType)
  | uInt32 (type : UInt32ParameterType)
  | exists_ (type : ExistsParameterType)
  deriving DecidableEq

inductive Parameter
  | data (type : DataParameterType) (mValue : Bytes) (mQuoted : Bool)
  | uInt32 (type : UInt32ParameterType) (mValue : UInt32)
  | exists_ (type : ExistsParameterType) (mValue : Bool)
  deriving DecidableEq

structure UnknownParameter where
  mName : Bytes
  mValue : Bytes
  mIsQuoted : Bool
  deriving DecidableEq

/-- `ParameterTypes::ParameterNames` -/
def parameterNames : List (String × ParameterType) :=
  [("ob", .exists_ .ob), ("gr", .data .gr), ("comp", .data .comp), ("duration", .uInt32 .duration),
    ("lr", .exists_ .lr), ("maddr", .data .maddr), ("method", .data .method),
    ("rinstance", .data .rinstance), ("transport", .data .transport), ("ttl", .uInt32 .ttl),
    ("user", .data .user), ("ext", .data .extension), ("sigcomp-id", .data .sigcompId),
    ("addTransport", .exists_ .addTransport), ("ws-src-ip", .data .wsSrcIp),
    ("ws-src-port", .uInt32 .wsSrcPort)]

namespace ParameterType

/-- `ParameterTypes::getType`, where the types without a factory are unknown as well. -/
def getType (name : Bytes) : Option ParameterType :=
  (parameterNames.find? fun entry => isEqualNoCase name (literal entry.1)).map Prod.snd

def getName (type : ParameterType) : Bytes :=
  ((parameterNames.find? fun entry => entry.2 = type).map fun entry => literal entry.1).getD []

end ParameterType

namespace Parameter

def getType : Parameter → ParameterType
  | data type _ _ => .data type
  | uInt32 type _ => .uInt32 type
  | exists_ type _ => .exists_ type

/-- `DataParameter::encode` asserts that a value without quotes is not empty. -/
def encode (p : Parameter) : Bytes :=
  let name := p.getType.getName
  match p with
  | data .gr [] _ => name
  | data _ mValue true => name ++ 61 :: 34 :: mValue ++ [34]
  | data _ mValue false => name ++ 61 :: mValue
  | uInt32 _ mValue => name ++ 61 :: literal (toString mValue.toNat)
  | exists_ _ mValue => if mValue then name else []

end Parameter

def UnknownParameter.encode (p : UnknownParameter) : Bytes :=
  if p.mIsQuoted then p.mName ++ 61 :: 34 :: p.mValue ++ [34]
  else if p.mValue ≠ [] then p.mName ++ 61 :: p.mValue
  else p.mName

/-- `LazyParser::mState` -/
inductive ParseState
  | NOT_PARSED | WELL_FORMED | MALFORMED | DIRTY
  deriving DecidableEq

/-- What `SipMessage` does for the headers that a `Uri` embeds. -/
structure EmbeddedMessage (M : Type) where
  new : M
  addHeader : Bytes → Bytes → M → M
  setBody : Bytes → M → M
  encodeEmbedded : M → Bytes

end Uri

/-- A `Uri` with what it inherits: the header field it is parsed from, and its parameters. -/
structure Uri (M : Type) where
  mHeaderField : Bytes
  mState : Uri.ParseState
  mParameters : List Uri.Parameter
  mUnknownParameters : List Uri.UnknownParameter
  mScheme : Bytes
  mHost : Bytes
  mUser : Bytes
  mUserParameters : Bytes
  mPort : Int32
  mPassword : Bytes
  mNetNs : Bytes
  mPath : Bytes
  mHostCanonicalized : Bool
  mCanonicalHost : Bytes
  mEmbeddedHeadersText : Option Bytes
  mEmbeddedHeaders : Option M
  deriving DecidableEq

namespace Uri
variable {M : Type}

/-- `Uri(hfv, type)` -/
def ofHeaderField (hfv : Bytes) : Uri M where
  mHeaderField := hfv
  mState := .NOT_PARSED
  mParameters := []
  mUnknownParameters := []
  mScheme := []
  mHost := []
  mUser := []
  mUserParameters := []
  mPort := 0
  mPassword := []
  mNetNs := []
  mPath := []
  mHostCanonicalized := false
  mCanonicalHost := []
  mEmbeddedHeadersText := none
  mEmbeddedHeaders := none

/-- `Uri()` -/
def new : Uri M := { ofHeaderField [] with mState := .DIRTY, mScheme := literal "sip" }

/-! ### Parsing -/

open Fill

def dataOf : ParameterValue → Bytes × Bool
  | .data value isQuoted => (value, isQuoted)
  | _ => ([], false)

/-- The constructor of `ExistsParameter`. -/
def existsParameter : Parse Unit := do
  skipWhitespace
  if ← looksAt 61 then
    skipChar
    if ← looksAt 34 then
      skipChar
      let _ ← skipToEndQuote 34
    else skipToOneOf ParserCategory.terminators2

/-- `ExistsOrDataParameter::decode` -/
def existsOrDataParameter : Parse ParameterValue := do
  if ← atEof then return .flag
  if oneOf ParserCategory.terminators2 (← current) then return .flag
  ParserCategory.dataParameter

/-- The constructor of `UInt32Parameter`. -/
def uInt32Parameter : Parse UInt32 := do
  skipWhitespace
  skipCharIs 61
  skipWhitespace
  uInt32

def createParam : ParameterType → Parse Parameter
  | .data .gr => do
    let (value, isQuoted) := dataOf (← existsOrDataParameter)
    return .data .gr value isQuoted
  | .data .sigcompId => do
    let (value, isQuoted) := dataOf (← ParserCategory.quotedDataParameter)
    return .data .sigcompId value isQuoted
  | .data type => do
    let (value, isQuoted) := dataOf (← ParserCategory.dataParameter)
    return .data type value isQuoted
  | .uInt32 type => do return .uInt32 type (← uInt32Parameter)
  | .exists_ type => do
    existsParameter
    return .exists_ type true

/-- A turn of the loop of `parseParameters`: whether it goes on. -/
def parseParametersTurn : Fill (Uri M) Bool := do
  let start ← position
  skipWhitespace
  if ← looksAt 59 then
    skipChar
    skipWhitespace
    let keyStart ← position
    skipToOneOf ParserCategory.terminators1
    let key ← data keyStart
    if key ≠ [] then
      match ParameterType.getType key with
      | none =>
        let (value, isQuoted) := dataOf (← ParserCategory.unknownParameter)
        fill fun u => { u with
          mUnknownParameters := u.mUnknownParameters ++ [⟨key, value, isQuoted⟩] }
      | some type =>
        let p ← createParam type
        fill fun u => { u with mParameters := u.mParameters ++ [p] }
    return true
  else
    reset start
    return false

def parseParameters : Fill (Uri M) Unit := untilEof parseParametersTurn

def whitespace : Bytes := literal " \t\r\n"

/-- A reference without a scheme. -/
def parseRelative (start : ℤ) : Fill (Uri M) Unit := do
  fill fun u => { u with mScheme := [] }
  skipToOneOf₂ (literal "?;") whitespace
  let mPath ← data start
  fill fun u => { u with mPath := mPath }
  if !(← atEof) then
    if !isWhitespace (← current) then parseParameters

def parseTel : Fill (Uri M) Unit := do
  let anchor ← position
  skipToOneOf (literal "\r\n\t ;>")
  let mUser ← data anchor
  fill fun u => { u with mUser := mUser }
  if ← looksAt 59 then
    skipChar
    let anchor ← position
    skipToOneOf₂ whitespace (literal ">")
    let mUserParameters ← data anchor
    fill fun u => { u with mUserParameters := mUserParameters }

/-- Whether what is after a colon ends with an at sign, so that it is a password. The position is that
of the colon then. -/
def parsePassword (start : ℤ) : Fill (Uri M) (Option ℤ) := do
  skipChar
  let afterColon ← position
  skipToOneOf (literal "@\"")
  if ← looksAt 64 then
    let atSign ← position
    let mPassword ← dataUnescaped afterColon
    fill fun u => { u with mPassword := mPassword }
    reset (afterColon - 1)
    return some atSign
  else
    reset start
    return none

/-- What is before an at sign, if there is one. It gives where the host starts. -/
def parseUser : Fill (Uri M) ℤ := do
  let start ← position
  skipToOneOf (literal "@:\"")
  if ← atEof then
    reset start
    return start
  let c ← current
  let atSign ←
    if c = 58 then parsePassword start
    else if c = 64 then do pure (some (← position))
    else do
      reset start
      pure none
  match atSign with
  | none => return start
  | some atSign =>
    let mUser ← dataUnescaped start
    fill fun u => { u with mUser := mUser }
    reset atSign
    skipChar
    position

def hostDelimiter : Bytes := literal "\r\n\t :;?>"

def v6Unparsable : String :=
  "Unparsable V6 address (note, this might be unparsable because IPV6 support is not enabled)"

def parseHost (inet : Inet) (start : ℤ) : Fill (Uri M) Unit := do
  fill fun u => { u with mHostCanonicalized := false }
  if (← readAt start) = 91 then
    skipChar
    let start ← position
    skipToChar 93
    let mHost ← data start
    fill fun u => { u with mHost := mHost, mCanonicalHost := canonicalizeIpV6Address inet mHost }
    if canonicalizeIpV6Address inet mHost = [] then throw v6Unparsable
    fill fun u => { u with mHostCanonicalized := true }
    skipChar
    skipToOneOf hostDelimiter
  else
    skipToOneOf hostDelimiter
    let mHost ← data start
    fill fun u => { u with mHost := mHost }

def parsePort : Fill (Uri M) Unit := do
  if ← looksAt 58 then
    skipChar
    let mPort ← uInt32
    fill fun u => { u with mPort := mPort.toInt32 }
  else fill fun u => { u with mPort := 0 }

def parseEmbeddedHeadersText : Fill (Uri M) Unit := do
  if ← looksAt 63 then
    let anchor ← position
    skipToOneOf₂ (literal ">;") whitespace
    fill fun u => { u with mEmbeddedHeadersText := some (u.mEmbeddedHeadersText.getD []) }
    let text ← data anchor
    fill fun u => { u with mEmbeddedHeadersText := some text }

def parse (inet : Inet) : Fill (Uri M) Unit := do
  skipWhitespace
  let start ← position
  if (← current) = 47 then parseRelative start
  else
    skipToOneOf (literal ":@")
    assertNotEof
    let mScheme ← data start
    fill fun u => { u with mScheme := mScheme }
    skipCharIs 58
    fill fun u => { u with mScheme := u.mScheme.map (· ||| 32) }
    if (← get).2.mScheme = literal "tel" then parseTel
    else
      let start ← parseUser
      if !(← atEof) then
        parseHost inet start
        parsePort
        parseParameters
        parseEmbeddedHeadersText

/-- `doParse`, with what it throws. -/
def doParse (inet : Inet) (u : Uri M) : Option String × Uri M :=
  match parse inet (ofText u.mHeaderField, { u with mState := .MALFORMED }) with
  | .ok _ (_, u) => (none, { u with mState := .WELL_FORMED })
  | .error msg (_, u) => (some msg, u)

/-- `checkParsed() const` -/
def checkParsed (inet : Inet) (u : Uri M) : Option String × Uri M :=
  if u.mState = .NOT_PARSED then doParse inet u else (none, u)

/-- `Uri(data)` -/
def ofData (inet : Inet) (text : Bytes) : Except String (Uri M) :=
  match checkParsed inet (ofHeaderField text) with
  | (some msg, _) => .error msg
  | (none, u) => .ok { u with mState := .DIRTY }

/-- What is parsed when it is first read, for a reference that the caller may write through. -/
def checkParsedForWrite (inet : Inet) (u : Uri M) : Option String × Uri M :=
  match checkParsed inet u with
  | (none, u) => (none, { u with mState := .DIRTY })
  | thrown => thrown

/-- `Uri(data)` where it throws nothing. -/
def parsed (inet : Inet) (text : Bytes) : Uri M := (ofData inet text).toOption.getD new

/-! ### Writing -/

def userEncodingTable (c : UInt8) : Bool :=
  !(Data.isalpha c || isDigit c || oneOf (literal "-_.!~*\\()&=+$,;?/") c)

def passwordEncodingTable (c : UInt8) : Bool :=
  !(Data.isalpha c || isDigit c || oneOf (literal "-_.!~*\\()&=+$") c)

def encodeParameters (u : Uri M) : Bytes :=
  let msgr := u.mUnknownParameters.any fun p => isEqualNoCase p.mName (literal "msgr")
  (match u.mParameters with
    | [] => []
    | p :: rest => 59 :: (if msgr then [32] else []) ++ p.encode ++
      rest.flatMap fun p => 59 :: p.encode) ++
    u.mUnknownParameters.flatMap fun p => 59 :: p.encode

def encodeEmbeddedHeaders (message : EmbeddedMessage M) (u : Uri M) : Bytes :=
  match u.mEmbeddedHeaders with
  | some m => message.encodeEmbedded m
  | none => u.mEmbeddedHeadersText.getD []

/-- What `encodeParsed` writes before the embedded headers. -/
def encodeAddress (u : Uri M) : Bytes :=
  (if u.mScheme ≠ [] then u.mScheme ++ [58] else []) ++
  (if u.mUser ≠ [] then
    Data.escapeToStream userEncodingTable u.mUser ++
    (if u.mUserParameters ≠ [] then 59 :: u.mUserParameters else []) ++
    (if u.mPassword ≠ [] then 58 :: Data.escapeToStream passwordEncodingTable u.mPassword else [])
  else []) ++
  (if u.mHost ≠ [] then
    (if u.mUser ≠ [] then [64] else []) ++
    (if isIpV6Address u.mHost then 91 :: u.mHost ++ [93] else u.mHost)
  else []) ++
  (if u.mPort ≠ 0 then 58 :: literal (toString u.mPort.toInt) else []) ++
  u.mPath ++
  encodeParameters u

def encodeParsed (message : EmbeddedMessage M) (u : Uri M) : Bytes :=
  encodeAddress u ++ encodeEmbeddedHeaders message u

/-- `LazyParser::encode`: the header field, unless what it was parsed to may have been written to. -/
def encode (message : EmbeddedMessage M) (u : Uri M) : Bytes :=
  if u.mState = .DIRTY then encodeParsed message u else u.mHeaderField

/-! ### Embedded headers -/

/-- `toupper` -/
def toUpper (c : UInt8) : UInt8 := if 97 ≤ c && c ≤ 122 then c - 32 else c

/-- The value of a digit in `fromHex`, which takes any other character for a letter. -/
def hexValue (h : UInt8) : UInt8 :=
  if isDigit (toUpper h) then toUpper h - 48 else toUpper h - 65 + 10

/-- `Embedded::decode` -/
def decodeEmbedded : Bytes → Bytes
  | 37 :: high :: low :: rest => (hexValue high * 16 + hexValue low) :: decodeEmbedded rest
  | c :: rest => c :: decodeEmbedded rest
  | [] => []

def parseEmbeddedHeader (message : EmbeddedMessage M) : Fill M Unit := do
  let anchor ← position
  skipToChar 61
  let headerName ← data anchor
  skipCharIs 61
  let anchor ← position
  skipToChar 38
  let headerContents ← data anchor
  let decodedContents := decodeEmbedded headerContents
  if isEqualNoCase (literal "Body") headerName then fill (message.setBody decodedContents)
  else fill (message.addHeader headerName decodedContents)

def parseEmbeddedHeaders (message : EmbeddedMessage M) : Fill M Unit := do
  if ← looksAt 63 then skipChar
  if !(← atEof) then
    parseEmbeddedHeader message
    untilEof do
      skipCharIs 38
      parseEmbeddedHeader message
      return true

/-- `embedded()`, with what it throws. -/
def embedded (inet : Inet) (message : EmbeddedMessage M) (u : Uri M) : Option String × Uri M :=
  match checkParsedForWrite inet u with
  | (some msg, u) => (some msg, u)
  | (none, u) =>
    match u.mEmbeddedHeaders, u.mEmbeddedHeadersText.getD [] with
    | some _, _ => (none, u)
    | none, [] => (none, { u with mEmbeddedHeaders := some message.new })
    | none, text =>
      match parseEmbeddedHeaders message (ofText text, message.new) with
      | .ok _ (_, m) => (none, { u with mEmbeddedHeaders := some m })
      | .error msg (_, m) => (some msg, { u with mEmbeddedHeaders := some m })

/-! ### Assignment -/

/-- `Uri(rhs)` -/
def copy (rhs : Uri M) : Uri M where
  __ := rhs
  mHeaderField := if rhs.mState = .DIRTY then [] else rhs.mHeaderField
  mParameters := if rhs.mState = .NOT_PARSED then [] else rhs.mParameters
  mUnknownParameters := if rhs.mState = .NOT_PARSED then [] else rhs.mUnknownParameters

/-- `operator=` for another `Uri`. -/
def assign (u rhs : Uri M) : Uri M where
  mHeaderField := if rhs.mState = .DIRTY then [] else rhs.mHeaderField
  mState := rhs.mState
  mParameters := if rhs.mState = .NOT_PARSED then [] else rhs.mParameters
  mUnknownParameters := if rhs.mState = .NOT_PARSED then [] else rhs.mUnknownParameters
  mScheme := rhs.mScheme
  mHost := rhs.mHost
  mUser := rhs.mUser
  mUserParameters := rhs.mUserParameters
  mPort := rhs.mPort
  mPassword := rhs.mPassword
  mNetNs := rhs.mNetNs
  mPath := rhs.mPath
  mHostCanonicalized := rhs.mHostCanonicalized
  mCanonicalHost := rhs.mCanonicalHost
  mEmbeddedHeadersText :=
    match rhs.mEmbeddedHeaders, rhs.mEmbeddedHeadersText with
    | none, some text => some text
    | _, _ => u.mEmbeddedHeadersText
  mEmbeddedHeaders :=
    match rhs.mEmbeddedHeaders with
    | some m => some m
    | none => u.mEmbeddedHeaders

/-! ### Canonical hosts -/

/-- The canonical host, as it is computed when it is not known. -/
def canonicalHost (inet : Inet) (mHost : Bytes) : Bytes :=
  if isIpV6Address mHost then canonicalizeIpV6Address inet mHost else mHost.map toLower

/-- Afterwards the canonical host is known. -/
def canonicalized (inet : Inet) (u : Uri M) : Uri M :=
  if u.mHostCanonicalized then u
  else { u with mCanonicalHost := canonicalHost inet u.mHost, mHostCanonicalized := true }

/-- `operator<`; it may change what is known of both. -/
def less (inet : Inet) (u other : Uri M) : Bool × Uri M × Uri M :=
  if Data.less u.mUser other.mUser then (true, u, other)
  else if Data.less other.mUser u.mUser then (false, u, other)
  else if Data.less u.mUserParameters other.mUserParameters then (true, u, other)
  else if Data.less other.mUserParameters u.mUserParameters then (false, u, other)
  else
    let u := canonicalized inet u
    let other := canonicalized inet other
    let result :=
      if Data.less u.mCanonicalHost other.mCanonicalHost then true
      else if Data.less other.mCanonicalHost u.mCanonicalHost then false
      else u.mPort < other.mPort
    (result, u, other)

def aorEqual (inet : Inet) (u rhs : Uri M) : Bool × Uri M × Uri M :=
  let u := canonicalized inet u
  let rhs := canonicalized inet rhs
  (u.mUser == rhs.mUser && u.mCanonicalHost == rhs.mCanonicalHost && u.mPort == rhs.mPort &&
    isEqualNoCase u.mScheme rhs.mScheme && u.mNetNs == rhs.mNetNs, u, rhs)

def getAorInternal (inet : Inet) (dropScheme addPort : Bool) (u : Uri M) : Bytes × Uri M :=
  let addPort := addPort && u.mPort ≠ 0
  let u := canonicalized inet u
  ((if dropScheme then [] else u.mScheme ++ [58]) ++
    (if u.mUser ≠ [] then
      Data.escapeToStream userEncodingTable u.mUser ++ if u.mCanonicalHost ≠ [] then [64] else []
    else []) ++
    (if isIpV6Address u.mHost && addPort then 91 :: u.mCanonicalHost ++ [93] else u.mCanonicalHost) ++
    if addPort then 58 :: Data.ofInt u.mPort else [], u)

/-! ### Equality -/

/-- `getParameterByEnum` -/
def getParameterByEnum (u : Uri M) (type : ParameterType) : Option Parameter :=
  u.mParameters.find? fun p => p.getType = type

/-- The types of strings that are compared. -/
def comparedTypes : List DataParameterType := [.user, .method, .maddr, .transport]

/-- What the switch over the type of `p` finds. `otherParam` has the same type. -/
def agrees (p : Parameter) (otherParam : Option Parameter) : Bool :=
  match p, otherParam with
  | .uInt32 .ttl value, some (.uInt32 _ value') => value == value'
  | .uInt32 .ttl _, _ => false
  | .data type value _, otherParam =>
    if type ∈ comparedTypes then
      match otherParam with
      | some (.data _ value' _) => isEqualNoCase value value'
      | _ => false
    else true
  | _, _ => true

/-- The loop over the unknown parameters of both, sorted. -/
def unknownAgree : List UnknownParameter → List UnknownParameter → Bool
  | a :: as, b :: bs =>
    if Data.less a.mName b.mName then unknownAgree as (b :: bs)
    else if Data.less b.mName a.mName then unknownAgree (a :: as) bs
    else isEqualNoCase a.mValue b.mValue && unknownAgree as bs
  | _, _ => true
termination_by as bs => as.length + bs.length

/-- For `operator==` the canonical host becomes known if both hosts are of IPv6. -/
def canonicalizedV6 (inet : Inet) (u : Uri M) : Uri M :=
  if u.mHostCanonicalized then u
  else { u with mCanonicalHost := canonicalizeIpV6Address inet u.mHost, mHostCanonicalized := true }

def hostsEqual (u other : Uri M) : Bool :=
  if isIpV6Address u.mHost && isIpV6Address other.mHost then u.mCanonicalHost == other.mCanonicalHost
  else isEqualNoCase u.mHost other.mHost

/-- Of the paths, one is compared with itself. -/
def fieldsEqual (u other : Uri M) : Bool :=
  isEqualNoCase u.mScheme other.mScheme &&
  (if isEqualNoCase u.mScheme (literal "sip") || isEqualNoCase u.mScheme (literal "sips") then
    u.mUser == other.mUser
  else isEqualNoCase u.mUser other.mUser) &&
  isEqualNoCase u.mUserParameters other.mUserParameters &&
  u.mPassword == other.mPassword &&
  u.mPort == other.mPort &&
  u.mNetNs == other.mNetNs &&
  u.mPath == u.mPath

/-- `operator==`. The unknown parameters are compared in the order that `sort` gives them. -/
def equals (inet : Inet) (sort : List UnknownParameter → List UnknownParameter) (u other : Uri M) :
    Bool × Uri M × Uri M :=
  let bothV6 := isIpV6Address u.mHost && isIpV6Address other.mHost
  let u := if bothV6 then canonicalizedV6 inet u else u
  let other := if bothV6 then canonicalizedV6 inet other else other
  (hostsEqual u other && fieldsEqual u other &&
    u.mParameters.all (fun p => agrees p (other.getParameterByEnum p.getType)) &&
    other.mParameters.all (fun p => agrees p (u.getParameterByEnum p.getType)) &&
    unknownAgree (sort u.mUnknownParameters) (sort other.mUnknownParameters), u, other)

end Uri
end Resiprocate.Stack
