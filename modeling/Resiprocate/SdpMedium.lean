import Resiprocate.DecimalCoding
import Resiprocate.ParseBuffer

/-! The media of a session description. The first call of `codecs` turns the formats and their attributes
into codecs, which are written in their place from then on. -/
namespace Resiprocate.Stack.SdpContents
open Rutil Rutil.ParseBuffer

structure Codec where
  mName : Bytes
  mRate : UInt64
  mPayloadType : ℤ
  mParameters : Bytes
  mEncodingParameters : Bytes
  deriving DecidableEq

namespace Codec

/-- `Codec()` -/
def new : Codec := ⟨[], 0, -1, [], []⟩

/-- What an rtpmap gives behind the payload type: the name, the rate and the encoding parameters if they
are there. -/
structure Mapping where
  name : Bytes
  rate : Option ℤ
  encodingParameters : Option Bytes
  deriving DecidableEq

def skipToEnd : Parse Unit := modify fun pb => { pb with mPosition := pb.mEnd }

/-- The part of `parse` that reads the buffer. -/
def parseMapping : Parse Mapping := do
  skipWhitespace
  let anchor ← position
  skipToChar 47
  let name ← data anchor
  if (← get).eof then return ⟨name, none, none⟩
  skipCharIs 47
  let rate ← integer
  skipToChar 47
  if (← get).eof then return ⟨name, some rate, none⟩
  if (← peek) ≠ 47 then return ⟨name, some rate, none⟩
  skipCharIs 47
  let anchor ← position
  skipToEnd
  return ⟨name, some rate, some (← data anchor)⟩

/-- One turn of the loop in `assignFormatParameters`: the text, if it is for the payload type. -/
def parseFormat (mPayloadType : ℤ) : Parse (Option Bytes) := do
  let payload ← integer
  if payload ≠ mPayloadType then return none
  skipWhitespace
  let anchor ← position
  skipToEnd
  return some (← data anchor)

/-- What a reading of a text from the beginning returns; `none` is an exception. -/
def readAll {α : Type} (m : Parse α) (text : Bytes) : Option α :=
  match m (ParseBuffer.ofText text) with
  | .ok a _ => some a
  | .error _ _ => none

/-- The text of the first fmtp for the payload type that can be read. -/
def formatParameters (fmtps : List Bytes) (mPayloadType : ℤ) : Option Bytes :=
  fmtps.findSome? fun value => (readAll (parseFormat mPayloadType) value).join

def assignFormatParameters (c : Codec) (fmtps : List Bytes) : Codec :=
  { c with mParameters := (formatParameters fmtps c.mPayloadType).getD c.mParameters }

/-- `parse` of what has been read. What is not there is left as it was. -/
def mapped (c : Codec) (mapping : Mapping) (payloadType : ℤ) (fmtps : List Bytes) : Codec :=
  assignFormatParameters { c with
    mName := mapping.name
    mRate := (mapping.rate.map UInt64.ofInt).getD c.mRate
    mEncodingParameters := mapping.encodingParameters.getD c.mEncodingParameters
    mPayloadType := payloadType } fmtps

/-- `getStaticCodecs`: the payload type, the name and the rate. -/
def staticCodecs : List (ℤ × String × UInt64) :=
  [(0, "PCMU", 8000), (3, "GSM", 8000), (4, "G723", 8000), (5, "DVI4", 8000), (6, "DVI4", 16000),
    (7, "LPC", 8000), (8, "PCMA", 8000), (9, "G722", 8000), (10, "L16-2", 44100), (11, "L16-1", 44100),
    (12, "QCELP", 8000), (13, "CN", 8000), (14, "MPA", 90000), (15, "G728", 8000), (16, "DVI4", 11025),
    (17, "DVI4", 22050), (18, "G729", 8000), (25, "CelB", 90000), (26, "JPEG", 90000), (28, "nv", 90000),
    (31, "H261", 90000), (32, "MPV", 90000), (33, "MP2T", 90000), (34, "H263", 90000)]

/-- The codec of a static payload type. -/
def ofStatic (payloadType : ℤ) : Option Codec :=
  (staticCodecs.find? (·.1 == payloadType)).map fun entry =>
    ⟨literal entry.2.1, entry.2.2, entry.1, [], []⟩

/-- `operator<<` -/
def encode (c : Codec) : Bytes :=
  c.mName ++ 47 :: literal c.mRate.toNat.repr ++
    if c.mEncodingParameters ≠ [] then 47 :: c.mEncodingParameters else []

end Codec

/-- `AttributeHelper`: the attributes in their order. -/
abbrev Attributes := List (Bytes × Bytes)

namespace Attributes

def «exists» (a : Attributes) (key : Bytes) : Bool := a.any (·.1 == key)

def getValues (a : Attributes) (key : Bytes) : List Bytes := (a.filter (·.1 == key)).map Prod.snd

def clearAttribute (a : Attributes) (key : Bytes) : Attributes := a.filter (·.1 != key)

def encode (a : Attributes) : Bytes :=
  a.flatMap fun line =>
    literal "a=" ++ line.1 ++ (if line.2 ≠ [] then 58 :: line.2 else []) ++ literal "\r\n"

end Attributes

def rtpmap : Bytes := literal "rtpmap"

def fmtp : Bytes := literal "fmtp"

structure Medium where
  mName : Bytes
  mPort : ℕ
  mMulticast : ℕ
  mProtocol : Bytes
  mFormats : List Bytes
  mCodecs : List Codec
  mInformation : Bytes
  /-- The lines of `mConnections`, `mBandwidths` and `mEncryption`. -/
  otherLines : Bytes
  mAttributeHelper : Attributes
  mRtpMapDone : Bool
  mRtpMap : ℤ → Option Codec
  /-- The attributes of the session, if there is one. -/
  mSession : Option Attributes

namespace Medium

/-- The formats on the `m=` line. -/
def formats (m : Medium) : List Bytes := m.mFormats ++ m.mCodecs.map fun c => literal c.mPayloadType.repr

/-- The attributes that codecs are written as. -/
def codecAttributes (mCodecs : List Codec) : Attributes :=
  mCodecs.flatMap fun c =>
    (rtpmap, literal c.mPayloadType.repr ++ 32 :: c.encode) ::
      if c.mParameters ≠ [] then [(fmtp, literal c.mPayloadType.repr ++ 32 :: c.mParameters)] else []

def encode (m : Medium) : Bytes :=
  literal "m=" ++ m.mName ++ 32 :: literal m.mPort.repr ++
    (if 1 < m.mMulticast then 47 :: literal m.mMulticast.repr else []) ++ 32 :: m.mProtocol ++
    m.formats.flatMap (fun f => 32 :: f) ++ literal "\r\n" ++
    (if m.mInformation ≠ [] then literal "i=" ++ m.mInformation ++ literal "\r\n" else []) ++ m.otherLines ++
    Attributes.encode (codecAttributes m.mCodecs) ++ m.mAttributeHelper.encode

def «exists» (m : Medium) (key : Bytes) : Bool :=
  m.mAttributeHelper.exists key || (m.mSession.map (Attributes.exists · key)).getD false

/-- Without a session there is an assertion, which is not reached if the key exists. -/
def getValues (m : Medium) (key : Bytes) : List Bytes :=
  if m.mAttributeHelper.exists key then m.mAttributeHelper.getValues key
  else (m.mSession.map (Attributes.getValues · key)).getD []

/-- The values of a key, none if it does not exist. -/
def values (m : Medium) (key : Bytes) : List Bytes := if m.exists key then m.getValues key else []

/-- The first loop of `codecs`; an exception of `integer` ends it. -/
def mapLoop (fmtps : List Bytes) : List Bytes → (ℤ → Option Codec) → Option String × (ℤ → Option Codec)
  | [], mRtpMap => (none, mRtpMap)
  | value :: rest, mRtpMap =>
    match integer (ParseBuffer.ofText value) with
    | .error msg _ => (some msg, mRtpMap)
    | .ok format pb =>
      match Codec.parseMapping pb with
      | .ok mapping _ =>
        mapLoop fmtps rest (Function.update mRtpMap format
          (some (((mRtpMap format).getD .new).mapped mapping format fmtps)))
      | .error _ _ => mapLoop fmtps rest (Function.update mRtpMap format none)

/-- The codec for a format: of its rtpmap, or of its static payload type. -/
def codecOf (fmtps : List Bytes) (mRtpMap : ℤ → Option Codec) (mapKey : ℤ) : Option Codec :=
  match mRtpMap mapKey with
  | some c => some c
  | none => (Codec.ofStatic mapKey).map fun c => c.assignFormatParameters fmtps

/-- `convertInt` of a format. -/
def mapKey (format : Bytes) : ℤ := (Data.convertInt format).toInt

/-- What is thrown, and the medium then. -/
def codecs (m : Medium) : Option String × Medium :=
  if m.mRtpMapDone then (none, m)
  else
    let m := { m with mRtpMapDone := true }
    match mapLoop (m.values fmtp) (m.values rtpmap) m.mRtpMap with
    | (some msg, mRtpMap) => (some msg, { m with mRtpMap })
    | (none, mRtpMap) =>
      (none, { m with
        mRtpMap
        mCodecs := m.mCodecs ++ m.mFormats.filterMap fun f => codecOf (m.values fmtp) mRtpMap (mapKey f)
        mFormats := []
        mAttributeHelper := (m.mAttributeHelper.clearAttribute rtpmap).clearAttribute fmtp })

/-! ### What is written of the formats -/

/-- An rtpmap as it is read: the encoding name, the rate and the encoding parameters. -/
structure Encoding where
  name : Bytes
  rate : ℤ
  parameters : Bytes
  deriving DecidableEq

namespace Encoding

/-- The rate is an `unsigned long`. -/
def Unsigned (e : Encoding) : Prop := 0 ≤ e.rate ∧ e.rate < 2 ^ 64

end Encoding

/-- The encoding a codec is written with. -/
def written (c : Codec) : Encoding := ⟨c.mName, c.mRate.toNat, c.mEncodingParameters⟩

/-- An rtpmap without a rate has the rate zero. -/
def encodingOf (mapping : Codec.Mapping) : Encoding :=
  ⟨mapping.name, mapping.rate.getD 0, mapping.encodingParameters.getD []⟩

/-- An rtpmap with its payload type; `none` behind the payload type is an exception that is caught. -/
def readMapping (value : Bytes) : Option (ℤ × Option Codec.Mapping) :=
  match integer (ParseBuffer.ofText value) with
  | .error _ _ => none
  | .ok format pb =>
    match Codec.parseMapping pb with
    | .ok mapping _ => some (format, some mapping)
    | .error _ _ => some (format, none)

/-- The rtpmaps for a payload type that are written. -/
def Rtpmap (m : Medium) (payloadType : ℤ) (e : Encoding) : Prop :=
  (∃ c ∈ m.mCodecs, c.mPayloadType = payloadType ∧ e = written c) ∨
    ∃ value ∈ m.mAttributeHelper.getValues rtpmap, ∃ mapping, readMapping value = some (payloadType, some mapping) ∧
      e = encodingOf mapping

/-- The texts of the fmtps for a payload type that are written. -/
def Fmtp (m : Medium) (payloadType : ℤ) (text : Bytes) : Prop :=
  text ≠ [] ∧ ((∃ c ∈ m.mCodecs, c.mPayloadType = payloadType ∧ text = c.mParameters) ∨
    ∃ value ∈ m.mAttributeHelper.getValues fmtp,
      Codec.readAll (Codec.parseFormat payloadType) value = some (some text))

/-- The same formats are written, and all the attributes of each. -/
def NothingLost (m m' : Medium) : Prop :=
  m'.formats = m.formats ∧ ∀ f ∈ m.formats,
    (∀ e, m.Rtpmap (mapKey f) e → m'.Rtpmap (mapKey f) e) ∧ ∀ text, m.Fmtp (mapKey f) text → m'.Fmtp (mapKey f) text

end Medium

end Resiprocate.Stack.SdpContents
