import Resiprocate.Base64
import Resiprocate.DecimalCoding
import Resiprocate.DecimalTexts
import Resiprocate.FlowToken
import Resiprocate.XmlCharData

/-! A registered contact as XML. The element is its leaves, each a tag with its text, which the cursor
gives back as they were written. -/
namespace Resiprocate.Data
open Rutil HeldBytes

/-- `xmlCharDataDecode` of a string that is followed by other bytes in memory; `none` if it does not end. -/
def xmlCharDataDecode (following : ℕ → UInt8) (d : List UInt8) : Option (List UInt8) :=
  xmlCharDataDecodeLoop (followedBy d following) d.length (d.length + 1) 0 0

end Resiprocate.Data

namespace Resiprocate.Dum.Streams
open Rutil Transports Data

structure NameAddr (U P : Type) where
  mAllContacts : Bool
  mUri : U
  mDisplayName : Rutil.Bytes
  mParameters : P
  deriving DecidableEq

/-- What is written of a `NameAddr` or of its URI alone by `Data::from`, and what `NameAddr(const Data&)`
makes of a text; `none` is an exception. A text has a star or a colon at least. -/
structure NameAddrTexts (U P : Type) where
  new : NameAddr U P
  encode : NameAddr U P → Rutil.Bytes
  encodeUri : U → Rutil.Bytes
  parse : Rutil.Bytes → Option (NameAddr U P)
  encode_ne : ∀ a, encode a ≠ []
  encodeUri_ne : ∀ u, encodeUri u ≠ []

structure ContactInstanceRecord (U P : Type) where
  mContact : NameAddr U P
  mRegExpires : UInt64
  mLastUpdated : UInt64
  mReceivedFrom : Tuple
  mPublicAddress : Tuple
  mSipPath : List (NameAddr U P)
  mInstance : Rutil.Bytes
  mRegId : UInt32
  mUserAgent : Rutil.Bytes
  /-- `none` is a null pointer. -/
  mUserData : Option Rutil.Bytes
  deriving DecidableEq

/-- The tags of the leaves. -/
inductive ContactTag
  | contacturi | expires | lastupdate | receivedfrom | publicaddress | sippath | instanceId | regid | useragent
  | userdata
  deriving DecidableEq

namespace ContactTag

def text : ContactTag → Rutil.Bytes
  | contacturi => literal "contacturi"
  | expires => literal "expires"
  | lastupdate => literal "lastupdate"
  | receivedfrom => literal "receivedfrom"
  | publicaddress => literal "publicaddress"
  | sippath => literal "sippath"
  | instanceId => literal "instance"
  | regid => literal "regid"
  | useragent => literal "useragent"
  | userdata => literal "userdata"

/-- In the order of the comparisons in `deserialize`. -/
def compared : List ContactTag :=
  [contacturi, expires, lastupdate, receivedfrom, publicaddress, sippath, instanceId, regid, useragent, userdata]

/-- The first tag that is equal, in any case of the letters. -/
def ofText (tag : Rutil.Bytes) : Option ContactTag := compared.find? fun t => isEqualNoCase tag t.text

end ContactTag

/-- A tag and the text below it. -/
abbrev Leaf := Rutil.Bytes × Rutil.Bytes

/-- What the machine and the library add: the order of bytes, MD5, and what is in memory behind a text. -/
structure Machine where
  big : Bool
  md5 : Rutil.Bytes → Vector UInt8 16
  following : ℕ → UInt8

namespace ContactInstanceRecord
variable {U P : Type} (texts : NameAddrTexts U P) (machine : Machine)

/-- `ContactInstanceRecord()` -/
def new (now : UInt64) : ContactInstanceRecord U P where
  mContact := texts.new
  mRegExpires := 0
  mLastUpdated := now
  mReceivedFrom := .empty
  mPublicAddress := .empty
  mSipPath := []
  mInstance := []
  mRegId := 0
  mUserAgent := []
  mUserData := none

def tupleText (tuple : Tuple) : Rutil.Bytes :=
  base64encode false (tuple.writeBinaryToken machine.big machine.md5 [])

/-- The user data are written as they are. -/
def userDataLeaves : Option Rutil.Bytes → List Leaf
  | some mUserData => if mUserData ≠ [] then [(ContactTag.userdata.text, mUserData)] else []
  | none => []

/-- The leaves of `contactinfo` that `stream` writes. -/
def stream (now : UInt64) (r : ContactInstanceRecord U P) : List Leaf :=
  [(ContactTag.contacturi.text, xmlCharDataEncode (texts.encode r.mContact)),
    (ContactTag.expires.text, literal (if r.mRegExpires = 0 ∨ r.mRegExpires ≤ now then 0
      else r.mRegExpires - now).toNat.repr),
    (ContactTag.lastupdate.text, literal (now - r.mLastUpdated).toNat.repr)] ++
  (if r.mReceivedFrom.mPort ≠ 0 then [(ContactTag.receivedfrom.text, tupleText machine r.mReceivedFrom)] else []) ++
  (if r.mPublicAddress.mTransportType ≠ .UNKNOWN_TRANSPORT then
    [(ContactTag.publicaddress.text, tupleText machine r.mPublicAddress)] else []) ++
  r.mSipPath.map (fun p => (ContactTag.sippath.text, xmlCharDataEncode (texts.encodeUri p.mUri))) ++
  (if r.mInstance ≠ [] then [(ContactTag.instanceId.text, xmlCharDataEncode r.mInstance)] else []) ++
  (if r.mRegId ≠ 0 then [(ContactTag.regid.text, literal r.mRegId.toNat.repr)] else []) ++
  (if r.mUserAgent ≠ [] then [(ContactTag.useragent.text, xmlCharDataEncode r.mUserAgent)] else []) ++
  userDataLeaves r.mUserData

def makeTuple (value : Rutil.Bytes) : Tuple :=
  .makeTupleFromBinaryToken machine.big machine.md5 (base64decode value) []

/-- The branches of the loop in `deserialize`, with `success`. -/
def readTag (now : UInt64) (s : Bool × ContactInstanceRecord U P) (tag : ContactTag) (value : Rutil.Bytes) :
    Option (Bool × ContactInstanceRecord U P) :=
  match tag with
  | .contacturi => do
    let text ← xmlCharDataDecode machine.following value
    let mContact ← texts.parse text
    some (true, { s.2 with mContact })
  | .expires =>
    let expires := convertUInt64 value
    some (s.1, { s.2 with mRegExpires := if expires = 0 then 0 else now + expires })
  | .lastupdate => some (s.1, { s.2 with mLastUpdated := now - convertUInt64 value })
  | .receivedfrom => some (s.1, { s.2 with mReceivedFrom := makeTuple machine value })
  | .publicaddress => some (s.1, { s.2 with mPublicAddress := makeTuple machine value })
  | .sippath => do
    let text ← xmlCharDataDecode machine.following value
    let p ← texts.parse text
    some (s.1, { s.2 with mSipPath := s.2.mSipPath ++ [p] })
  | .instanceId => do
    let mInstance ← xmlCharDataDecode machine.following value
    some (s.1, { s.2 with mInstance })
  | .regid => some (s.1, { s.2 with mRegId := (convertUnsignedLong value).toUInt32 })
  | .useragent => do
    let mUserAgent ← xmlCharDataDecode machine.following value
    some (s.1, { s.2 with mUserAgent })
  | .userdata => do
    let mUserData ← xmlCharDataDecode machine.following value
    some (s.1, { s.2 with mUserData := some mUserData })

/-- One turn of the loop. A tag that is not known is skipped, and a leaf without a text has no child. -/
def readLeaf (now : UInt64) (s : Bool × ContactInstanceRecord U P) (leaf : Leaf) :
    Option (Bool × ContactInstanceRecord U P) :=
  match ContactTag.ofText leaf.1 with
  | none => some s
  | some tag => if leaf.2 = [] then some s else readTag texts machine now s tag leaf.2

/-- `deserialize` at a `contactinfo`; the time is read if it was given as zero. -/
def deserialize (getTimeSecs now : UInt64) (leaves : List Leaf) : Option (Bool × ContactInstanceRecord U P) :=
  let start := (false, new texts getTimeSecs)
  let now := if now ≤ 0 then getTimeSecs else now
  leaves.foldlM (readLeaf texts machine now) start

end ContactInstanceRecord

end Resiprocate.Dum.Streams
