import Resiprocate.PaddedZip
import Resiprocate.TransactionTypes
import Resiprocate.Via

/-! The transaction id of a request whose branch has no magic cookie: a digest of the fields that a
retransmission, an ACK or a CANCEL has in common with the request. -/
namespace Resiprocate.Data
open PaddedZip

/-- `operator^=`. What the left side is short of is set to zero. -/
def xorAssign (lhs rhs : List UInt8) : List UInt8 :=
  List.zipWith (· ^^^ ·) (lhs ++ List.replicate (rhs.length - lhs.length) 0) rhs ++ lhs.drop rhs.length

theorem xorAssign_eq_zipLongest : xorAssign = zipLongest (· ^^^ ·) := by
  funext lhs rhs
  exact (zipLongest_eq_padded (fun b => UInt8.zero_xor) lhs rhs).symm

end Resiprocate.Data

namespace Resiprocate.Stack
open Rutil PaddedZip
open Transaction (MethodTypes)
open Uri (UnknownParameter)

namespace ParserCategory
variable {κ : Type} {isLr : κ → Bool} {encode : κ → Bytes}

/-- Known parameters are hashed as they are written, except for `lr`. -/
def commutativeParameterHash (isLr : κ → Bool) (encode : κ → Bytes) (mParameters : List κ)
    (mUnknownParameters : List UnknownParameter) : Bytes :=
  let working := mParameters.foldl
    (fun working p => if isLr p then working else Data.xorAssign working (encode p)) []
  mUnknownParameters.foldl (fun working p => Data.xorAssign working (p.mName ++ p.mValue)) working

/-- The texts that are combined. -/
def hashedTexts (isLr : κ → Bool) (encode : κ → Bytes) (mParameters : List κ)
    (mUnknownParameters : List UnknownParameter) : List Bytes :=
  (mParameters.filter fun p => !isLr p).map encode ++ mUnknownParameters.map fun p => p.mName ++ p.mValue

theorem commutativeParameterHash_eq (mParameters : List κ) (mUnknownParameters : List UnknownParameter) :
    commutativeParameterHash isLr encode mParameters mUnknownParameters =
      (hashedTexts isLr encode mParameters mUnknownParameters).foldl (zipLongest (· ^^^ ·)) [] := by
  have hskip : (fun working p => if isLr p then working else zipLongest (· ^^^ ·) working (encode p)) =
      fun working p => if !isLr p then zipLongest (· ^^^ ·) working (encode p) else working := by
    funext working p
    cases isLr p <;> rfl
  rw [hashedTexts, List.foldl_append, List.foldl_map, List.foldl_map, List.foldl_filter,
    commutativeParameterHash, Data.xorAssign_eq_zipLongest, hskip]

/-- The order of the parameters does not matter. -/
theorem commutativeParameterHash_perm {ps ps' : List κ} {us us' : List UnknownParameter}
    (hps : ps.Perm ps') (hus : us.Perm us') :
    commutativeParameterHash isLr encode ps us = commutativeParameterHash isLr encode ps' us' := by
  rw [commutativeParameterHash_eq, commutativeParameterHash_eq]
  exact foldl_zipLongest_perm (((hps.filter _).map _).append (hus.map _)) []

end ParserCategory

def Uri.commutativeParameterHash {M : Type} (u : Uri M) : Bytes :=
  ParserCategory.commutativeParameterHash (fun p => p.getType = .exists_ .lr) Parameter.encode
    u.mParameters u.mUnknownParameters

/-- There is no `lr` in a `Via`. -/
def Via.commutativeParameterHash (via : Via BranchParameter) : Bytes :=
  ParserCategory.commutativeParameterHash (fun _ => false) (Parameter.encode BranchParameter.encode)
    via.mParameters via.mUnknownParameters

/-- A request with what the hash reads of it. `validateMessage` refuses one whose CSeq has another
method. -/
structure SipRequest (M : Type) where
  uri : Uri M
  method : MethodTypes
  vias : List (Via BranchParameter)
  fromTag : Option Bytes
  toTag : Option Bytes
  callId : Bytes
  cSeqMethod : MethodTypes
  cSeqSequence : UInt32

namespace SipRequest
variable {M : Type} {msg msg' : SipRequest M}

/-- A number as a stream writes it. -/
def number (n : ℤ) : Bytes := literal (toString n)

def hashVia (via : Via BranchParameter) : Bytes :=
  via.mProtocolName ++ via.mProtocolVersion ++ via.mTransport ++ via.mSentHost ++
    number via.mSentPort.toInt ++ via.commutativeParameterHash

/-- What is written to the stream. A method is written as its number. -/
def hashed (msg : SipRequest M) : Bytes :=
  msg.uri.mScheme ++ msg.uri.mUser ++ msg.uri.mHost ++ number msg.uri.mPort.toInt ++
    msg.uri.mPassword ++ msg.uri.commutativeParameterHash ++
    (match msg.vias with
      | [] => []
      | via :: _ => hashVia via) ++
    msg.fromTag.getD [] ++
    (if msg.method ≠ .invite ∧ msg.method ≠ .ack ∧ msg.method ≠ .cancel then msg.toTag.getD [] else []) ++
    msg.callId ++
    (if msg.method = .ack ∨ msg.method = .cancel then
      number MethodTypes.invite.ctorIdx ++ number msg.cSeqSequence.toNat
    else number msg.cSeqMethod.ctorIdx ++ number msg.cSeqSequence.toNat)

def compute2543TransactionHash (md5 : Bytes → Bytes) (msg : SipRequest M) : Bytes := md5 msg.hashed

/-! ### Requests of one transaction -/

/-- The fields are those of the other, the parameters in any order. -/
structure SameUri (u u' : Uri M) : Prop where
  scheme : u.mScheme = u'.mScheme
  user : u.mUser = u'.mUser
  host : u.mHost = u'.mHost
  port : u.mPort = u'.mPort
  password : u.mPassword = u'.mPassword
  parameters : u.mParameters.Perm u'.mParameters
  unknownParameters : u.mUnknownParameters.Perm u'.mUnknownParameters

structure SameVia (via via' : Via BranchParameter) : Prop where
  protocolName : via.mProtocolName = via'.mProtocolName
  protocolVersion : via.mProtocolVersion = via'.mProtocolVersion
  transport : via.mTransport = via'.mTransport
  sentHost : via.mSentHost = via'.mSentHost
  sentPort : via.mSentPort = via'.mSentPort
  parameters : via.mParameters.Perm via'.mParameters
  unknownParameters : via.mUnknownParameters.Perm via'.mUnknownParameters

/-- An INVITE and the ACK or the CANCEL that goes with it. -/
def InviteWith (msg msg' : SipRequest M) : Prop :=
  msg.method = .invite ∧ msg.cSeqMethod = .invite ∧ (msg'.method = .ack ∨ msg'.method = .cancel)

/-- The same method, and the same To tag unless the method is one of a transaction of an INVITE. -/
def SameMethod (msg msg' : SipRequest M) : Prop :=
  msg.method = msg'.method ∧ msg.cSeqMethod = msg'.cSeqMethod ∧
    (msg.method ≠ .invite → msg.method ≠ .ack → msg.method ≠ .cancel → msg.toTag = msg'.toTag)

/-- What RFC 2543 matches by. -/
structure Matches (msg msg' : SipRequest M) : Prop where
  uri : SameUri msg.uri msg'.uri
  topVia : Option.Rel SameVia msg.vias.head? msg'.vias.head?
  fromTag : msg.fromTag = msg'.fromTag
  callId : msg.callId = msg'.callId
  cSeqSequence : msg.cSeqSequence = msg'.cSeqSequence
  method : SameMethod msg msg' ∨ InviteWith msg msg' ∨ InviteWith msg' msg

theorem SameUri.hash {u u' : Uri M} (h : SameUri u u') :
    u.commutativeParameterHash = u'.commutativeParameterHash :=
  ParserCategory.commutativeParameterHash_perm h.parameters h.unknownParameters

theorem SameVia.hash {via via' : Via BranchParameter} (h : SameVia via via') :
    hashVia via = hashVia via' := by
  have hparameters : via.commutativeParameterHash = via'.commutativeParameterHash :=
    ParserCategory.commutativeParameterHash_perm h.parameters h.unknownParameters
  rw [hashVia, hashVia, h.protocolName, h.protocolVersion, h.transport, h.sentHost, h.sentPort, hparameters]

/-- The ids of requests that match are the same. -/
theorem compute2543TransactionHash_matches (md5 : Bytes → Bytes) (h : Matches msg msg') :
    compute2543TransactionHash md5 msg = compute2543TransactionHash md5 msg' := by
  have hvia : (match msg.vias with | [] => [] | via :: _ => hashVia via) =
      match msg'.vias with | [] => [] | via :: _ => hashVia via := by
    have htop := h.topVia
    cases hvias : msg.vias with
    | nil =>
      cases hvias' : msg'.vias with
      | nil => rfl
      | cons via' vias' => simp [hvias, hvias'] at htop
    | cons via vias =>
      cases hvias' : msg'.vias with
      | nil => simp [hvias, hvias'] at htop
      | cons via' vias' =>
        rw [hvias, hvias'] at htop
        cases htop with
        | some hsame => exact hsame.hash
  unfold compute2543TransactionHash hashed
  rw [h.uri.scheme, h.uri.user, h.uri.host, h.uri.port, h.uri.password, h.uri.hash, hvia, h.fromTag,
    h.callId, h.cSeqSequence]
  rcases h.method with ⟨hmethod, hcSeq, htag⟩ | ⟨hinvite, hcSeq, hother⟩ | ⟨hinvite, hcSeq, hother⟩
  · rw [hmethod] at htag
    rw [hmethod, hcSeq]
    by_cases htagged : msg'.method ≠ .invite ∧ msg'.method ≠ .ack ∧ msg'.method ≠ .cancel
    · rw [if_pos htagged, if_pos htagged, htag htagged.1 htagged.2.1 htagged.2.2]
    · rw [if_neg htagged, if_neg htagged]
  · rcases hother with hother | hother <;> simp [hinvite, hcSeq, hother]
  · rcases hother with hother | hother <;> simp [hinvite, hcSeq, hother]

/-- A request from `alice` to a `Uri` and over a `Via` with parameters. -/
def sample (method : MethodTypes) (uriParameters : List Uri.Parameter)
    (viaParameters : List (Via.Parameter BranchParameter)) (unknownParameters : List UnknownParameter) :
    SipRequest Unit where
  uri := { (Uri.new : Uri Unit) with
    mUser := literal "bob"
    mHost := literal "example.com"
    mParameters := uriParameters }
  method := method
  vias := [⟨literal "SIP", literal "2.0", literal "UDP", literal "10.0.0.1", 5060, viaParameters,
    unknownParameters⟩]
  fromTag := some (literal "alice")
  toTag := none
  callId := literal "1"
  cSeqMethod := method
  cSeqSequence := 1

/-- An INVITE and its ACK with the parameters in another order. -/
theorem compute2543TransactionHash_ack :
    compute2543TransactionHash id (sample .invite [.uInt32 .ttl 1, .exists_ .ob true]
        [.ttl 1, .rport 0 false] [⟨literal "a", literal "b", false⟩, ⟨literal "c", [], false⟩]) =
      compute2543TransactionHash id (sample .ack [.exists_ .ob true, .uInt32 .ttl 1]
        [.rport 0 false, .ttl 1] [⟨literal "c", [], false⟩, ⟨literal "a", literal "b", false⟩]) :=
  compute2543TransactionHash_matches id
    { uri := ⟨rfl, rfl, rfl, rfl, rfl, List.Perm.swap _ _ _, List.Perm.refl _⟩
      topVia := .some ⟨rfl, rfl, rfl, rfl, rfl, List.Perm.swap _ _ _, List.Perm.swap _ _ _⟩
      fromTag := rfl
      callId := rfl
      cSeqSequence := rfl
      method := .inr (.inl ⟨rfl, rfl, .inl rfl⟩) }

end SipRequest
end Resiprocate.Stack
