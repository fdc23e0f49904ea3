import Mathlib
import Resiprocate.StunFrame

/-! What the sender computes is what the receiver checks. -/
namespace Resiprocate.ReTurn
open BigEndian (value)
open Tlv (Record fill area)

namespace StunMessage

/-- Bytes that are records, none of which is a message integrity or a fingerprint. -/
def Plain (bytes : Data) : Prop :=
  ∃ rs, bytes = area rs ∧
    ∀ r ∈ rs, r.type ≠ Attr.code .messageIntegrity ∧ r.type ≠ Attr.code .fingerprint

namespace Plain

theorem nil : Plain [] := ⟨[], rfl, by simp⟩

theorem append {bytes bytes' : Data} (h : Plain bytes) (h' : Plain bytes') :
    Plain (bytes ++ bytes') := by
  obtain ⟨rs, rfl, hrs⟩ := h
  obtain ⟨rs', rfl, hrs'⟩ := h'
  refine ⟨rs ++ rs', (Tlv.area_append rs rs').symm, fun r hr => ?_⟩
  obtain hr | hr := List.mem_append.mp hr
  · exact hrs r hr
  · exact hrs' r hr

theorem flatMap {β : Type} {l : List β} {f : β → Data} (h : (l.flatMap f).length < 256 ^ 2)
    (hf : ∀ x ∈ l, (f x).length < 256 ^ 2 → Plain (f x)) : Plain (l.flatMap f) := by
  induction l with
  | nil => exact nil
  | cons x l ih =>
    rw [List.flatMap_cons, List.length_append] at h
    exact (hf x (by simp) (by omega)).append (ih (by omega) fun y hy => hf y (by simp [hy]))

/-- An attribute that is short enough for its length field. -/
theorem encodeAtr {type : UInt16} {length : ℕ} {content : Data}
    (htype : type ≠ Attr.code .messageIntegrity ∧ type ≠ Attr.code .fingerprint)
    (hlt : length < 256 ^ 2) (hcontent : content.length = length + fill length) :
    Plain (encodeAtr type length content) := by
  refine ⟨[⟨type, length, content, hlt, hcontent⟩], ?_, ?_⟩
  · rw [Tlv.area_cons, Tlv.area_nil, List.append_nil]
    rfl
  · intro r hr
    obtain rfl := List.mem_singleton.mp hr
    exact htype

section Kinds
variable {type : UInt16} (htype : type ≠ Attr.code .messageIntegrity ∧ type ≠ Attr.code .fingerprint)
include htype

theorem uInt32 (value : UInt32) : Plain (encodeAtrUInt32 type value) :=
  encodeAtr htype (by norm_num) (BigEndian.length_bytes 4 _)

theorem uInt64 (value : UInt64) : Plain (encodeAtrUInt64 type value) :=
  encodeAtr htype (by norm_num) (BigEndian.length_bytes 8 _)

theorem address (atr : StunAtrAddress) : Plain (encodeAtrAddress type atr) := by
  cases atr with
  | ipv4 port addr => exact encodeAtr htype (by norm_num) (by simp [encode16, encode32, fill])
  | ipv6 port addr => exact encodeAtr htype (by norm_num) (by simp [encode16, fill])

theorem string (atr : Data) {maxBytes : ℕ} (hmax : maxBytes < 256 ^ 2) :
    Plain (encodeAtrString type atr maxBytes) := by
  refine encodeAtr htype ?_ ?_
  · split_ifs <;> omega
  · rw [List.length_append, length_zeros, List.length_take]
    split_ifs <;> omega

end Kinds

theorem turnData {td : Data} (h : (encodeTurnData td).length < 256 ^ 2) :
    Plain (encodeTurnData td) := by
  rw [encodeTurnData, length_encodeAtr, List.length_append] at h
  exact encodeAtr (by decide) (by omega) (by rw [List.length_append, length_zeros])

theorem error {atr : StunAtrError} (h : (encodeAtrError atr).length < 256 ^ 2) :
    Plain (encodeAtrError atr) := by
  simp only [encodeAtrError, length_encodeAtr, List.length_append, List.length_cons,
    List.length_nil] at h
  have hmod : atr.reason.length % 2 ^ 16 = atr.reason.length := Nat.mod_eq_of_lt (by omega)
  rw [encodeAtrError, hmod]
  refine encodeAtr (by decide) (by omega) ?_
  simp only [List.length_append, length_zeros, List.length_cons, List.length_nil, fill,
    Nat.add_mod_left]

theorem unknown {stale : Vector UInt8 2} {attrTypes : List UInt16}
    (h : (encodeAtrUnknown stale attrTypes).length < 256 ^ 2) :
    Plain (encodeAtrUnknown stale attrTypes) := by
  have hlen : (attrTypes.flatMap fun attrType => encode16 attrType.toNat).length =
      2 * attrTypes.length := by
    simp [List.length_flatMap, encode16, Nat.mul_comm]
  have hfill : fill (2 * attrTypes.length) ≤ 2 := by
    unfold fill
    split_ifs <;> omega
  have hcontent : (attrTypes.flatMap (fun attrType => encode16 attrType.toNat) ++
      stale.toList.take (fill (2 * attrTypes.length))).length =
        2 * attrTypes.length + fill (2 * attrTypes.length) := by
    rw [List.length_append, hlen, List.length_take, Vector.length_toList, min_eq_left hfill]
  rw [encodeAtrUnknown, length_encodeAtr, hcontent] at h
  exact encodeAtr (by decide) (by omega) hcontent

theorem evenPort (propType : UInt8) : Plain (encodeAtrEvenPort propType) :=
  encodeAtr (by decide) (by norm_num) (by simp [encode16, fill])

theorem ofAttribute {magicCookieAndTid : Vector UInt8 16} {stale : Vector UInt8 2} {a : Attr}
    {v : a.Value} (ha : a ≠ .messageIntegrity ∧ a ≠ .fingerprint)
    (h : (encodeAttribute magicCookieAndTid stale a.code a.kind v).length < 256 ^ 2) :
    Plain (encodeAttribute magicCookieAndTid stale a.code a.kind v) := by
  cases a with
  | mappedAddress | responseAddress | sourceAddress | changedAddress | reflectedFrom
  | alternateServer | secondaryAddress => exact address (by decide) v
  | xorMappedAddress | turnXorRelayedAddress =>
    exact address (by decide) (applyXorToAddress magicCookieAndTid v)
  | changeRequest | turnLifetime | turnBandwidth | turnConnectStat | icePriority =>
    exact uInt32 (by decide) v
  | turnReservationToken | iceControlled | iceControlling => exact uInt64 (by decide) v
  | turnChannelNumber => exact uInt32 (by decide) ((show UInt16 from v).toUInt32 <<< 16)
  | turnRequestedTransport => exact uInt32 (by decide) ((show UInt8 from v).toUInt32 <<< 24)
  | username | password | realm | nonce | software => exact string (by decide) v (by norm_num)
  | turnData => exact turnData h
  | errorCode => exact error h
  | unknownAttribute => exact unknown h
  | turnEvenPort => exact evenPort v
  | turnDontFragment | iceUseCandidate => exact encodeAtr (by decide) (by norm_num) rfl
  | messageIntegrity => exact absurd rfl ha.1
  | fingerprint => exact absurd rfl ha.2

end Plain

theorem encodeIfSet_plain {stale : Vector UInt8 2} {m : StunMessage} {a : Attr}
    (ha : a ≠ .messageIntegrity ∧ a ≠ .fingerprint)
    (h : (m.encodeIfSet stale a).length < 256 ^ 2) : Plain (m.encodeIfSet stale a) := by
  unfold encodeIfSet at h ⊢
  split
  case h_1 v heq =>
    rw [heq] at h
    exact Plain.ofAttribute ha h
  case h_2 => exact Plain.nil

theorem encodeRequestedAddressFamily_plain {m : StunMessage} :
    Plain m.encodeRequestedAddressFamily := by
  unfold encodeRequestedAddressFamily
  split
  · exact Plain.uInt32 (by decide) _
  · exact Plain.nil

theorem encodeAttributes_plain {stale : Vector UInt8 2} {m : StunMessage}
    (h : (m.encodeAttributes stale).length < 256 ^ 2) : Plain (m.encodeAttributes stale) := by
  unfold encodeAttributes at h ⊢
  simp only [List.length_append] at h
  have hattrs (l : List Attr) (hl : ∀ a ∈ l, a ≠ .messageIntegrity ∧ a ≠ .fingerprint)
      (hlen : (l.flatMap (m.encodeIfSet stale)).length < 256 ^ 2) :
      Plain (l.flatMap (m.encodeIfSet stale)) :=
    Plain.flatMap hlen fun a ha hsize => encodeIfSet_plain (hl a ha) hsize
  have hpeers : Plain m.encodePeers :=
    Plain.flatMap (by unfold encodePeers at h; omega) fun address _ _ =>
      Plain.address (by decide) (applyXorToAddress m.magicCookieAndTid address)
  exact (hattrs firstAttrs (by decide) (by omega)).append (hpeers.append
    ((hattrs middleAttrs (by decide) (by omega)).append
      (encodeRequestedAddressFamily_plain.append (hattrs lastAttrs (by decide) (by omega)))))

theorem parseAttribute_mBuffer {msgLength : ℕ} {m m' : StunMessage} {atrType : UInt16} {body : Data}
    {attrLen : ℕ} (h : parseAttribute msgLength m atrType body attrLen = .ok m') :
    m'.mBuffer = m.mBuffer := by
  obtain ⟨_, rfl⟩ | ⟨_, _, _, _, _, rfl⟩ | ⟨_, _, _, _, rfl⟩ | ⟨_, _, _, _, rfl⟩ :=
    parseAttribute_cases h <;> rfl

theorem runRecords_mBuffer {msgLength : ℕ} {m m' : StunMessage} {rs : List Record} {rest : Data}
    (h : runRecords msgLength m rs rest = .ok m') : m'.mBuffer = m.mBuffer := by
  induction rs generalizing m with
  | nil =>
    cases h
    rfl
  | cons r rs ih =>
    obtain ⟨m₁, hattr, hrest⟩ := Parse.bind_eq_ok.mp h
    rw [ih hrest, parseAttribute_mBuffer hattr]

section Sent
variable {msgLength : ℕ} {m m' : StunMessage} {rest : Data}

theorem keep_eq_set {a : Attr} {v : a.Value} {position : ℕ} (ha : a ≠ .messageIntegrity) :
    m.keep a v position = m.set a v := by
  rw [keep, if_neg ha]
  rfl

/-- An attribute that is not there yet and is written so that it can be read is kept. -/
theorem attributes_encodes {a : Attr} {bytes : Data} {v : a.Value} (ha : a ≠ .messageIntegrity)
    (hnone : m.attrs a = none) (h : Encodes bytes a.code (parseValue m.magicCookieAndTid a.kind) v) :
    attributes msgLength m (bytes ++ rest) = attributes msgLength (m.set a v) rest := by
  obtain ⟨r, rfl, htype, hparse⟩ := h
  rw [attributes_record, htype, parseAttribute_known (attrOfCode_code a) hnone, hparse]
  simp only [Parse.ok_bind, keep_eq_set ha]

/-- The message integrity is kept with its position. -/
theorem attributes_integrity {hash : Vector UInt8 20} (hnone : m.attrs .messageIntegrity = none)
    (hlen : 20 + rest.length ≤ msgLength) :
    attributes msgLength m (encodeAtrIntegrity hash ++ rest) =
      attributes msgLength (m.keep .messageIntegrity hash (msgLength - rest.length)) rest := by
  have hcontent : hash.toList.length = 20 := by simp
  let r : Record := ⟨Attr.code .messageIntegrity, 20, hash.toList, by norm_num, by simp [fill]⟩
  have hposition : msgLength - (hash.toList ++ rest).length + 20 = msgLength - rest.length := by
    rw [List.length_append, hcontent]
    omega
  have hattr : parseAttribute msgLength m r.type (r.content ++ rest) r.length =
      .ok (m.keep .messageIntegrity hash (msgLength - rest.length)) := by
    show parseAttribute msgLength m (Attr.code .messageIntegrity) (hash.toList ++ rest) 20 = _
    rw [parseAttribute_messageIntegrity hnone, stunParseAtrIntegrity_append hcontent, Parse.ok_bind,
      vectorOf_toList, hposition]
  have hbytes : encodeAtrIntegrity hash = r.bytes := rfl
  rw [hbytes, attributes_record, hattr, Parse.ok_bind]

theorem attributes_fingerprint {fingerprint : UInt32} (hnone : m.attrs .fingerprint = none) :
    attributes msgLength m (encodeAtrUInt32 (Attr.code .fingerprint) fingerprint) =
      .ok (m.set .fingerprint fingerprint) := by
  have h : attributes msgLength m (encodeAtrUInt32 (Attr.code .fingerprint) fingerprint ++ []) =
      attributes msgLength (m.set .fingerprint fingerprint) [] :=
    attributes_encodes nofun hnone (encodes_uInt32 _ fingerprint)
  rwa [List.append_nil, attributes_nil] at h

theorem length_encodeAtrIntegrity {hash : Vector UInt8 20} :
    (encodeAtrIntegrity hash).length = 24 := by
  rw [encodeAtrIntegrity, length_encodeAtr, Vector.length_toList]

theorem length_encodeAtrUInt32 {type : UInt16} {x : UInt32} :
    (encodeAtrUInt32 type x).length = 8 := by
  rw [encodeAtrUInt32, length_encodeAtr, encode32, BigEndian.length_bytes]

def setTo (m : StunMessage) (a : Attr) (value : Option a.Value) : StunMessage :=
  { m with attrs := Function.update m.attrs a value }

theorem setTo_none {a : Attr} (hnone : m.attrs a = none) : m.setTo a none = m := by
  rw [setTo, ← hnone, Function.update_eq_self]

theorem setTo_attrs_self {a : Attr} {value : Option a.Value} : (m.setTo a value).attrs a = value := by
  simp [setTo]

theorem setTo_attrs_of_ne {a b : Attr} {value : Option a.Value} (h : b ≠ a) :
    (m.setTo a value).attrs b = m.attrs b := by
  simp [setTo, h]

/-- The message with the attributes that the sender has computed. -/
def withComputed (m : StunMessage) (integrity : Option (Vector UInt8 20)) (position : ℕ)
    (fingerprint : Option UInt32) : StunMessage :=
  { (m.setTo .messageIntegrity integrity).setTo .fingerprint fingerprint with
    mMessageIntegrityMsgLength :=
      if integrity.isSome then UInt16.ofNat position else m.mMessageIntegrityMsgLength }

theorem attributes_fingerprintBytes {fingerprint : Option UInt32}
    (hfp : m.attrs .fingerprint = none) :
    attributes msgLength m (fingerprintBytes fingerprint) =
      .ok (m.setTo .fingerprint fingerprint) := by
  cases fingerprint with
  | none => exact congrArg Except.ok (setTo_none hfp).symm
  | some fingerprint => exact attributes_fingerprint hfp

theorem attributes_computed {integrity : Option (Vector UInt8 20)} {fingerprint : Option UInt32}
    (hmi : m.attrs .messageIntegrity = none) (hfp : m.attrs .fingerprint = none)
    (hlen : (integrityBytes integrity ++ fingerprintBytes fingerprint).length ≤ msgLength) :
    attributes msgLength m (integrityBytes integrity ++ fingerprintBytes fingerprint) =
      .ok (m.withComputed integrity (msgLength - (fingerprintBytes fingerprint).length)
        fingerprint) := by
  rw [List.length_append] at hlen
  cases integrity with
  | none =>
    have hsame : m.setTo .messageIntegrity none = m := setTo_none hmi
    have hcomputed : m.withComputed none (msgLength - (fingerprintBytes fingerprint).length)
        fingerprint = (m.setTo .messageIntegrity none).setTo .fingerprint fingerprint := rfl
    rw [integrityBytes, List.nil_append, hcomputed, hsame]
    exact attributes_fingerprintBytes hfp
  | some hash =>
    rw [integrityBytes, length_encodeAtrIntegrity] at hlen
    rw [integrityBytes, attributes_integrity hmi (by omega)]
    exact attributes_fingerprintBytes ((keep_attrs_of_ne (by decide)).trans hfp)

end Sent

section Checks
variable {computeHmac : Data → Data → Vector UInt8 20} {crc32 : Data → UInt32}
  {stale : Vector UInt8 2} {m : StunMessage}

/-- The lengths that the encoder writes, when the message fits into 16 bits. -/
theorem toNat_integritySize (hmi : m.has .messageIntegrity = true)
    (h : (m.encodeAttributes stale).length + 24 < 2 ^ 16) :
    (m.integritySize stale).toNat = (m.encodeAttributes stale).length + 24 := by
  rw [integritySize, if_pos hmi, UInt16.toNat_add, UInt16.toNat_ofNat',
    Nat.mod_eq_of_lt (by omega : (m.encodeAttributes stale).length < 2 ^ 16)]
  exact Nat.mod_eq_of_lt h

/-- An accepted message that was sent: the parser has run over its attributes, and then
kept what was computed. -/
theorem ofBuffer_sent {localTuple remoteTuple : StunTuple} {parsed : StunMessage}
    (h : ofBuffer localTuple remoteTuple (stunEncodeMessage computeHmac crc32 stale m) = .ok parsed) :
    (m.encodeAttributes stale ++ (integrityBytes (m.computedIntegrity computeHmac stale) ++
      fingerprintBytes (m.computedFingerprint computeHmac crc32 stale))).length < 2 ^ 16 ∧
    parsed.mBuffer = stunEncodeMessage computeHmac crc32 stale m ∧
    ∃ m₁ : StunMessage,
      parsed = m₁.withComputed (m.computedIntegrity computeHmac stale)
        ((m.encodeAttributes stale).length +
          (integrityBytes (m.computedIntegrity computeHmac stale)).length)
        (m.computedFingerprint computeHmac crc32 stale) := by
  rw [stunEncodeMessage_eq] at h ⊢
  rw [ofBuffer_eq] at h
  split_ifs at h with hfits
  have hsize := headerFits_frame.mp hfits
  have hlt := (m.messageSize stale).toNat_lt
  rw [headerLength_frame, hsize, frame_drop] at h
  rw [hsize] at hlt
  generalize m.computedIntegrity computeHmac stale = integrity at *
  generalize m.computedFingerprint computeHmac crc32 stale = fingerprint at *
  refine ⟨hlt, ?_⟩
  have hplain : Plain (m.encodeAttributes stale) :=
    encodeAttributes_plain (by rw [List.length_append] at hlt; omega)
  obtain ⟨rs, hrs, htypes⟩ := hplain
  generalize m.encodeAttributes stale = attributes at *
  subst hrs
  rw [attributes_append, Parse.bind_eq_ok] at h
  obtain ⟨m₁, hrun, hlast⟩ := h
  have htracks := received_tracks.run hrun
  have hnone {a : Attr} (ha : a = .messageIntegrity ∨ a = .fingerprint) : m₁.attrs a = none := by
    by_contra hset
    obtain ⟨t, ht, hcode⟩ := (htracks.attrs a).mp hset
    obtain ⟨r, hr, rfl⟩ := List.mem_map.mp (by simpa using ht)
    obtain rfl | rfl := ha
    · exact (htypes r hr).1 (attrOfCode_eq_some hcode nofun)
    · exact (htypes r hr).2 (attrOfCode_eq_some hcode nofun)
  rw [attributes_computed (hnone (.inl rfl)) (hnone (.inr rfl))
    (by simp only [List.length_append]; omega)] at hlast
  have hparsed := (Except.ok.inj hlast).symm
  refine ⟨?_, m₁, ?_⟩
  · rw [hparsed]
    exact runRecords_mBuffer hrun
  · rw [hparsed, List.length_append, List.length_append, ← Nat.add_assoc, Nat.add_sub_cancel]

theorem setTo_setTo_attrs {a b : Attr} {value : Option a.Value} {value' : Option b.Value}
    (h : a ≠ b) : ((m.setTo a value).setTo b value').attrs a = value := by
  rw [setTo_attrs_of_ne h, setTo_attrs_self]

theorem withComputed_integrity {integrity : Option (Vector UInt8 20)} {position : ℕ}
    {fingerprint : Option UInt32} :
    (m.withComputed integrity position fingerprint).attrs .messageIntegrity = integrity := by
  have h : ((m.setTo .messageIntegrity integrity).setTo .fingerprint fingerprint).attrs
      .messageIntegrity = integrity := setTo_setTo_attrs (by decide)
  exact h

theorem withComputed_fingerprint {integrity : Option (Vector UInt8 20)} {position : ℕ}
    {fingerprint : Option UInt32} :
    (m.withComputed integrity position fingerprint).attrs .fingerprint = fingerprint := by
  have h : ((m.setTo .messageIntegrity integrity).setTo .fingerprint fingerprint).attrs .fingerprint =
      fingerprint := setTo_attrs_self
  exact h

theorem withComputed_attrs {integrity : Option (Vector UInt8 20)} {position : ℕ}
    {fingerprint : Option UInt32} {a : Attr} (hmi : a ≠ .messageIntegrity)
    (hfp : a ≠ .fingerprint) :
    (m.withComputed integrity position fingerprint).attrs a = m.attrs a := by
  have h : ((m.setTo .messageIntegrity integrity).setTo .fingerprint fingerprint).attrs a =
      m.attrs a := (setTo_attrs_of_ne hfp).trans (setTo_attrs_of_ne hmi)
  exact h

/-- The check puts the length field to what it was for the sender, and back. -/
theorem checkMessageIntegrity_frame {parsed : StunMessage} {hash : Vector UInt8 20} {key : Data}
    {msgSize position : UInt16} {attributes rest : Data}
    (hbuffer : parsed.mBuffer = m.frame msgSize (attributes ++ rest))
    (hposition : parsed.mMessageIntegrityMsgLength = position)
    (hlen : position.toNat = attributes.length + 24)
    (hhash : parsed.attrs .messageIntegrity = some hash) :
    parsed.checkMessageIntegrity computeHmac key =
      (decide (hash = computeHmac (m.frame position attributes) key), parsed) := by
  have htake : (m.frame position (attributes ++ rest)).take (position.toNat - 24 + 20) =
      m.frame position attributes := by
    rw [frame_append, hlen, Nat.add_sub_cancel, Nat.add_comm, ← length_frame, List.take_left]
  simp only [checkMessageIntegrity, hhash, hbuffer, hposition, setLength_frame, frame_length, htake]
  cases parsed
  simp_all

theorem checkMessageIntegrity_sent {localTuple remoteTuple : StunTuple} {parsed : StunMessage}
    (hmi : m.has .messageIntegrity = true)
    (h : ofBuffer localTuple remoteTuple (stunEncodeMessage computeHmac crc32 stale m) = .ok parsed) :
    parsed.checkMessageIntegrity computeHmac m.mHmacKey = (true, parsed) := by
  obtain ⟨hlt, hbuffer, m₁, hparsed⟩ := ofBuffer_sent h
  have hcomputed : m.computedIntegrity computeHmac stale =
      some (computeHmac (m.frame (m.integritySize stale) (m.encodeAttributes stale)) m.mHmacKey) :=
    if_pos hmi
  have hhash : parsed.attrs .messageIntegrity = m.computedIntegrity computeHmac stale := by
    rw [hparsed]
    exact withComputed_integrity
  rw [stunEncodeMessage_eq] at hbuffer
  rw [hcomputed] at hlt hparsed
  simp only [List.length_append, integrityBytes, length_encodeAtrIntegrity] at hlt hparsed
  have hsize : (m.integritySize stale).toNat = (m.encodeAttributes stale).length + 24 :=
    toNat_integritySize hmi (by omega)
  have hposition : parsed.mMessageIntegrityMsgLength = m.integritySize stale := by
    rw [hparsed, ← hsize]
    exact UInt16.ofNat_toNat
  rw [checkMessageIntegrity_frame hbuffer hposition hsize (hhash.trans hcomputed),
    decide_eq_true rfl]

theorem checkFingerprint_sent {localTuple remoteTuple : StunTuple} {parsed : StunMessage}
    (h : ofBuffer localTuple remoteTuple (stunEncodeMessage computeHmac crc32 stale m) = .ok parsed) :
    parsed.checkFingerprint crc32 = true := by
  obtain ⟨hlt, hbuffer, m₁, hparsed⟩ := ofBuffer_sent h
  have hkept : parsed.attrs .fingerprint = m.computedFingerprint computeHmac crc32 stale := by
    rw [hparsed]
    exact withComputed_fingerprint
  rw [stunEncodeMessage_eq, ← List.append_assoc, frame_append] at hbuffer
  generalize hcovered : m.frame (m.messageSize stale) (m.encodeAttributes stale ++
    integrityBytes (m.computedIntegrity computeHmac stale)) = covered at hbuffer
  by_cases hfp : m.has .fingerprint = true
  · have hcomputed : m.computedFingerprint computeHmac crc32 stale =
        some (crc32 covered ^^^ stunCrcFinalXor) := by
      rw [← hcovered]
      exact if_pos hfp
    rw [hcomputed] at hkept hbuffer
    have htake : parsed.mBuffer.take (parsed.mBuffer.length - 8) = covered := by
      rw [hbuffer, fingerprintBytes, List.length_append, length_encodeAtrUInt32, Nat.add_sub_cancel,
        List.take_left]
    simp only [checkFingerprint, hkept, htake, decide_true]
  · have hcomputed : m.computedFingerprint computeHmac crc32 stale = none := if_neg hfp
    rw [hcomputed] at hkept
    simp only [checkFingerprint, hkept]

end Checks

end StunMessage

end Resiprocate.ReTurn
