import Mathlib
import Resiprocate.StunChecks

/-! What the encoder writes is what the parser reads. -/
namespace Resiprocate.ReTurn
open BigEndian (value)
open Tlv (Record fill area)

namespace StunMessage

section Attributes
variable (stale : Vector UInt8 2)

theorem encodes_attribute (magicCookieAndTid : Vector UInt8 16) (a : Attr) (v : a.Value)
    (hfits : a.kind.Fits v)
    (hsize : (encodeAttribute magicCookieAndTid stale a.code a.kind v).length < 256 ^ 2) :
    Encodes (encodeAttribute magicCookieAndTid stale a.code a.kind v) a.code
      (parseValue magicCookieAndTid a.kind) v := by
  cases a with
  | mappedAddress | responseAddress | sourceAddress | changedAddress | reflectedFrom
  | alternateServer | secondaryAddress => exact encodes_address _ v
  | xorMappedAddress | turnXorRelayedAddress => exact encodes_xorAddress _ magicCookieAndTid v
  | changeRequest | fingerprint | turnLifetime | turnBandwidth | turnConnectStat
  | icePriority => exact encodes_uInt32 _ v
  | turnReservationToken | iceControlled | iceControlling => exact encodes_uInt64 v
  | turnChannelNumber =>
    obtain ⟨r, hbytes, htype, hparse⟩ := encodes_uInt32
      (Attr.code .turnChannelNumber) ((show UInt16 from v).toUInt32 <<< 16)
    refine ⟨r, hbytes, htype, fun rest => ?_⟩
    show (stunParseAtrUInt32 (r.content ++ rest) r.length >>=
      fun x => pure (x >>> 16).toUInt16 : Parse UInt16) = _
    rw [hparse, Parse.ok_bind, upper16_shift]
    rfl
  | turnRequestedTransport =>
    obtain ⟨r, hbytes, htype, hparse⟩ := encodes_uInt32
      (Attr.code .turnRequestedTransport) ((show UInt8 from v).toUInt32 <<< 24)
    refine ⟨r, hbytes, htype, fun rest => ?_⟩
    show (stunParseAtrUInt32 (r.content ++ rest) r.length >>=
      fun x => pure (x >>> 24).toUInt8 : Parse UInt8) = _
    rw [hparse, Parse.ok_bind, upper8_shift]
    rfl
  | username | password | realm | nonce | software => exact encodes_string hfits (by norm_num)
  | turnData => exact encodes_data hsize
  | messageIntegrity => exact encodes_integrity v
  | errorCode => exact encodes_error hfits.2.1 hfits.2.2
  | unknownAttribute => exact encodes_unknown stale hfits
  | turnEvenPort => exact encodes_evenPort hfits
  | turnDontFragment | iceUseCandidate =>
    exact encodes_encodeAtr (by norm_num) rfl fun _ => rfl

/-- A message with some attributes taken over from another one. -/
def overlay (m : StunMessage) (l : List Attr) (m' : StunMessage) : StunMessage :=
  { m' with attrs := fun a => if a ∈ l then m.attrs a else m'.attrs a }

variable {stale} {m m' : StunMessage} {msgLength : ℕ}

theorem overlay_nil : m.overlay [] m' = m' := by
  simp [overlay]

theorem overlay_cons_none {a : Attr} {l : List Attr} (hm : m.attrs a = none)
    (hm' : m'.attrs a = none) : m.overlay (a :: l) m' = m.overlay l m' := by
  unfold overlay
  congr 1
  funext b
  by_cases hb : b = a
  · subst hb
    simp [hm, hm']
  · simp [hb]

theorem overlay_cons_some {a : Attr} {v : a.Value} {l : List Attr} (hm : m.attrs a = some v)
    (ha : a ∉ l) : m.overlay (a :: l) m' = m.overlay l (m'.set a v) := by
  unfold overlay
  congr 1
  funext b
  by_cases hb : b = a
  · subst hb
    simp [hm, ha, set]
  · simp [hb, set]

/-- The attributes of a list are read back as they are. -/
theorem attributes_flatMap {l : List Attr} (rest : Data) (hnodup : l.Nodup)
    (hmi : .messageIntegrity ∉ l) (hid : m'.magicCookieAndTid = m.magicCookieAndTid)
    (hnone : ∀ a ∈ l, m'.attrs a = none) (hfits : ∀ a v, m.attrs a = some v → a.kind.Fits v)
    (hsize : (l.flatMap (m.encodeIfSet stale)).length < 256 ^ 2) :
    attributes msgLength m' (l.flatMap (m.encodeIfSet stale) ++ rest) =
      attributes msgLength (m.overlay l m') rest := by
  induction l generalizing m' with
  | nil => rw [List.flatMap_nil, List.nil_append, overlay_nil]
  | cons a l ih =>
    obtain ⟨ha, hl⟩ := List.nodup_cons.mp hnodup
    have hmil : .messageIntegrity ∉ l := fun h => hmi (by simp [h])
    have hane : a ≠ .messageIntegrity := fun h => hmi (by simp [h])
    rw [List.flatMap_cons, List.length_append] at hsize
    rw [List.flatMap_cons, List.append_assoc]
    cases hm : m.attrs a with
    | none =>
      have hempty : m.encodeIfSet stale a = [] := by simp only [encodeIfSet, hm]
      rw [hempty, List.nil_append, overlay_cons_none hm (hnone a (by simp))]
      exact ih hl hmil hid (fun b hb => hnone b (by simp [hb])) (by omega)
    | some v =>
      have hset : m.encodeIfSet stale a =
          encodeAttribute m.magicCookieAndTid stale a.code a.kind v := by
        simp only [encodeIfSet, hm]
      have hencodes := encodes_attribute stale m.magicCookieAndTid a v (hfits a v hm)
        (by rw [hset] at hsize; omega)
      rw [hset, overlay_cons_some hm ha]
      rw [← hid] at hencodes ⊢
      rw [attributes_encodes hane (hnone a (by simp)) hencodes]
      refine ih hl hmil hid (fun b hb => ?_) (by omega)
      have hba : b ≠ a := fun h => ha (h ▸ hb)
      simpa [set, hba] using hnone b (by simp [hb])

theorem attributes_peers {peers : List StunAtrAddress} (rest : Data)
    (hroom : m'.mTurnXorPeerAddress.length + peers.length ≤ turnMaxXorPeerAddr) :
    attributes msgLength m' (peers.flatMap
      (encodeAtrXorAddress m'.magicCookieAndTid turnXorPeerAddressCode) ++ rest) =
      attributes msgLength { m' with mTurnXorPeerAddress := m'.mTurnXorPeerAddress ++ peers } rest := by
  induction peers generalizing m' with
  | nil => simp
  | cons peer peers ih =>
    rw [List.length_cons] at hroom
    obtain ⟨r, hbytes, htype, hparse⟩ := encodes_xorAddress turnXorPeerAddressCode
      m'.magicCookieAndTid peer
    rw [List.flatMap_cons, List.append_assoc, hbytes, attributes_record, htype,
      parseAttribute_peer (by omega), hparse, Parse.ok_bind, Parse.ok_bind]
    have hnext := @ih { m' with mTurnXorPeerAddress := m'.mTurnXorPeerAddress ++ [peer] }
      (by rw [List.length_append, List.length_singleton]; omega)
    simpa using hnext

theorem attributes_requestedAddressFamily (rest : Data)
    (hempty : m'.mUnknownRequiredAttributes = []) :
    attributes msgLength m' (m.encodeRequestedAddressFamily ++ rest) =
      attributes msgLength
        { m' with mUnknownRequiredAttributes :=
            if m.mTurnRequestedAddressFamily = none then [] else [turnRequestedAddressFamilyCode] }
        rest := by
  unfold encodeRequestedAddressFamily
  cases hfamily : m.mTurnRequestedAddressFamily with
  | none => simp [← hempty]
  | some family =>
    obtain ⟨r, hbytes, htype, _⟩ := encodes_uInt32 turnRequestedAddressFamilyCode
      (family.toUInt32 <<< 16)
    have hroom : m'.mUnknownRequiredAttributes.length < stunMaxUnknownAttributes := by
      rw [hempty]
      decide
    show attributes msgLength m' (encodeAtrUInt32 _ _ ++ rest) = _
    rw [hbytes, attributes_record, htype,
      parseAttribute_unknown (by decide) (by decide) (by decide) hroom, Parse.ok_bind, hempty]
    rfl

/-- What the parser makes of the attributes of a message. -/
def decoded (m m' : StunMessage) : StunMessage :=
  let m₁ := m.overlay firstAttrs m'
  let m₂ := { m₁ with mTurnXorPeerAddress := m'.mTurnXorPeerAddress ++ m.mTurnXorPeerAddress }
  let m₃ := m.overlay middleAttrs m₂
  let m₄ :=
    { m₃ with mUnknownRequiredAttributes :=
        if m.mTurnRequestedAddressFamily = none then [] else [turnRequestedAddressFamilyCode] }
  m.overlay lastAttrs m₄

/-- A message that fits: every value can be written, the array of peer addresses holds
eight, and the length of all attributes is one of 16 bits. -/
structure Encodable (stale : Vector UInt8 2) (m : StunMessage) : Prop where
  fits : ∀ a v, m.attrs a = some v → a.kind.Fits v
  peers : m.mTurnXorPeerAddress.length ≤ turnMaxXorPeerAddr
  size : (m.encodeAttributes stale).length + (if m.has .messageIntegrity then 24 else 0) +
    (if m.has .fingerprint then 8 else 0) < 2 ^ 16

theorem attributes_encodeAttributes (h : Encodable stale m) (rest : Data)
    (hid : m'.magicCookieAndTid = m.magicCookieAndTid) (hnone : ∀ a, m'.attrs a = none)
    (hpeers : m'.mTurnXorPeerAddress = []) (hunknown : m'.mUnknownRequiredAttributes = []) :
    attributes msgLength m' (m.encodeAttributes stale ++ rest) =
      attributes msgLength (m.decoded m') rest := by
  have hsize := h.size
  simp only [encodeAttributes, List.length_append] at hsize
  let m₁ := m.overlay firstAttrs m'
  let m₂ := { m₁ with mTurnXorPeerAddress := m'.mTurnXorPeerAddress ++ m.mTurnXorPeerAddress }
  let m₃ := m.overlay middleAttrs m₂
  let m₄ :=
    { m₃ with mUnknownRequiredAttributes :=
        if m.mTurnRequestedAddressFamily = none then [] else [turnRequestedAddressFamilyCode] }
  have hroom : m₁.mTurnXorPeerAddress.length + m.mTurnXorPeerAddress.length ≤ turnMaxXorPeerAddr := by
    show m'.mTurnXorPeerAddress.length + _ ≤ _
    rw [hpeers, List.length_nil, Nat.zero_add]
    exact h.peers
  have hids : m.encodePeers = m.mTurnXorPeerAddress.flatMap
      (encodeAtrXorAddress m₁.magicCookieAndTid turnXorPeerAddressCode) := by
    show _ = m.mTurnXorPeerAddress.flatMap
      (encodeAtrXorAddress m'.magicCookieAndTid turnXorPeerAddressCode)
    rw [hid]
    rfl
  have hmiddle : ∀ a ∈ middleAttrs, m₂.attrs a = none := by
    intro a ha
    have hfirst : a ∉ firstAttrs := by
      revert ha
      cases a <;> decide
    exact (if_neg hfirst).trans (hnone a)
  have hlast : ∀ a ∈ lastAttrs, m₄.attrs a = none := by
    intro a ha
    have hfirst : a ∉ firstAttrs := by
      revert ha
      cases a <;> decide
    have hmid : a ∉ middleAttrs := by
      revert ha
      cases a <;> decide
    exact (if_neg hmid).trans ((if_neg hfirst).trans (hnone a))
  simp only [encodeAttributes, List.append_assoc]
  calc
    _ = attributes msgLength m₁ (m.encodePeers ++ (middleAttrs.flatMap (m.encodeIfSet stale) ++
          (m.encodeRequestedAddressFamily ++ (lastAttrs.flatMap (m.encodeIfSet stale) ++ rest)))) :=
      attributes_flatMap _ (by decide) (by decide) hid (fun a _ => hnone a) h.fits (by omega)
    _ = attributes msgLength m₂ (middleAttrs.flatMap (m.encodeIfSet stale) ++
          (m.encodeRequestedAddressFamily ++ (lastAttrs.flatMap (m.encodeIfSet stale) ++ rest))) := by
      rw [hids]
      exact attributes_peers _ hroom
    _ = attributes msgLength m₃ (m.encodeRequestedAddressFamily ++
          (lastAttrs.flatMap (m.encodeIfSet stale) ++ rest)) :=
      attributes_flatMap _ (by decide) (by decide) hid hmiddle h.fits (by omega)
    _ = attributes msgLength m₄ (lastAttrs.flatMap (m.encodeIfSet stale) ++ rest) :=
      attributes_requestedAddressFamily _ hunknown
    _ = attributes msgLength (m.decoded m') rest :=
      attributes_flatMap _ (by decide) (by decide) hid hlast h.fits (by omega)

/-- Every attribute but the two that are computed is read back. -/
theorem decoded_attrs (a : Attr) : (m.decoded m').attrs a =
    if a = .messageIntegrity ∨ a = .fingerprint then m'.attrs a else m.attrs a := by
  simp only [decoded, overlay]
  cases a <;> simp [firstAttrs, middleAttrs, lastAttrs]

end Attributes

section Messages
variable {computeHmac : Data → Data → Vector UInt8 20} {crc32 : Data → UInt32}
  {stale : Vector UInt8 2} {m : StunMessage} {localTuple remoteTuple : StunTuple}

theorem length_integrityBytes : (integrityBytes (m.computedIntegrity computeHmac stale)).length =
    if m.has .messageIntegrity then 24 else 0 := by
  unfold computedIntegrity
  split_ifs
  · exact length_encodeAtrIntegrity
  · rfl

theorem length_fingerprintBytes :
    (fingerprintBytes (m.computedFingerprint computeHmac crc32 stale)).length =
      if m.has .fingerprint then 8 else 0 := by
  unfold computedFingerprint
  split_ifs
  · exact length_encodeAtrUInt32
  · rfl

/-- The length field of a message that fits says how long it is. -/
theorem toNat_messageSize (h : Encodable stale m) : (m.messageSize stale).toNat =
    (m.encodeAttributes stale ++ (integrityBytes (m.computedIntegrity computeHmac stale) ++
      fingerprintBytes (m.computedFingerprint computeHmac crc32 stale))).length := by
  have hsize := h.size
  rw [List.length_append, List.length_append, length_integrityBytes, length_fingerprintBytes]
  unfold messageSize integritySize
  split_ifs at hsize ⊢ <;>
    simp only [UInt16.toNat_add, UInt16.toNat_ofNat', UInt16.reduceToNat] <;> omega

/-- The message that a sent message is parsed into. -/
def parsedFrom (computeHmac : Data → Data → Vector UInt8 20) (crc32 : Data → UInt32)
    (stale : Vector UInt8 2) (localTuple remoteTuple : StunTuple) (m : StunMessage) : StunMessage :=
  let buf := stunEncodeMessage computeHmac crc32 stale m
  (m.decoded ((received localTuple remoteTuple buf).entered buf)).withComputed
    (m.computedIntegrity computeHmac stale)
    ((m.encodeAttributes stale).length +
      (integrityBytes (m.computedIntegrity computeHmac stale)).length)
    (m.computedFingerprint computeHmac crc32 stale)

/-- A message that fits is accepted. -/
theorem ofBuffer_encode (h : Encodable stale m) :
    ofBuffer localTuple remoteTuple (stunEncodeMessage computeHmac crc32 stale m) =
      .ok (m.parsedFrom computeHmac crc32 stale localTuple remoteTuple) := by
  have hsize : (m.messageSize stale).toNat =
      (m.encodeAttributes stale ++ (integrityBytes (m.computedIntegrity computeHmac stale) ++
        fingerprintBytes (m.computedFingerprint computeHmac crc32 stale))).length :=
    toNat_messageSize h
  unfold parsedFrom
  rw [ofBuffer_eq, stunEncodeMessage_eq, if_pos (headerFits_frame.mpr hsize), headerLength_frame,
    hsize, frame_drop, attributes_encodeAttributes h _ ?_ (fun _ => rfl) rfl rfl]
  · refine (attributes_computed ?_ ?_ ?_).trans ?_
    · rw [decoded_attrs]
      rfl
    · rw [decoded_attrs]
      rfl
    · simp only [List.length_append]
      omega
    · rw [List.length_append, List.length_append, ← Nat.add_assoc, Nat.add_sub_cancel]
  · rw [entered_frame]

/-- The same content as a message that was sent: the header, every attribute with its
value, those that are computed included, and nothing that is unknown. -/
structure SameContent (computeHmac : Data → Data → Vector UInt8 20) (crc32 : Data → UInt32)
    (stale : Vector UInt8 2) (m parsed : StunMessage) : Prop where
  mClass : parsed.mClass = m.mClass
  mMethod : parsed.mMethod = m.mMethod
  magicCookieAndTid : parsed.magicCookieAndTid = m.magicCookieAndTid
  attrs : ∀ a, a ≠ .messageIntegrity → a ≠ .fingerprint → parsed.attrs a = m.attrs a
  integrity : parsed.attrs .messageIntegrity = m.computedIntegrity computeHmac stale
  fingerprint : parsed.attrs .fingerprint = m.computedFingerprint computeHmac crc32 stale
  peers : parsed.mTurnXorPeerAddress = m.mTurnXorPeerAddress
  family : parsed.mTurnRequestedAddressFamily = m.mTurnRequestedAddressFamily
  unknown : parsed.mUnknownRequiredAttributes = []

/-- Class and method share the type field: each has its own bits. -/
theorem classMethod_iff (mClass mMethod : UInt16) :
    ((mClass ||| mMethod) &&& 0x0110 = mClass ∧ (mClass ||| mMethod) &&& 0x000F = mMethod) ↔
      mClass &&& 0x0110 = mClass ∧ mMethod &&& 0x000F = mMethod := by
  constructor
  · rintro ⟨hclass, hmethod⟩
    constructor
    · rw [← hclass, UInt16.and_assoc, UInt16.and_self]
    · rw [← hmethod, UInt16.and_assoc, UInt16.and_self]
  · rintro ⟨hclass, hmethod⟩
    have hm : mMethod &&& 0x0110 = 0 := by
      rw [← hmethod, UInt16.and_assoc, show (0x000F : UInt16) &&& 0x0110 = 0 from rfl,
        UInt16.and_zero]
    have hc : mClass &&& 0x000F = 0 := by
      rw [← hclass, UInt16.and_assoc, show (0x0110 : UInt16) &&& 0x000F = 0 from rfl,
        UInt16.and_zero]
    have hor (x y z : UInt16) : (x ||| y) &&& z = (x &&& z) ||| (y &&& z) := by
      apply UInt16.toNat_inj.mp
      simp only [UInt16.toNat_and, UInt16.toNat_or, Nat.and_or_distrib_right]
    rw [hor, hor, hclass, hm, hc, hmethod, UInt16.or_zero, UInt16.zero_or]
    exact ⟨rfl, rfl⟩

section ParsedFrom
variable (computeHmac crc32 stale localTuple remoteTuple m)

theorem parsedFrom_header :
    (m.parsedFrom computeHmac crc32 stale localTuple remoteTuple).mClass =
      (m.mClass ||| m.mMethod) &&& 0x0110 ∧
    (m.parsedFrom computeHmac crc32 stale localTuple remoteTuple).mMethod =
      (m.mClass ||| m.mMethod) &&& 0x000F ∧
    (m.parsedFrom computeHmac crc32 stale localTuple remoteTuple).magicCookieAndTid =
      m.magicCookieAndTid := by
  have hentered : ∃ m₀ : StunMessage, (received localTuple remoteTuple
      (stunEncodeMessage computeHmac crc32 stale m)).entered
        (stunEncodeMessage computeHmac crc32 stale m) =
      { m₀ with
        mClass := (m.mClass ||| m.mMethod) &&& 0x0110
        mMethod := (m.mClass ||| m.mMethod) &&& 0x000F
        magicCookieAndTid := m.magicCookieAndTid
        mUnknownRequiredAttributes := [] } := by
    rw [stunEncodeMessage_eq, entered_frame]
    exact ⟨_, rfl⟩
  obtain ⟨m₀, hm₀⟩ := hentered
  have hid := congrArg magicCookieAndTid hm₀
  exact ⟨congrArg mClass hm₀, congrArg mMethod hm₀, hid⟩

theorem parsedFrom_attrs {a : Attr} (hmi : a ≠ .messageIntegrity) (hfp : a ≠ .fingerprint) :
    (m.parsedFrom computeHmac crc32 stale localTuple remoteTuple).attrs a = m.attrs a := by
  rw [parsedFrom, withComputed_attrs hmi hfp, decoded_attrs]
  simp [hmi, hfp]

theorem parsedFrom_unknown :
    (m.parsedFrom computeHmac crc32 stale localTuple remoteTuple).mUnknownRequiredAttributes =
      if m.mTurnRequestedAddressFamily = none then [] else [turnRequestedAddressFamilyCode] := rfl

/-- A message comes out of the parser with the same content exactly when no address
family is requested and class and method have their own bits only. -/
theorem sameContent_iff :
    SameContent computeHmac crc32 stale m
      (m.parsedFrom computeHmac crc32 stale localTuple remoteTuple) ↔
      m.mTurnRequestedAddressFamily = none ∧ m.mClass &&& 0x0110 = m.mClass ∧
        m.mMethod &&& 0x000F = m.mMethod := by
  obtain ⟨hclass, hmethod, hid⟩ :=
    parsedFrom_header computeHmac crc32 stale m localTuple remoteTuple
  have hunknown := parsedFrom_unknown computeHmac crc32 stale m localTuple remoteTuple
  rw [← classMethod_iff, ← hclass, ← hmethod]
  constructor
  · intro hsame
    refine ⟨?_, hsame.mClass, hsame.mMethod⟩
    by_contra hfamily
    rw [if_neg hfamily, hsame.unknown] at hunknown
    cases hunknown
  · rintro ⟨hfamily, hmClass, hmMethod⟩
    rw [if_pos hfamily] at hunknown
    exact
      { mClass := hmClass
        mMethod := hmMethod
        magicCookieAndTid := hid
        attrs := fun _ => parsedFrom_attrs computeHmac crc32 stale m localTuple remoteTuple
        integrity := withComputed_integrity
        fingerprint := withComputed_fingerprint
        peers := List.nil_append _
        family := hfamily.symm
        unknown := hunknown }

end ParsedFrom

/-- The content of a message that fits survives the encoder and the parser exactly when it
requests no address family and its class and method have their own bits only. -/
theorem encode_roundTrips_iff (computeHmac : Data → Data → Vector UInt8 20) (crc32 : Data → UInt32)
    (stale : Vector UInt8 2) (localTuple remoteTuple : StunTuple) (m : StunMessage)
    (h : Encodable stale m) :
    (∃ parsed, ofBuffer localTuple remoteTuple (stunEncodeMessage computeHmac crc32 stale m) =
        .ok parsed ∧ SameContent computeHmac crc32 stale m parsed) ↔
      m.mTurnRequestedAddressFamily = none ∧ m.mClass &&& 0x0110 = m.mClass ∧
        m.mMethod &&& 0x000F = m.mMethod := by
  rw [← sameContent_iff computeHmac crc32 stale m localTuple remoteTuple]
  constructor
  · rintro ⟨parsed, hparsed, hsame⟩
    obtain rfl := Except.ok.inj (hparsed.symm.trans (ofBuffer_encode h))
    exact hsame
  · intro hsame
    exact ⟨_, ofBuffer_encode h, hsame⟩

/-- No old bytes in the buffer. -/
def noStale : Vector UInt8 2 := .replicate 2 0

/-- A request to bind with a user name and a message integrity. -/
def bindRequest : StunMessage :=
  ({ init with mMethod := bindMethod }.set .username (text "user")).set .messageIntegrity
    (.replicate 20 0)

theorem encodable_bindRequest : Encodable noStale bindRequest where
  fits a v h := by
    by_cases hmi : a = .messageIntegrity
    · subst hmi
      trivial
    by_cases husername : a = .username
    · subst husername
      have hset : bindRequest.attrs .username = some (text "user") := rfl
      obtain rfl : text "user" = v := Option.some_inj.mp (hset.symm.trans h)
      show (text "user").length ≤ 512
      decide
    · simp [bindRequest, set, init, hmi, husername] at h
  peers := by decide
  size := by decide

theorem encode_roundTrips_iff_bindRequest :
    (∃ parsed, ofBuffer anyTuple anyTuple
        (stunEncodeMessage (fun _ _ => .replicate 20 0) (fun _ => 0) noStale bindRequest) =
          .ok parsed ∧
      SameContent (fun _ _ => .replicate 20 0) (fun _ => 0) noStale bindRequest parsed) ↔
    bindRequest.mTurnRequestedAddressFamily = none ∧
      bindRequest.mClass &&& 0x0110 = bindRequest.mClass ∧
      bindRequest.mMethod &&& 0x000F = bindRequest.mMethod :=
  encode_roundTrips_iff _ _ _ _ _ _ encodable_bindRequest

/-- A request to allocate an IPv6 address. -/
def allocateIpv6Request : StunMessage :=
  { init with
    mMethod := turnAllocateMethod
    mTurnRequestedAddressFamily := some 0x0200 }

theorem not_encode_roundTrips : Encodable noStale allocateIpv6Request ∧
    ¬ ∃ parsed, ofBuffer anyTuple anyTuple
        (stunEncodeMessage (fun _ _ => .replicate 20 0) (fun _ => 0) noStale allocateIpv6Request) =
          .ok parsed ∧
      SameContent (fun _ _ => .replicate 20 0) (fun _ => 0) noStale allocateIpv6Request parsed := by
  have hencodable : Encodable noStale allocateIpv6Request := ⟨nofun, by decide, by decide⟩
  refine ⟨hencodable, ?_⟩
  rintro ⟨parsed, hparsed, hsame⟩
  obtain rfl := Except.ok.inj (hparsed.symm.trans (ofBuffer_encode hencodable))
  exact absurd hsame.unknown (by decide)

/-- What the sender computes is what the receiver computes: a message that fits is accepted,
and every message with a message integrity that is accepted passes both checks under the
key of the sender; the checks leave the message as it is. -/
theorem checks_agree (computeHmac : Data → Data → Vector UInt8 20) (crc32 : Data → UInt32)
    (stale : Vector UInt8 2) (localTuple remoteTuple : StunTuple) (m : StunMessage)
    (hmi : m.has .messageIntegrity = true) :
    (Encodable stale m → ∃ parsed, ofBuffer localTuple remoteTuple
      (stunEncodeMessage computeHmac crc32 stale m) = .ok parsed) ∧
    ∀ parsed, ofBuffer localTuple remoteTuple (stunEncodeMessage computeHmac crc32 stale m) =
      .ok parsed → parsed.checkMessageIntegrity computeHmac m.mHmacKey = (true, parsed) ∧
        parsed.checkFingerprint crc32 = true :=
  ⟨fun h => ⟨_, ofBuffer_encode h⟩,
    fun _ h => ⟨checkMessageIntegrity_sent hmi h, checkFingerprint_sent h⟩⟩

theorem checks_agree_bindRequest :
    (Encodable noStale bindRequest → ∃ parsed, ofBuffer anyTuple anyTuple
      (stunEncodeMessage (fun _ _ => .replicate 20 7) (fun _ => 5) noStale bindRequest) =
        .ok parsed) ∧
    ∀ parsed, ofBuffer anyTuple anyTuple
        (stunEncodeMessage (fun _ _ => .replicate 20 7) (fun _ => 5) noStale bindRequest) =
      .ok parsed →
        parsed.checkMessageIntegrity (fun _ _ => .replicate 20 7) bindRequest.mHmacKey =
          (true, parsed) ∧
        parsed.checkFingerprint (fun _ => 5) = true :=
  checks_agree _ _ _ _ _ _ (by decide)

end Messages

end StunMessage

end Resiprocate.ReTurn
