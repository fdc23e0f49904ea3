import Mathlib
import Resiprocate.StunIntegrityCover

/-! What attributes behind the message integrity can change. -/
namespace Resiprocate.ReTurn
open BigEndian (value)
open Tlv (Record headType headLength headSize uncons area)

namespace StunMessage

/-- An unknown attribute that a receiver has to comprehend. -/
def IsUnknownRequired (atrType : UInt16) : Prop :=
  attrOfCode atrType = none ∧ atrType ≠ turnXorPeerAddressCode ∧ atrType ≤ 0x7FFF

instance : DecidablePred IsUnknownRequired := fun _ => inferInstanceAs (Decidable (_ ∧ _ ∧ _))

/-- An attribute type that changes nothing but the fingerprint after the types before it:
a duplicate, one more of what is kept up to a number only, or an optional unknown one. -/
def Idle (earlier : List UInt16) (atrType : UInt16) : Prop :=
  match attrOfCode atrType with
  | some a => a = .fingerprint ∨ ∃ t ∈ earlier, attrOfCode t = some a
  | none =>
    if atrType = turnXorPeerAddressCode then
      turnMaxXorPeerAddr ≤ earlier.count turnXorPeerAddressCode
    else
      atrType ≤ 0x7FFF → stunMaxUnknownAttributes ≤ earlier.countP fun t => IsUnknownRequired t

/-- The records up to the first message integrity, and those after it. -/
def splitIntegrity : List Record → Option (List Record × List Record)
  | [] => none
  | r :: rs =>
    if r.type = Attr.code .messageIntegrity then some ([r], rs)
    else (splitIntegrity rs).map fun p => (r :: p.1, p.2)

/-- The attributes of a buffer, as far as whole ones go. -/
def attributeRecords (buf : Data) : List Record := Tlv.records buf.length (buf.drop stunMsgHdrSize)

/-- Where the first message integrity of a buffer ends. -/
def integrityEnd (buf : Data) : Option ℕ :=
  (splitIntegrity (attributeRecords buf)).map fun p => stunMsgHdrSize + (area p.1).length

/-- Every attribute behind the first message integrity is idle. -/
def TailIdle (buf : Data) : Prop :=
  ∀ front tail, splitIntegrity (attributeRecords buf) = some (front, tail) →
    ∀ r ∈ tail, Idle (front.map Record.type) r.type

/-- The same first `k` bytes but for the length field. -/
def Agree (k : ℕ) (buf buf' : Data) : Prop :=
  buf.take 2 = buf'.take 2 ∧ (buf.drop 4).take (k - 4) = (buf'.drop 4).take (k - 4)

/-- The buffer cut off after `k` bytes, with a length field that fits. -/
def cut (k : ℕ) (buf : Data) : Data :=
  setLength (buf.take k) (bytes16 (UInt16.ofNat (k - stunMsgHdrSize)))

section Split
variable {rs front tail : List Record}

theorem splitIntegrity_eq_some (h : splitIntegrity rs = some (front, tail)) :
    ∃ pre mi, front = pre ++ [mi] ∧ rs = pre ++ mi :: tail ∧
      mi.type = Attr.code .messageIntegrity ∧ ∀ r ∈ pre, r.type ≠ Attr.code .messageIntegrity := by
  induction rs generalizing front with
  | nil => cases h
  | cons r rs ih =>
    rw [splitIntegrity] at h
    split_ifs at h with htype
    · cases h
      exact ⟨[], r, rfl, rfl, htype, by simp⟩
    · obtain ⟨⟨front', tail'⟩, hsplit, hp⟩ := Option.map_eq_some_iff.mp h
      cases hp
      obtain ⟨pre, mi, rfl, rfl, hmi, hpre⟩ := ih hsplit
      refine ⟨r :: pre, mi, rfl, rfl, hmi, fun r' hr' => ?_⟩
      obtain rfl | hr' := List.mem_cons.mp hr'
      · exact htype
      · exact hpre r' hr'

theorem splitIntegrity_append {pre : List Record} {mi : Record}
    (hmi : mi.type = Attr.code .messageIntegrity)
    (hpre : ∀ r ∈ pre, r.type ≠ Attr.code .messageIntegrity) :
    splitIntegrity (pre ++ mi :: tail) = some (pre ++ [mi], tail) := by
  induction pre with
  | nil => simp [splitIntegrity, hmi]
  | cons r pre ih =>
    rw [List.cons_append, splitIntegrity, if_neg (hpre r (by simp)),
      ih fun r' hr' => hpre r' (by simp [hr'])]
    rfl

end Split

/-- What a message holds is what the attribute types before it say. -/
structure Tracks (earlier : List UInt16) (m : StunMessage) : Prop where
  attrs : ∀ a, m.attrs a ≠ none ↔ ∃ t ∈ earlier, attrOfCode t = some a
  peers : m.mTurnXorPeerAddress.length =
    min turnMaxXorPeerAddr (earlier.count turnXorPeerAddressCode)
  unknown : m.mUnknownRequiredAttributes.length =
    min stunMaxUnknownAttributes (earlier.countP fun t => IsUnknownRequired t)

section Tracks
variable {msgLength : ℕ} {m m' : StunMessage} {earlier : List UInt16} {atrType : UInt16}
  {body : Data} {attrLen : ℕ}

theorem Tracks.idle_iff (h : Tracks earlier m) : Idle earlier atrType ↔ m.Idles atrType := by
  unfold Idle Idles PassesOver
  cases heq : attrOfCode atrType with
  | some a =>
    simp only [h.attrs a, Option.some_inj]
    exact or_comm
  | none =>
    have hp := h.peers
    have hu := h.unknown
    simp only [reduceCtorEq, or_false]
    split_ifs with hpeer
    · omega
    · constructor
      · intro hfull hrequired
        have := hfull hrequired
        omega
      · intro hfull hrequired
        have := hfull hrequired
        omega

theorem exists_mem_append_singleton {p : UInt16 → Prop} :
    (∃ t ∈ earlier ++ [atrType], p t) ↔ (∃ t ∈ earlier, p t) ∨ p atrType := by
  simp only [List.mem_append, List.mem_singleton, or_and_right, exists_or, exists_eq_left]

theorem countP_append_singleton (p : UInt16 → Bool) :
    (earlier ++ [atrType]).countP p = earlier.countP p + if p atrType then 1 else 0 := by
  rw [List.countP_append, List.countP_singleton]

theorem Tracks.passed (h : Tracks earlier m) (hpass : m.PassesOver atrType) :
    Tracks (earlier ++ [atrType]) m where
  attrs a := by
    rw [exists_mem_append_singleton, h.attrs a]
    refine ⟨.inl, fun hor => hor.elim id fun hcode => ?_⟩
    simp only [PassesOver, hcode] at hpass
    exact (h.attrs a).mp hpass
  peers := by
    have hp := h.peers
    rw [List.count, countP_append_singleton, ← List.count]
    by_cases hpeer : atrType = turnXorPeerAddressCode
    · subst hpeer
      simp only [PassesOver, attrOfCode_peer, if_true] at hpass
      simp only [beq_self_eq_true, if_true]
      omega
    · simpa [hpeer] using hp
  unknown := by
    have hu := h.unknown
    rw [countP_append_singleton]
    by_cases hrequired : IsUnknownRequired atrType
    · obtain ⟨hcode, hpeer, hreq⟩ := hrequired
      simp only [PassesOver, hcode, if_neg hpeer] at hpass
      have hfull := hpass hreq
      simp only [show IsUnknownRequired atrType from ⟨hcode, hpeer, hreq⟩, decide_true, if_true]
      omega
    · simpa [hrequired] using hu

theorem Tracks.step (h : Tracks earlier m)
    (hattr : parseAttribute msgLength m atrType body attrLen = .ok m') :
    Tracks (earlier ++ [atrType]) m' := by
  have hp := h.peers
  have hu := h.unknown
  obtain ⟨hpass, rfl⟩ | ⟨a, v, hcode, hnone, _, rfl⟩ | ⟨_, rfl, hroom, _, rfl⟩ |
    ⟨hcode, hne, hreq, hroom, rfl⟩ := parseAttribute_cases hattr
  · exact h.passed hpass
  · have hpeer : atrType ≠ turnXorPeerAddressCode := by
      rintro rfl
      rw [attrOfCode_peer] at hcode
      cases hcode
    have hrequired : ¬ IsUnknownRequired atrType := fun hr => by
      rw [hr.1] at hcode
      cases hcode
    refine ⟨fun b => ?_, ?_, ?_⟩
    · rw [exists_mem_append_singleton, hcode]
      by_cases hba : b = a
      · subst hba
        rw [keep_attrs_self]
        simp
      · rw [keep_attrs_of_ne hba, h.attrs b]
        simp [Ne.symm hba]
    · rw [List.count, countP_append_singleton, ← List.count]
      simpa [hpeer, keep, set] using hp
    · rw [countP_append_singleton]
      simpa [hrequired, keep, set] using hu
  · have hrequired : ¬ IsUnknownRequired turnXorPeerAddressCode := fun hr => hr.2.1 rfl
    refine ⟨fun b => ?_, ?_, ?_⟩
    · rw [exists_mem_append_singleton, attrOfCode_peer]
      simpa using h.attrs b
    · rw [List.count, countP_append_singleton, ← List.count]
      simp only [List.length_append, List.length_singleton, beq_self_eq_true, if_true]
      omega
    · rw [countP_append_singleton]
      simpa [hrequired] using hu
  · have hrequired : IsUnknownRequired atrType := ⟨hcode, hne, hreq⟩
    refine ⟨fun b => ?_, ?_, ?_⟩
    · rw [exists_mem_append_singleton, hcode]
      simpa using h.attrs b
    · rw [List.count, countP_append_singleton, ← List.count]
      simpa [hne] using hp
    · rw [countP_append_singleton]
      simp only [List.length_append, List.length_singleton, hrequired, decide_true, if_true]
      omega

theorem Tracks.run {rs : List Record} {rest : Data} (h : Tracks earlier m)
    (hrun : runRecords msgLength m rs rest = .ok m') :
    Tracks (earlier ++ rs.map Record.type) m' := by
  induction rs generalizing m earlier with
  | nil =>
    cases hrun
    simpa using h
  | cons r rs ih =>
    obtain ⟨m₁, hattr, hrest⟩ := Parse.bind_eq_ok.mp hrun
    simpa using ih (h.step hattr) hrest

end Tracks

/-- The same message with another copy of the buffer. -/
def withBuffer (m : StunMessage) (buf : Data) : StunMessage := { m with mBuffer := buf }

section Front
variable {msgLength : ℕ} {m : StunMessage} {buf : Data}

theorem parseAttribute_withBuffer {atrType : UInt16} {body : Data} {attrLen : ℕ} :
    parseAttribute msgLength (m.withBuffer buf) atrType body attrLen =
      (parseAttribute msgLength m atrType body attrLen) >>= fun m' => .ok (m'.withBuffer buf) := by
  by_cases hpass : m.PassesOver atrType
  · rw [parseAttribute_passed hpass]
    exact parseAttribute_passed hpass
  obtain ⟨a, hcode, hnone⟩ | ⟨rfl, hroom⟩ | ⟨hcode, hpeer, hrequired, hroom⟩ := not_passesOver hpass
  · have hbuf : (m.withBuffer buf).attrs a = none := hnone
    rw [parseAttribute_known hcode hnone, parseAttribute_known hcode hbuf, bind_assoc]
    rfl
  · have hbuf : (m.withBuffer buf).mTurnXorPeerAddress.length < turnMaxXorPeerAddr := hroom
    rw [parseAttribute_peer hroom, parseAttribute_peer hbuf, bind_assoc]
    rfl
  · have hbuf : (m.withBuffer buf).mUnknownRequiredAttributes.length < stunMaxUnknownAttributes :=
      hroom
    rw [parseAttribute_unknown hcode hpeer hrequired hroom,
      parseAttribute_unknown hcode hpeer hrequired hbuf]
    rfl

theorem runRecords_withBuffer {rs : List Record} {rest : Data} :
    runRecords msgLength (m.withBuffer buf) rs rest =
      (runRecords msgLength m rs rest) >>= fun m' => .ok (m'.withBuffer buf) := by
  induction rs generalizing m with
  | nil => rfl
  | cons r rs ih =>
    rw [runRecords, runRecords, parseAttribute_withBuffer, bind_assoc, bind_assoc]
    simp only [Parse.ok_bind, ih]

theorem runRecords_split (m : StunMessage) (rs rs' : List Record) (rest : Data) :
    runRecords msgLength m (rs ++ rs') rest =
      (runRecords msgLength m rs (area rs' ++ rest)) >>= fun m' =>
        runRecords msgLength m' rs' rest := by
  induction rs generalizing m with
  | nil => rfl
  | cons r rs ih =>
    rw [List.cons_append, runRecords, runRecords, bind_assoc, Tlv.area_append, List.append_assoc]
    simp only [ih]

theorem attrOfCode_code (a : Attr) : attrOfCode a.code = some a := by
  cases a <;> decide

theorem stunParseAtrIntegrity_append {content rest : Data} (h : content.length = 20) :
    stunParseAtrIntegrity (content ++ rest) 20 = .ok (vectorOf 20 content) := by
  have htake : ((content ++ rest).drop 0).take 20 = content := by
    rw [List.drop_zero, ← h, List.take_left]
  rw [stunParseAtrIntegrity, if_neg (by simp), bytesAt_of_le (by simp [h]), htake]
  rfl

theorem stunParseAtrIntegrity_length {body : Data} {attrLen : ℕ} {hash : Vector UInt8 20}
    (h : stunParseAtrIntegrity body attrLen = .ok hash) : attrLen = 20 := by
  by_contra hlen
  rw [stunParseAtrIntegrity, if_pos hlen] at h
  cases h

theorem parseAttribute_messageIntegrity {body : Data} {attrLen : ℕ}
    (hnone : m.attrs .messageIntegrity = none) :
    parseAttribute msgLength m (Attr.code .messageIntegrity) body attrLen =
      (stunParseAtrIntegrity body attrLen) >>= fun hash =>
        .ok (m.keep .messageIntegrity hash (msgLength - body.length + attrLen)) := by
  rw [parseAttribute_known (attrOfCode_code _) hnone]
  rfl

/-- An accepted message integrity is kept with its position. -/
theorem parseAttribute_integrity {mi : Record} {rest : Data} {m' : StunMessage}
    (hmi : mi.type = Attr.code .messageIntegrity) (hnone : m.attrs .messageIntegrity = none)
    (h : parseAttribute msgLength m mi.type (mi.content ++ rest) mi.length = .ok m') :
    mi.length = 20 ∧ mi.content.length = 20 ∧ m' = m.keep .messageIntegrity
      (vectorOf 20 mi.content) (msgLength - (mi.content ++ rest).length + 20) := by
  rw [hmi, parseAttribute_messageIntegrity hnone, Parse.bind_eq_ok] at h
  obtain ⟨hash, hhash, hm'⟩ := h
  have hlen := stunParseAtrIntegrity_length hhash
  have hcontent : mi.content.length = 20 := by
    rw [mi.content_length, hlen]
    rfl
  rw [hlen, stunParseAtrIntegrity_append hcontent] at hhash
  obtain rfl := Except.ok.inj hhash
  rw [hlen] at hm'
  exact ⟨hlen, hcontent, (Except.ok.inj hm').symm⟩

end Front

section Cover
variable {m m' : StunMessage} {pre tail tail' : List Record} {mi : Record}

/-- Up to the message integrity, the run does not depend on what follows it. -/
theorem front_run {m₁ : StunMessage} (hm : Tracks [] m)
    (hpre : ∀ r ∈ pre, r.type ≠ Attr.code .messageIntegrity)
    (hmi : mi.type = Attr.code .messageIntegrity)
    (h : runRecords (area (pre ++ mi :: tail)).length m (pre ++ [mi]) (area tail) = .ok m₁) :
    runRecords (area (pre ++ mi :: tail')).length m (pre ++ [mi]) (area tail') = .ok m₁ := by
  rw [runRecords_split, Parse.bind_eq_ok] at h
  obtain ⟨m₀, hfirst, hlast⟩ := h
  obtain ⟨m₂, hattr, hnil⟩ := Parse.bind_eq_ok.mp hlast
  cases hnil
  have hnone : m₀.attrs .messageIntegrity = none := by
    by_contra hset
    obtain ⟨t, ht, hcode⟩ := ((hm.run hfirst).attrs _).mp hset
    obtain ⟨r, hr, rfl⟩ := List.mem_map.mp (by simpa using ht)
    exact hpre r hr (attrOfCode_eq_some hcode nofun)
  have harea (rest : Data) : area [mi] ++ rest = mi.bytes ++ rest := by simp
  have hattr : parseAttribute (area (pre ++ mi :: tail)).length m₀ mi.type
      (mi.content ++ area tail) mi.length = .ok m₁ := hattr
  obtain ⟨hlen, hcontent, hm₁⟩ := parseAttribute_integrity hmi hnone hattr
  have hbytes : mi.bytes.length = 24 := by
    rw [mi.length_bytes, Record.size, ← mi.content_length, hcontent]
  have hfirst' : runRecords (area (pre ++ mi :: tail')).length m pre (area [mi] ++ area tail') =
      .ok m₀ := by
    rw [harea] at hfirst ⊢
    rw [← hfirst]
    exact runRecords_append (by omega) hpre
  have hlast' : parseAttribute (area (pre ++ mi :: tail')).length m₀ mi.type
      (mi.content ++ area tail') mi.length = .ok m₁ := by
    rw [hmi, parseAttribute_messageIntegrity hnone, hlen, stunParseAtrIntegrity_append hcontent,
      Parse.ok_bind, hm₁]
    congr 2
    simp only [Tlv.area_append, Tlv.area_cons, List.length_append, hbytes, hcontent]
    omega
  rw [runRecords_split, hfirst', Parse.ok_bind]
  exact Parse.bind_eq_ok.mpr ⟨m₁, hlast', rfl⟩

end Cover

/-- The message that a buffer is parsed into. -/
def received (localTuple remoteTuple : StunTuple) (buf : Data) : StunMessage :=
  { init with
    mLocalTuple := localTuple
    mRemoteTuple := remoteTuple
    mBuffer := buf }

section Buffers
variable {localTuple remoteTuple : StunTuple} {buf buf' : Data} {m : StunMessage} {k : ℕ}

theorem ofBuffer_eq :
    ofBuffer localTuple remoteTuple buf =
      if HeaderFits buf then
        attributes (headerLength buf) ((received localTuple remoteTuple buf).entered buf)
          (buf.drop stunMsgHdrSize)
      else .error .rejected := stunParseMessage_eq _ _

theorem received_tracks : Tracks [] ((received localTuple remoteTuple buf).entered buf) :=
  ⟨fun a => by simp [entered, withHeader, received, init], rfl, rfl⟩

theorem HeaderFits.headerLength_eq {rs : List Record} (hfits : HeaderFits buf)
    (hrs : buf.drop stunMsgHdrSize = area rs) : headerLength buf = (area rs).length := by
  have hfit := hfits.2
  rw [← hrs, List.length_drop]
  omega

theorem attributeRecords_eq {rs : List Record} (hrs : buf.drop stunMsgHdrSize = area rs) :
    attributeRecords buf = rs := by
  rw [attributeRecords, hrs]
  apply Tlv.records_area
  rw [← hrs, List.length_drop]
  omega

/-- An accepted buffer is a header that fits and an area of records, which is run through. -/
theorem ofBuffer_ok (h : ofBuffer localTuple remoteTuple buf = .ok m) :
    HeaderFits buf ∧ ∃ rs, buf.drop stunMsgHdrSize = area rs ∧ attributeRecords buf = rs ∧
      runRecords (area rs).length ((received localTuple remoteTuple buf).entered buf) rs [] =
        .ok m := by
  rw [ofBuffer_eq] at h
  split_ifs at h with hfits
  obtain ⟨rs, hrs⟩ := attributes_area h
  refine ⟨hfits, rs, hrs, attributeRecords_eq hrs, ?_⟩
  rwa [hfits.headerLength_eq hrs, hrs, attributes_eq_runRecords] at h

theorem ofBuffer_of_run {rs : List Record} (hfits : HeaderFits buf)
    (hrs : buf.drop stunMsgHdrSize = area rs)
    (hrun : runRecords (area rs).length ((received localTuple remoteTuple buf).entered buf) rs [] =
      .ok m) : ofBuffer localTuple remoteTuple buf = .ok m := by
  rw [ofBuffer_eq, if_pos hfits, hfits.headerLength_eq hrs, hrs, attributes_eq_runRecords, hrun]

theorem entered_agree (htype : buf.take 2 = buf'.take 2)
    (hid : (buf.drop 4).take 16 = (buf'.drop 4).take 16) :
    (received localTuple remoteTuple buf').entered buf' =
      ((received localTuple remoteTuple buf).entered buf).withBuffer buf' := by
  rw [entered, entered, htype, hid]
  rfl

theorem take_drop_of_take_eq {l l' : Data} {i n : ℕ} (h : l.take (i + n) = l'.take (i + n)) :
    l.take i = l'.take i ∧ (l.drop i).take n = (l'.drop i).take n := by
  constructor
  · have hi := congrArg (List.take i) h
    simpa [List.take_take] using hi
  · have hd := congrArg (List.drop i) h
    simpa [List.drop_take] using hd

theorem Agree.parts (h : Agree k buf buf') (hk : 20 ≤ k) :
    buf.take 2 = buf'.take 2 ∧ (buf.drop 4).take 16 = (buf'.drop 4).take 16 ∧
      (buf.drop stunMsgHdrSize).take (k - 20) = (buf'.drop stunMsgHdrSize).take (k - 20) := by
  have hrest := h.2
  rw [show k - 4 = 16 + (k - 20) by omega] at hrest
  obtain ⟨hid, harea⟩ := take_drop_of_take_eq hrest
  exact ⟨h.1, hid, by simpa [stunMsgHdrSize] using harea⟩

theorem value_bytes16 (x : UInt16) : value (bytes16 x) = x.toNat := by
  have hlt := x.toNat_lt
  simp only [bytes16, value, UInt8.toNat_ofNat', List.length_cons, List.length_nil]
  omega

theorem cut_eq (hk : 20 ≤ k) : cut k buf =
    buf.take 2 ++ (bytes16 (UInt16.ofNat (k - 20)) ++ (buf.take k).drop 4) := by
  have htwo : (buf.take k).take 2 = buf.take 2 := by rw [List.take_take, min_eq_left (by omega)]
  rw [cut, setLength, htwo, List.append_assoc]
  rfl

section Cut
variable (hlen : k ≤ buf.length) (hk : 20 ≤ k)
include hlen hk

theorem cut_take : (cut k buf).take 2 = buf.take 2 := by
  have htwo : (buf.take 2).length = 2 := by rw [List.length_take]; omega
  rw [cut_eq hk, List.take_append_of_le_length htwo.ge, List.take_of_length_le htwo.le]

theorem cut_drop : (cut k buf).drop 4 = (buf.take k).drop 4 := by
  have htwo : (buf.take 2 ++ bytes16 (UInt16.ofNat (k - 20))).length = 4 := by
    simp only [List.length_append, List.length_take, bytes16, List.length_cons, List.length_nil]
    omega
  rw [cut_eq hk, ← List.append_assoc, List.drop_append_of_le_length htwo.ge,
    List.drop_of_length_le htwo.le, List.nil_append]

theorem cut_agree : Agree k buf (cut k buf) := by
  refine ⟨(cut_take hlen hk).symm, ?_⟩
  rw [cut_drop hlen hk, List.drop_take, List.take_take, min_self]

theorem cut_length : (cut k buf).length = k := by
  have htwo : (buf.take 2).length = 2 := by rw [List.length_take]; omega
  rw [cut_eq hk]
  simp only [List.length_append, htwo, bytes16, List.length_cons, List.length_nil,
    List.length_drop, List.length_take]
  omega

theorem cut_headerLength (hlt : k - 20 < 65536) : headerLength (cut k buf) = k - 20 := by
  have htwo : (buf.take 2).length = 2 := by rw [List.length_take]; omega
  have hfour : (bytes16 (UInt16.ofNat (k - 20))).length = 2 := rfl
  rw [headerLength, cut_eq hk, List.drop_append_of_le_length htwo.ge,
    List.drop_of_length_le htwo.le, List.nil_append, List.take_append_of_le_length hfour.ge,
    List.take_of_length_le hfour.le, value_bytes16, UInt16.toNat_ofNat', Nat.mod_eq_of_lt hlt]

end Cut

theorem integrityEnd_eq_some (h : integrityEnd buf = some k) :
    ∃ pre mi tail, attributeRecords buf = pre ++ mi :: tail ∧
      mi.type = Attr.code .messageIntegrity ∧
      (∀ r ∈ pre, r.type ≠ Attr.code .messageIntegrity) ∧ k = 20 + (area (pre ++ [mi])).length := by
  obtain ⟨⟨front, tail⟩, hsplit, rfl⟩ := Option.map_eq_some_iff.mp h
  obtain ⟨pre, mi, rfl, hrs, hmi, hpre⟩ := splitIntegrity_eq_some hsplit
  exact ⟨pre, mi, tail, hrs, hmi, hpre, rfl⟩

/-- An accepted buffer with a message integrity: the message `m₁` that is reached with it,
and the attributes that follow. -/
theorem ofBuffer_split (h : ofBuffer localTuple remoteTuple buf = .ok m)
    (hk : integrityEnd buf = some k) :
    ∃ pre mi tail m₁, HeaderFits buf ∧ buf.drop stunMsgHdrSize = area (pre ++ mi :: tail) ∧
      mi.type = Attr.code .messageIntegrity ∧
      (∀ r ∈ pre, r.type ≠ Attr.code .messageIntegrity) ∧
      k = 20 + (area (pre ++ [mi])).length ∧
      runRecords (area (pre ++ mi :: tail)).length
        ((received localTuple remoteTuple buf).entered buf) (pre ++ [mi]) (area tail) = .ok m₁ ∧
      runRecords (area (pre ++ mi :: tail)).length m₁ tail [] = .ok m := by
  obtain ⟨hfits, rs, hdrop, hrs, hrun⟩ := ofBuffer_ok h
  obtain ⟨pre, mi, tail, hsplit, hmi, hpre, hend⟩ := integrityEnd_eq_some hk
  obtain rfl : rs = pre ++ mi :: tail := hrs.symm.trans hsplit
  rw [show pre ++ mi :: tail = (pre ++ [mi]) ++ tail by simp, runRecords_split,
    Parse.bind_eq_ok] at hrun
  obtain ⟨m₁, hfront, htail⟩ := hrun
  rw [List.append_nil] at hfront
  refine ⟨pre, mi, tail, m₁, hfits, hdrop, hmi, hpre, hend, ?_, ?_⟩
  · simpa using hfront
  · simpa using htail

theorem tailIdle_iff {pre tail : List Record} {mi : Record} {m₁ : StunMessage}
    (hdrop : buf.drop stunMsgHdrSize = area (pre ++ mi :: tail))
    (hmi : mi.type = Attr.code .messageIntegrity)
    (hpre : ∀ r ∈ pre, r.type ≠ Attr.code .messageIntegrity)
    (htracks : Tracks ((pre ++ [mi]).map Record.type) m₁) :
    TailIdle buf ↔ ∀ r ∈ tail, m₁.Idles r.type := by
  have hsplit : splitIntegrity (attributeRecords buf) = some (pre ++ [mi], tail) := by
    rw [attributeRecords_eq hdrop]
    exact splitIntegrity_append hmi hpre
  constructor
  · intro hidle r hr
    exact htracks.idle_iff.mp (hidle _ _ hsplit r hr)
  · intro hidle front tail' hsplit' r hr
    obtain ⟨rfl, rfl⟩ : pre ++ [mi] = front ∧ tail = tail' := by
      simpa using hsplit.symm.trans hsplit'
    exact htracks.idle_iff.mpr (hidle r hr)

/-- Two buffers that agree up to the message integrity reach it with the same message,
but for the copy of the buffer. -/
theorem front_agree {pre tail tail' : List Record} {mi : Record} {m₁ : StunMessage}
    (hagree : Agree k buf buf') (hmi : mi.type = Attr.code .messageIntegrity)
    (hpre : ∀ r ∈ pre, r.type ≠ Attr.code .messageIntegrity)
    (hend : k = 20 + (area (pre ++ [mi])).length)
    (hfront : runRecords (area (pre ++ mi :: tail)).length
      ((received localTuple remoteTuple buf).entered buf) (pre ++ [mi]) (area tail) = .ok m₁) :
    runRecords (area (pre ++ mi :: tail')).length
      ((received localTuple remoteTuple buf').entered buf') (pre ++ [mi]) (area tail') =
        .ok (m₁.withBuffer buf') := by
  obtain ⟨htype, hid, _⟩ := hagree.parts (by omega)
  rw [entered_agree htype hid, runRecords_withBuffer,
    front_run received_tracks hpre hmi hfront, Parse.ok_bind]

/-- The buffer cut off behind the message integrity is accepted too. -/
theorem cut_accepted {pre tail : List Record} {mi : Record} {m₁ : StunMessage}
    (hfits : HeaderFits buf) (hdrop : buf.drop stunMsgHdrSize = area (pre ++ mi :: tail))
    (hmi : mi.type = Attr.code .messageIntegrity)
    (hpre : ∀ r ∈ pre, r.type ≠ Attr.code .messageIntegrity)
    (hend : k = 20 + (area (pre ++ [mi])).length)
    (hfront : runRecords (area (pre ++ mi :: tail)).length
      ((received localTuple remoteTuple buf).entered buf) (pre ++ [mi]) (area tail) = .ok m₁) :
    Agree k buf (cut k buf) ∧ ofBuffer localTuple remoteTuple (cut k buf) =
      .ok (m₁.withBuffer (cut k buf)) ∧ integrityEnd (cut k buf) = some k ∧ TailIdle (cut k buf) := by
  have hsize : buf.length = 20 + (area (pre ++ mi :: tail)).length := by
    have h20 := hfits.1
    unfold stunMsgHdrSize at h20
    rw [← hdrop, List.length_drop, stunMsgHdrSize]
    omega
  have harea : area (pre ++ mi :: tail) = area (pre ++ [mi]) ++ area tail := by simp
  have hk : k ≤ buf.length := by
    rw [hsize, harea, List.length_append]
    omega
  have h20 : 20 ≤ k := by omega
  have hlt : k - 20 < 65536 := by
    have hheader := hfits.headerLength_eq hdrop
    have hbound : headerLength buf < 256 ^ 2 :=
      (BigEndian.value_lt _).trans_le
        (Nat.pow_le_pow_right (by norm_num) (by simp only [List.length_take]; omega))
    omega
  have hagree := cut_agree hk h20
  have hcutdrop : (cut k buf).drop stunMsgHdrSize = area (pre ++ [mi]) := by
    have htake : (buf.drop stunMsgHdrSize).take (k - 20) = area (pre ++ [mi]) := by
      rw [hdrop, harea, hend, Nat.add_sub_cancel_left, List.take_left]
    rw [← htake, (hagree.parts h20).2.2, List.take_of_length_le]
    rw [List.length_drop, cut_length hk h20, stunMsgHdrSize]
  have hcutfits : HeaderFits (cut k buf) := by
    refine ⟨?_, ?_⟩
    · rw [cut_length hk h20]
      exact h20
    · rw [cut_headerLength hk h20 hlt, cut_length hk h20, stunMsgHdrSize]
      omega
  have hrecords := attributeRecords_eq hcutdrop
  have hsplit : splitIntegrity (attributeRecords (cut k buf)) = some (pre ++ [mi], []) := by
    rw [hrecords]
    exact splitIntegrity_append hmi hpre
  refine ⟨hagree, ?_, ?_, ?_⟩
  · refine ofBuffer_of_run hcutfits hcutdrop ?_
    exact front_agree hagree hmi hpre hend hfront
  · rw [integrityEnd, hsplit, hend]
    rfl
  · intro front tail' hsplit' r hr
    obtain ⟨_, rfl⟩ : pre ++ [mi] = front ∧ [] = tail' := by simpa using hsplit.symm.trans hsplit'
    exact absurd hr List.not_mem_nil

/-- The bytes up to the message integrity decide what is used of an accepted buffer, against
every other accepted buffer with idle attributes only behind it, exactly when the buffer
has idle attributes only behind it. -/
theorem integrity_covers (h : ofBuffer localTuple remoteTuple buf = .ok m)
    (hk : integrityEnd buf = some k) :
    (∀ buf' m', ofBuffer localTuple remoteTuple buf' = .ok m' → integrityEnd buf' = some k →
      Agree k buf buf' → TailIdle buf' → m'.used = m.used) ↔ TailIdle buf := by
  obtain ⟨pre, mi, tail, m₁, hfits, hdrop, hmi, hpre, hend, hfront, htail⟩ := ofBuffer_split h hk
  have htracks : Tracks ((pre ++ [mi]).map Record.type) m₁ := by
    simpa using received_tracks.run hfront
  have hidle := tailIdle_iff hdrop hmi hpre htracks
  have hused := runRecords_used_iff htail
  constructor
  · intro hall
    obtain ⟨hagree, haccepted, hcutend, hcutidle⟩ := cut_accepted hfits hdrop hmi hpre hend hfront
    have hsame := hall _ _ haccepted hcutend hagree hcutidle
    exact hidle.mpr (hused.mp hsame.symm)
  · intro hbuf buf' m' h' hk' hagree hbuf'
    obtain ⟨pre', mi', tail', m₁', hfits', hdrop', hmi', hpre', hend', hfront', htail'⟩ :=
      ofBuffer_split h' hk'
    have hparts := (hagree.parts (by omega)).2.2
    have hsplit (rs : List Record) (r : Record) (rs' : List Record) :
        area (rs ++ r :: rs') = area (rs ++ [r]) ++ area rs' := by simp
    have harea : area (pre ++ [mi]) = area (pre' ++ [mi']) := by
      rw [hdrop, hdrop', hsplit, hsplit pre', show k - 20 = (area (pre ++ [mi])).length by omega,
        List.take_left, show (area (pre ++ [mi])).length = (area (pre' ++ [mi'])).length by omega,
        List.take_left] at hparts
      exact hparts
    obtain ⟨rfl, hlast⟩ := List.append_inj' (Tlv.area_injective harea) rfl
    obtain rfl : mi = mi' := by simpa using hlast
    rw [front_agree hagree hmi hpre hend hfront] at hfront'
    obtain rfl := Except.ok.inj hfront'
    have htracks' : Tracks ((pre ++ [mi]).map Record.type) (m₁.withBuffer buf') :=
      ⟨htracks.attrs, htracks.peers, htracks.unknown⟩
    have hidle' := tailIdle_iff hdrop' hmi hpre htracks'
    have hused' := runRecords_used_iff htail'
    calc m'.used = (m₁.withBuffer buf').used := hused'.mpr (hidle'.mp hbuf')
      _ = m₁.used := rfl
      _ = m.used := (hused.mpr (hidle.mp hbuf)).symm

/-- A refresh request that ends with its message integrity. -/
def endsWithIntegrity : Data :=
  [0x00, 0x04, 0x00, 0x18, 0x21, 0x12, 0xA4, 0x42, 1, 2, 3, 4, 5, 6, 7, 8, 9, 10, 11, 12,
    0x00, 0x08, 0x00, 0x14] ++ List.replicate 20 0xAB

/-- The same request with a lifetime of 600 seconds behind the message integrity. -/
def lifetimeBehindIntegrity : Data :=
  [0x00, 0x04, 0x00, 0x20, 0x21, 0x12, 0xA4, 0x42, 1, 2, 3, 4, 5, 6, 7, 8, 9, 10, 11, 12,
    0x00, 0x08, 0x00, 0x14] ++ List.replicate 20 0xAB ++ [0x00, 0x0D, 0x00, 0x04, 0, 0, 0x02, 0x58]

theorem exists_of_isSome {x : Parse StunMessage} (h : x.toOption.isSome = true) :
    ∃ m, x = .ok m := by
  cases x with
  | error e => cases h
  | ok m => exact ⟨m, rfl⟩

theorem integrity_covers_ends : ∃ m, ofBuffer anyTuple anyTuple endsWithIntegrity = .ok m ∧
    ((∀ buf' m', ofBuffer anyTuple anyTuple buf' = .ok m' → integrityEnd buf' = some 44 →
      Agree 44 endsWithIntegrity buf' → TailIdle buf' → m'.used = m.used) ↔
        TailIdle endsWithIntegrity) := by
  obtain ⟨m, hm⟩ := exists_of_isSome
    (by decide +kernel : (ofBuffer anyTuple anyTuple endsWithIntegrity).toOption.isSome = true)
  exact ⟨m, hm, integrity_covers hm (by decide +kernel)⟩

theorem not_integrity_covers : ∃ m m',
    ofBuffer anyTuple anyTuple endsWithIntegrity = .ok m ∧
    ofBuffer anyTuple anyTuple lifetimeBehindIntegrity = .ok m' ∧
    integrityEnd endsWithIntegrity = some 44 ∧ integrityEnd lifetimeBehindIntegrity = some 44 ∧
    Agree 44 endsWithIntegrity lifetimeBehindIntegrity ∧ m'.used ≠ m.used := by
  obtain ⟨m, hm⟩ := exists_of_isSome
    (by decide +kernel : (ofBuffer anyTuple anyTuple endsWithIntegrity).toOption.isSome = true)
  obtain ⟨m', hm'⟩ := exists_of_isSome
    (by decide +kernel : (ofBuffer anyTuple anyTuple lifetimeBehindIntegrity).toOption.isSome = true)
  refine ⟨m, m', hm, hm', by decide +kernel, by decide +kernel, ⟨by decide, by decide⟩, fun hsame => ?_⟩
  have hlifetime : (ofBuffer anyTuple anyTuple endsWithIntegrity).toOption.bind mTurnLifetime ≠
      (ofBuffer anyTuple anyTuple lifetimeBehindIntegrity).toOption.bind mTurnLifetime := by
    decide +kernel
  have hattrs : m'.attrs .turnLifetime = m.attrs .turnLifetime := by
    simpa [used] using congrFun (congrArg attrs hsame) .turnLifetime
  rw [hm, hm'] at hlifetime
  exact hlifetime hattrs.symm

end Buffers

end StunMessage

end Resiprocate.ReTurn
