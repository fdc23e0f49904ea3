import Mathlib
import Resiprocate.StunParseRun

/-! What of a message the message integrity covers: the runs of the parser over two
buffers that agree up to it. -/
namespace Resiprocate.ReTurn
open BigEndian (value)
open Tlv (Record fill headType headLength headSize uncons area)

namespace StunMessage

section Local
variable {body rest : Data} {attrLen : ℕ}

theorem stunParseAtrAddress_append (h : attrLen + 12 ≤ body.length) :
    stunParseAtrAddress (body ++ rest) attrLen = stunParseAtrAddress body attrLen := by
  unfold stunParseAtrAddress
  split_ifs with hlen
  · rfl
  · rw [numberAt_append (by omega), numberAt_append (by omega), numberAt_append (by omega),
      bytesAt_append (by omega)]

theorem stunParseAtrXorAddress_append {magicCookieAndTid : Vector UInt8 16}
    (h : attrLen + 12 ≤ body.length) :
    stunParseAtrXorAddress magicCookieAndTid (body ++ rest) attrLen =
      stunParseAtrXorAddress magicCookieAndTid body attrLen := by
  unfold stunParseAtrXorAddress
  rw [stunParseAtrAddress_append h]

theorem stunParseAtrUInt32_append (h : attrLen ≤ body.length) :
    stunParseAtrUInt32 (body ++ rest) attrLen = stunParseAtrUInt32 body attrLen := by
  unfold stunParseAtrUInt32
  split_ifs with hlen
  · rfl
  · rw [numberAt_append (by omega)]

theorem attrTypesAt_append {offset n : ℕ} (h : offset + 2 * n ≤ body.length) :
    attrTypesAt (body ++ rest) offset n = attrTypesAt body offset n := by
  induction n generalizing offset with
  | zero => rfl
  | succ n ih =>
    rw [attrTypesAt, attrTypesAt, numberAt_append (by omega), ih (by omega)]

theorem stunParseAtrError_append (h : attrLen ≤ body.length) (hlt : attrLen < 256 ^ 2)
    (hlong : ¬ maxErrorcodeReasonBytes < unsignedSub attrLen 4) :
    stunParseAtrError (body ++ rest) attrLen = stunParseAtrError body attrLen := by
  have hreason : 4 ≤ attrLen ∧ unsignedSub attrLen 4 = attrLen - 4 := by
    unfold unsignedSub maxErrorcodeReasonBytes at hlong
    unfold unsignedSub
    omega
  simp only [stunParseAtrError, if_neg hlong, numberAt_append (by omega : 2 + 1 ≤ body.length),
    numberAt_append (by omega : 3 + 1 ≤ body.length),
    bytesAt_append (by omega : 4 + unsignedSub attrLen 4 ≤ body.length)]

/-- A value is found in its attribute and the twelve bytes that follow. -/
theorem parseValue_append (magicCookieAndTid : Vector UInt8 16) (kind : Kind)
    (hlt : attrLen < 256 ^ 2) (h : attrLen + 12 ≤ body.length) :
    parseValue magicCookieAndTid kind (body ++ rest) attrLen =
      parseValue magicCookieAndTid kind body attrLen := by
  cases kind with
  | address => exact stunParseAtrAddress_append h
  | xorAddress => exact stunParseAtrXorAddress_append h
  | uInt32 => exact stunParseAtrUInt32_append (by omega)
  | uInt64 =>
    show stunParseAtrUInt64 (body ++ rest) attrLen = stunParseAtrUInt64 body attrLen
    unfold stunParseAtrUInt64
    split_ifs with hlen
    · rfl
    · rw [numberAt_append (by omega)]
  | upper16 =>
    exact congrArg (fun x : Parse UInt32 => (do return ((← x) >>> 16).toUInt16 : Parse UInt16))
      (stunParseAtrUInt32_append (by omega))
  | upper8 =>
    exact congrArg (fun x : Parse UInt32 => (do return ((← x) >>> 24).toUInt8 : Parse UInt8))
      (stunParseAtrUInt32_append (by omega))
  | string maxBytes =>
    exact congrArg (fun x : Parse Data => if maxBytes < attrLen then .error .rejected else x)
      (bytesAt_append (by omega : 0 + attrLen ≤ body.length))
  | data => exact bytesAt_append (by omega)
  | integrity =>
    show stunParseAtrIntegrity (body ++ rest) attrLen = stunParseAtrIntegrity body attrLen
    simp only [stunParseAtrIntegrity, bytesAt_append (by omega : 0 + attrLen ≤ body.length)]
  | error =>
    show (if maxErrorcodeReasonBytes < unsignedSub attrLen 4 then .error .rejected
      else stunParseAtrError (body ++ rest) attrLen : Parse StunAtrError) =
      if maxErrorcodeReasonBytes < unsignedSub attrLen 4 then .error .rejected
      else stunParseAtrError body attrLen
    split_ifs with hlong
    · rfl
    · exact stunParseAtrError_append (by omega) hlt hlong
  | unknown =>
    show stunParseAtrUnknown (body ++ rest) attrLen = stunParseAtrUnknown body attrLen
    simp only [stunParseAtrUnknown, attrTypesAt_append (by omega : 0 + 2 * (attrLen / 2) ≤ body.length)]
  | evenPort =>
    show stunParseAtrEvenPort (body ++ rest) attrLen = stunParseAtrEvenPort body attrLen
    unfold stunParseAtrEvenPort
    split_ifs with hlen
    · rfl
    · rw [numberAt_append (by omega)]
  | flag => rfl

end Local

/-- The parser over a list of records that are followed by `rest`. -/
def runRecords (msgLength : ℕ) (m : StunMessage) : List Record → Data → Parse StunMessage
  | [], _ => .ok m
  | r :: rs, rest => do
    let m' ← parseAttribute msgLength m r.type (r.content ++ (area rs ++ rest)) r.length
    runRecords msgLength m' rs rest

section Records
variable {msgLength msgLength' : ℕ} {m : StunMessage} {rs : List Record} {rest : Data}

theorem attributes_append (msgLength : ℕ) (m : StunMessage) (rs : List Record) (rest : Data) :
    attributes msgLength m (area rs ++ rest) =
      (runRecords msgLength m rs rest) >>= fun m' => attributes msgLength m' rest := by
  induction rs generalizing m with
  | nil => rfl
  | cons r rs ih =>
    rw [Tlv.area_cons, List.append_assoc, attributes_record, runRecords, bind_assoc]
    simp only [ih]

theorem attributes_eq_runRecords (m : StunMessage) (rs : List Record) :
    attributes msgLength m (area rs) = runRecords msgLength m rs [] := by
  have h := attributes_append msgLength m rs []
  simp only [List.append_nil, attributes_nil] at h
  rw [h]
  cases runRecords msgLength m rs [] <;> rfl

/-- Only one attribute has an alias. -/
theorem attrOfCode_eq_some {atrType : UInt16} {a : Attr} (hcode : attrOfCode atrType = some a)
    (ha : a ≠ .xorMappedAddress) : atrType = a.code := by
  unfold attrOfCode at hcode
  split_ifs at hcode with hold
  · exact absurd (Option.some_inj.mp hcode).symm ha
  · have hfound : a.code = atrType := by simpa using List.find?_some hcode
    exact hfound.symm

/-- Where the message integrity stands matters to no other attribute. -/
theorem parseAttribute_append {atrType : UInt16} {body rest' : Data} {attrLen : ℕ}
    (htype : atrType ≠ Attr.code .messageIntegrity) (hlt : attrLen < 256 ^ 2)
    (h : attrLen + 12 ≤ body.length) :
    parseAttribute msgLength m atrType (body ++ rest) attrLen =
      parseAttribute msgLength' m atrType (body ++ rest') attrLen := by
  by_cases hpass : m.PassesOver atrType
  · rw [parseAttribute_passed hpass, parseAttribute_passed hpass]
  obtain ⟨a, hcode, hnone⟩ | ⟨rfl, hroom⟩ | ⟨hcode, hpeer, hrequired, hroom⟩ := not_passesOver hpass
  · have ha : a ≠ .messageIntegrity := by
      rintro rfl
      exact htype (attrOfCode_eq_some hcode nofun)
    rw [parseAttribute_known hcode hnone, parseAttribute_known hcode hnone,
      parseValue_append _ _ hlt h, parseValue_append _ _ hlt h]
    simp only [keep, if_neg ha]
  · rw [parseAttribute_peer hroom, parseAttribute_peer hroom, stunParseAtrXorAddress_append h,
      stunParseAtrXorAddress_append h]
  · rw [parseAttribute_unknown hcode hpeer hrequired hroom,
      parseAttribute_unknown hcode hpeer hrequired hroom]

/-- Records before the message integrity are parsed alike, whatever follows it. -/
theorem runRecords_append {c rest' : Data} (hc : 12 ≤ c.length)
    (htypes : ∀ r ∈ rs, r.type ≠ Attr.code .messageIntegrity) :
    runRecords msgLength m rs (c ++ rest) = runRecords msgLength' m rs (c ++ rest') := by
  induction rs generalizing m with
  | nil => rfl
  | cons r rs ih =>
    have hlen : r.length + 12 ≤ (r.content ++ (area rs ++ c)).length := by
      simp only [List.length_append, r.content_length]
      omega
    have hbody (t : Data) : r.content ++ (area rs ++ (c ++ t)) = r.content ++ (area rs ++ c) ++ t := by
      simp only [List.append_assoc]
    have hhead : parseAttribute msgLength m r.type (r.content ++ (area rs ++ c) ++ rest) r.length =
        parseAttribute msgLength' m r.type (r.content ++ (area rs ++ c) ++ rest') r.length :=
      parseAttribute_append (htypes r (by simp)) r.length_lt hlen
    rw [runRecords, runRecords, hbody, hbody, hhead]
    simp only [ih fun r' hr' => htypes r' (by simp [hr'])]

end Records

/-- All of a message but the fingerprint and the copy of the buffer. -/
def used (m : StunMessage) : StunMessage :=
  { m with mBuffer := [], attrs := Function.update m.attrs .fingerprint none }

/-- An attribute that leaves all of this as it is. -/
def Idles (m : StunMessage) (atrType : UInt16) : Prop :=
  m.PassesOver atrType ∨ attrOfCode atrType = some .fingerprint

/-- A message that holds at least as much. -/
structure Grows (m m' : StunMessage) : Prop where
  attrs : ∀ a, m.attrs a ≠ none → m'.attrs a ≠ none
  peers : m.mTurnXorPeerAddress.length ≤ m'.mTurnXorPeerAddress.length
  unknown : m.mUnknownRequiredAttributes.length ≤ m'.mUnknownRequiredAttributes.length

theorem Grows.trans {m₁ m₂ m₃ : StunMessage} (h : Grows m₁ m₂) (h' : Grows m₂ m₃) :
    Grows m₁ m₃ where
  attrs a ha := h'.attrs a (h.attrs a ha)
  peers := h.peers.trans h'.peers
  unknown := h.unknown.trans h'.unknown

section Tail
variable {msgLength : ℕ} {m m' : StunMessage} {atrType : UInt16} {body : Data} {attrLen : ℕ}

theorem keep_attrs_self {a : Attr} {v : a.Value} {position : ℕ} :
    (m.keep a v position).attrs a = some v := by
  simp [keep, set]

theorem keep_attrs_of_ne {a b : Attr} {v : a.Value} {position : ℕ} (h : b ≠ a) :
    (m.keep a v position).attrs b = m.attrs b := by
  simp [keep, set, h]

theorem parseAttribute_grows (h : parseAttribute msgLength m atrType body attrLen = .ok m') :
    Grows m m' := by
  obtain ⟨_, rfl⟩ | ⟨a, v, _, _, _, rfl⟩ | ⟨_, _, _, _, rfl⟩ | ⟨_, _, _, _, rfl⟩ :=
    parseAttribute_cases h
  · exact ⟨fun _ ha => ha, le_rfl, le_rfl⟩
  · refine ⟨fun b hb => ?_, le_rfl, le_rfl⟩
    by_cases hba : b = a
    · subst hba
      rw [keep_attrs_self]
      exact nofun
    · rwa [keep_attrs_of_ne hba]
  · exact ⟨fun _ ha => ha, by simp, le_rfl⟩
  · exact ⟨fun _ ha => ha, le_rfl, by simp⟩

theorem runRecords_grows {rs : List Record} {rest : Data}
    (h : runRecords msgLength m rs rest = .ok m') : Grows m m' := by
  induction rs generalizing m with
  | nil =>
    cases h
    exact ⟨fun _ ha => ha, le_rfl, le_rfl⟩
  | cons r rs ih =>
    obtain ⟨m₁, hattr, hrest⟩ := Parse.bind_eq_ok.mp h
    exact (parseAttribute_grows hattr).trans (ih hrest)

theorem idles_used : m.used.Idles atrType ↔ m.Idles atrType := by
  unfold Idles
  cases heq : attrOfCode atrType with
  | none => simp [PassesOver, heq, used]
  | some a =>
    by_cases ha : a = .fingerprint
    · simp [ha]
    · simp [PassesOver, heq, used, ha]

theorem used_of_idles (h : parseAttribute msgLength m atrType body attrLen = .ok m')
    (hidle : m.Idles atrType) : m'.used = m.used := by
  obtain ⟨_, rfl⟩ | ⟨a, v, hcode, hnone, _, rfl⟩ | ⟨_, hpeer, hroom, _⟩ | ⟨hcode, hne, hreq, hroom, _⟩ :=
    parseAttribute_cases h
  · rfl
  · obtain hpass | hfinger := hidle
    · simp only [PassesOver, hcode] at hpass
      exact absurd hnone hpass
    · obtain rfl : a = .fingerprint := Option.some_inj.mp (hcode.symm.trans hfinger)
      simp [used, keep, set]
  · subst hpeer
    obtain hpass | hfinger := hidle
    · simp only [PassesOver, attrOfCode_peer, if_true] at hpass
      omega
    · rw [attrOfCode_peer] at hfinger
      cases hfinger
  · obtain hpass | hfinger := hidle
    · simp only [PassesOver, hcode, if_neg hne] at hpass
      have hfull := hpass hreq
      omega
    · rw [hcode] at hfinger
      cases hfinger

/-- An attribute that is not idle leaves a trace, which nothing that follows removes. -/
theorem idles_of_used {m'' : StunMessage}
    (h : parseAttribute msgLength m atrType body attrLen = .ok m') (hgrows : Grows m' m'')
    (hused : m''.used = m.used) : m.Idles atrType := by
  obtain ⟨hpass, _⟩ | ⟨a, v, hcode, hnone, _, rfl⟩ | ⟨_, _, _, _, rfl⟩ | ⟨_, _, _, _, rfl⟩ :=
    parseAttribute_cases h
  · exact .inl hpass
  · by_cases ha : a = .fingerprint
    · exact .inr (by rw [hcode, ha])
    · have hset : m''.attrs a ≠ none := hgrows.attrs a (by rw [keep_attrs_self]; exact nofun)
      have hattrs := congrFun (congrArg attrs hused) a
      simp only [used, Function.update_of_ne ha] at hattrs
      exact absurd (hattrs.trans hnone) hset
  · have hpeers := hgrows.peers
    have hsame := congrArg mTurnXorPeerAddress hused
    simp only [used] at hsame
    rw [hsame] at hpeers
    simp at hpeers
  · have hunknown := hgrows.unknown
    have hsame := congrArg mUnknownRequiredAttributes hused
    simp only [used] at hsame
    rw [hsame] at hunknown
    simp at hunknown

/-- Records change what is used exactly when one of them is not idle. -/
theorem runRecords_used_iff {rs : List Record} {rest : Data}
    (h : runRecords msgLength m rs rest = .ok m') :
    m'.used = m.used ↔ ∀ r ∈ rs, m.Idles r.type := by
  induction rs generalizing m with
  | nil =>
    cases h
    simp
  | cons r rs ih =>
    obtain ⟨m₁, hattr, hrest⟩ := Parse.bind_eq_ok.mp h
    constructor
    · intro hused
      have hhead := idles_of_used hattr (runRecords_grows hrest) hused
      have hfirst := used_of_idles hattr hhead
      have htail := (ih hrest).mp (hused.trans hfirst.symm)
      intro r' hr'
      obtain rfl | hr' := List.mem_cons.mp hr'
      · exact hhead
      · rw [← idles_used, ← hfirst, idles_used]
        exact htail r' hr'
    · intro hidle
      have hfirst := used_of_idles hattr (hidle r (by simp))
      rw [← hfirst]
      refine (ih hrest).mpr fun r' hr' => ?_
      rw [← idles_used, hfirst, idles_used]
      exact hidle r' (by simp [hr'])

end Tail

end StunMessage

end Resiprocate.ReTurn
