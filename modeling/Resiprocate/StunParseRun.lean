import Mathlib
import Resiprocate.StunParse

/-! Runs of the parser: what a round of its loop does to the record in front of it,
and what the loop makes of an area of records. -/
namespace Resiprocate.ReTurn
open BigEndian (value)
open Tlv (Record fill headType headLength headSize uncons area)

section Reads
variable {buf rest : Data} {offset n : ℕ}

theorem bytesAt_of_le (h : offset + n ≤ buf.length) :
    bytesAt buf offset n = .ok ((buf.drop offset).take n) := if_pos h

theorem bytesAt_of_lt (h : buf.length < offset + n) :
    bytesAt buf offset n = .error .outOfBounds := if_neg (by omega)

theorem numberAt_of_le (h : offset + n ≤ buf.length) :
    numberAt buf offset n = .ok (value ((buf.drop offset).take n)) := by
  rw [numberAt, bytesAt_of_le h]
  rfl

theorem numberAt_of_lt (h : buf.length < offset + n) :
    numberAt buf offset n = .error .outOfBounds := by
  rw [numberAt, bytesAt_of_lt h]
  rfl

/-- What follows the bytes that are read does not matter. -/
theorem bytesAt_append (h : offset + n ≤ buf.length) :
    bytesAt (buf ++ rest) offset n = bytesAt buf offset n := by
  have hle : offset + n ≤ (buf ++ rest).length := by
    rw [List.length_append]
    omega
  rw [bytesAt_of_le h, bytesAt_of_le hle, List.drop_append_of_le_length (by omega),
    List.take_append_of_le_length (by rw [List.length_drop]; omega)]

theorem numberAt_append (h : offset + n ≤ buf.length) :
    numberAt (buf ++ rest) offset n = numberAt buf offset n := by
  rw [numberAt, numberAt, bytesAt_append h]

end Reads

namespace StunMessage
variable {msgLength : ℕ} {m : StunMessage} {body rest : Data}

theorem has_of_none {a : Attr} (h : m.attrs a = none) : m.has a = false := by
  rw [has, h]
  rfl

theorem has_of_ne_none {a : Attr} (h : m.attrs a ≠ none) : m.has a = true :=
  Option.isSome_iff_ne_none.mpr h

/-- An attribute that the parser passes over: a duplicate, one more peer address or
unknown attribute than it keeps, or an unknown one that it need not comprehend. -/
def PassesOver (m : StunMessage) (atrType : UInt16) : Prop :=
  match attrOfCode atrType with
  | some a => m.attrs a ≠ none
  | none =>
    if atrType = turnXorPeerAddressCode then turnMaxXorPeerAddr ≤ m.mTurnXorPeerAddress.length
    else atrType ≤ 0x7FFF → stunMaxUnknownAttributes ≤ m.mUnknownRequiredAttributes.length

section Attribute
variable {atrType : UInt16} {attrLen : ℕ}

theorem parseAttribute_passed (h : m.PassesOver atrType) :
    parseAttribute msgLength m atrType body attrLen = .ok m := by
  cases heq : attrOfCode atrType with
  | some a =>
    simp only [PassesOver, heq] at h
    simp [parseAttribute, heq, has_of_ne_none h]
  | none =>
    simp only [PassesOver, heq] at h
    simp only [parseAttribute, heq]
    split_ifs at h ⊢ with hpeer hroom hrequired hroom
    · omega
    · rfl
    · have hfull := h hrequired
      omega
    · rfl
    · rfl

theorem parseAttribute_known {a : Attr} (hcode : attrOfCode atrType = some a)
    (hnone : m.attrs a = none) :
    parseAttribute msgLength m atrType body attrLen =
      (parseValue m.magicCookieAndTid a.kind body attrLen) >>= fun v =>
        .ok (m.keep a v (msgLength - body.length + attrLen)) := by
  simp only [parseAttribute, hcode, has_of_none hnone]
  rfl

theorem attrOfCode_peer : attrOfCode turnXorPeerAddressCode = none := by decide

theorem parseAttribute_peer (hroom : m.mTurnXorPeerAddress.length < turnMaxXorPeerAddr) :
    parseAttribute msgLength m turnXorPeerAddressCode body attrLen =
      (stunParseAtrXorAddress m.magicCookieAndTid body attrLen) >>= fun address =>
        .ok { m with mTurnXorPeerAddress := m.mTurnXorPeerAddress ++ [address] } := by
  simp only [parseAttribute, attrOfCode_peer, if_pos hroom]
  rfl

theorem parseAttribute_unknown (hcode : attrOfCode atrType = none)
    (hpeer : atrType ≠ turnXorPeerAddressCode) (hrequired : atrType ≤ 0x7FFF)
    (hroom : m.mUnknownRequiredAttributes.length < stunMaxUnknownAttributes) :
    parseAttribute msgLength m atrType body attrLen =
      .ok { m with mUnknownRequiredAttributes := m.mUnknownRequiredAttributes ++ [atrType] } := by
  simp only [parseAttribute, hcode, if_neg hpeer, if_pos hrequired, if_pos hroom]

/-- What an attribute that is not passed over is. -/
theorem not_passesOver (h : ¬ m.PassesOver atrType) :
    (∃ a, attrOfCode atrType = some a ∧ m.attrs a = none) ∨
    (atrType = turnXorPeerAddressCode ∧ m.mTurnXorPeerAddress.length < turnMaxXorPeerAddr) ∨
    (attrOfCode atrType = none ∧ atrType ≠ turnXorPeerAddressCode ∧ atrType ≤ 0x7FFF ∧
      m.mUnknownRequiredAttributes.length < stunMaxUnknownAttributes) := by
  cases heq : attrOfCode atrType with
  | some a =>
    simp only [PassesOver, heq, not_not] at h
    exact .inl ⟨a, rfl, h⟩
  | none =>
    simp only [PassesOver, heq] at h
    split_ifs at h with hpeer
    · exact .inr (.inl ⟨hpeer, not_le.mp h⟩)
    · push Not at h
      exact .inr (.inr ⟨rfl, hpeer, h.1, h.2⟩)

/-- What an accepted attribute does to the message. -/
theorem parseAttribute_cases {m' : StunMessage}
    (h : parseAttribute msgLength m atrType body attrLen = .ok m') :
    (m.PassesOver atrType ∧ m' = m) ∨
    (∃ a v, attrOfCode atrType = some a ∧ m.attrs a = none ∧
      parseValue m.magicCookieAndTid a.kind body attrLen = .ok v ∧
      m' = m.keep a v (msgLength - body.length + attrLen)) ∨
    (∃ address, atrType = turnXorPeerAddressCode ∧
      m.mTurnXorPeerAddress.length < turnMaxXorPeerAddr ∧
      stunParseAtrXorAddress m.magicCookieAndTid body attrLen = .ok address ∧
      m' = { m with mTurnXorPeerAddress := m.mTurnXorPeerAddress ++ [address] }) ∨
    (attrOfCode atrType = none ∧ atrType ≠ turnXorPeerAddressCode ∧ atrType ≤ 0x7FFF ∧
      m.mUnknownRequiredAttributes.length < stunMaxUnknownAttributes ∧
      m' = { m with mUnknownRequiredAttributes := m.mUnknownRequiredAttributes ++ [atrType] }) := by
  by_cases hpass : m.PassesOver atrType
  · rw [parseAttribute_passed hpass] at h
    cases h
    exact .inl ⟨hpass, rfl⟩
  obtain ⟨a, hcode, hnone⟩ | ⟨rfl, hroom⟩ | ⟨hcode, hpeer, hrequired, hroom⟩ := not_passesOver hpass
  · rw [parseAttribute_known hcode hnone, Parse.bind_eq_ok] at h
    obtain ⟨v, hv, hm'⟩ := h
    cases hm'
    exact .inr (.inl ⟨a, v, hcode, hnone, hv, rfl⟩)
  · rw [parseAttribute_peer hroom, Parse.bind_eq_ok] at h
    obtain ⟨address, haddress, hm'⟩ := h
    cases hm'
    exact .inr (.inr (.inl ⟨address, rfl, hroom, haddress, rfl⟩))
  · rw [parseAttribute_unknown hcode hpeer hrequired hroom] at h
    cases h
    exact .inr (.inr (.inr ⟨hcode, hpeer, hrequired, hroom, rfl⟩))

end Attribute

/-- With fewer than four bytes left, the header of the attribute is read past the end. -/
theorem parseNext_short (h : body.length < 4) :
    parseNext msgLength m body = .error .outOfBounds := by
  rw [parseNext, numberAt_of_lt (by omega)]
  rfl

theorem parseNext_eq (h : 4 ≤ body.length) :
    parseNext msgLength m body =
      if body.length < headSize body then .error .rejected
      else (parseAttribute msgLength m (headType body) (body.drop 4) (headLength body)) >>=
        fun m' => .ok (m', body.drop (headSize body)) := by
  have hlength : numberAt body 2 2 = .ok (headLength body) := numberAt_of_le (by omega)
  have htype : numberAt body 0 2 = .ok (value (body.take 2)) := numberAt_of_le (by omega)
  have hsize : headLength body + (if headLength body % 4 = 0 then 0 else 4 - headLength body % 4) + 4
      = headSize body := by
    simp only [headSize, fill]
    omega
  rw [parseNext, hlength, Parse.ok_bind, htype, Parse.ok_bind, hsize]
  rfl

theorem parseNext_record (r : Record) (rest : Data) :
    parseNext msgLength m (r.bytes ++ rest) =
      (parseAttribute msgLength m r.type (r.content ++ rest) r.length) >>=
        fun m' => .ok (m', rest) := by
  have hlen : r.bytes.length = r.size := r.length_bytes
  have h4 : 4 ≤ (r.bytes ++ rest).length := by
    rw [List.length_append, hlen, Record.size]
    omega
  rw [parseNext_eq h4, if_neg (by rw [Tlv.headSize_bytes, List.length_append]; omega),
    Tlv.headType_bytes, Tlv.headLength_bytes, Tlv.content_bytes, Tlv.headSize_bytes, ← hlen,
    List.drop_left]

/-- A round that goes on has taken a record from the front. -/
theorem parseNext_ok {next : StunMessage × Data} (h : parseNext msgLength m body = .ok next) :
    ∃ r : Record, body = r.bytes ++ next.2 ∧
      parseAttribute msgLength m r.type (r.content ++ next.2) r.length = .ok next.1 := by
  have h4 : 4 ≤ body.length := by
    by_contra hlt
    rw [parseNext_short (by omega)] at h
    cases h
  cases hu : uncons body with
  | none =>
    rw [parseNext_eq h4, if_pos (Tlv.uncons_eq_none.mp hu)] at h
    cases h
  | some p =>
    obtain ⟨r, rest⟩ := p
    obtain rfl := Tlv.uncons_bytes hu
    rw [parseNext_record, Parse.bind_eq_ok] at h
    obtain ⟨m', hm, hnext⟩ := h
    cases hnext
    exact ⟨r, rfl, hm⟩

theorem parseAttributes_fuel {fuel fuel' : ℕ} (h : body.length ≤ fuel) (h' : body.length ≤ fuel') :
    parseAttributes msgLength fuel m body = parseAttributes msgLength fuel' m body := by
  induction fuel generalizing m body fuel' with
  | zero =>
    obtain rfl := List.eq_nil_of_length_eq_zero (by omega : body.length = 0)
    cases fuel' <;> rfl
  | succ fuel ih =>
    cases fuel' with
    | zero =>
      obtain rfl := List.eq_nil_of_length_eq_zero (by omega : body.length = 0)
      rfl
    | succ fuel' =>
      simp only [parseAttributes]
      split_ifs with hnil
      · rfl
      cases hnext : parseNext msgLength m body with
      | error e => rfl
      | ok next =>
        obtain ⟨r, hbody, _⟩ := parseNext_ok hnext
        have hlen := congrArg List.length hbody
        rw [List.length_append, r.length_bytes, Record.size] at hlen
        exact ih (by omega) (by omega)

/-- The loop over what is left of a buffer. -/
def attributes (msgLength : ℕ) (m : StunMessage) (body : Data) : Parse StunMessage :=
  parseAttributes msgLength body.length m body

@[simp] theorem attributes_nil : attributes msgLength m [] = .ok m := rfl

theorem attributes_of_ne_nil (h : body ≠ []) :
    attributes msgLength m body =
      (parseNext msgLength m body) >>= fun next => attributes msgLength next.1 next.2 := by
  have hpos := List.length_pos_iff.mpr h
  obtain ⟨k, hk⟩ := Nat.exists_eq_succ_of_ne_zero (by omega : body.length ≠ 0)
  rw [attributes, hk, parseAttributes, if_neg h]
  cases hnext : parseNext msgLength m body with
  | error e => rfl
  | ok next =>
    obtain ⟨r, hbody, _⟩ := parseNext_ok hnext
    have hlen := congrArg List.length hbody
    rw [List.length_append, r.length_bytes, Record.size] at hlen
    exact parseAttributes_fuel (by omega) le_rfl

theorem attributes_record (r : Record) (rest : Data) :
    attributes msgLength m (r.bytes ++ rest) =
      (parseAttribute msgLength m r.type (r.content ++ rest) r.length) >>=
        fun m' => attributes msgLength m' rest := by
  have hne : r.bytes ++ rest ≠ [] := by
    rw [Ne, List.append_eq_nil_iff]
    exact fun h => Tlv.bytes_ne_nil r h.1
  rw [attributes_of_ne_nil hne, parseNext_record, bind_assoc]
  rfl

/-- What is accepted is an area of records. -/
theorem attributes_area {m' : StunMessage} (h : attributes msgLength m body = .ok m') :
    ∃ rs, body = area rs := by
  induction hn : body.length using Nat.strong_induction_on generalizing m body with
  | _ n ih =>
    by_cases hnil : body = []
    · exact ⟨[], hnil⟩
    rw [attributes_of_ne_nil hnil, Parse.bind_eq_ok] at h
    obtain ⟨next, hnext, hrest⟩ := h
    obtain ⟨r, hbody, _⟩ := parseNext_ok hnext
    have hlen := congrArg List.length hbody
    rw [List.length_append, r.length_bytes, Record.size] at hlen
    obtain ⟨rs, hrs⟩ := ih next.2.length (by omega) hrest rfl
    exact ⟨r :: rs, by rw [hbody, hrs, Tlv.area_cons]⟩

/-- `mHeader.msgLength`. -/
def headerLength (buf : Data) : ℕ := value ((buf.drop 2).take 2)

/-- The message when the loop is entered. -/
def entered (m : StunMessage) (buf : Data) : StunMessage :=
  m.withHeader (UInt16.ofNat (value (buf.take 2))) ((buf.drop 4).take 16)

/-- The header of a buffer says how long it is. -/
def HeaderFits (buf : Data) : Prop :=
  stunMsgHdrSize ≤ buf.length ∧ headerLength buf + stunMsgHdrSize = buf.length

instance (buf : Data) : Decidable (HeaderFits buf) := inferInstanceAs (Decidable (_ ∧ _))

theorem stunParseMessage_eq (m : StunMessage) (buf : Data) :
    stunParseMessage m buf =
      if HeaderFits buf then attributes (headerLength buf) (m.entered buf) (buf.drop stunMsgHdrSize)
      else .error .rejected := by
  by_cases hsize : buf.length < stunMsgHdrSize
  · rw [stunParseMessage, if_pos hsize, if_neg (fun h => by have := h.1; omega)]
  have h20 : 20 ≤ buf.length := not_lt.mp hsize
  have htype : numberAt buf 0 2 = .ok (value (buf.take 2)) := numberAt_of_le (by omega)
  have hlength : numberAt buf 2 2 = .ok (headerLength buf) := numberAt_of_le (by omega)
  rw [stunParseMessage, if_neg hsize, htype, hlength, bytesAt_of_le (by omega)]
  simp only [Parse.ok_bind]
  by_cases hfits : headerLength buf + stunMsgHdrSize = buf.length
  · rw [if_neg (not_not.mpr hfits), if_pos ⟨h20, hfits⟩]
    exact parseAttributes_fuel (by rw [List.length_drop]; omega) le_rfl
  · rw [if_pos hfits, if_neg (fun h => hfits h.2)]

end StunMessage

end Resiprocate.ReTurn
