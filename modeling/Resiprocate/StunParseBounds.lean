import Mathlib
import Resiprocate.StunParseRun

/-! Which reads of the parser stay inside the buffer. -/
namespace Resiprocate.ReTurn
open BigEndian (value)
open Tlv (Record fill headType headLength headSize uncons area)

def Kind.IsAddress (k : Kind) : Prop := k = .address ∨ k = .xorAddress

instance (k : Kind) : Decidable k.IsAddress := inferInstanceAs (Decidable (_ ∨ _))

/-- The bytes of a text or of an opaque value are part of the buffer. -/
def Kind.Inside (buf : Data) (k : Kind) (v : k.Value) : Prop :=
  match k, v with
  | .string _, (text : Data) => text <:+: buf
  | .data, (content : Data) => content <:+: buf
  | .error, (errorCode : StunAtrError) => errorCode.reason <:+: buf
  | _, _ => True

/-- The parser was stopped by a read past the end of the buffer. -/
def Parse.Faults {α : Type} (x : Parse α) : Prop := x = .error .outOfBounds

namespace Parse
variable {α β : Type}

@[simp] theorem faults_ok (a : α) : ¬ Faults (.ok a : Parse α) := nofun

@[simp] theorem faults_rejected : ¬ Faults (.error .rejected : Parse α) := nofun

@[simp] theorem faults_bind (x : Parse α) (f : α → Parse β) :
    Faults (x >>= f) ↔ Faults x ∨ ∃ a, x = .ok a ∧ Faults (f a) := bind_eq_error

end Parse

section Reads
variable {buf : Data} {offset n : ℕ}

@[simp] theorem bytesAt_faults : (bytesAt buf offset n).Faults ↔ buf.length < offset + n := by
  unfold bytesAt
  split_ifs with h
  · simp [h]
  · simpa [Parse.Faults] using h

@[simp] theorem numberAt_faults : (numberAt buf offset n).Faults ↔ buf.length < offset + n := by
  simp [numberAt]

end Reads

namespace StunMessage

section Values
variable {body : Data} {attrLen : ℕ}

theorem attrTypesAt_not_faults {offset n : ℕ} (h : offset + 2 * n ≤ body.length) :
    ¬ (attrTypesAt body offset n).Faults := by
  induction n generalizing offset with
  | zero => simp [attrTypesAt]
  | succ n ih =>
    have hrest := ih (show offset + 2 + 2 * n ≤ body.length by omega)
    simp only [attrTypesAt, Parse.faults_bind, numberAt_faults, hrest, Parse.pure_eq]
    simp only [Parse.faults_ok, and_false, exists_false, or_false, not_lt]
    omega

theorem stunParseAtrUInt32_not_faults (h : attrLen ≤ body.length) :
    ¬ (stunParseAtrUInt32 body attrLen).Faults := by
  unfold stunParseAtrUInt32
  split_ifs with hlen
  · simp
  · simp
    omega

theorem stunParseAtrUInt64_not_faults (h : attrLen ≤ body.length) :
    ¬ (stunParseAtrUInt64 body attrLen).Faults := by
  unfold stunParseAtrUInt64
  split_ifs with hlen
  · simp
  · simp
    omega

theorem stunParseAtrEvenPort_not_faults (h : attrLen ≤ body.length) :
    ¬ (stunParseAtrEvenPort body attrLen).Faults := by
  unfold stunParseAtrEvenPort
  split_ifs with hlen
  · simp
  · simp only [Parse.faults_bind, numberAt_faults, Parse.pure_eq, Parse.faults_ok, and_false,
      exists_false, or_false]
    omega

theorem stunParseAtrIntegrity_not_faults (h : attrLen ≤ body.length) :
    ¬ (stunParseAtrIntegrity body attrLen).Faults := by
  unfold stunParseAtrIntegrity
  split_ifs with hlen
  · simp
  · simpa using h

theorem stunParseAtrUnknown_not_faults (h : attrLen ≤ body.length) :
    ¬ (stunParseAtrUnknown body attrLen).Faults := by
  unfold stunParseAtrUnknown
  split_ifs with hlong hodd
  · simp
  · simp
  · exact attrTypesAt_not_faults (by omega)

theorem reasonLength (hlt : attrLen < 256 ^ 2)
    (h : ¬ maxErrorcodeReasonBytes < unsignedSub attrLen 4) :
    4 ≤ attrLen ∧ unsignedSub attrLen 4 = attrLen - 4 := by
  unfold unsignedSub maxErrorcodeReasonBytes at h
  unfold unsignedSub
  omega

theorem stunParseAtrError_not_faults (hlt : attrLen < 256 ^ 2)
    (hlong : ¬ maxErrorcodeReasonBytes < unsignedSub attrLen 4) (h : attrLen ≤ body.length) :
    ¬ (stunParseAtrError body attrLen).Faults := by
  obtain ⟨h4, hsub⟩ := reasonLength hlt hlong
  simp only [stunParseAtrError, if_neg hlong, Parse.faults_bind, numberAt_faults, bytesAt_faults,
    Parse.pure_eq, Parse.faults_ok, and_false, exists_false, or_false]
  rintro (hclass | ⟨_, _, hnumber | ⟨_, _, hreason⟩⟩) <;> omega

/-- The family in a body that has room for one. -/
theorem family_eq_ipv6 (h : 2 ≤ body.length) :
    value ((body.drop 1).take 1) = ipv6Family ↔ body[1]? = some 2 := by
  obtain _ | ⟨pad, _ | ⟨family, rest⟩⟩ := body
  · simp at h
  · simp at h
  · have hvalue : value (((pad :: family :: rest).drop 1).take 1) = family.toNat := by
      simp [value]
    have htwo : family.toNat = (2 : UInt8).toNat ↔ family = 2 := UInt8.toNat_inj
    rw [hvalue]
    simpa [ipv6Family] using htwo

theorem stunParseAtrAddress_faults (h : attrLen ≤ body.length) :
    (stunParseAtrAddress body attrLen).Faults ↔
      attrLen = 8 ∧ body[1]? = some 2 ∧ body.length < 20 := by
  by_cases hlen : attrLen ≠ 8 ∧ attrLen ≠ 20
  · rw [stunParseAtrAddress, if_pos hlen]
    simp [hlen.1]
  have h8 : 8 ≤ body.length := by omega
  rw [stunParseAtrAddress, if_neg hlen, numberAt_of_le (by omega : 1 + 1 ≤ body.length),
    numberAt_of_le (by omega : 2 + 2 ≤ body.length), ← family_eq_ipv6 (by omega)]
  generalize value ((body.drop 1).take 1) = family
  simp only [Parse.ok_bind, Parse.pure_eq]
  split_ifs with hv4 hv6
  · have hv6 : family ≠ ipv6Family := by rw [hv4]; decide
    simp [hv6]
    omega
  · simp [hv6]
    omega
  · simp [hv6]

theorem stunParseAtrXorAddress_faults {magicCookieAndTid : Vector UInt8 16}
    (h : attrLen ≤ body.length) :
    (stunParseAtrXorAddress magicCookieAndTid body attrLen).Faults ↔
      attrLen = 8 ∧ body[1]? = some 2 ∧ body.length < 20 := by
  rw [← stunParseAtrAddress_faults h]
  simp [stunParseAtrXorAddress]

/-- Only an address can be read past the end. -/
theorem parseValue_faults (magicCookieAndTid : Vector UInt8 16) (kind : Kind)
    (hlt : attrLen < 256 ^ 2) (h : attrLen ≤ body.length) :
    (parseValue magicCookieAndTid kind body attrLen).Faults ↔
      kind.IsAddress ∧ attrLen = 8 ∧ body[1]? = some 2 ∧ body.length < 20 := by
  by_cases haddress : kind.IsAddress
  · rw [← stunParseAtrAddress_faults h]
    obtain rfl | rfl := haddress
    · simp only [Kind.IsAddress, true_or, true_and]
      rfl
    · rw [stunParseAtrAddress_faults h, ← stunParseAtrXorAddress_faults h]
      simp only [Kind.IsAddress, or_true, true_and]
      rfl
  refine iff_of_false ?_ fun hread => haddress hread.1
  cases kind with
  | address => exact absurd (.inl rfl) haddress
  | xorAddress => exact absurd (.inr rfl) haddress
  | uInt32 => exact stunParseAtrUInt32_not_faults h
  | uInt64 => exact stunParseAtrUInt64_not_faults h
  | upper16 =>
    show ¬ (stunParseAtrUInt32 body attrLen >>= fun x => pure (x >>> 16).toUInt16 : Parse _).Faults
    simp [stunParseAtrUInt32_not_faults h]
  | upper8 =>
    show ¬ (stunParseAtrUInt32 body attrLen >>= fun x => pure (x >>> 24).toUInt8 : Parse _).Faults
    simp [stunParseAtrUInt32_not_faults h]
  | string maxBytes =>
    show ¬ (if maxBytes < attrLen then .error .rejected else bytesAt body 0 attrLen : Parse _).Faults
    split_ifs
    · simp
    · simpa using h
  | data =>
    show ¬ (bytesAt body 0 attrLen).Faults
    simpa using h
  | integrity => exact stunParseAtrIntegrity_not_faults h
  | error =>
    show ¬ (if maxErrorcodeReasonBytes < unsignedSub attrLen 4 then .error .rejected
      else stunParseAtrError body attrLen : Parse _).Faults
    split_ifs with hlong
    · simp
    · exact stunParseAtrError_not_faults hlt hlong h
  | unknown => exact stunParseAtrUnknown_not_faults h
  | evenPort => exact stunParseAtrEvenPort_not_faults h
  | flag =>
    show ¬ (if attrLen ≠ 0 then .error .rejected else .ok () : Parse Unit).Faults
    split_ifs <;> simp

end Values

/-- An attribute that holds an address and is not passed over as a duplicate. -/
def LooksAtAddress (m : StunMessage) (atrType : UInt16) : Prop :=
  match attrOfCode atrType with
  | some a => m.attrs a = none ∧ a.kind.IsAddress
  | none => atrType = turnXorPeerAddressCode ∧ m.mTurnXorPeerAddress.length < turnMaxXorPeerAddr

/-- What is left of the buffer has room for the header of an attribute; and where it
is an address that calls itself an IPv6 one in eight bytes, for the address. -/
structure Readable (m : StunMessage) (body : Data) : Prop where
  header : 4 ≤ body.length
  address : m.LooksAtAddress (headType body) → headLength body = 8 → body[5]? = some 2 →
    headSize body ≤ body.length → 24 ≤ body.length

section Loop
variable {msgLength : ℕ} {m : StunMessage}

theorem parseAttribute_faults {atrType : UInt16} {body : Data} {attrLen : ℕ}
    (hlt : attrLen < 256 ^ 2) (h : attrLen ≤ body.length) :
    (parseAttribute msgLength m atrType body attrLen).Faults ↔
      m.LooksAtAddress atrType ∧ attrLen = 8 ∧ body[1]? = some 2 ∧ body.length < 20 := by
  cases heq : attrOfCode atrType with
  | some a =>
    simp only [parseAttribute, LooksAtAddress, heq]
    by_cases hset : m.attrs a = none
    · have hhas := has_of_none hset
      have hvalue := parseValue_faults m.magicCookieAndTid a.kind hlt h
      simp only [hset, hhas, Bool.false_eq_true, if_false, Parse.faults_bind, hvalue,
        Parse.pure_eq, Parse.faults_ok, and_false, exists_false, or_false, true_and]
    · have hhas := has_of_ne_none hset
      simp [hset, hhas]
  | none =>
    simp only [parseAttribute, LooksAtAddress, heq]
    by_cases hpeer : atrType = turnXorPeerAddressCode
    · by_cases hroom : m.mTurnXorPeerAddress.length < turnMaxXorPeerAddr
      · rw [if_pos hpeer, if_pos hroom]
        simp only [Parse.faults_bind, stunParseAtrXorAddress_faults h, Parse.pure_eq,
          Parse.faults_ok, and_false, exists_false, or_false, hpeer, hroom, true_and]
      · rw [if_pos hpeer, if_neg hroom]
        simp [hroom]
    · rw [if_neg hpeer]
      split_ifs <;> simp [hpeer]

theorem parseNext_faults {body : Data} :
    (parseNext msgLength m body).Faults ↔ ¬ m.Readable body := by
  by_cases h4 : 4 ≤ body.length
  · rw [parseNext_eq h4]
    by_cases hsize : body.length < headSize body
    · rw [if_pos hsize]
      refine iff_of_false Parse.faults_rejected (not_not_intro ⟨h4, fun _ _ _ h => ?_⟩)
      omega
    have hbody : headLength body ≤ (body.drop 4).length := by
      rw [List.length_drop]
      unfold headSize at hsize
      omega
    rw [if_neg hsize]
    simp only [Parse.faults_bind, parseAttribute_faults (Tlv.headLength_lt body) hbody,
      Parse.faults_ok, and_false, exists_false, or_false]
    have hfamily : (body.drop 4)[1]? = body[5]? := by simp
    rw [hfamily]
    constructor
    · rintro ⟨hlooks, hlen, hv6, hshort⟩ hread
      have h24 := hread.address hlooks hlen hv6 (not_lt.mp hsize)
      rw [List.length_drop] at hshort
      omega
    · intro hread
      by_contra hno
      apply hread
      refine ⟨h4, fun hlooks hlen hv6 _ => ?_⟩
      by_contra hshort
      exact hno ⟨hlooks, hlen, hv6, by rw [List.length_drop]; omega⟩
  · rw [parseNext_short (by omega)]
    exact iff_of_true rfl fun hread => h4 hread.header

end Loop

/-- The states in which the loop of the parser is entered, and entered again. -/
inductive LoopHead (m₀ : StunMessage) (buf : Data) : StunMessage → Data → Prop
  | first : HeaderFits buf → LoopHead m₀ buf (m₀.entered buf) (buf.drop stunMsgHdrSize)
  | again {m m' : StunMessage} {body body' : Data} : LoopHead m₀ buf m body → body ≠ [] →
      parseNext (headerLength buf) m body = .ok (m', body') → LoopHead m₀ buf m' body'

section Heads
variable {m₀ m : StunMessage} {buf body : Data}

theorem LoopHead.fits (h : LoopHead m₀ buf m body) : HeaderFits buf := by
  induction h with
  | first hfits => exact hfits
  | again _ _ _ ih => exact ih

/-- At every head, the rest of the run decides on the buffer. -/
theorem LoopHead.rest (h : LoopHead m₀ buf m body) :
    stunParseMessage m₀ buf = attributes (headerLength buf) m body := by
  induction h with
  | first hfits => rw [stunParseMessage_eq, if_pos hfits]
  | again _ hne hnext ih => rw [ih, attributes_of_ne_nil hne, hnext, Parse.ok_bind]

/-- A run that stops has stopped in a round. -/
theorem LoopHead.stops {e : Stop} (h : LoopHead m₀ buf m body)
    (hstop : attributes (headerLength buf) m body = .error e) :
    ∃ m' body', LoopHead m₀ buf m' body' ∧ body' ≠ [] ∧
      parseNext (headerLength buf) m' body' = .error e := by
  induction hn : body.length using Nat.strong_induction_on generalizing m body with
  | _ n ih =>
    by_cases hnil : body = []
    · rw [hnil, attributes_nil] at hstop
      cases hstop
    rw [attributes_of_ne_nil hnil, Parse.bind_eq_error] at hstop
    obtain hround | ⟨⟨m', body'⟩, hnext, hrest⟩ := hstop
    · exact ⟨m, body, h, hnil, hround⟩
    · obtain ⟨r, hbody, _⟩ := parseNext_ok hnext
      have hlen := congrArg List.length hbody
      simp only [List.length_append, r.length_bytes, Record.size] at hlen
      exact ih body'.length (by omega) (h.again hnil hnext) hrest rfl

/-- What remains at a head is a suffix of the buffer. -/
theorem LoopHead.suffix (h : LoopHead m₀ buf m body) : body <:+ buf := by
  induction h with
  | first _ => exact List.drop_suffix _ _
  | again _ _ hnext ih =>
    obtain ⟨r, hbody, _⟩ := parseNext_ok hnext
    exact (hbody ▸ List.suffix_append r.bytes _).trans ih

theorem faults_iff :
    (stunParseMessage m₀ buf).Faults ↔
      ∃ m body, LoopHead m₀ buf m body ∧ body ≠ [] ∧ ¬ m.Readable body := by
  constructor
  · intro hfault
    by_cases hfits : HeaderFits buf
    · have hfirst : LoopHead m₀ buf (m₀.entered buf) (buf.drop stunMsgHdrSize) := .first hfits
      obtain ⟨m, body, hhead, hne, hround⟩ := hfirst.stops (hfirst.rest.symm.trans hfault)
      exact ⟨m, body, hhead, hne, parseNext_faults.mp hround⟩
    · rw [stunParseMessage_eq, if_neg hfits] at hfault
      exact absurd hfault Parse.faults_rejected
  · rintro ⟨m, body, hhead, hne, hread⟩
    have hround : parseNext (headerLength buf) m body = .error .outOfBounds :=
      parseNext_faults.mpr hread
    rw [hhead.rest, attributes_of_ne_nil hne, hround]
    rfl

end Heads

section Texts
variable {body : Data} {attrLen : ℕ}

theorem bytesAt_infix {buf l : Data} {offset n : ℕ} (h : bytesAt buf offset n = .ok l) :
    l <:+: buf := by
  unfold bytesAt at h
  split_ifs at h
  cases h
  exact (List.take_prefix _ _).isInfix.trans (List.drop_suffix _ _).isInfix

theorem stunParseAtrError_reason {errorCode : StunAtrError}
    (h : stunParseAtrError body attrLen = .ok errorCode) : errorCode.reason <:+: body := by
  unfold stunParseAtrError at h
  obtain ⟨_, _, h⟩ := Parse.bind_eq_ok.mp h
  obtain ⟨_, _, h⟩ := Parse.bind_eq_ok.mp h
  obtain ⟨reason, hreason, h⟩ := Parse.bind_eq_ok.mp h
  cases h
  exact bytesAt_infix hreason

theorem parseValue_inside {magicCookieAndTid : Vector UInt8 16} {kind : Kind} {v : kind.Value}
    (h : parseValue magicCookieAndTid kind body attrLen = .ok v) : kind.Inside body v := by
  cases kind with
  | string maxBytes =>
    change (if maxBytes < attrLen then .error .rejected else bytesAt body 0 attrLen) = .ok v at h
    split_ifs at h
    exact bytesAt_infix h
  | data => exact bytesAt_infix h
  | error =>
    change (if maxErrorcodeReasonBytes < unsignedSub attrLen 4 then .error .rejected
      else stunParseAtrError body attrLen) = .ok v at h
    split_ifs at h
    exact stunParseAtrError_reason h
  | _ => trivial

theorem Inside.mono {buf body : Data} (h : body <:+: buf) {kind : Kind} {v : kind.Value}
    (hv : kind.Inside body v) : kind.Inside buf v := by
  cases kind with
  | string _ | data => exact List.IsInfix.trans hv h
  | error => exact List.IsInfix.trans hv h
  | _ => trivial

/-- What was not there before lies in the buffer. -/
def TextsInside (m₀ : StunMessage) (buf : Data) (m : StunMessage) : Prop :=
  ∀ a v, m₀.attrs a = none → m.attrs a = some v → a.kind.Inside buf v

theorem parseAttribute_textsInside {msgLength : ℕ} {m₀ m m' : StunMessage} {buf : Data}
    {atrType : UInt16} (hm : TextsInside m₀ buf m) (hbody : body <:+: buf)
    (h : parseAttribute msgLength m atrType body attrLen = .ok m') : TextsInside m₀ buf m' := by
  obtain ⟨_, rfl⟩ | ⟨a, v, _, _, hv, rfl⟩ | ⟨_, _, _, _, rfl⟩ | ⟨_, _, _, _, rfl⟩ :=
    parseAttribute_cases h
  · exact hm
  · intro b w hb hw
    by_cases hab : b = a
    · subst hab
      obtain rfl : v = w := by simpa [keep, set] using hw
      exact Inside.mono hbody (parseValue_inside hv)
    · exact hm b w hb (by simpa [keep, set, hab] using hw)
  · exact hm
  · exact hm

theorem LoopHead.textsInside {m₀ m : StunMessage} {buf body : Data}
    (h : LoopHead m₀ buf m body) : TextsInside m₀ buf m := by
  induction h with
  | first _ =>
    intro a v hnone hv
    exact absurd (hnone.symm.trans hv) nofun
  | again hhead _ hnext ih =>
    obtain ⟨r, hbody, hattr⟩ := parseNext_ok hnext
    refine parseAttribute_textsInside ih ?_ hattr
    have hsuffix := hhead.suffix
    rw [hbody, Record.bytes, List.append_assoc, List.append_assoc] at hsuffix
    exact (((List.suffix_append _ _).trans (List.suffix_append _ _)).trans hsuffix).isInfix

/-- An accepted buffer is read to its end. -/
theorem LoopHead.ends {m₀ m m' : StunMessage} {buf body : Data} (h : LoopHead m₀ buf m body)
    (hok : attributes (headerLength buf) m body = .ok m') : LoopHead m₀ buf m' [] := by
  induction hn : body.length using Nat.strong_induction_on generalizing m body with
  | _ n ih =>
    by_cases hnil : body = []
    · subst hnil
      rw [attributes_nil] at hok
      cases hok
      exact h
    rw [attributes_of_ne_nil hnil, Parse.bind_eq_ok] at hok
    obtain ⟨⟨m₁, body₁⟩, hnext, hrest⟩ := hok
    obtain ⟨r, hbody, _⟩ := parseNext_ok hnext
    have hlen := congrArg List.length hbody
    simp only [List.length_append, r.length_bytes, Record.size] at hlen
    exact ih body₁.length (by omega) (h.again hnil hnext) hrest rfl

end Texts

/-- The parser stays inside the buffer, and so do the texts and the data that the
message keeps when the buffer is accepted. -/
def InBounds (m₀ : StunMessage) (buf : Data) : Prop :=
  ¬ (stunParseMessage m₀ buf).Faults ∧
    ∀ m, stunParseMessage m₀ buf = .ok m → TextsInside m₀ buf m

theorem textsInside_of_ok {m₀ m : StunMessage} {buf : Data}
    (h : stunParseMessage m₀ buf = .ok m) : TextsInside m₀ buf m := by
  by_cases hfits : HeaderFits buf
  · have hfirst : LoopHead m₀ buf (m₀.entered buf) (buf.drop stunMsgHdrSize) := .first hfits
    exact (hfirst.ends (hfirst.rest.symm.trans h)).textsInside
  · rw [stunParseMessage_eq, if_neg hfits] at h
    cases h

/-- The parser stays inside the buffer exactly when, each time round its loop, there is
room for a header and for the address that the family announces. -/
theorem stunParseMessage_inBounds (m₀ : StunMessage) (buf : Data) :
    InBounds m₀ buf ↔ ∀ m body, LoopHead m₀ buf m body → body ≠ [] → m.Readable body := by
  constructor
  · rintro ⟨hsafe, _⟩ m body hhead hne
    by_contra hread
    exact hsafe (faults_iff.mpr ⟨m, body, hhead, hne, hread⟩)
  · intro hread
    refine ⟨fun hfault => ?_, fun m h => textsInside_of_ok h⟩
    obtain ⟨m, body, hhead, hne, hnot⟩ := faults_iff.mp hfault
    exact hnot (hread m body hhead hne)

/-- A header that announces one byte of attributes, and the byte. -/
def strayByte : Data :=
  [0x00, 0x01, 0x00, 0x01, 0x21, 0x12, 0xA4, 0x42, 1, 2, 3, 4, 5, 6, 7, 8, 9, 10, 11, 12, 0x00]

/-- A mapped address of eight bytes that calls itself an IPv6 one. -/
def shortIpv6Address : Data :=
  [0x00, 0x01, 0x00, 0x0C, 0x21, 0x12, 0xA4, 0x42, 1, 2, 3, 4, 5, 6, 7, 8, 9, 10, 11, 12,
    0x00, 0x01, 0x00, 0x08, 0x00, 0x02, 0x13, 0x88, 127, 0, 0, 1]

theorem not_stunParseMessage_inBounds :
    ¬ InBounds init strayByte ∧ ¬ InBounds init shortIpv6Address := by
  constructor
  · have hhead : LoopHead init strayByte (init.entered strayByte) [0x00] := .first (by decide)
    rintro ⟨hsafe, _⟩
    exact hsafe (faults_iff.mpr ⟨_, _, hhead, nofun, fun hread => absurd hread.header (by decide)⟩)
  · have hhead : LoopHead init shortIpv6Address (init.entered shortIpv6Address)
        [0x00, 0x01, 0x00, 0x08, 0x00, 0x02, 0x13, 0x88, 127, 0, 0, 1] := .first (by decide)
    have hlooks : LooksAtAddress (init.entered shortIpv6Address) 0x0001 := ⟨rfl, .inl rfl⟩
    rintro ⟨hsafe, _⟩
    refine hsafe (faults_iff.mpr ⟨_, _, hhead, nofun, fun hread => ?_⟩)
    exact absurd (hread.address hlooks (by decide) (by decide) (by decide)) (by decide)

end StunMessage

end Resiprocate.ReTurn
