import Resiprocate.ContactInstanceRecord

/-! A contact record read back from what is written of it. The texts of addresses are read as `NameAddr`
reads them; all that the record itself adds is escaping, numerals and tokens. -/
namespace Resiprocate.Data
open Rutil HeldBytes

/-- No ampersand is followed by an entity. -/
def EntityFree : List UInt8 → Prop
  | [] => True
  | c :: s => (c = 38 → entityAt s = none) ∧ EntityFree s

instance EntityFree.decide : (s : List UInt8) → Decidable (EntityFree s)
  | [] => isTrue trivial
  | c :: s =>
    have := EntityFree.decide s
    inferInstanceAs (Decidable ((c = 38 → entityAt s = none) ∧ EntityFree s))

variable {memory following : ℕ → UInt8} {size p i : ℕ} {s d out : List UInt8}

/-! ### Turns of the decoder -/

theorem loop_succ {fuel : ℕ} (h : xmlCharDataDecodeLoop memory size fuel p i = some out) :
    xmlCharDataDecodeLoop memory size (fuel + 1) p i = some out := by
  induction fuel generalizing p i out with
  | zero => cases h
  | succ fuel ih =>
    by_cases hp : p = size
    · rw [xmlCharDataDecodeLoop, if_pos hp] at h ⊢
      exact h
    by_cases hc : memory p = 38
    · cases he : findEntity memory size p i with
      | some e =>
        rw [loop_entity hc hp he] at h ⊢
        obtain ⟨rest, hrest, rfl⟩ := Option.map_eq_some_iff.mp h
        rw [ih hrest, Option.map_some]
      | none =>
        rw [loop_ampersand hc hp he] at h ⊢
        obtain ⟨rest, hrest, rfl⟩ := Option.map_eq_some_iff.mp h
        rw [ih hrest, Option.map_some]
    · rw [loop_plain hc hp] at h ⊢
      obtain ⟨rest, hrest, rfl⟩ := Option.map_eq_some_iff.mp h
      rw [ih hrest, Option.map_some]

theorem loop_mono {fuel fuel' : ℕ} (hle : fuel ≤ fuel')
    (h : xmlCharDataDecodeLoop memory size fuel p i = some out) :
    xmlCharDataDecodeLoop memory size fuel' p i = some out := by
  induction hle with
  | refl => exact h
  | step _ ih => exact loop_succ ih

/-- A loop that ends has a turn for each byte at most, and writes no more than one in each. -/
theorem loop_ends {fuel : ℕ} (h : xmlCharDataDecodeLoop memory size fuel p i = some out) :
    p + out.length ≤ size ∧ xmlCharDataDecodeLoop memory size (size - p + 1) p i = some out := by
  induction fuel generalizing p i out with
  | zero => cases h
  | succ fuel ih =>
    have hinside : ¬size < p := by
      intro hlt
      rw [loop_beyond hlt] at h
      cases h
    by_cases hp : p = size
    · rw [xmlCharDataDecodeLoop, if_pos hp] at h
      cases h
      exact ⟨by simp [hp], by rw [xmlCharDataDecodeLoop, if_pos hp]⟩
    -- the rest begins further on
    have hrest {p' i' : ℕ} {rest : List UInt8} (hp' : p < p')
        (hr : xmlCharDataDecodeLoop memory size fuel p' i' = some rest) :
        p + (rest.length + 1) ≤ size ∧ xmlCharDataDecodeLoop memory size (size - p) p' i' = some rest := by
      obtain ⟨hlength, hends⟩ := ih hr
      exact ⟨by omega, loop_mono (by omega) hends⟩
    by_cases hc : memory p = 38
    · cases he : findEntity memory size p i with
      | some e =>
        rw [loop_entity hc hp he] at h ⊢
        obtain ⟨rest, hr, rfl⟩ := Option.map_eq_some_iff.mp h
        obtain ⟨hlength, hends⟩ := hrest (by omega) hr
        exact ⟨by simpa using hlength, by rw [hends, Option.map_some]⟩
      | none =>
        rw [loop_ampersand hc hp he] at h ⊢
        obtain ⟨rest, hr, rfl⟩ := Option.map_eq_some_iff.mp h
        obtain ⟨hlength, hends⟩ := hrest (by omega) hr
        exact ⟨by simpa using hlength, by rw [hends, Option.map_some]⟩
    · rw [loop_plain hc hp] at h ⊢
      obtain ⟨rest, hr, rfl⟩ := Option.map_eq_some_iff.mp h
      obtain ⟨hlength, hends⟩ := hrest (by omega) hr
      exact ⟨by simpa using hlength, by rw [hends, Option.map_some]⟩

theorem decode_of_inside (h : EntitiesInside 0 d) : xmlCharDataDecode following d = some (xmlDecoded d) := by
  obtain ⟨fuel, hfuel⟩ := loop_inside h (holds_followedBy d following) (Nat.zero_add _) rfl
  exact (loop_ends hfuel).2

/-- A code is read back whatever follows it in memory. -/
theorem decode_encode (d : List UInt8) : xmlCharDataDecode following (xmlCharDataEncode d) = some d := by
  obtain ⟨hdecoded, hinside⟩ := xmlDecoded_encode d 0
  rw [decode_of_inside hinside, hdecoded]

/-! ### Strings without entities -/

theorem EntityFree.decoded (h : EntityFree s) : xmlDecoded s = s ∧ EntitiesInside 0 s := by
  induction s with
  | nil => exact ⟨by rw [xmlDecoded], by rw [EntitiesInside]; trivial⟩
  | cons c s ih =>
    obtain ⟨hfirst, hrest⟩ := h
    obtain ⟨hdecoded, hinside⟩ := ih hrest
    rw [xmlDecoded, EntitiesInside]
    by_cases hc : c = 38
    · rw [if_pos hc, if_pos hc, hfirst hc]
      refine ⟨congrArg _ hdecoded, fun e he hbegins => ?_, hinside⟩
      refine lt_of_le_of_ne hbegins.length_le fun heq => ?_
      -- the whole entity would have been found
      have hsome : (entityAt s).isSome := List.find?_isSome.mpr
        ⟨e, he, List.isPrefixOf_iff_prefix.mpr (hbegins.eq_of_length heq ▸ List.prefix_refl _)⟩
      rw [hfirst hc] at hsome
      cases hsome
    · rw [if_neg hc, if_neg hc]
      exact ⟨congrArg _ hdecoded, hinside⟩

/-- The first entity makes the string shorter. -/
theorem length_lt_of_not_entityFree {fuel : ℕ} (h : ¬EntityFree s) (hs : Holds memory p s)
    (hsize : p + s.length = size) (hout : xmlCharDataDecodeLoop memory size fuel p p = some out) :
    out.length < s.length := by
  induction s generalizing p fuel out with
  | nil => exact absurd trivial h
  | cons c s ih =>
    rw [holds_cons] at hs
    rw [List.length_cons] at hsize ⊢
    cases fuel with
    | zero => cases hout
    | succ fuel =>
      have hp : p ≠ size := by omega
      by_cases hc : c = 38
      · have hfind : findEntity memory size p p = entityAt s :=
          findEntity_eq hs.2 (by omega) (Nat.add_zero p) fun e _ hlt _ => hlt
        cases he : entityAt s with
        | some e =>
          rw [loop_entity (hs.1.trans hc) hp (hfind.trans he)] at hout
          obtain ⟨rest, hrest, rfl⟩ := Option.map_eq_some_iff.mp hout
          have hlength := (loop_ends hrest).1
          have hpos : 0 < e.1.length := by
            have hall : ∀ e ∈ entities, 0 < e.1.length := by decide +kernel
            exact hall e (entityAt_begins he).1
          rw [List.length_cons]
          omega
        | none =>
          rw [loop_ampersand (hs.1.trans hc) hp (hfind.trans he)] at hout
          obtain ⟨rest, hrest, rfl⟩ := Option.map_eq_some_iff.mp hout
          have hlt := ih (fun hfree => h ⟨fun _ => he, hfree⟩) hs.2 (by omega) hrest
          rw [List.length_cons]
          omega
      · rw [loop_plain (fun hm => hc (hs.1.symm.trans hm)) hp] at hout
        obtain ⟨rest, hrest, rfl⟩ := Option.map_eq_some_iff.mp hout
        have hlt := ih (fun hfree => h ⟨fun h38 => absurd h38 hc, hfree⟩) hs.2 (by omega) hrest
        rw [List.length_cons]
        omega

/-- What is written as it is is read back if and only if it has no entity. -/
theorem decode_self_iff : xmlCharDataDecode following d = some d ↔ EntityFree d := by
  constructor
  · intro h
    by_contra hfree
    exact lt_irrefl _ (length_lt_of_not_entityFree hfree (holds_followedBy d following) (Nat.zero_add _) h)
  · intro h
    obtain ⟨hdecoded, hinside⟩ := h.decoded
    rw [decode_of_inside hinside, hdecoded]

end Resiprocate.Data

namespace Resiprocate.Dum.Streams.ContactInstanceRecord
open Rutil Transports Data Numerals
variable {U P : Type} {texts : NameAddrTexts U P} {machine : Machine} {now : UInt64}
variable {success : Bool} {r : ContactInstanceRecord U P} {value : Rutil.Bytes}

/-! ### Leaves -/

theorem ofText_text (tag : ContactTag) : ContactTag.ofText tag.text = some tag := by
  cases tag <;> decide +kernel

theorem readLeaf_text (s : Bool × ContactInstanceRecord U P) (tag : ContactTag) (hvalue : value ≠ []) :
    readLeaf texts machine now s (tag.text, value) = readTag texts machine now s tag value := by
  rw [readLeaf, ofText_text]
  exact if_neg hvalue

/-! ### Values -/

theorem literal_repr_ne (n : ℕ) : literal n.repr ≠ [] := (digits_repr n).1

theorem convertUInt64_repr (v : UInt64) : convertUInt64 (literal v.toNat.repr) = v := by
  obtain ⟨-, hdigits, hnumeral⟩ := digits_repr v.toNat
  rw [convertUInt64_numeral hdigits, hnumeral, UInt64.ofNat_toNat]

theorem convertUnsignedLong_repr (v : UInt32) : (convertUnsignedLong (literal v.toNat.repr)).toUInt32 = v := by
  obtain ⟨-, hdigits, hnumeral⟩ := digits_repr v.toNat
  have hlong : convertUnsignedLong (literal v.toNat.repr) = UInt64.ofNat v.toNat :=
    (convertUInt64_numeral hdigits).trans (congrArg UInt64.ofNat hnumeral)
  rw [hlong]
  simp

theorem encode_ne {d : Rutil.Bytes} (h : d ≠ []) : xmlCharDataEncode d ≠ [] := by
  intro hnil
  have hdecoded := (xmlDecoded_encode d 0).1
  rw [hnil, xmlDecoded] at hdecoded
  exact h hdecoded.symm

/-- What a token brings. -/
def carried (machine : Machine) (t : Tuple) : Tuple :=
  .makeTupleFromBinaryToken machine.big machine.md5 (t.writeBinaryToken machine.big machine.md5 []) []

theorem makeTuple_tupleText (t : Tuple) : makeTuple machine (tupleText machine t) = carried machine t := by
  rw [makeTuple, tupleText, base64decode, base64encode, decodeLoop_encodeLoop]
  rfl

theorem tupleText_ne (t : Tuple) : tupleText machine t ≠ [] := by
  intro hnil
  have hlength := congrArg List.length hnil
  rw [tupleText, base64encode, length_encodeLoop] at hlength
  have hraw := t.length_rawToken machine.big
  obtain ⟨rest, hwrite, -, -⟩ := t.writeBinaryToken_eq machine.big machine.md5 []
  rw [hwrite, List.length_append, hraw, Nat.ceilDiv_eq_add_pred_div, List.length_nil] at hlength
  omega

/-- A tuple is carried if its type is one and its keys are those of a word. -/
def Carried (t : Tuple) : Prop :=
  t.mTransportType ≠ .MAX_TRANSPORT ∧ t.mFlowKey < 0x100000000 ∧ t.mTransportKey < 0x100000000

theorem toUInt32_toUInt64_iff (k : UInt64) : k.toUInt32.toUInt64 = k ↔ k < 0x100000000 := by
  rw [← UInt64.toNat_inj, UInt64.lt_iff_toNat_lt]
  simp

theorem make_type_ne (token : Rutil.Bytes) :
    (Tuple.makeTupleFromBinaryToken machine.big machine.md5 token []).mTransportType ≠ .MAX_TRANSPORT := by
  rcases Tuple.make_type machine.big machine.md5 token [] with h | ⟨n, hn, h⟩
  · rw [h]
    decide
  · rw [h]
    interval_cases n <;> decide

theorem carried_iff (t : Tuple) : carried machine t = t ↔ Carried t := by
  constructor
  · intro h
    have htype : t.mTransportType ≠ .MAX_TRANSPORT := h ▸ make_type_ne _
    have hwords := Tuple.make_writeBinaryToken machine.big machine.md5 t [] htype
    rw [← carried, h] at hwords
    have hflow := congrArg Tuple.mFlowKey hwords
    have htransport := congrArg Tuple.mTransportKey hwords
    exact ⟨htype, (toUInt32_toUInt64_iff _).mp hflow.symm, (toUInt32_toUInt64_iff _).mp htransport.symm⟩
  · rintro ⟨htype, hflow, htransport⟩
    rw [carried, Tuple.make_writeBinaryToken _ _ t [] htype, (toUInt32_toUInt64_iff _).mpr hflow,
      (toUInt32_toUInt64_iff _).mpr htransport]

/-! ### The leaves one after the other -/

/-- The entries of the Path as they are read back. -/
def readPath (texts : NameAddrTexts U P) (path : List (NameAddr U P)) : Option (List (NameAddr U P)) :=
  path.mapM fun p => texts.parse (texts.encodeUri p.mUri)

theorem readPath_self_iff (path : List (NameAddr U P)) :
    readPath texts path = some path ↔ ∀ p ∈ path, texts.parse (texts.encodeUri p.mUri) = some p := by
  induction path with
  | nil => simp [readPath]
  | cons p path ih =>
    rw [List.forall_mem_cons, ← ih]
    simp only [readPath, List.mapM_cons]
    cases hp : texts.parse (texts.encodeUri p.mUri) with
    | none => simp
    | some q =>
      cases path.mapM fun p => texts.parse (texts.encodeUri p.mUri) <;> simp

theorem read_sippath (success : Bool) (r : ContactInstanceRecord U P) (path : List (NameAddr U P)) :
    (path.map fun p => (ContactTag.sippath.text, xmlCharDataEncode (texts.encodeUri p.mUri))).foldlM
        (readLeaf texts machine now) (success, r) =
      (readPath texts path).map fun ps => (success, { r with mSipPath := r.mSipPath ++ ps }) := by
  induction path generalizing r with
  | nil => simp [readPath]
  | cons p path ih =>
    rw [List.map_cons, List.foldlM_cons, readLeaf_text (success, r) .sippath (encode_ne (texts.encodeUri_ne p.mUri)),
      readTag, decode_encode]
    simp only [readPath, List.mapM_cons, Option.bind_eq_bind, Option.bind_some]
    cases texts.parse (texts.encodeUri p.mUri) with
    | none => simp
    | some q =>
      simp only [Option.bind_some]
      rw [ih, readPath]
      cases path.mapM fun p => texts.parse (texts.encodeUri p.mUri) <;> simp

/-- A leaf that is there or not. -/
theorem read_if {c : Prop} [Decidable c] {tag : ContactTag} (hvalue : c → value ≠ [])
    (s : Bool × ContactInstanceRecord U P) :
    (if c then [(tag.text, value)] else []).foldlM (readLeaf texts machine now) s =
      if c then readTag texts machine now s tag value else some s := by
  split_ifs with hc
  · rw [List.foldlM_cons, readLeaf_text _ _ (hvalue hc)]
    simp
  · rfl

/-! ### The round trip -/

/-- The records that are streamed. -/
structure Recorded (now : UInt64) (r : ContactInstanceRecord U P) : Prop where
  expires : r.mRegExpires = 0 ∨ now < r.mRegExpires
  updated : r.mLastUpdated ≤ now
  received : r.mReceivedFrom.mPort ≠ 0
  publicAddress : r.mPublicAddress.mTransportType ≠ .UNKNOWN_TRANSPORT
  userData : r.mUserData ≠ some []

/-- What makes a record come back: its contact is what `NameAddr` reads of its text and each entry of the
Path what it reads of the text of the URI alone, the keys of the tuples are those of a word, and no entity
is in the user data. -/
structure Survives (texts : NameAddrTexts U P) (r : ContactInstanceRecord U P) : Prop where
  contact : texts.parse (texts.encode r.mContact) = some r.mContact
  received : Carried r.mReceivedFrom
  publicAddress : Carried r.mPublicAddress
  path : ∀ p ∈ r.mSipPath, texts.parse (texts.encodeUri p.mUri) = some p
  userData : ∀ d ∈ r.mUserData, EntityFree d

/-- The user data as they are read back. -/
def readUserData (machine : Machine) : Option Rutil.Bytes → Option (Option Rutil.Bytes)
  | none => some none
  | some d => (xmlCharDataDecode machine.following d).map some

theorem read_userdata (s : Bool × ContactInstanceRecord U P) (hs : s.2.mUserData = none)
    {userData : Option Rutil.Bytes} (hne : userData ≠ some []) :
    (userDataLeaves userData).foldlM (readLeaf texts machine now) s =
      (readUserData machine userData).map fun mUserData => (s.1, { s.2 with mUserData }) := by
  cases userData with
  | none =>
    obtain ⟨b, r⟩ := s
    obtain ⟨_, _, _, _, _, _, _, _, _, _⟩ := r
    cases hs
    rfl
  | some d =>
    have hd : d ≠ [] := fun hnil => hne (congrArg some hnil)
    rw [userDataLeaves, if_pos hd, List.foldlM_cons, readLeaf_text _ _ hd, readTag, readUserData]
    cases xmlCharDataDecode machine.following d <;> simp

/-- A leaf that is there or not, before others. -/
theorem read_append {c : Prop} [Decidable c] {tag : ContactTag} (hvalue : c → value ≠ []) (rest : List Leaf)
    (s : Bool × ContactInstanceRecord U P) :
    ((if c then [(tag.text, value)] else []) ++ rest).foldlM (readLeaf texts machine now) s =
      (if c then readTag texts machine now s tag value else some s).bind
        fun s => rest.foldlM (readLeaf texts machine now) s := by
  split_ifs with hc
  · rw [List.singleton_append, List.foldlM_cons, readLeaf_text _ _ (hvalue hc)]
    rfl
  · rfl

theorem read_instance (s : Bool × ContactInstanceRecord U P) (hs : s.2.mInstance = []) (d : Rutil.Bytes) :
    (if d ≠ [] then readTag texts machine now s .instanceId (xmlCharDataEncode d) else some s) =
      some (s.1, { s.2 with mInstance := d }) := by
  split_ifs with hd
  · rw [readTag, decode_encode]
    rfl
  · rw [not_not.mp hd, ← hs]

theorem read_regid (s : Bool × ContactInstanceRecord U P) (hs : s.2.mRegId = 0) (n : UInt32) :
    (if n ≠ 0 then readTag texts machine now s .regid (literal n.toNat.repr) else some s) =
      some (s.1, { s.2 with mRegId := n }) := by
  split_ifs with hn
  · rw [readTag, convertUnsignedLong_repr]
  · rw [not_not.mp hn, ← hs]

theorem read_useragent (s : Bool × ContactInstanceRecord U P) (hs : s.2.mUserAgent = []) (d : Rutil.Bytes) :
    (if d ≠ [] then readTag texts machine now s .useragent (xmlCharDataEncode d) else some s) =
      some (s.1, { s.2 with mUserAgent := d }) := by
  split_ifs with hd
  · rw [readTag, decode_encode]
    rfl
  · rw [not_not.mp hd, ← hs]

theorem expires_eq {mRegExpires expires : UInt64} (h : mRegExpires = 0 ∨ now < mRegExpires)
    (heq : expires = if mRegExpires = 0 ∨ mRegExpires ≤ now then 0 else mRegExpires - now) :
    (if expires = 0 then 0 else now + expires) = mRegExpires := by
  rcases h with rfl | hlt
  · rw [if_pos (.inl rfl)] at heq
    rw [if_pos heq]
  · have hle : ¬mRegExpires ≤ now := UInt64.not_le.mpr hlt
    have hne : mRegExpires ≠ 0 := by
      rintro rfl
      exact hle UInt64.zero_le
    rw [if_neg (by simp [hne, hle])] at heq
    have hsub : expires ≠ 0 := by
      rw [heq]
      intro hzero
      have heq : mRegExpires = now := by grind
      exact hle (UInt64.le_of_eq heq)
    rw [if_neg hsub, heq]
    grind

theorem deserialize_stream_eq (machine : Machine) {now : UInt64} {r : ContactInstanceRecord U P}
    (h : Recorded now r) : deserialize texts machine now now (stream texts machine now r) =
      (texts.parse (texts.encode r.mContact)).bind fun mContact =>
        (readPath texts r.mSipPath).bind fun mSipPath =>
          (readUserData machine r.mUserData).map fun mUserData =>
            (true, { r with
              mContact
              mReceivedFrom := carried machine r.mReceivedFrom
              mPublicAddress := carried machine r.mPublicAddress
              mSipPath
              mUserData }) := by
  have hupdated : now - (now - r.mLastUpdated) = r.mLastUpdated := by grind
  rw [deserialize, ite_self, stream]
  simp only [List.append_assoc, List.cons_append, List.nil_append]
  rw [List.foldlM_cons, readLeaf_text _ _ (encode_ne (texts.encode_ne r.mContact)), readTag, decode_encode]
  simp only [Option.bind_eq_bind, Option.bind_some]
  cases texts.parse (texts.encode r.mContact) with
  | none => simp
  | some mContact =>
    simp only [Option.bind_some]
    rw [List.foldlM_cons, readLeaf_text _ _ (literal_repr_ne _), readTag, convertUInt64_repr,
      expires_eq h.expires rfl]
    simp only [Option.bind_eq_bind, Option.bind_some]
    rw [List.foldlM_cons, readLeaf_text _ _ (literal_repr_ne _), readTag, convertUInt64_repr, hupdated]
    simp only [Option.bind_eq_bind, Option.bind_some]
    rw [read_append fun _ => tupleText_ne _, if_pos h.received, readTag, makeTuple_tupleText, Option.bind_some,
      read_append fun _ => tupleText_ne _, if_pos h.publicAddress, readTag, makeTuple_tupleText, Option.bind_some,
      List.foldlM_append, read_sippath]
    cases readPath texts r.mSipPath with
    | none => simp
    | some mSipPath =>
      simp only [Option.map_some, Option.bind_eq_bind, Option.bind_some]
      rw [read_append fun hne => encode_ne hne, read_instance _ rfl, Option.bind_some,
        read_append fun _ => literal_repr_ne _, read_regid _ rfl, Option.bind_some,
        read_append fun hne => encode_ne hne, read_useragent _ rfl, Option.bind_some,
        read_userdata _ rfl h.userData]
      rfl

/-- Two entries of a Path that have the same URI do not both come back. -/
theorem path_survives_unique {p q : NameAddr U P} (hp : texts.parse (texts.encodeUri p.mUri) = some p)
    (hq : texts.parse (texts.encodeUri q.mUri) = some q) (huri : p.mUri = q.mUri) : p = q := by
  rw [huri, hq] at hp
  exact (Option.some.inj hp).symm

/-! ### A phone -/

/-- Addresses without a name and without parameters, with what is behind the scheme of the URI. -/
def plainTexts : NameAddrTexts Rutil.Bytes Unit where
  new := ⟨false, [], [], ()⟩
  encode a := literal "<sip:" ++ a.mUri ++ literal ">"
  encodeUri u := literal "sip:" ++ u
  parse text :=
    if text.take 5 = literal "<sip:" then some ⟨false, (text.drop 5).dropLast, [], ()⟩
    else if text.take 4 = literal "sip:" then some ⟨false, text.drop 4, [], ()⟩
    else none
  encode_ne _ := List.append_ne_nil_of_right_ne_nil _ (by decide +kernel)
  encodeUri_ne _ := List.append_ne_nil_of_left_ne_nil (by decide +kernel) _

def plainMachine : Machine := ⟨false, fun _ => Vector.replicate 16 0, fun _ => 0⟩

/-- A phone behind a proxy, with user data. -/
def phone (mUserData : String) : ContactInstanceRecord Rutil.Bytes Unit where
  mContact := ⟨false, literal "alice@192.0.2.1", [], ()⟩
  mRegExpires := 3600
  mLastUpdated := 90
  mReceivedFrom := { Tuple.ofAddress (.V4 #v[192, 0, 2, 1]) with mPort := 5060 }
  mPublicAddress := { Tuple.ofAddress (.V4 #v[192, 0, 2, 1]) with mTransportType := .UDP }
  mSipPath := [⟨false, literal "proxy.example.com", [], ()⟩]
  mInstance := literal "<urn:uuid:0>"
  mRegId := 1
  mUserAgent := literal "phone"
  mUserData := some (literal mUserData)

end Resiprocate.Dum.Streams.ContactInstanceRecord
