import Resiprocate.SdpMedium

/-! What `codecs` keeps of a medium. For each payload type the rtpmaps are folded into one codec, which has
the name of the last of them. -/
namespace Resiprocate.Stack.SdpContents
open Rutil Rutil.ParseBuffer

namespace Medium
variable {m : Medium} {fmtps values : List Bytes} {k : ℤ} {f : Bytes}

/-- A medium as it is parsed. -/
structure Parsed (m : Medium) : Prop where
  codecs : m.mCodecs = []
  done : m.mRtpMapDone = false
  map : m.mRtpMap = fun _ => none

/-- The rtpmaps for a payload type, in their order; `none` is one that cannot be read. -/
def mappingsFor (values : List Bytes) (k : ℤ) : List (Option Codec.Mapping) :=
  ((values.filterMap readMapping).filter (·.1 == k)).map Prod.snd

def staticEncoding (k : ℤ) : Option Encoding :=
  (Codec.ofStatic k).map written

/-- The encoding of the last rtpmap, or of the static payload type if there is none or the last cannot be
read. -/
def expected (m : Medium) (k : ℤ) : Option Encoding :=
  ((mappingsFor (m.values rtpmap) k).getLast?.join.map encodingOf).or (staticEncoding k)

/-- Some rtpmap does not begin with a number. -/
def Throws (m : Medium) : Prop := ∃ value ∈ m.values rtpmap, readMapping value = none

/-- A format that is the numeral of a payload type whose encoding is known, with no rtpmap for another
encoding or with a negative rate, and no fmtp for another text than the first. -/
def Kept (m : Medium) (f : Bytes) : Prop :=
  literal (mapKey f).repr = f ∧ ∃ e, m.expected (mapKey f) = some e ∧
    (∀ e', m.Rtpmap (mapKey f) e' → e' = e ∧ e.Unsigned) ∧
    ∀ text, m.Fmtp (mapKey f) text → Codec.formatParameters (m.values fmtp) (mapKey f) = some text

/-! ### The map of the rtpmaps -/

/-- What one more rtpmap makes of the codec for its payload type. -/
def refold (fmtps : List Bytes) (k : ℤ) (c : Option Codec) (mapping : Option Codec.Mapping) : Option Codec :=
  mapping.map fun mapping => (c.getD .new).mapped mapping k fmtps

theorem mapLoop_throws {value : Bytes} (h : readMapping value = none) (rest : List Bytes)
    (mRtpMap : ℤ → Option Codec) : ∃ msg, mapLoop fmtps (value :: rest) mRtpMap = (some msg, mRtpMap) := by
  cases hi : integer (ParseBuffer.ofText value) with
  | error msg pb => exact ⟨msg, by simp only [mapLoop, hi]⟩
  | ok format pb => cases hp : Codec.parseMapping pb <;> simp [readMapping, hi, hp] at h

theorem mapLoop_reads {value : Bytes} {mapping : Option Codec.Mapping} (h : readMapping value = some (k, mapping))
    (rest : List Bytes) (mRtpMap : ℤ → Option Codec) : mapLoop fmtps (value :: rest) mRtpMap =
      mapLoop fmtps rest (Function.update mRtpMap k (refold fmtps k (mRtpMap k) mapping)) := by
  cases hi : integer (ParseBuffer.ofText value) with
  | error msg pb => simp [readMapping, hi] at h
  | ok format pb =>
    cases hp : Codec.parseMapping pb with
    | ok read pb' =>
      obtain ⟨rfl, rfl⟩ : format = k ∧ some read = mapping := by simpa [readMapping, hi, hp] using h
      simp only [mapLoop, hi, hp]
      rfl
    | error msg pb' =>
      obtain ⟨rfl, rfl⟩ : format = k ∧ none = mapping := by simpa [readMapping, hi, hp] using h
      simp only [mapLoop, hi, hp]
      rfl

theorem mapLoop_eq (h : ∀ value ∈ values, readMapping value ≠ none) (mRtpMap : ℤ → Option Codec) :
    mapLoop fmtps values mRtpMap = (none, fun k => (mappingsFor values k).foldl (refold fmtps k) (mRtpMap k)) := by
  induction values generalizing mRtpMap with
  | nil => rfl
  | cons value rest ih =>
    obtain ⟨hvalue, hrest⟩ := List.forall_mem_cons.mp h
    obtain ⟨⟨format, mapping⟩, hread⟩ := Option.ne_none_iff_exists'.mp hvalue
    rw [mapLoop_reads hread, ih hrest]
    refine congrArg (Prod.mk none) (funext fun k => ?_)
    by_cases hk : format = k
    · subst hk
      simp [mappingsFor, hread]
    · simp [mappingsFor, hread, hk, Ne.symm hk]

theorem mapLoop_throws_of_mem (h : ∃ value ∈ values, readMapping value = none) (mRtpMap : ℤ → Option Codec) :
    ∃ msg mRtpMap', mapLoop fmtps values mRtpMap = (some msg, mRtpMap') := by
  induction values generalizing mRtpMap with
  | nil => simp at h
  | cons value rest ih =>
    cases hread : readMapping value with
    | none =>
      obtain ⟨msg, hmsg⟩ := mapLoop_throws hread rest mRtpMap
      exact ⟨msg, mRtpMap, hmsg⟩
    | some read =>
      obtain ⟨format, mapping⟩ := read
      rw [mapLoop_reads hread]
      refine ih ?_ _
      obtain ⟨bad, hmem, hbad⟩ := h
      rcases List.mem_cons.mp hmem with rfl | hmem
      · rw [hread] at hbad
        cases hbad
      · exact ⟨bad, hmem, hbad⟩

/-! ### The codec of a payload type -/

/-- What the rtpmaps for a payload type come to. -/
inductive Folded (fmtps : List Bytes) (k : ℤ) (mappings : List (Option Codec.Mapping)) : Option Codec → Prop
  | none : mappings.getLast?.join = none → Folded fmtps k mappings none
  | some {c : Codec} {last : Codec.Mapping} : mappings.getLast?.join = some last → c.mPayloadType = k →
    c.mParameters = (Codec.formatParameters fmtps k).getD [] → c.mName = (encodingOf last).name →
    (∃ mapping, some mapping ∈ mappings ∧ c.mRate = UInt64.ofInt (encodingOf mapping).rate) →
    (∃ mapping, some mapping ∈ mappings ∧ c.mEncodingParameters = (encodingOf mapping).parameters) →
    Folded fmtps k mappings (some c)

theorem folded (fmtps : List Bytes) (k : ℤ) (mappings : List (Option Codec.Mapping)) :
    Folded fmtps k mappings (mappings.foldl (refold fmtps k) none) := by
  induction mappings using List.reverseRecOn with
  | nil => exact .none rfl
  | append_singleton mappings mapping ih =>
    rw [List.foldl_append, List.foldl_cons, List.foldl_nil]
    generalize mappings.foldl (refold fmtps k) none = old at ih ⊢
    cases mapping with
    | none => exact .none (by simp)
    | some mapping =>
      have hmem : some mapping ∈ mappings ++ [some mapping] := by simp
      have hold : ∀ {P : Codec.Mapping → Prop}, (∃ mapping, some mapping ∈ mappings ∧ P mapping) →
          ∃ mapping', some mapping' ∈ mappings ++ [some mapping] ∧ P mapping' := by
        rintro P ⟨mapping', hmem', h⟩
        exact ⟨mapping', List.mem_append_left _ hmem', h⟩
      refine .some (by simp) rfl ?_ rfl ?_ ?_
      · cases ih with
        | none => rfl
        | some _ _ hparameters =>
          cases h : Codec.formatParameters fmtps k <;> simp [Codec.mapped, Codec.assignFormatParameters, hparameters, h]
      · cases hrate : mapping.rate with
        | some rate => exact ⟨mapping, hmem, by simp [Codec.mapped, Codec.assignFormatParameters, encodingOf, hrate]⟩
        | none =>
          cases ih with
          | none =>
            have hzero : UInt64.ofInt 0 = 0 := rfl
            exact ⟨mapping, hmem,
              by simp [Codec.mapped, Codec.assignFormatParameters, encodingOf, Codec.new, hrate, hzero]⟩
          | some _ _ _ _ hold' =>
            simpa [Codec.mapped, Codec.assignFormatParameters, hrate] using hold hold'
      · cases hencoding : mapping.encodingParameters with
        | some parameters =>
          exact ⟨mapping, hmem, by simp [Codec.mapped, Codec.assignFormatParameters, encodingOf, hencoding]⟩
        | none =>
          cases ih with
          | none =>
            exact ⟨mapping, hmem,
              by simp [Codec.mapped, Codec.assignFormatParameters, encodingOf, Codec.new, hencoding]⟩
          | some _ _ _ _ _ hold' =>
            simpa [Codec.mapped, Codec.assignFormatParameters, hencoding] using hold hold'

/-- The map behind the first loop, if nothing is thrown. -/
def rtpMap (m : Medium) (k : ℤ) : Option Codec :=
  (mappingsFor (m.values rtpmap) k).foldl (refold (m.values fmtp) k) none

theorem payload_ofStatic {c : Codec} (h : Codec.ofStatic k = some c) :
    c.mPayloadType = k ∧ staticEncoding k = some (written c) ∧ c.mParameters = [] := by
  refine ⟨?_, by simp [staticEncoding, h, written], ?_⟩ <;>
    obtain ⟨entry, hentry, rfl⟩ := Option.map_eq_some_iff.mp h
  · simpa using List.find?_some hentry
  · rfl

theorem payload_codecOf {c : Codec} (h : codecOf (m.values fmtp) m.rtpMap k = some c) :
    c.mPayloadType = k ∧ c.mParameters = (Codec.formatParameters (m.values fmtp) k).getD [] := by
  have hfolded := folded (m.values fmtp) k (mappingsFor (m.values rtpmap) k)
  change Folded _ _ _ (m.rtpMap k) at hfolded
  unfold codecOf at h
  generalize m.rtpMap k = c' at h hfolded
  cases hfolded with
  | some _ hpayload hparameters =>
    obtain rfl := Option.some.inj h
    exact ⟨hpayload, hparameters⟩
  | none =>
    obtain ⟨c', hstatic, rfl⟩ := Option.map_eq_some_iff.mp h
    obtain ⟨hpayload, -, hparameters⟩ := payload_ofStatic hstatic
    exact ⟨hpayload, by simp [Codec.assignFormatParameters, hpayload, hparameters]⟩

theorem unsigned_written (c : Codec) : (written c).Unsigned := by
  have hlt := c.mRate.toNat_lt
  exact ⟨Int.natCast_nonneg _, by simp only [written]; omega⟩

theorem isSome_codecOf (m : Medium) (k : ℤ) :
    (codecOf (m.values fmtp) m.rtpMap k).isSome ↔ (m.expected k).isSome := by
  have hfolded := folded (m.values fmtp) k (mappingsFor (m.values rtpmap) k)
  change Folded _ _ _ (m.rtpMap k) at hfolded
  unfold codecOf expected
  generalize m.rtpMap k = c' at hfolded ⊢
  cases hfolded with
  | some hlast => simp [hlast]
  | none hlast => simp [hlast, staticEncoding]

theorem toNat_ofInt {e : Encoding} (h : e.Unsigned) : ((UInt64.ofInt e.rate).toNat : ℤ) = e.rate := by
  obtain ⟨hrate, hlt⟩ := h
  have hlt' : (e.rate % 2 ^ 64).toNat < 2 ^ 64 := by omega
  rw [UInt64.ofInt, UInt64.toNat_ofNat_of_lt' hlt']
  omega

/-- If the rtpmaps for a payload type have one encoding, the codec has it. -/
theorem written_codecOf {c : Codec} {e : Encoding} (h : codecOf (m.values fmtp) m.rtpMap k = some c)
    (he : m.expected k = some e)
    (hall : ∀ mapping, some mapping ∈ mappingsFor (m.values rtpmap) k → encodingOf mapping = e)
    (hunsigned : e.Unsigned) : written c = e := by
  have hfolded := folded (m.values fmtp) k (mappingsFor (m.values rtpmap) k)
  change Folded _ _ _ (m.rtpMap k) at hfolded
  unfold codecOf at h
  unfold expected at he
  generalize m.rtpMap k = c' at h hfolded
  cases hfolded with
  | some hlast _ _ hname hrate hparameters =>
    obtain rfl := Option.some.inj h
    obtain rfl : encodingOf _ = e := by simpa [hlast] using he
    obtain ⟨mapping, hmem, hrate⟩ := hrate
    obtain ⟨mapping', hmem', hparameters⟩ := hparameters
    rw [hall _ hmem, hall _ hmem'] at *
    simp [written, hname, hrate, hparameters, toNat_ofInt hunsigned]
  | none hlast =>
    obtain ⟨c', hstatic, rfl⟩ := Option.map_eq_some_iff.mp h
    simpa [hlast, (payload_ofStatic hstatic).2.1, written, Codec.assignFormatParameters] using he

/-- The codec has the encoding of the last rtpmap if that has the encoding of each. -/
theorem expected_of_written {c : Codec} (h : codecOf (m.values fmtp) m.rtpMap k = some c)
    (hall : ∀ mapping, some mapping ∈ mappingsFor (m.values rtpmap) k → encodingOf mapping = written c) :
    m.expected k = some (written c) := by
  have hfolded := folded (m.values fmtp) k (mappingsFor (m.values rtpmap) k)
  change Folded _ _ _ (m.rtpMap k) at hfolded
  unfold codecOf at h
  unfold expected
  generalize m.rtpMap k = c' at h hfolded
  cases hfolded with
  | @some _ last hlast =>
    obtain rfl := Option.some.inj h
    have hmem : some last ∈ mappingsFor (m.values rtpmap) k :=
      List.mem_of_getLast? (Option.join_eq_some_iff.mp hlast)
    simp [hlast, hall last hmem]
  | none hlast =>
    obtain ⟨c', hstatic, rfl⟩ := Option.map_eq_some_iff.mp h
    simp [hlast, (payload_ofStatic hstatic).2.1, written, Codec.assignFormatParameters]

/-! ### The medium after `codecs` -/

theorem filterMap_eq_self {α : Type} {g : α → Option α} {l : List α} :
    l.filterMap g = l ↔ ∀ x ∈ l, g x = some x := by
  have hmap := List.filterMap_eq_map_iff_forall_eq_some (f := g) (g := id) (l := l)
  rwa [List.map_id] at hmap

theorem codecs_throws (hparsed : m.Parsed) (h : m.Throws) :
    ∃ msg mRtpMap, m.codecs = (some msg, { m with mRtpMapDone := true, mRtpMap }) := by
  obtain ⟨msg, mRtpMap, hloop⟩ : ∃ msg mRtpMap, mapLoop (m.values fmtp) (m.values rtpmap) m.mRtpMap =
      (some msg, mRtpMap) := mapLoop_throws_of_mem h m.mRtpMap
  refine ⟨msg, mRtpMap, ?_⟩
  have hloop' : mapLoop (values { m with mRtpMapDone := true } fmtp) (values { m with mRtpMapDone := true } rtpmap)
      m.mRtpMap = (some msg, mRtpMap) := hloop
  simp [codecs, hparsed.done, hloop']

theorem codecs_reads (hparsed : m.Parsed) (h : ¬m.Throws) :
    m.codecs = (none, { m with
      mRtpMapDone := true
      mRtpMap := m.rtpMap
      mCodecs := m.mFormats.filterMap fun f => codecOf (m.values fmtp) m.rtpMap (mapKey f)
      mFormats := []
      mAttributeHelper := (m.mAttributeHelper.clearAttribute rtpmap).clearAttribute fmtp }) := by
  have hloop : mapLoop (m.values fmtp) (m.values rtpmap) m.mRtpMap = (none, m.rtpMap) := by
    rw [mapLoop_eq fun value hvalue hnone => h ⟨value, hvalue, hnone⟩, hparsed.map]
    rfl
  have hloop' : mapLoop (values { m with mRtpMapDone := true } fmtp) (values { m with mRtpMapDone := true } rtpmap)
      m.mRtpMap = (none, m.rtpMap) := hloop
  simp only [codecs, hparsed.done, hloop', Bool.false_eq_true, if_false]
  simp only [hparsed.codecs, List.nil_append]
  rfl

theorem codecs_done (h : m.mRtpMapDone = true) (n : ℕ) : (fun m => m.codecs.2)^[n] m = m := by
  refine Function.iterate_fixed ?_ n
  simp [codecs, h]

theorem done_codecs (m : Medium) : m.codecs.2.mRtpMapDone = true := by
  unfold codecs
  split_ifs with hdone
  · exact hdone
  · dsimp only
    split <;> rfl

/-- From the first call on nothing changes. -/
theorem nothingLost_iff_first (m : Medium) :
    (∀ n, NothingLost m ((fun m => m.codecs.2)^[n] m)) ↔ NothingLost m m.codecs.2 := by
  refine ⟨fun h => h 1, fun h n => ?_⟩
  cases n with
  | zero => exact ⟨rfl, fun f _ => ⟨fun e he => he, fun text htext => htext⟩⟩
  | succ n =>
    rw [Function.iterate_succ_apply, codecs_done m.done_codecs]
    exact h

/-! ### What is written -/

theorem mem_mappingsFor {mapping : Option Codec.Mapping} :
    mapping ∈ mappingsFor values k ↔ ∃ value ∈ values, readMapping value = some (k, mapping) := by
  simp only [mappingsFor, List.mem_map, List.mem_filter, List.mem_filterMap, beq_iff_eq, Prod.exists]
  constructor
  · rintro ⟨format, read, ⟨⟨value, hvalue, hread⟩, rfl⟩, rfl⟩
    exact ⟨value, hvalue, hread⟩
  · rintro ⟨value, hvalue, hread⟩
    exact ⟨k, mapping, ⟨⟨value, hvalue, hread⟩, rfl⟩, rfl⟩

/-- If the medium has an rtpmap of its own, the session's are not looked at. -/
theorem values_of_mem {key value : Bytes} (h : value ∈ m.mAttributeHelper.getValues key) :
    m.values key = m.mAttributeHelper.getValues key := by
  have hexists : m.mAttributeHelper.exists key = true := by
    obtain ⟨line, hline, -⟩ := List.mem_map.mp h
    obtain ⟨hmem, hkey⟩ := List.mem_filter.mp hline
    exact List.any_eq_true.mpr ⟨line, hmem, hkey⟩
  simp [values, Medium.exists, getValues, hexists]

theorem rtpmap_parsed (hparsed : m.Parsed) {e : Encoding} (h : m.Rtpmap k e) :
    ∃ mapping, some mapping ∈ mappingsFor (m.values rtpmap) k ∧ e = encodingOf mapping := by
  obtain ⟨c, hc, -⟩ | ⟨value, hvalue, mapping, hread, he⟩ := h
  · simp [hparsed.codecs] at hc
  · exact ⟨mapping, mem_mappingsFor.mpr ⟨value, values_of_mem hvalue ▸ hvalue, hread⟩, he⟩

/-- With an rtpmap of its own for a payload type, a medium declares the encoding of each rtpmap for it. -/
theorem rtpmap_of_mem {e : Encoding} (h : m.mAttributeHelper.exists rtpmap = true) {mapping : Codec.Mapping}
    (hmem : some mapping ∈ mappingsFor (m.values rtpmap) k) (he : e = encodingOf mapping) : m.Rtpmap k e := by
  have hvalues : m.values rtpmap = m.mAttributeHelper.getValues rtpmap := by
    simp [values, Medium.exists, getValues, h]
  obtain ⟨value, hvalue, hread⟩ := mem_mappingsFor.mp hmem
  exact .inr ⟨value, hvalues ▸ hvalue, mapping, hread, he⟩

theorem exists_of_rtpmap (hparsed : m.Parsed) {e : Encoding} (h : m.Rtpmap k e) :
    m.mAttributeHelper.exists rtpmap = true := by
  obtain ⟨c, hc, -⟩ | ⟨value, hvalue, -⟩ := h
  · simp [hparsed.codecs] at hc
  · obtain ⟨line, hline, -⟩ := List.mem_map.mp hvalue
    obtain ⟨hmem, hkey⟩ := List.mem_filter.mp hline
    exact List.any_eq_true.mpr ⟨line, hmem, hkey⟩

theorem getValues_cleared (a : Attributes) {key : Bytes} (hkey : key = rtpmap ∨ key = fmtp) :
    Attributes.getValues ((a.clearAttribute rtpmap).clearAttribute fmtp) key = [] := by
  simp only [Attributes.getValues, Attributes.clearAttribute, List.filter_filter, List.map_eq_nil_iff,
    List.filter_eq_nil_iff]
  rintro line - h
  rcases hkey with rfl | rfl <;> simp at h <;> tauto

/-- What is written for a format after `codecs`, if nothing has been thrown, is its codec. -/
theorem rtpmap_codecs (hparsed : m.Parsed) (h : ¬m.Throws) (hf : f ∈ m.mFormats) {e : Encoding} :
    m.codecs.2.Rtpmap (mapKey f) e ↔ ∃ c, codecOf (m.values fmtp) m.rtpMap (mapKey f) = some c ∧ e = written c := by
  simp only [Rtpmap, codecs_reads hparsed h, getValues_cleared m.mAttributeHelper (.inl rfl), List.not_mem_nil,
    false_and, exists_false, or_false, List.mem_filterMap]
  constructor
  · rintro ⟨c, ⟨f', -, hc⟩, hpayload, he⟩
    rw [(payload_codecOf hc).1] at hpayload
    exact ⟨c, hpayload ▸ hc, he⟩
  · rintro ⟨c, hc, he⟩
    exact ⟨c, ⟨f, hf, hc⟩, (payload_codecOf hc).1, he⟩

theorem fmtp_codecs (hparsed : m.Parsed) (h : ¬m.Throws) (hf : f ∈ m.mFormats) {text : Bytes} :
    m.codecs.2.Fmtp (mapKey f) text ↔ text ≠ [] ∧
      (codecOf (m.values fmtp) m.rtpMap (mapKey f)).isSome ∧
        Codec.formatParameters (m.values fmtp) (mapKey f) = some text := by
  simp only [Fmtp, codecs_reads hparsed h, getValues_cleared m.mAttributeHelper (.inr rfl), List.not_mem_nil,
    false_and, exists_false, or_false, List.mem_filterMap]
  refine and_congr_right fun htext => ⟨?_, ?_⟩
  · rintro ⟨c, ⟨f', -, hc⟩, hpayload, rfl⟩
    obtain ⟨hkey, hparameters⟩ := payload_codecOf hc
    rw [hkey] at hpayload
    rw [hpayload] at hc hparameters
    refine ⟨by simp [hc], ?_⟩
    cases hfound : Codec.formatParameters (m.values fmtp) (mapKey f) with
    | some text => simp [hparameters, hfound]
    | none => exact absurd (by simp [hparameters, hfound]) htext
  · rintro ⟨hsome, hfound⟩
    obtain ⟨c, hc⟩ := Option.isSome_iff_exists.mp hsome
    obtain ⟨hkey, hparameters⟩ := payload_codecOf hc
    exact ⟨c, ⟨f, hf, hc⟩, hkey, by simp [hparameters, hfound]⟩

theorem formats_codecs (hparsed : m.Parsed) (h : ¬m.Throws) :
    m.codecs.2.formats = m.formats ↔
      ∀ f ∈ m.mFormats, (m.expected (mapKey f)).isSome ∧ literal (mapKey f).repr = f := by
  have hnumeral : ∀ f, (codecOf (m.values fmtp) m.rtpMap (mapKey f)).map (fun c => literal c.mPayloadType.repr) =
      some f ↔ (m.expected (mapKey f)).isSome ∧ literal (mapKey f).repr = f := by
    intro f
    rw [← isSome_codecOf]
    cases hc : codecOf (m.values fmtp) m.rtpMap (mapKey f) with
    | none => simp
    | some c => simp [(payload_codecOf hc).1]
  simp only [formats, codecs_reads hparsed h, hparsed.codecs, List.nil_append, List.map_nil, List.append_nil,
    List.map_filterMap, filterMap_eq_self, hnumeral]

theorem rtpmaps_kept (hparsed : m.Parsed) (h : ¬m.Throws) (hf : f ∈ m.mFormats)
    (hsome : (m.expected (mapKey f)).isSome) :
    (∀ e, m.Rtpmap (mapKey f) e → m.codecs.2.Rtpmap (mapKey f) e) ↔
      ∃ e, m.expected (mapKey f) = some e ∧ ∀ e', m.Rtpmap (mapKey f) e' → e' = e ∧ e.Unsigned := by
  obtain ⟨c, hc⟩ := Option.isSome_iff_exists.mp ((isSome_codecOf m (mapKey f)).mpr hsome)
  obtain ⟨e, he⟩ := Option.isSome_iff_exists.mp hsome
  have hafter : ∀ e, m.codecs.2.Rtpmap (mapKey f) e ↔ e = written c := by
    intro e
    simp [rtpmap_codecs hparsed h hf, hc]
  by_cases hown : m.mAttributeHelper.exists rtpmap = true
  · simp only [hafter]
    constructor
    · intro hkept
      exact ⟨written c, expected_of_written hc fun mapping hmem => hkept _ (rtpmap_of_mem hown hmem rfl),
        fun e' he' => ⟨hkept e' he', unsigned_written c⟩⟩
    · rintro ⟨e, he, hkept⟩ e' he'
      obtain ⟨rfl, hunsigned⟩ := hkept e' he'
      exact (written_codecOf hc he (fun mapping hmem => (hkept _ (rtpmap_of_mem hown hmem rfl)).1) hunsigned).symm
  · have hnone : ∀ e, ¬m.Rtpmap (mapKey f) e := fun e hrtpmap => hown (exists_of_rtpmap hparsed hrtpmap)
    simp [hnone, he]

theorem nothingLost_codecs (hparsed : m.Parsed) (h : ¬m.Throws) :
    NothingLost m m.codecs.2 ↔ ∀ f ∈ m.mFormats, m.Kept f := by
  have hformats : m.formats = m.mFormats := by simp [formats, hparsed.codecs]
  rw [NothingLost, formats_codecs hparsed h, hformats, ← forall₂_and]
  refine forall₂_congr fun f hf => ?_
  constructor
  · rintro ⟨⟨hsome, hnumeral⟩, hrtpmaps, hfmtps⟩
    obtain ⟨e, he, hkept⟩ := (rtpmaps_kept hparsed h hf hsome).mp hrtpmaps
    exact ⟨hnumeral, e, he, hkept, fun text htext => ((fmtp_codecs hparsed h hf).mp (hfmtps text htext)).2.2⟩
  · rintro ⟨hnumeral, e, he, hkept, hfmtps⟩
    have hsome : (m.expected (mapKey f)).isSome := by simp [he]
    refine ⟨⟨hsome, hnumeral⟩, (rtpmaps_kept hparsed h hf hsome).mpr ⟨e, he, hkept⟩, fun text htext => ?_⟩
    exact (fmtp_codecs hparsed h hf).mpr ⟨htext.1, (isSome_codecOf m _).mpr hsome, hfmtps text htext⟩

theorem nothingLost_throws (hparsed : m.Parsed) (h : m.Throws) : NothingLost m m.codecs.2 := by
  obtain ⟨msg, mRtpMap, hcodecs⟩ := codecs_throws hparsed h
  rw [hcodecs]
  exact ⟨rfl, fun f _ => ⟨fun e he => he, fun text htext => htext⟩⟩

/-- The calls of `codecs` lose nothing if and only if the first throws, or every format is the numeral of a
payload type whose encoding is known, declared once. -/
theorem codecs_nothingLost_iff (m : Medium) (hparsed : m.Parsed) :
    (∀ n, NothingLost m ((fun m => m.codecs.2)^[n] m)) ↔ m.Throws ∨ ∀ f ∈ m.mFormats, m.Kept f := by
  rw [nothingLost_iff_first]
  by_cases h : m.Throws
  · simp [h, nothingLost_throws hparsed h]
  · simp [h, nothingLost_codecs hparsed h]

section
variable (mName mProtocol : Bytes) (mFormats : List Bytes) (mAttributeHelper : Attributes)

/-- A medium on port 5004 in a session without attributes. -/
def declared : Medium where
  mName
  mPort := 5004
  mMulticast := 1
  mProtocol
  mFormats
  mCodecs := []
  mInformation := []
  otherLines := []
  mAttributeHelper
  mRtpMapDone := false
  mRtpMap _ := none
  mSession := some []

theorem parsed_declared : (declared mName mProtocol mFormats mAttributeHelper).Parsed := ⟨rfl, rfl, rfl⟩

end

/-- One static and one dynamic payload type. -/
def audio : Medium := declared (literal "audio") (literal "RTP/AVP") [literal "0", literal "96"]
  [(rtpmap, literal "96 opus/48000/2"), (fmtp, literal "96 useinbandfec=1")]

/-- A fax, whose format is not a number. -/
def fax : Medium := declared (literal "image") (literal "udptl") [literal "t38"] []

theorem audio_kept : ∀ f ∈ audio.mFormats, audio.Kept f := by
  have hread : readMapping (literal "96 opus/48000/2") =
      some (96, some ⟨literal "opus", some 48000, some (literal "2")⟩) := by decide +kernel
  have hrtpmaps : audio.mAttributeHelper.getValues rtpmap = [literal "96 opus/48000/2"] := by decide +kernel
  have hfmtps : audio.mAttributeHelper.getValues fmtp = [literal "96 useinbandfec=1"] := by decide +kernel
  have hstatic : mapKey (literal "0") = 0 := by decide +kernel
  have hdynamic : mapKey (literal "96") = 96 := by decide +kernel
  have hnone : Codec.readAll (Codec.parseFormat 0) (literal "96 useinbandfec=1") = some none := by decide +kernel
  have hsome : Codec.readAll (Codec.parseFormat 96) (literal "96 useinbandfec=1") =
      some (some (literal "useinbandfec=1")) := by decide +kernel
  have hexpected : audio.expected 0 = some ⟨literal "PCMU", 8000, []⟩ := by decide +kernel
  have hexpected' : audio.expected 96 = some ⟨literal "opus", 48000, literal "2"⟩ := by decide +kernel
  have hparameters : Codec.formatParameters (audio.values fmtp) 96 = some (literal "useinbandfec=1") := by
    decide +kernel
  have hcodecs : audio.mCodecs = [] := rfl
  intro f hf
  obtain rfl | rfl : f = literal "0" ∨ f = literal "96" := by simpa [audio, declared] using hf
  · refine ⟨by decide +kernel, _, by rw [hstatic, hexpected], ?_, ?_⟩
    · simp [Rtpmap, hcodecs, hrtpmaps, hread, hstatic]
    · simp [Fmtp, hcodecs, hfmtps, hnone, hstatic]
  · refine ⟨by decide +kernel, _, by rw [hdynamic, hexpected'], ?_, ?_⟩
    · simp [Rtpmap, hcodecs, hrtpmaps, hread, hdynamic, encodingOf, Encoding.Unsigned]
    · simp [Fmtp, hcodecs, hfmtps, hsome, hdynamic, hparameters]

theorem codecs_nothingLost_audio : NothingLost audio audio.codecs.2 :=
  (codecs_nothingLost_iff audio (parsed_declared ..)).mpr (.inr audio_kept) 1

theorem not_codecs_nothingLost :
    fax.Parsed ∧ fax.codecs.2.formats = [literal "0"] ∧ ¬∀ n, NothingLost fax ((fun m => m.codecs.2)^[n] fax) := by
  have hformats : fax.codecs.2.formats = [literal "0"] := by decide +kernel
  refine ⟨parsed_declared .., hformats, fun h => ?_⟩
  have hfirst : fax.codecs.2.formats = fax.formats := (h 1).1
  rw [hformats] at hfirst
  exact absurd hfirst (by decide)

end Medium

end Resiprocate.Stack.SdpContents
