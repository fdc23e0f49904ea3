import Resiprocate.ConnectionWrite
import Resiprocate.WsFrameExtractorRefinement

/-! What comes out of `processBytes` when the frames of one message go in: the message, unless a
length of eight bytes is met or the last frame is empty. -/
namespace Resiprocate.WebSocket
open Scanner StreamMachine

/-- Where a search for a header leaves the extractor. -/
def HeaderSearch.extractor : HeaderSearch → WsFrameExtractor
  | .returned _ e => e
  | .over e _ => e

namespace WsFrameExtractor

/-- The message comes out and the connection is kept. -/
def RoundTrips (maxMessage : UInt32) (memory : WsFrameExtractor) (fs : List Frame) : Prop :=
  ∃ e, (new maxMessage memory).processBytes (stream fs) = some (some (carried fs), false, e)

/-- Frames with lengths of at most two bytes: the message comes out unless its last frame is
empty. -/
theorem processBytes_message (maxMessage : UInt32) (memory : WsFrameExtractor) {init : List Frame}
    {last : Frame} (hforms : ∀ f ∈ init ++ [last], f.form ≠ .sixtyFour)
    (hfin : ∀ f ∈ init, f.fin = false) (hlast : last.fin = true)
    (hmax : (carried (init ++ [last])).length ≤ maxMessage.toNat) :
    ∃ e, (new maxMessage memory).processBytes (stream (init ++ [last])) =
      some (if last.payload = [] then none else some (carried (init ++ [last])), false, e) := by
  have hne : stream (init ++ [last]) ≠ [] := by
    simp [stream, encode_ne_nil]
  have hfuel : (stream (init ++ [last])).length < 2 * (stream (init ++ [last])).length + 1 := by
    omega
  obtain ⟨exit, hloop, hshows⟩ := processLoop_spec (.steady (new_steady maxMessage memory)) hne
    hfuel (run_message hforms hfin hlast hmax)
  have hexit := hshows.finished (by simp [Reader.midHeader])
  have hmessages := hshows.messages
  rw [hexit] at hloop
  simp only [new, List.nil_append] at hmessages
  refine ⟨{ exit.extractor with mMessages := exit.extractor.mMessages.tail }, ?_⟩
  simp only [processBytes, hloop, Option.map_some, Option.some.injEq, Prod.mk.injEq, and_true]
  by_cases hnil : last.payload = []
  · simp only [hnil, if_true] at hmessages ⊢
    simpa using hmessages
  · simp only [hnil, if_false, List.append_nil] at hmessages ⊢
    rw [hmessages]
    rfl

/-! ### Lengths of eight bytes -/

/-- Where the extractor stands between two frames. -/
structure Between (e : WsFrameExtractor) (max : ℕ) (frames : Bytes) : Prop where
  base : e.Base max frames
  collects : e.Collects []

/-- A whole frame with a length of at most two bytes, with more to follow, takes one turn. -/
theorem frame_turn {e : WsFrameExtractor} {max : ℕ} {frames rest : Bytes} {f : Frame}
    (he : e.Between max frames) (hform : f.form ≠ .sixtyFour)
    (hmax : frames.length + f.payload.length ≤ max) (hrest : rest ≠ []) (fuel : ℕ) :
    ∃ e' : WsFrameExtractor,
      e.processLoop (fuel + 1) (f.encode ++ rest) = e'.processLoop fuel rest ∧
      e'.Between max (Reader.finish f.fin (frames ++ f.payload)).2 ∧
      e'.mMessages = e.mMessages ++ (Reader.finish f.fin (frames ++ f.payload)).1 := by
  have hmore : f.body ++ rest ≠ [] := by simp [hrest]
  have hdone := Frame.headerNeeds_self hform
  have hinput : f.encode ++ rest = f.header ++ (f.body ++ rest) := by simp [Frame.encode]
  have hlong : longLength ([] ++ (f.encode ++ rest)) = false := by
    rw [hinput]
    exact Frame.longLength_header hform _
  have hne : f.encode ++ rest ≠ [] := by simp [encode_ne_nil]
  have hnot : ¬ Lacks [] (f.encode ++ rest) := fun h => h _ _ hinput hmore hdone
  obtain ⟨c, input, hcons⟩ := List.exists_cons_of_ne_nil hne
  have hfound := findHeader_spec he.collects hlong (by simp [headerNeeds]) hne input.length
  rw [hcons, processLoop, ← hcons]
  generalize e.findHeader (input.length + 3) (f.encode ++ rest) = r at hfound
  cases hfound with
  | lacking _ _ hlacks => exact absurd hlacks hnot
  | used _ _ hlacks => exact absurd hlacks hnot
  | @parsed e' p rest' hkept hsplit hp hrest' hlacks hneeds htakes =>
    rw [List.nil_append] at hneeds htakes
    have hwhole : p = f.header ∧ rest' = f.body ++ rest := by
      rcases List.append_eq_append_iff.1 (hinput.symm.trans hsplit) with ⟨a, rfl, ha⟩ | ⟨a, ha, rfl⟩
      · by_cases hnil : a = []
        · simp [hnil, ha]
        · exact absurd hdone (hlacks f.header a rfl hnil)
      · by_cases hnil : a = []
        · simp [hnil, ha]
        · exact absurd hneeds ((Frame.headerNeeds_prefix hform ha).1 hnil)
    obtain ⟨rfl, rfl⟩ := hwhole
    rw [Frame.frameHeader_header hform] at htakes
    have hlen : f.head.length = f.body.length := Frame.length_body.symm
    have hbase := he.base.kept hkept
    obtain ⟨e'', htake, hcollects, hbase', hmessages⟩ := takePayload_whole
      htakes hbase (Nat.zero_le _) hmax (by simp [hlen] : f.head.length ≤ ([] : Bytes).length + (f.body ++ rest).length)
    have hsize : ¬ e'.mMaxMessage.toNat < (e'.mMessageSize + e'.mPayloadLength) % 2 ^ 32 := by
      have hlt := hbase.lt
      have hpayload : e'.mPayloadLength = f.payload.length := htakes.payloadLength
      rw [hbase.maxMessage, hbase.messageSize, hpayload, Nat.mod_eq_of_lt (by omega)]
      omega
    simp only [List.length_nil, Nat.sub_zero, hlen, List.take_left', List.drop_left',
      Frame.unmask_body, List.nil_append] at htake hbase' hmessages
    simp only [htakes.haveHeader, if_true, hsize, if_false, htake]
    exact ⟨e'', rfl, ⟨hbase', hcollects⟩, by rw [hmessages, hkept.messages]; rfl⟩

/-- The first turn of the search collects two bytes. -/
theorem findHeader_first {e : WsFrameExtractor} (he : e.Collects []) (a b : UInt8) (rest : Bytes)
    (fuel : ℕ) :
    ∃ e' : WsFrameExtractor, e.Kept e' ∧ e'.Collects [a, b] ∧
      e.findHeader (fuel + 1) (a :: b :: rest) = e'.findHeader fuel rest := by
  obtain ⟨e', hkept, he', hfind⟩ := findHeader_lacking he rfl (by simp [headerNeeds])
    (by simp : a :: b :: rest ≠ []) fuel
  refine ⟨e', hkept, he', ?_⟩
  rw [hfind, if_neg (by simp [headerNeeds])]
  rfl

section Long
variable {e : WsFrameExtractor} {a b : UInt8} {rest : Bytes} (hlong : b &&& 0x7F = 127)
include hlong

/-- With a length of eight bytes announced, eight bytes of header are asked for, and the key. -/
theorem parseHeader_long_short (he : e.Collects (a :: b :: rest)) (hrest : rest.length < 6) :
    e.parseHeader.1 = 6 - rest.length + (if b >>> 7 = 0 then 0 else 4) ∧
      e.parseHeader.2.Collects (a :: b :: rest) := by
  have hlen : e.mHeaderLen = rest.length + 2 := he.headerLen
  have hb : e.mWsHeader 1 = b := he.bytes 1 (by simp)
  have hlength : e.parseFlags.mPayloadLength = 127 := by
    change (e.mWsHeader 1 &&& 0x7F).toNat = 127
    rw [hb, hlong]
    rfl
  have hmasked : e.parseFlags.mMasked = (b >>> 7 != 0) := by rw [← hb]; rfl
  have hlen' : e.parseFlags.mHeaderLen = rest.length + 2 := hlen
  have htwo : ¬ e.mHeaderLen < 2 := by omega
  have height : e.parseFlags.mHeaderLen < 8 := by omega
  have hparse : e.parseHeader = e.parseFlags.tooShort 8 := by
    simp [parseHeader, htwo, hlength, height]
  rw [hparse]
  refine ⟨?_, he.of_same he.haveHeader rfl rfl⟩
  have hkey : (if e.parseFlags.mMasked = true then 4 else 0) = if b >>> 7 = 0 then 0 else 4 := by
    by_cases hm : b >>> 7 = 0 <;> simp [hmasked, hm]
  simp only [tooShort, hlen', hkey]
  omega

/-- With eight bytes there, the length is taken from them and from the two bytes after them. -/
theorem parseHeader_long (he : e.Collects (a :: b :: rest)) (hrest : 6 ≤ rest.length) :
    ∃ e' : WsFrameExtractor, e.parseHeader = e'.parseMaskKey 10 ∧ e'.Collects (a :: b :: rest) ∧
      e'.mFinalFrame = (a >>> 7 != 0) ∧ e'.mMasked = (b >>> 7 != 0) ∧
      e'.mPayloadLength = e.longPayloadLength := by
  have hlen : e.mHeaderLen = rest.length + 2 := he.headerLen
  have ha : e.mWsHeader 0 = a := he.bytes 0 (by simp)
  have hb : e.mWsHeader 1 = b := he.bytes 1 (by simp)
  have hlength : e.parseFlags.mPayloadLength = 127 := by
    change (e.mWsHeader 1 &&& 0x7F).toNat = 127
    rw [hb, hlong]
    rfl
  have htwo : ¬ e.mHeaderLen < 2 := by omega
  have height : ¬ e.parseFlags.mHeaderLen < 8 := by
    change ¬ e.mHeaderLen < 8
    omega
  refine ⟨{ e.parseFlags with mPayloadLength := e.longPayloadLength }, ?_,
    he.of_same he.haveHeader rfl rfl, by rw [← ha]; rfl, by rw [← hb]; rfl, rfl⟩
  simp only [parseHeader, htwo, hlength, height, if_false, if_true, Nat.reduceEqDiff]
  rfl

/-- The key of a masked header with a length of eight bytes. -/
theorem parseHeader_long_masked (he : e.Collects (a :: b :: rest)) (hmasked : b >>> 7 ≠ 0)
    (hrest : 8 ≤ rest.length) : e.parseHeader.1 = 12 - rest.length ∧
      (rest.length < 12 → e.parseHeader.2.Collects (a :: b :: rest)) := by
  obtain ⟨e', hparse, he', -, hkey, -⟩ := parseHeader_long hlong he (by omega)
  obtain ⟨hneeds, hlacks, -⟩ := parseMaskKey_spec he' 10 (by simpa using hrest)
  have hkey' : e'.mMasked = true := by simpa [hkey] using hmasked
  simp only [hkey', if_true, List.length_cons] at hneeds hlacks
  rw [hparse]
  exact ⟨hneeds.trans (by omega), fun h => hlacks (by omega)⟩

/-- The turns of a search that meets a masked header with a length of eight bytes: all of its
fourteen bytes are collected, and that is too many. -/
theorem findHeader_masked (he : e.Collects []) (hmasked : b >>> 7 ≠ 0) (hrest : 12 < rest.length)
    (fuel : ℕ) : ∃ e', e.findHeader (fuel + 4) (a :: b :: rest) = .returned true e' := by
  have hne : ∀ n, n ≤ 12 → rest.drop n ≠ [] := by
    intro n hn hnil
    have := congrArg List.length hnil
    rw [List.length_drop, List.length_nil] at this
    omega
  have htake : ∀ n, n ≤ 12 → (rest.take n).length = n := by
    intro n hn
    rw [List.length_take]
    omega
  obtain ⟨e₁, -, he₁, hfind₁⟩ := findHeader_first he a b rest (fuel + 3)
  obtain ⟨hneeds₁, hcollects₁⟩ := parseHeader_long_short hlong he₁ (by simp)
  obtain ⟨e₂, -, he₂, hfind₂⟩ := findHeader_collect he₁ hcollects₁ (by simp [maxHeaderLen])
    (by simpa using hne 0 (by omega)) (fuel + 2)
  have hten : e₁.parseHeader.1 = 10 := by simpa [hmasked] using hneeds₁
  rw [hten, List.cons_append, List.cons_append, List.nil_append] at he₂
  rw [hten, if_neg (by omega)] at hfind₂
  -- with twelve bytes there, two bytes of the key are lacking
  obtain ⟨hneeds₂, hcollects₂⟩ := parseHeader_long_masked hlong he₂ hmasked
    (by rw [htake 10 (by omega)]; omega)
  rw [htake 10 (by omega)] at hneeds₂ hcollects₂
  obtain ⟨e₃, -, he₃, hfind₃⟩ := findHeader_collect he₂ (hcollects₂ (by omega))
    (by simp [maxHeaderLen, htake]) (hne 10 (by omega)) (fuel + 1)
  rw [hneeds₂, if_neg (by rw [List.length_drop]; omega), List.drop_drop] at hfind₃
  have hlen₃ : e₃.mHeaderLen = 14 := by
    rw [he₃.headerLen, hneeds₂]
    simp only [List.length_append, List.length_cons, List.length_take, List.length_drop]
    omega
  refine ⟨e₃.parseHeader.2, ?_⟩
  rw [hfind₁, hfind₂, hfind₃]
  have hmore := hne 12 le_rfl
  have hlast : maxHeaderLen ≤ e₃.parseHeader.2.mHeaderLen := by
    rw [parseHeader_headerLen, hlen₃]
    exact le_rfl
  simp [findHeader, he₃.haveHeader, hmore, hlast]

omit hlong in
/-- A length of eight bytes comes out as 1 if any of its first six bytes is not 0. -/
theorem longPayloadLength_eq_one (he : e.Collects (a :: b :: rest)) (hrest : rest.length = 6)
    (hpos : ∃ c ∈ rest, c ≠ 0) : e.longPayloadLength = 1 := by
  unfold longPayloadLength
  dsimp only
  rw [if_pos]
  by_contra hzero
  simp only [ne_eq, not_or, not_not, Nat.or_eq_zero_iff, Nat.shiftLeft_eq_zero_iff] at hzero
  obtain ⟨c, hc, hne⟩ := hpos
  obtain ⟨i, hi, rfl⟩ := List.mem_iff_getElem.1 hc
  have hbyte : e.mWsHeader (2 + i) = rest[i] := by
    rw [he.bytes (2 + i) (by simp; omega), Nat.add_comm]
    simp [hi]
  have hzero' : (e.mWsHeader (2 + i)).toNat = 0 := by
    rw [hrest] at hi
    obtain ⟨⟨⟨⟨⟨⟨⟨h₀, h₁⟩, h₂⟩, h₃⟩, h₄⟩, h₅⟩, -⟩, -⟩ := hzero
    interval_cases i
    · exact h₀
    · exact h₁
    · exact h₂
    · exact h₃
    · exact h₄
    · exact h₅
  rw [hbyte] at hzero'
  exact hne (UInt8.toNat_inj.1 hzero')

/-- The search that meets an unmasked header with a length of eight bytes: it takes the first
eight bytes for the header. -/
theorem findHeader_unmasked {l : Bytes} (he : e.Collects []) (hmasked : b >>> 7 = 0)
    (hl : l.length = 6) (hpos : ∃ c ∈ l, c ≠ 0) (hrest : rest ≠ []) (fuel : ℕ) :
    ∃ e', e.findHeader (fuel + 3) (a :: b :: (l ++ rest)) = .over e' rest ∧ e.Kept e' ∧
      e'.Takes ⟨a >>> 7 != 0, none, 1⟩ [] := by
  obtain ⟨e₁, hkept₁, he₁, hfind₁⟩ := findHeader_first he a b (l ++ rest) (fuel + 2)
  obtain ⟨hneeds₁, hcollects₁⟩ := parseHeader_long_short hlong he₁ (by simp)
  have hsix : e₁.parseHeader.1 = l.length := by simpa [hmasked, hl] using hneeds₁
  obtain ⟨e₂, hkept₂, he₂, hfind₂⟩ := findHeader_collect he₁ hcollects₁ (by simp [maxHeaderLen])
    (by simp [hrest] : l ++ rest ≠ []) (fuel + 1)
  rw [hsix, List.take_left, List.cons_append, List.cons_append, List.nil_append] at he₂
  rw [hsix, if_neg (by simp), List.drop_left] at hfind₂
  obtain ⟨e₃, hparse, he₃, hfin, hkey, hlength⟩ := parseHeader_long hlong he₂ hl.ge
  have hplain : e₃.mMasked = false := by simp [hkey, hmasked]
  have hnone : e₂.parseHeader = (0, { e₃ with mHaveHeader := true, mPayload := none }) := by
    rw [hparse]
    simp [parseMaskKey, hplain]
  have hone : e₃.mPayloadLength = 1 := hlength.trans (longPayloadLength_eq_one he₂ hl hpos)
  have htakes : e₂.parseHeader.2.Takes ⟨a >>> 7 != 0, none, 1⟩ [] := by
    rw [hnone]
    exact ⟨rfl, hfin, hplain, by simp, hone, rfl⟩
  refine ⟨e₂.parseHeader.2, ?_, (hkept₁.trans hkept₂).trans (parseHeader_kept e₂), htakes⟩
  rw [hfind₁, hfind₂]
  exact findHeader_parsed he₂ (by rw [hnone]) htakes (by simp [hl, maxHeaderLen]) hrest fuel

end Long

/-- One of the first six bytes of a length that needs eight is not 0. -/
theorem lengthBytes_long {f : Frame} (hform : f.form = .sixtyFour) :
    ∃ (l : Bytes) (c d : UInt8), f.lengthBytes = l ++ [c, d] ∧ l.length = 6 ∧ ∃ x ∈ l, x ≠ 0 := by
  refine ⟨[7, 6, 5, 4, 3, 2].map (lengthByte f.payload.length), lengthByte f.payload.length 1,
    lengthByte f.payload.length 0, by simp [Frame.lengthBytes, hform], rfl, ?_⟩
  have hfits := f.fits
  rw [hform] at hfits
  obtain ⟨hlow, hhigh⟩ : 0xFFFF < f.payload.length ∧ f.payload.length < 2 ^ 63 := hfits
  have hbyte : ∀ i, lengthByte f.payload.length i = 0 → f.payload.length / 2 ^ (8 * i) % 256 = 0 := by
    intro i hzero
    have := congrArg UInt8.toNat hzero
    simpa [lengthByte, Nat.shiftRight_eq_div_pow] using this
  by_contra hnone
  simp only [List.map_cons, List.map_nil, List.mem_cons, List.not_mem_nil, or_false,
    exists_eq_or_imp, exists_eq_left, not_or, not_not, ne_eq] at hnone
  obtain ⟨h₇, h₆, h₅, h₄, h₃, h₂⟩ := hnone
  have h₇ := hbyte 7 h₇
  have h₆ := hbyte 6 h₆
  have h₅ := hbyte 5 h₅
  have h₄ := hbyte 4 h₄
  have h₃ := hbyte 3 h₃
  have h₂ := hbyte 2 h₂
  omega

/-- Masked bytes with a length of eight bytes announced: the connection is dropped. -/
theorem masked_turn {e : WsFrameExtractor} {a b : UInt8} {rest : Bytes} (he : e.Collects [])
    (hlong : b &&& 0x7F = 127) (hmasked : b >>> 7 ≠ 0) (hrest : 12 < rest.length) (fuel : ℕ) :
    ∃ e', e.processLoop (fuel + 1) (a :: b :: rest) = some (.returned true e') := by
  obtain ⟨n, hn⟩ : ∃ n, (b :: rest).length + 3 = n + 4 := ⟨rest.length, by simp⟩
  obtain ⟨e', hfind⟩ := findHeader_masked (a := a) hlong he hmasked hrest n
  exact ⟨e', by simp only [processLoop, hn, hfind]⟩

/-- An unmasked frame with a length of eight bytes: the byte after the first six of the length is
taken for the whole payload. -/
theorem unmasked_turn {e : WsFrameExtractor} {max : ℕ} {frames : Bytes} {f : Frame}
    (he : e.Between max frames) (hform : f.form = .sixtyFour) (hkey : f.maskKey = none)
    (hmax : frames.length + 1 ≤ max) (rest : Bytes) (fuel : ℕ) :
    ∃ (e' : WsFrameExtractor) (c d : UInt8),
      e.processLoop (fuel + 1) (f.encode ++ rest) =
        e'.processLoop fuel (d :: (f.payload ++ rest)) ∧
      e'.Between max (Reader.finish f.fin (frames ++ [c])).2 ∧
      e'.mMessages = e.mMessages ++ (Reader.finish f.fin (frames ++ [c])).1 := by
  obtain ⟨l, c, d, hbytes, hl, hpos⟩ := lengthBytes_long hform
  obtain ⟨hbits, hmasked⟩ := f.secondByte_bits
  have hlong : f.secondByte &&& 0x7F = 127 := hbits.trans (f.toNat_lengthBits.2.2.2 hform)
  have hinput : f.encode ++ rest =
      f.firstByte :: f.secondByte :: (l ++ c :: d :: (f.payload ++ rest)) := by
    simp [Frame.encode, Frame.header, Frame.body, Frame.keyBytes, hkey, hbytes]
  have hmore : c :: d :: (f.payload ++ rest) ≠ [] := by simp
  obtain ⟨e₁, hfind, hkept, htakes⟩ := findHeader_unmasked (a := f.firstByte) hlong he.collects
    (hmasked.2 hkey) hl hpos hmore (f.secondByte :: (l ++ c :: d :: (f.payload ++ rest))).length
  have hbase := he.base.kept hkept
  obtain ⟨e', htake, hcollects, hbase', hmessages⟩ := takePayload_whole htakes hbase
    (Nat.zero_le _) hmax (by simp : 1 ≤ ([] : Bytes).length + (c :: d :: (f.payload ++ rest)).length)
  have hsize : ¬ e₁.mMaxMessage.toNat < (e₁.mMessageSize + e₁.mPayloadLength) % 2 ^ 32 := by
    have hlt := hbase.lt
    have hone : e₁.mPayloadLength = 1 := htakes.payloadLength
    rw [hbase.maxMessage, hbase.messageSize, hone, Nat.mod_eq_of_lt (by omega)]
    omega
  simp only [FrameHeader.unmask, f.firstByte_fin, List.length_nil, Nat.sub_zero, List.take_one,
    List.head?_cons, Option.toList_some, List.nil_append, List.drop_one, List.tail_cons]
    at htake hbase' hmessages
  refine ⟨e', c, d, ?_, ⟨hbase', hcollects⟩, by rw [hmessages, hkept.messages]⟩
  rw [hinput]
  simp only [processLoop, hfind, htakes.haveHeader, if_true, hsize, if_false, htake]

/-- Frames without FIN and with lengths of at most two bytes take one turn each. -/
theorem unfinished_turns {e : WsFrameExtractor} {max : ℕ} {frames rest : Bytes} {fs : List Frame}
    (hforms : ∀ f ∈ fs, f.form ≠ .sixtyFour) (hfin : ∀ f ∈ fs, f.fin = false)
    (he : e.Between max frames) (hmax : frames.length + (carried fs).length ≤ max)
    (hrest : rest ≠ []) (fuel : ℕ) :
    ∃ e' : WsFrameExtractor,
      e.processLoop (fuel + fs.length) (stream fs ++ rest) = e'.processLoop fuel rest ∧
      e'.Between max (frames ++ carried fs) ∧ e'.mMessages = e.mMessages := by
  induction fs generalizing e frames with
  | nil => exact ⟨e, rfl, by simpa [carried] using he, rfl⟩
  | cons f fs ih =>
    have hlen : (carried (f :: fs)).length = f.payload.length + (carried fs).length := by
      simp [carried]
    obtain ⟨e₁, hturn, he₁, hmessages₁⟩ := frame_turn he (hforms f List.mem_cons_self) (by omega)
      (by simp [hrest] : stream fs ++ rest ≠ []) (fuel + fs.length)
    simp only [Reader.finish, hfin f List.mem_cons_self, Bool.false_eq_true, if_false,
      List.append_nil] at he₁ hmessages₁
    obtain ⟨e₂, hturns, he₂, hmessages₂⟩ := ih (fun g hg => hforms g (List.mem_cons_of_mem _ hg))
      (fun g hg => hfin g (List.mem_cons_of_mem _ hg)) he₁ (by rw [List.length_append]; omega)
    refine ⟨e₂, ?_, by simpa [carried] using he₂, hmessages₂.trans hmessages₁⟩
    rw [← hturns, ← hturn]
    simp [stream, Nat.add_assoc]

theorem length_le_stream (fs : List Frame) : fs.length ≤ (stream fs).length := by
  induction fs with
  | nil => exact Nat.zero_le _
  | cons f fs ih =>
    have hpos := List.length_pos_of_ne_nil (encode_ne_nil f)
    simp only [stream, List.flatMap_cons, List.length_append, List.length_cons] at ih ⊢
    omega

/-- A frame with a length of eight bytes that is masked, or that is full of bytes 0xFF, makes
`processBytes` drop the connection. -/
theorem processBytes_long (maxMessage : UInt32) (memory : WsFrameExtractor) {pre post : List Frame}
    {f : Frame} (hforms : ∀ g ∈ pre, g.form ≠ .sixtyFour) (hfin : ∀ g ∈ pre, g.fin = false)
    (hform : f.form = .sixtyFour)
    (hfull : f.maskKey = none → f.payload = List.replicate f.payload.length 0xFF)
    (hmax : (carried (pre ++ f :: post)).length ≤ maxMessage.toNat) :
    ∃ e, (new maxMessage memory).processBytes (stream (pre ++ f :: post)) = some (none, true, e) := by
  have hfits := f.fits
  rw [hform] at hfits
  obtain ⟨hlow, -⟩ : 0xFFFF < f.payload.length ∧ f.payload.length < 2 ^ 63 := hfits
  obtain ⟨hbits, hmasked⟩ := f.secondByte_bits
  have hlong : f.secondByte &&& 0x7F = 127 := hbits.trans (f.toNat_lengthBits.2.2.2 hform)
  have hcarried : (carried (pre ++ f :: post)).length =
      (carried pre).length + (f.payload.length + (carried post).length) := by simp [carried]
  have hstream : stream (pre ++ f :: post) = stream pre ++ (f.encode ++ stream post) := by
    simp [stream]
  obtain ⟨fuel, hfuel⟩ : ∃ fuel, 2 * (stream (pre ++ f :: post)).length + 1 =
      fuel + 2 + pre.length := by
    have hlen := length_le_stream (pre ++ f :: post)
    rw [List.length_append, List.length_cons] at hlen
    exact ⟨2 * (stream (pre ++ f :: post)).length - 1 - pre.length, by omega⟩
  have hnew : (new maxMessage memory).Between maxMessage.toNat [] :=
    ⟨⟨rfl, rfl, rfl⟩, ⟨rfl, rfl, by simp⟩⟩
  have hmore : f.encode ++ stream post ≠ [] := by simp [encode_ne_nil]
  obtain ⟨e₁, hturns, he₁, -⟩ := unfinished_turns hforms hfin hnew
    (by rw [List.length_nil]; omega) hmore (fuel + 2)
  suffices hdrop : ∃ e, e₁.processLoop (fuel + 2) (f.encode ++ stream post) =
      some (.returned true e) by
    obtain ⟨e, hdrop⟩ := hdrop
    exact ⟨e, by rw [processBytes, hfuel, hstream, hturns, hdrop]; rfl⟩
  cases hkey : f.maskKey with
  | some key =>
    have hinput : f.encode ++ stream post = f.firstByte :: f.secondByte ::
        (f.lengthBytes ++ f.keyBytes ++ f.body ++ stream post) := by
      simp [Frame.encode, Frame.header]
    rw [hinput]
    refine masked_turn he₁.collects hlong (fun h => by simp [hmasked.1 h] at hkey) ?_ (fuel + 1)
    simp only [List.length_append, Frame.length_body]
    omega
  | none =>
    obtain ⟨e₂, c, d, hturn, he₂, -⟩ := unmasked_turn he₁ hform hkey
      (by rw [List.nil_append]; omega) (stream post) (fuel + 1)
    obtain ⟨n, hn⟩ : ∃ n, f.payload.length = n + 1 := ⟨f.payload.length - 1, by omega⟩
    have hpayload : f.payload = 0xFF :: List.replicate n 0xFF := by
      rw [hfull hkey, hn]
      rfl
    rw [hturn, hpayload, List.cons_append]
    refine masked_turn he₂.collects (by decide) (by decide) ?_ fuel
    simp only [List.length_append, List.length_replicate]
    omega

/-! ### The queue of messages only grows -/

theorem collect_kept (e : WsFrameExtractor) (needed : ℕ) (input : Bytes) :
    e.Kept (e.collect needed input).2.1 := by
  induction needed generalizing e input with
  | zero => exact .refl e
  | succ needed ih =>
    cases input with
    | nil => exact .refl e
    | cons c input =>
      have hkept := ih { e with
        mWsHeader := Function.update e.mWsHeader e.mHeaderLen c
        mHeaderLen := e.mHeaderLen + 1 } input
      exact ⟨hkept.maxMessage, hkept.frames, hkept.messages, hkept.messageSize⟩

theorem findHeader_kept (e : WsFrameExtractor) (fuel : ℕ) (input : Bytes) :
    e.Kept (e.findHeader fuel input).extractor := by
  induction fuel generalizing e input with
  | zero => exact .refl e
  | succ fuel ih =>
    have hparse := parseHeader_kept e
    have hcollect := collect_kept e.parseHeader.2 e.parseHeader.1 input
    unfold findHeader
    dsimp only
    split_ifs
    · exact .refl e
    · exact hparse
    · exact hparse.trans hcollect
    · exact (hparse.trans hcollect).trans (ih _ _)

theorem queueFrame_messages (e : WsFrameExtractor) (payload : Bytes) :
    e.mMessages <+: (e.queueFrame payload).mMessages := by
  unfold queueFrame
  dsimp only
  split_ifs
  · rw [joinFrames_eq (by simp)]
    exact List.prefix_append _ _
  · exact List.prefix_rfl

theorem takePayload_messages (e : WsFrameExtractor) (input : Bytes) :
    e.mMessages <+: (e.takePayload input).1.mMessages := by
  unfold takePayload
  dsimp only
  generalize e.mPayload.getD [] ++ _ = payload
  split_ifs
  · exact queueFrame_messages e payload
  · exact List.prefix_rfl

theorem processLoop_messages {e : WsFrameExtractor} {fuel : ℕ} {input : Bytes} {exit : Exit}
    (h : e.processLoop fuel input = some exit) : e.mMessages <+: exit.extractor.mMessages := by
  induction fuel generalizing e input with
  | zero =>
    cases input with
    | nil => cases h; exact List.prefix_rfl
    | cons c input => cases h
  | succ fuel ih =>
    cases input with
    | nil => cases h; exact List.prefix_rfl
    | cons c input =>
      have hkept := findHeader_kept e (input.length + 3) (c :: input)
      rw [processLoop] at h
      generalize e.findHeader (input.length + 3) (c :: input) = r at h hkept
      rcases r with ⟨dropConnection, e'⟩ | ⟨e', input'⟩
      · cases h
        rw [← hkept.messages]
        exact List.prefix_rfl
      · rw [← hkept.messages]
        dsimp only at h
        split_ifs at h
        · cases h
          exact List.prefix_rfl
        · exact (takePayload_messages e' input').trans (ih h)
        · exact ih h

end WsFrameExtractor

/-! ### The frames of `performWrite` -/

theorem ofNat_and (n : ℕ) : UInt8.ofNat (n &&& 0xFF) = UInt8.ofNat n := by
  apply UInt8.toNat_inj.1
  have : n &&& 0xFF = n % 2 ^ 8 := Nat.and_two_pow_sub_one_eq_mod n 8
  simp [this]

/-- The form that `performWrite` writes a length in. -/
def writtenForm (n : ℕ) : LengthForm :=
  if n ≤ 0x7D then .seven else if n ≤ 0xFFFF then .sixteen else .sixtyFour

theorem writtenForm_fits {n : ℕ} (h : n < 2 ^ 63) : (writtenForm n).Fits n := by
  unfold writtenForm
  split_ifs with hseven hsixteen
  · exact hseven
  · exact hsixteen
  · exact ⟨Nat.lt_of_not_le hsixteen, h⟩

/-- The frame that `performWrite` puts a message in. -/
def written (data : Bytes) (h : data.length < 2 ^ 63) : Frame :=
  ⟨true, 2, none, writtenForm data.length, data, writtenForm_fits h⟩

theorem encode_written (data : Bytes) (h : data.length < 2 ^ 63) :
    (written data h).encode = Stream.wsFrame data := by
  have hfirst : (written data h).firstByte = 0x82 := by
    simp only [Frame.firstByte, written, if_true]
    decide
  have hsecond : (written data h).secondByte = (written data h).lengthBits := by
    simp [Frame.secondByte, written]
  unfold Frame.encode Frame.header
  rw [hfirst, hsecond]
  unfold Frame.lengthBits Frame.lengthBytes Frame.keyBytes Frame.body Stream.wsFrame
  simp only [written, writtenForm, ofNat_and]
  split_ifs <;> rfl

/-! ### The round trip -/

/-- Frames alike but for the bytes of their payloads. -/
structure Frame.SameShape (f g : Frame) : Prop where
  fin : g.fin = f.fin
  opcode : g.opcode = f.opcode
  maskKey : g.maskKey = f.maskKey
  form : g.form = f.form
  length : g.payload.length = f.payload.length

theorem Frame.SameShape.refl (f : Frame) : f.SameShape f := ⟨rfl, rfl, rfl, rfl, rfl⟩

/-- The frame with every byte of its payload 0xFF. -/
def Frame.full (f : Frame) : Frame :=
  { f with
    payload := List.replicate f.payload.length 0xFF
    fits := by simpa using f.fits }

theorem Frame.sameShape_full (f : Frame) : f.SameShape f.full :=
  ⟨rfl, rfl, rfl, rfl, by simp [Frame.full]⟩

theorem length_carried_of_sameShape {fs gs : List Frame}
    (h : List.Forall₂ Frame.SameShape fs gs) : (carried gs).length = (carried fs).length := by
  induction h with
  | nil => rfl
  | cons hhead _ ih =>
    simp only [carried, List.flatMap_cons, List.length_append] at ih ⊢
    rw [ih, hhead.length]

theorem form_of_sameShape {fs gs : List Frame} (h : List.Forall₂ Frame.SameShape fs gs)
    {g : Frame} (hg : g ∈ gs) : ∃ f ∈ fs, f.SameShape g := by
  induction h with
  | nil => cases hg
  | cons hhead _ ih =>
    rcases List.mem_cons.1 hg with rfl | hg
    · exact ⟨_, List.mem_cons_self, hhead⟩
    · obtain ⟨f, hf, hsame⟩ := ih hg
      exact ⟨f, List.mem_cons_of_mem _ hf, hsame⟩

/-- The frames of a message of a given shape. -/
theorem message_of_sameShape {init gs : List Frame} {last : Frame}
    (h : List.Forall₂ Frame.SameShape (init ++ [last]) gs) :
    ∃ init' last', gs = init' ++ [last'] ∧ List.Forall₂ Frame.SameShape init init' ∧
      last.SameShape last' := by
  induction init generalizing gs with
  | nil =>
    cases h with
    | cons hhead htail =>
      cases htail
      exact ⟨[], _, rfl, .nil, hhead⟩
  | cons f init ih =>
    cases h with
    | @cons _ g _ gs hhead htail =>
      obtain ⟨init', last', rfl, hinit, hlast⟩ := ih htail
      exact ⟨g :: init', last', rfl, .cons hhead hinit, hlast⟩

/-- The first frame with a length of eight bytes. -/
theorem exists_first_long {init : List Frame} {last f : Frame} (hf : f ∈ init ++ [last])
    (hlong : f.form = .sixtyFour) :
    ∃ pre f post, init ++ [last] = pre ++ f :: post ∧ f.form = .sixtyFour ∧
      (∀ g ∈ pre, g.form ≠ .sixtyFour) ∧ ∀ g ∈ pre, g ∈ init := by
  have hsome : ((init ++ [last]).find? fun g => g.form = .sixtyFour).isSome := by
    rw [List.find?_isSome]
    exact ⟨f, hf, by simpa using hlong⟩
  obtain ⟨f', hfind⟩ := Option.isSome_iff_exists.1 hsome
  obtain ⟨hform, pre, post, hsplit, hpre⟩ := List.find?_eq_some_iff_append.1 hfind
  have hlen : pre.length ≤ init.length := by
    have := congrArg List.length hsplit
    simp only [List.length_append, List.length_cons, List.length_nil] at this
    omega
  obtain ⟨t, rfl⟩ := List.prefix_of_prefix_length_le (hsplit ▸ List.prefix_append pre (f' :: post))
    (List.prefix_append init [last]) hlen
  refine ⟨pre, f', post, hsplit, by simpa using hform, fun g hg => by simpa using hpre g hg, ?_⟩
  exact fun g hg => List.mem_append_left t hg

namespace WsFrameExtractor
variable (maxMessage : UInt32) (memory : WsFrameExtractor)

/-- Messages of frames whose lengths are given: all of them come out if and only if there is no
length of eight bytes and the last frame is not empty. -/
theorem roundTrips_shape {init : List Frame} {last : Frame} (hfin : ∀ f ∈ init, f.fin = false)
    (hlast : last.fin = true)
    (hmax : (carried (init ++ [last])).length ≤ maxMessage.toNat) :
    (∀ gs, List.Forall₂ Frame.SameShape (init ++ [last]) gs → RoundTrips maxMessage memory gs) ↔
      (∀ f ∈ init ++ [last], f.form ≠ .sixtyFour) ∧ last.payload ≠ [] := by
  constructor
  · intro h
    have hforms : ∀ f ∈ init ++ [last], f.form ≠ .sixtyFour := by
      intro f hf hlong
      obtain ⟨pre, f', post, hsplit, hform, hpre, hmem⟩ := exists_first_long hf hlong
      have hrefl : ∀ fs, List.Forall₂ Frame.SameShape fs fs :=
        fun fs => List.forall₂_same.2 fun g _ => .refl g
      have hshape : List.Forall₂ Frame.SameShape (init ++ [last]) (pre ++ f'.full :: post) := by
        rw [hsplit]
        exact List.rel_append (hrefl pre) (.cons f'.sameShape_full (hrefl post))
      have hform' : f'.full.form = .sixtyFour := hform
      have hfull : f'.full.payload = List.replicate f'.full.payload.length 0xFF := by
        rw [f'.sameShape_full.length]
        rfl
      obtain ⟨e, he⟩ := h _ hshape
      obtain ⟨e', he'⟩ := processBytes_long maxMessage memory hpre (fun g hg => hfin g (hmem g hg))
        hform' (fun _ => hfull) (by rw [length_carried_of_sameShape hshape]; exact hmax)
      rw [he] at he'
      cases he'
    refine ⟨hforms, fun hnil => ?_⟩
    obtain ⟨e, he⟩ := h _ (List.forall₂_same.2 fun g _ => .refl g)
    obtain ⟨e', he'⟩ := processBytes_message maxMessage memory hforms hfin hlast hmax
    rw [he, if_pos hnil] at he'
    cases he'
  · rintro ⟨hforms, hnil⟩ gs hgs
    have hmax' : (carried gs).length ≤ maxMessage.toNat := by
      rw [length_carried_of_sameShape hgs]
      exact hmax
    have hforms' : ∀ g ∈ gs, g.form ≠ .sixtyFour := by
      intro g hg
      obtain ⟨f, hf, hsame⟩ := form_of_sameShape hgs hg
      rw [hsame.form]
      exact hforms f hf
    obtain ⟨init', last', rfl, hinit, hsame⟩ := message_of_sameShape hgs
    have hfin' : ∀ g ∈ init', g.fin = false := by
      intro g hg
      obtain ⟨f, hf, hsame⟩ := form_of_sameShape hinit hg
      rw [hsame.fin]
      exact hfin f hf
    have hnil' : last'.payload ≠ [] := by
      rw [← List.length_pos_iff, hsame.length, List.length_pos_iff]
      exact hnil
    obtain ⟨e, he⟩ :=
      processBytes_message maxMessage memory hforms' hfin' (hsame.fin.trans hlast) hmax'
    rw [if_neg hnil'] at he
    exact ⟨e, he⟩

/-- The frame that `performWrite` builds: its message comes out if and only if its length is
written in at most two bytes and it is not empty. -/
theorem roundTrips_written (data : Bytes) (hmax : data.length ≤ maxMessage.toNat) :
    (∃ e, (new maxMessage memory).processBytes (Stream.wsFrame data) = some (some data, false, e)) ↔
      0 < data.length ∧ data.length ≤ 0xFFFF := by
  have hlt : data.length < 2 ^ 63 := by
    have := maxMessage.toNat_lt
    omega
  have hstream : stream ([] ++ [written data hlt]) = Stream.wsFrame data := by
    simp [stream, encode_written]
  by_cases hlong : data.length ≤ 0xFFFF
  · have hforms : ∀ f ∈ [] ++ [written data hlt], f.form ≠ .sixtyFour := by
      simp only [List.nil_append, List.mem_singleton, forall_eq, written, writtenForm, hlong]
      split_ifs <;> simp
    obtain ⟨e, he⟩ := processBytes_message maxMessage memory hforms (by simp) rfl
      (by simpa [carried, written] using hmax)
    rw [hstream] at he
    have hcarried : carried ([] ++ [written data hlt]) = data := by simp [carried, written]
    rw [he, hcarried, List.length_pos_iff]
    by_cases hnil : data = []
    · simp [written, hnil]
    · simp [written, hnil, hlong]
  · have hform : (written data hlt).form = .sixtyFour := by
      simp only [written, writtenForm]
      rw [if_neg (by omega), if_neg hlong]
    have hnew : (new maxMessage memory).Between maxMessage.toNat [] :=
      ⟨⟨rfl, rfl, rfl⟩, ⟨rfl, rfl, by simp⟩⟩
    obtain ⟨e', c, d, hturn, -, hmessages⟩ := unmasked_turn hnew hform rfl
      (by rw [List.length_nil]; omega) [] (2 * (Stream.wsFrame data).length)
    rw [List.append_nil, encode_written] at hturn
    refine iff_of_false ?_ (by omega)
    rintro ⟨e, he⟩
    rw [processBytes, hturn, Option.map_eq_some_iff] at he
    obtain ⟨exit, hloop, hexit⟩ := he
    have hfront := processLoop_messages hloop
    rw [hmessages] at hfront
    cases exit with
    | returned dropConnection e'' => simp at hexit
    | finished e'' =>
      have hhead : e''.mMessages.head? = some data := congrArg Prod.fst hexit
      obtain ⟨t, ht⟩ := hfront
      have hone : [c] = data := by
        rw [Exit.extractor] at ht
        rw [← ht] at hhead
        simpa [new, Reader.finish, written] using hhead
      have hlen := congrArg List.length hone
      rw [List.length_singleton] at hlen
      omega

/-- Which messages come out as they were sent, in frames of any kind and in those of
`performWrite`. -/
theorem roundTrips_iff :
    (∀ fs, IsMessage fs → (carried fs).length ≤ maxMessage.toNat →
      ((∀ gs, List.Forall₂ Frame.SameShape fs gs → RoundTrips maxMessage memory gs) ↔
        (∀ f ∈ fs, f.form ≠ .sixtyFour) ∧ ∀ f ∈ fs, f.fin = true → f.payload ≠ [])) ∧
    (∀ data : Bytes, data.length ≤ maxMessage.toNat →
      ((∃ e, (new maxMessage memory).processBytes (Stream.wsFrame data) =
          some (some data, false, e)) ↔ 0 < data.length ∧ data.length ≤ 0xFFFF)) := by
  constructor
  · rintro _ ⟨init, last, rfl, hfin, hlast⟩ hmax
    rw [roundTrips_shape maxMessage memory hfin hlast hmax]
    refine and_congr_right fun _ => ⟨fun hnil f hf hf' => ?_, fun h => h last (by simp) hlast⟩
    rcases List.mem_append.1 hf with hf | hf
    · rw [hfin f hf] at hf'
      cases hf'
    · rwa [List.mem_singleton.1 hf]
  · exact fun data hmax => roundTrips_written maxMessage memory data hmax

/-- A message in two frames, the last of them with a key. -/
theorem roundTrips_iff_two :
    RoundTrips 2 blank [⟨false, 1, none, .seven, [104], by decide⟩,
      ⟨true, 0, some fun _ => 7, .sixteen, [105], by decide⟩] :=
  (((roundTrips_iff 2 blank).1 _ ⟨[_], _, rfl, by simp, rfl⟩ (by decide)).2 (by simp)) _
    (List.forall₂_same.2 fun f _ => .refl f)

/-- A message whose last frame is empty, and one that takes a length of eight bytes. -/
theorem not_roundTrips :
    ¬ RoundTrips 65536 blank [⟨false, 1, none, .seven, [104, 105], by decide⟩,
      ⟨true, 0, none, .seven, [], by decide⟩] ∧
    ¬ ∃ e, (new 65536 blank).processBytes (Stream.wsFrame (List.replicate 65536 104)) =
      some (some (List.replicate 65536 104), false, e) := by
  constructor
  · rintro ⟨e, he⟩
    have hnone : ((new 65536 blank).processBytes [1, 2, 104, 105, 128, 0]).map Prod.fst =
      some none := by decide
    have hstream : stream [⟨false, 1, none, .seven, [104, 105], by decide⟩,
      ⟨true, 0, none, .seven, [], by decide⟩] = [1, 2, 104, 105, 128, 0] := by decide
    rw [hstream] at he
    rw [he] at hnone
    cases hnone
  · have hlen : (List.replicate 65536 (104 : UInt8)).length = 65536 := List.length_replicate ..
    rw [roundTrips_written 65536 blank _ (by rw [hlen]; decide), hlen]
    decide

end WsFrameExtractor

end Resiprocate.WebSocket
