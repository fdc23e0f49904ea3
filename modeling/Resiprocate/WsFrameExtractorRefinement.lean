import Resiprocate.WsFrames

/-! `processBytes` refines the reader of frames. A header is only parsed when the byte after it
is there, so the extractor may be one empty frame behind. -/
namespace Resiprocate.WebSocket
open Scanner StreamMachine

namespace WsFrameExtractor

/-! ### Headers -/

/-- The messages and frames of two extractors are the same. -/
structure Kept (e e' : WsFrameExtractor) : Prop where
  maxMessage : e'.mMaxMessage = e.mMaxMessage
  frames : e'.mFrames = e.mFrames
  messages : e'.mMessages = e.mMessages
  messageSize : e'.mMessageSize = e.mMessageSize

theorem Kept.refl (e : WsFrameExtractor) : e.Kept e := ⟨rfl, rfl, rfl, rfl⟩

theorem Kept.trans {e e' e'' : WsFrameExtractor} (h : e.Kept e') (h' : e'.Kept e'') : e.Kept e'' :=
  ⟨h'.maxMessage.trans h.maxMessage, h'.frames.trans h.frames, h'.messages.trans h.messages,
    h'.messageSize.trans h.messageSize⟩

/-- The bytes of a header have been collected, and it is not parsed yet. -/
structure Collects (e : WsFrameExtractor) (h : Bytes) : Prop where
  haveHeader : e.mHaveHeader = false
  headerLen : e.mHeaderLen = h.length
  bytes : ∀ i < h.length, e.mWsHeader i = h.getD i 0

/-- A header has been parsed and some of its payload is there. -/
structure Takes (e : WsFrameExtractor) (hd : FrameHeader) (got : Bytes) : Prop where
  haveHeader : e.mHaveHeader = true
  finalFrame : e.mFinalFrame = hd.fin
  masked : e.mMasked = hd.key.isSome
  maskKey : ∀ key, hd.key = some key → e.mWsMaskKey = key
  payloadLength : e.mPayloadLength = hd.length
  payload : e.mPayload.getD [] = got

theorem parseMaskKey_kept (e : WsFrameExtractor) (hdrPos : ℕ) : e.Kept (e.parseMaskKey hdrPos).2 := by
  unfold parseMaskKey
  split_ifs <;> exact ⟨rfl, rfl, rfl, rfl⟩

theorem parseHeader_kept (e : WsFrameExtractor) : e.Kept e.parseHeader.2 := by
  have hflags : ∀ n, e.Kept { e.parseFlags with mPayloadLength := n } := fun _ => ⟨rfl, rfl, rfl, rfl⟩
  unfold parseHeader
  dsimp only
  split_ifs
  · exact .refl e
  · exact hflags _
  · exact (hflags _).trans (parseMaskKey_kept _ _)
  · exact hflags _
  · exact (hflags _).trans (parseMaskKey_kept _ _)
  · exact (hflags _).trans (parseMaskKey_kept _ _)

theorem parseMaskKey_headerLen (e : WsFrameExtractor) (hdrPos : ℕ) :
    (e.parseMaskKey hdrPos).2.mHeaderLen = e.mHeaderLen := by
  unfold parseMaskKey
  split_ifs <;> rfl

theorem parseHeader_headerLen (e : WsFrameExtractor) :
    e.parseHeader.2.mHeaderLen = e.mHeaderLen := by
  unfold parseHeader
  dsimp only
  split_ifs
  · rfl
  · rfl
  · exact parseMaskKey_headerLen _ _
  · rfl
  · exact parseMaskKey_headerLen _ _
  · exact parseMaskKey_headerLen _ _

section Parse
variable {e : WsFrameExtractor} {h : Bytes} (he : e.Collects h)
include he

theorem Collects.of_same {e' : WsFrameExtractor} (hhave : e'.mHaveHeader = false)
    (hlen : e'.mHeaderLen = e.mHeaderLen) (hbytes : e'.mWsHeader = e.mWsHeader) : e'.Collects h :=
  ⟨hhave, hlen.trans he.headerLen, by rw [hbytes]; exact he.bytes⟩

/-- The mask key is there, or the bytes of it that are not yet there are asked for. -/
theorem parseMaskKey_spec (hdrPos : ℕ) (hpos : hdrPos ≤ h.length) :
    ((e.parseMaskKey hdrPos).1 = hdrPos + (if e.mMasked then 4 else 0) - h.length) ∧
    (h.length < hdrPos + (if e.mMasked then 4 else 0) → (e.parseMaskKey hdrPos).2.Collects h) ∧
    (hdrPos + (if e.mMasked then 4 else 0) ≤ h.length →
      (e.parseMaskKey hdrPos).2.Takes
        ⟨e.mFinalFrame, if e.mMasked then some fun i => h.getD (hdrPos + i) 0 else none,
          e.mPayloadLength⟩ []) := by
  have hlen := he.headerLen
  unfold parseMaskKey
  cases hmasked : e.mMasked with
  | false =>
    refine ⟨by simp; omega, by simp; omega, fun _ => ?_⟩
    exact ⟨rfl, rfl, rfl, by simp, rfl, rfl⟩
  | true =>
    by_cases hlack : e.mHeaderLen - hdrPos < 4
    · simp only [hlen, hpos, true_and, if_true]
      rw [hlen] at hlack
      simp only [hlack, if_true, true_and]
      exact ⟨fun _ => he, fun h => by omega⟩
    · rw [hlen] at hlack
      simp only [hlen, hpos, hlack, true_and, if_true, if_false]
      refine ⟨by omega, by omega, fun _ => ⟨rfl, rfl, rfl, ?_, rfl, rfl⟩⟩
      rintro key ⟨⟩
      funext i
      exact he.bytes _ (by omega)

end Parse

/-- A header that lacks bytes is parsed to how many it lacks; a complete one to what it says. -/
theorem parseHeader_spec {e : WsFrameExtractor} {h : Bytes} (he : e.Collects h)
    (hlong : longLength h = false) :
    e.parseHeader.1 = headerNeeds h ∧
    (headerNeeds h ≠ 0 → e.parseHeader.2.Collects h) ∧
    (headerNeeds h = 0 → e.parseHeader.2.Takes (frameHeader h) []) := by
  have hlen := he.headerLen
  match h with
  | [] | [_] =>
    simp only [List.length_cons, List.length_nil] at hlen
    simp only [parseHeader, hlen]
    exact ⟨rfl, fun _ => he, by simp [headerNeeds]⟩
  | b₀ :: b₁ :: rest =>
    have h₀ : e.mWsHeader 0 = b₀ := he.bytes 0 (by simp)
    have h₁ : e.mWsHeader 1 = b₁ := he.bytes 1 (by simp)
    simp only [List.length_cons] at hlen
    have hnot : ¬ e.mHeaderLen < 2 := by omega
    have hflags : e.parseFlags.Collects (b₀ :: b₁ :: rest) := he.of_same he.haveHeader rfl rfl
    simp only [longLength, decide_eq_false_iff_not] at hlong
    have hlen' : e.parseFlags.mHeaderLen = rest.length + 2 := hlen
    have hlength : e.parseFlags.mPayloadLength = (b₁ &&& 0x7F).toNat := by rw [← h₁]; rfl
    have hmasked : e.parseFlags.mMasked = (b₁ >>> 7 != 0) := by rw [← h₁]; rfl
    have hfin : e.parseFlags.mFinalFrame = (b₀ >>> 7 != 0) := by rw [← h₀]; rfl
    have hnarrow : ∀ n : UInt8, b₁ &&& 0x7F ≠ n → (b₁ &&& 0x7F).toNat ≠ n.toNat :=
      fun n h h' => h (UInt8.toNat_inj.1 h')
    have hkey : (if e.parseFlags.mMasked = true then 4 else 0) = if b₁ >>> 7 = 0 then 0 else 4 := by
      by_cases hm : b₁ >>> 7 = 0 <;> simp [hmasked, hm]
    simp only [parseHeader, hnot, if_false]
    by_cases hwide : b₁ &&& 0x7F = 126
    · rw [if_pos (by rw [hlength, hwide]; rfl)]
      simp only [headerNeeds, hwide, if_true]
      by_cases hshort : e.parseFlags.mHeaderLen < 4
      · rw [if_pos hshort]
        rw [hlen'] at hshort
        refine ⟨?_, fun _ => hflags, fun h => by omega⟩
        simp only [tooShort, hkey, hlen']
        omega
      · rw [if_neg hshort]
        rw [hlen'] at hshort
        have h₂ : e.mWsHeader 2 = (b₀ :: b₁ :: rest).getD 2 0 := he.bytes 2 (by simp; omega)
        have h₃ : e.mWsHeader 3 = (b₀ :: b₁ :: rest).getD 3 0 := he.bytes 3 (by simp; omega)
        obtain ⟨hneeds, hlacks, htakes⟩ := parseMaskKey_spec (e := { e.parseFlags with
          mPayloadLength := (e.mWsHeader 2).toNat <<< 8 ||| (e.mWsHeader 3).toNat })
          (he.of_same he.haveHeader rfl rfl) 4 (by simp; omega)
        simp only [hkey, List.length_cons] at hneeds hlacks htakes
        refine ⟨hneeds.trans (by omega), fun h => hlacks (by omega), fun h => ?_⟩
        have hheader : frameHeader (b₀ :: b₁ :: rest) = ⟨e.parseFlags.mFinalFrame,
            if e.parseFlags.mMasked = true then some fun i => (b₀ :: b₁ :: rest).getD (4 + i) 0
              else none, (e.mWsHeader 2).toNat <<< 8 ||| (e.mWsHeader 3).toNat⟩ := by
          simp only [frameHeader, hfin, hmasked, h₂, h₃]
          by_cases hm : b₁ >>> 7 = 0 <;> simp [hm, hwide]
        rw [hheader]
        exact htakes (by omega)
    · rw [if_neg (by rw [hlength]; exact hnarrow 126 hwide),
        if_neg (by rw [hlength]; exact hnarrow 127 hlong)]
      obtain ⟨hneeds, hlacks, htakes⟩ := parseMaskKey_spec hflags 2 (by simp)
      simp only [hkey, List.length_cons] at hneeds hlacks htakes
      simp only [headerNeeds, hwide, if_false]
      refine ⟨hneeds.trans (by omega), fun h => hlacks (by omega), fun h => ?_⟩
      convert htakes (by omega) using 1
      simp only [frameHeader, hfin, hmasked, hlength]
      by_cases hm : b₁ >>> 7 = 0 <;> simp [hm, hwide]

/-- Bytes are moved to the header until there are enough, or there are no more. -/
theorem collect_spec {e : WsFrameExtractor} {h : Bytes} (he : e.Collects h) (needed : ℕ)
    (input : Bytes) :
    ∃ e', e.collect needed input = (needed - input.length, e', input.drop needed) ∧
      e'.Collects (h ++ input.take needed) ∧ e.Kept e' := by
  induction needed generalizing e h input with
  | zero => exact ⟨e, by simp [collect], by simpa using he, .refl e⟩
  | succ needed ih =>
    cases input with
    | nil => exact ⟨e, by simp [collect], by simpa using he, .refl e⟩
    | cons c input =>
      have hnext : ({ e with
          mWsHeader := Function.update e.mWsHeader e.mHeaderLen c
          mHeaderLen := e.mHeaderLen + 1 } : WsFrameExtractor).Collects (h ++ [c]) := by
        refine ⟨he.haveHeader, by simp [he.headerLen], fun i hi => ?_⟩
        simp only [List.length_append, List.length_singleton] at hi
        by_cases hlast : i = h.length
        · simp [hlast, he.headerLen]
        · have hlt : i < h.length := by omega
          simp only [he.headerLen, Function.update_of_ne hlast, he.bytes i hlt]
          simp [List.getElem?_append_left hlt]
      obtain ⟨e', hcollect, hcollects, hkept⟩ := ih hnext input
      refine ⟨e', ?_, ?_, ⟨hkept.1, hkept.2, hkept.3, hkept.4⟩⟩
      · simp [collect, hcollect]
      · simpa using hcollects

/-- Headers with a length of at most two bytes. -/
theorem length_of_headerNeeds {h : Bytes} (hneeds : headerNeeds h ≠ 0) : h.length + headerNeeds h ≤ 8 := by
  match h with
  | [] | [_] => simp [headerNeeds]
  | _ :: b :: rest =>
    simp only [headerNeeds, List.length_cons] at hneeds ⊢
    split_ifs at hneeds ⊢ <;> omega

/-- A turn of the search that collects bytes. -/
theorem findHeader_collect {e : WsFrameExtractor} {h input : Bytes} (he : e.Collects h)
    (hcollects : e.parseHeader.2.Collects h) (hlen : h.length < maxHeaderLen) (hinput : input ≠ [])
    (fuel : ℕ) :
    ∃ e', e.Kept e' ∧ e'.Collects (h ++ input.take e.parseHeader.1) ∧
      e.findHeader (fuel + 1) input =
        if input.length < e.parseHeader.1 then .returned false e'
        else e'.findHeader fuel (input.drop e.parseHeader.1) := by
  obtain ⟨e', hcollect, hcollects', hkept⟩ := collect_spec hcollects e.parseHeader.1 input
  refine ⟨e', (parseHeader_kept e).trans hkept, hcollects', ?_⟩
  have hshort : ¬ maxHeaderLen ≤ e.parseHeader.2.mHeaderLen := by
    rw [hcollects.headerLen]
    omega
  have hcond : (0 < e.parseHeader.1 - input.length) = (input.length < e.parseHeader.1) := by
    rw [Nat.sub_pos_iff_lt]
  simp only [findHeader, he.haveHeader, hinput, or_self, Bool.false_eq_true, if_false, hshort,
    hcollect, hcond]

/-- One turn of the search for a header that lacks bytes. -/
theorem findHeader_lacking {e : WsFrameExtractor} {h input : Bytes} (he : e.Collects h)
    (hlong : longLength h = false) (hneeds : headerNeeds h ≠ 0) (hinput : input ≠ []) (fuel : ℕ) :
    ∃ e', e.Kept e' ∧ e'.Collects (h ++ input.take (headerNeeds h)) ∧
      e.findHeader (fuel + 1) input =
        if input.length < headerNeeds h then .returned false e'
        else e'.findHeader fuel (input.drop (headerNeeds h)) := by
  obtain ⟨hparse, hcollects, -⟩ := parseHeader_spec he hlong
  have hlen : h.length < maxHeaderLen := by
    have := length_of_headerNeeds hneeds
    rw [maxHeaderLen]
    omega
  rw [← hparse]
  exact findHeader_collect he (hcollects hneeds) hlen hinput fuel

theorem findHeader_over {e : WsFrameExtractor} {input : Bytes}
    (h : e.mHaveHeader = true ∨ input = []) (fuel : ℕ) : e.findHeader fuel input = .over e input := by
  cases fuel with
  | zero => rfl
  | succ fuel => simp only [findHeader, h, if_true]

/-- The search is over when a header has been parsed. -/
theorem findHeader_parsed {e : WsFrameExtractor} {h input : Bytes} {hd : FrameHeader}
    (he : e.Collects h) (hneeds : e.parseHeader.1 = 0) (htakes : e.parseHeader.2.Takes hd [])
    (hlen : h.length < maxHeaderLen) (hinput : input ≠ []) (fuel : ℕ) :
    e.findHeader (fuel + 1) input = .over e.parseHeader.2 input := by
  have hshort : ¬ maxHeaderLen ≤ e.parseHeader.2.mHeaderLen := by
    rw [parseHeader_headerLen, he.headerLen]
    omega
  simp only [findHeader, he.haveHeader, hinput, or_self, Bool.false_eq_true, if_false, hshort,
    hneeds, collect, lt_irrefl]
  exact findHeader_over (.inl htakes.haveHeader) fuel

theorem findHeader_complete {e : WsFrameExtractor} {h input : Bytes} (he : e.Collects h)
    (hlong : longLength h = false) (hneeds : headerNeeds h = 0) (hlen : h.length ≤ 8)
    (hinput : input ≠ []) (fuel : ℕ) :
    ∃ e', e.Kept e' ∧ e'.Takes (frameHeader h) [] ∧ e.findHeader (fuel + 1) input = .over e' input := by
  obtain ⟨hparse, -, htakes⟩ := parseHeader_spec he hlong
  refine ⟨e.parseHeader.2, parseHeader_kept e, htakes hneeds, ?_⟩
  exact findHeader_parsed he (hparse.trans hneeds) (htakes hneeds)
    (lt_of_le_of_lt hlen (by decide)) hinput fuel

/-- How the search for a header of which `h` has been collected ends on `input`. -/
inductive Found (e : WsFrameExtractor) (h input : Bytes) : HeaderSearch → Prop
  | lacking {e' : WsFrameExtractor} (hkept : e.Kept e') (he' : e'.Collects (h ++ input))
      (hlacks : Lacks h input) (hneeds : headerNeeds (h ++ input) ≠ 0)
      (hlen : (h ++ input).length ≠ 2) : Found e h input (.returned false e')
  | used {e' : WsFrameExtractor} (hkept : e.Kept e') (he' : e'.Collects (h ++ input))
      (hlacks : Lacks h input) (hneeds : headerNeeds (h ++ input) = 0 ∨ (h ++ input).length = 2)
      (hlen : (h ++ input).length ≤ 8) : Found e h input (.over e' [])
  | parsed {e' : WsFrameExtractor} {p rest : Bytes} (hkept : e.Kept e') (hsplit : input = p ++ rest)
      (hp : p ≠ []) (hrest : rest ≠ []) (hlacks : Lacks h p) (hneeds : headerNeeds (h ++ p) = 0)
      (he' : e'.Takes (frameHeader (h ++ p)) []) : Found e h input (.over e' rest)

/-- The search from where its first turn has brought it. -/
theorem Found.of_turn {e e' : WsFrameExtractor} {h p rest : Bytes} {r : HeaderSearch}
    (hkept : e.Kept e') (hp : p ≠ []) (hlacks : Lacks h p) (hfound : e'.Found (h ++ p) rest r) :
    e.Found h (p ++ rest) r := by
  cases hfound with
  | lacking hkept' he' hlacks' hneeds hlen =>
    rw [List.append_assoc] at he' hneeds hlen
    exact .lacking (hkept.trans hkept') he' (hlacks.append hlacks') hneeds hlen
  | used hkept' he' hlacks' hneeds hlen =>
    rw [List.append_assoc] at he' hneeds hlen
    exact .used (hkept.trans hkept') he' (hlacks.append hlacks') hneeds hlen
  | @parsed e'' p' rest' hkept' hsplit hp' hrest hlacks' hneeds he' =>
    rw [List.append_assoc] at he' hneeds
    exact .parsed (hkept.trans hkept') (by rw [hsplit, List.append_assoc]) (by simp [hp]) hrest
      (hlacks.append hlacks') hneeds he'

/-- The search is over once the header is complete. -/
theorem found_complete {e e' : WsFrameExtractor} {h p : Bytes} (rest : Bytes) (fuel : ℕ)
    (hkept : e.Kept e') (he' : e'.Collects (h ++ p)) (hp : p ≠ []) (hlacks : Lacks h p)
    (hneeds : headerNeeds (h ++ p) = 0) (hlen : (h ++ p).length ≤ 8)
    (hlong : longLength (h ++ p) = false) :
    e.Found h (p ++ rest) (e'.findHeader (fuel + 1) rest) := by
  by_cases hrest : rest = []
  · rw [hrest, findHeader_over (.inr rfl), List.append_nil]
    exact .used hkept he' hlacks (.inl hneeds) hlen
  · obtain ⟨e'', hkept', htakes, hfind⟩ := findHeader_complete he' hlong hneeds hlen hrest fuel
    rw [hfind]
    exact .parsed (hkept.trans hkept') rfl hp hrest hlacks hneeds htakes

/-- Once the first two bytes are there, it is known how many are lacking. -/
theorem findHeader_two {e : WsFrameExtractor} {h input : Bytes} (he : e.Collects h)
    (hlong : longLength (h ++ input) = false) (hneeds : headerNeeds h ≠ 0) (hinput : input ≠ [])
    (htwo : 2 ≤ h.length) (fuel : ℕ) : e.Found h input (e.findHeader (fuel + 2) input) := by
  have hlen := length_of_headerNeeds hneeds
  obtain ⟨e', hkept, he', hfind⟩ :=
    findHeader_lacking he (longLength_of_append hlong) hneeds hinput (fuel + 1)
  rw [hfind]
  by_cases hshort : input.length < headerNeeds h
  · rw [if_pos hshort]
    rw [List.take_of_length_le hshort.le] at he'
    have hpos := List.length_pos_of_ne_nil hinput
    refine .lacking hkept he' (lacks_of_length hshort.le) ?_ ?_
    · rw [headerNeeds_append hshort]
      omega
    · rw [List.length_append]
      omega
  · rw [if_neg hshort]
    have htake : (input.take (headerNeeds h)).length = headerNeeds h := by
      rw [List.length_take]
      omega
    have hne : input.take (headerNeeds h) ≠ [] := by
      intro hnil
      rw [hnil] at htake
      exact hneeds htake.symm
    have hsplit := List.take_append_drop (headerNeeds h) input
    have hlong' : longLength (h ++ input.take (headerNeeds h)) = false := by
      rw [← hsplit, ← List.append_assoc] at hlong
      exact longLength_of_append hlong
    have hfound := found_complete (input.drop (headerNeeds h)) fuel hkept he' hne
      (lacks_of_length htake.le) (by rw [headerNeeds_append_of_two htwo]; omega)
      (by rw [List.length_append]; omega) hlong'
    rwa [hsplit] at hfound

theorem findHeader_spec {e : WsFrameExtractor} {h input : Bytes} (he : e.Collects h)
    (hlong : longLength (h ++ input) = false) (hneeds : headerNeeds h ≠ 0) (hinput : input ≠ [])
    (fuel : ℕ) : e.Found h input (e.findHeader (fuel + 3) input) := by
  by_cases htwo : 2 ≤ h.length
  · exact findHeader_two he hlong hneeds hinput htwo (fuel + 1)
  · obtain ⟨e', hkept, he', hfind⟩ :=
      findHeader_lacking he (longLength_of_append hlong) hneeds hinput (fuel + 2)
    have hlack := headerNeeds_of_short (Nat.lt_of_not_le htwo)
    have hpos := List.length_pos_of_ne_nil hinput
    rw [hfind]
    by_cases hshort : input.length < headerNeeds h
    · rw [if_pos hshort]
      rw [List.take_of_length_le hshort.le] at he'
      refine .lacking hkept he' (lacks_of_length hshort.le) ?_ ?_
      · rw [headerNeeds_append hshort]
        omega
      · rw [List.length_append]
        omega
    · rw [if_neg hshort]
      have htake : (input.take (headerNeeds h)).length = headerNeeds h := by
        rw [List.length_take]
        omega
      have hne : input.take (headerNeeds h) ≠ [] := by
        intro hnil
        rw [hnil] at htake
        exact hneeds htake.symm
      have hlen : (h ++ input.take (headerNeeds h)).length = 2 := by
        rw [List.length_append]
        omega
      have hlacks : Lacks h (input.take (headerNeeds h)) := lacks_of_length htake.le
      have hsplit := List.take_append_drop (headerNeeds h) input
      rw [← hsplit] at hlong
      generalize input.take (headerNeeds h) = p at *
      generalize input.drop (headerNeeds h) = rest at *
      rw [← hsplit]
      rw [← List.append_assoc] at hlong
      by_cases hdone : headerNeeds (h ++ p) = 0
      · exact found_complete rest (fuel + 1) hkept he' hne hlacks hdone (by omega)
          (longLength_of_append hlong)
      · by_cases hrest : rest = []
        · rw [hrest, findHeader_over (.inr rfl), List.append_nil]
          exact .used hkept he' hlacks (.inr hlen) (by omega)
        · exact .of_turn hkept hne hlacks
            (findHeader_two he' hlong hdone hrest hlen.ge fuel)

/-! ### Payloads -/

/-- The frames of the message under way, and the limit on its size. -/
structure Base (e : WsFrameExtractor) (max : ℕ) (frames : Bytes) : Prop where
  maxMessage : e.mMaxMessage.toNat = max
  joined : e.mFrames.flatten = frames
  messageSize : e.mMessageSize = frames.length

theorem Base.kept {e e' : WsFrameExtractor} {max : ℕ} {frames : Bytes} (h : e.Base max frames)
    (hkept : e.Kept e') : e'.Base max frames :=
  ⟨by rw [hkept.maxMessage, h.maxMessage], by rw [hkept.frames, h.joined],
    by rw [hkept.messageSize, h.messageSize]⟩

theorem Base.lt {e : WsFrameExtractor} {max : ℕ} {frames : Bytes} (h : e.Base max frames) :
    max < 2 ^ 32 := by
  rw [← h.maxMessage]
  exact e.mMaxMessage.toNat_lt

theorem joinFrames_eq {e : WsFrameExtractor} (h : e.mFrames ≠ []) :
    e.joinFrames = { e with
      mFrames := [], mMessages := e.mMessages ++ [e.mFrames.flatten], mMessageSize := 0 } := by
  unfold joinFrames
  split
  · contradiction
  · rfl

theorem queueFrame_spec {e : WsFrameExtractor} {max : ℕ} {frames payload : Bytes}
    (hbase : e.Base max frames) (hlen : payload.length = e.mPayloadLength)
    (hmax : frames.length + payload.length ≤ max) :
    (e.queueFrame payload).Collects [] ∧
    (e.queueFrame payload).Base max (Reader.finish e.mFinalFrame (frames ++ payload)).2 ∧
    (e.queueFrame payload).mMessages =
      e.mMessages ++ (Reader.finish e.mFinalFrame (frames ++ payload)).1 := by
  have hsize : (e.mMessageSize + e.mPayloadLength) % 2 ^ 32 = (frames ++ payload).length := by
    have hlt := hbase.lt
    rw [hbase.messageSize, ← hlen, Nat.mod_eq_of_lt (by omega), List.length_append]
  unfold queueFrame
  dsimp only
  cases hfin : e.mFinalFrame with
  | true =>
    rw [if_pos rfl, joinFrames_eq (by simp)]
    refine ⟨⟨rfl, rfl, by simp⟩, ⟨hbase.maxMessage, rfl, rfl⟩, ?_⟩
    simp [Reader.finish, hbase.joined]
  | false =>
    rw [if_neg (by simp)]
    refine ⟨⟨rfl, rfl, by simp⟩, ⟨hbase.maxMessage, ?_, hsize⟩, ?_⟩
    · simp [Reader.finish, hbase.joined]
    · simp [Reader.finish]

theorem Takes.unmask {e : WsFrameExtractor} {hd : FrameHeader} {got : Bytes} (he : e.Takes hd got)
    (pos : ℕ) (data : Bytes) :
    (if e.mMasked = true then WebSocket.unmask e.mWsMaskKey pos data else data) =
      hd.unmask pos data := by
  rw [he.masked]
  unfold FrameHeader.unmask
  cases hkey : hd.key with
  | none => rfl
  | some key => simp [he.maskKey key hkey]

/-- Payload that does not complete the frame. -/
theorem takePayload_more {e : WsFrameExtractor} {hd : FrameHeader} {got input : Bytes}
    (he : e.Takes hd got) (hmore : got.length + input.length < hd.length) :
    ∃ e', e.takePayload input = (e', []) ∧ e.Kept e' ∧
      e'.Takes hd (got ++ hd.unmask got.length input) := by
  refine ⟨{ e with mPayload := some (got ++ hd.unmask got.length input) }, ?_, ⟨rfl, rfl, rfl, rfl⟩,
    ⟨he.haveHeader, he.finalFrame, he.masked, he.maskKey, he.payloadLength, rfl⟩⟩
  have hall : min input.length (hd.length - got.length) = input.length := by omega
  have hnot : ¬ got.length + input.length = hd.length := by omega
  simp [takePayload, he.payload, he.payloadLength, he.unmask, hall, hnot]

/-- Payload that completes the frame. -/
theorem takePayload_whole {e : WsFrameExtractor} {hd : FrameHeader} {got input : Bytes} {max : ℕ}
    {frames : Bytes} (he : e.Takes hd got) (hbase : e.Base max frames)
    (hgot : got.length ≤ hd.length) (hmax : frames.length + hd.length ≤ max)
    (hwhole : hd.length ≤ got.length + input.length) :
    ∃ e', e.takePayload input = (e', input.drop (hd.length - got.length)) ∧ e'.Collects [] ∧
      e'.Base max (Reader.finish hd.fin
        (frames ++ (got ++ hd.unmask got.length (input.take (hd.length - got.length))))).2 ∧
      e'.mMessages = e.mMessages ++ (Reader.finish hd.fin
        (frames ++ (got ++ hd.unmask got.length (input.take (hd.length - got.length))))).1 := by
  have hneed : min input.length (hd.length - got.length) = hd.length - got.length := by omega
  have hlen : (got ++ hd.unmask got.length (input.take (hd.length - got.length))).length =
      hd.length := by
    simp
    omega
  obtain ⟨hcollects, hbase', hmessages⟩ := queueFrame_spec hbase
    (hlen.trans he.payloadLength.symm) (by rw [hlen]; exact hmax)
  rw [he.finalFrame] at hbase' hmessages
  refine ⟨_, ?_, hcollects, hbase', hmessages⟩
  simp only [takePayload, he.payload, he.payloadLength, he.unmask, hneed]
  rw [if_pos hlen]

/-! ### The loop -/

/-- The extractor has parsed all that it can. -/
inductive Steady (max : ℕ) (e : WsFrameExtractor) : Reader → Prop
  | header {frames h : Bytes} {late : List Bytes} (hbase : e.Base max frames) (he : e.Collects h)
      (hneeds : headerNeeds h ≠ 0) (hlong : longLength h = false) :
      Steady max e ⟨frames, .header h, late⟩
  | payload {frames got : Bytes} {hd : FrameHeader} (hbase : e.Base max frames) (he : e.Takes hd got)
      (hgot : got.length < hd.length) (hmax : frames.length + hd.length ≤ max) :
      Steady max e ⟨frames, .payload hd got, []⟩

theorem new_steady (maxMessage : UInt32) (memory : WsFrameExtractor) :
    (new maxMessage memory).Steady maxMessage.toNat .start :=
  .header ⟨rfl, rfl, rfl⟩ ⟨rfl, rfl, by simp⟩ (by simp [headerNeeds]) rfl

/-- The extractor has read what the reader has read. Its last header may not be parsed yet: then
it has not queued the messages `behind`. -/
inductive Holds (max : ℕ) (e : WsFrameExtractor) : Reader → List Bytes → Prop
  | steady {s : Reader} (h : e.Steady max s) : Holds max e s []
  | pending {frames h : Bytes} {behind : List Bytes} {s : Reader} (hbase : e.Base max frames)
      (he : e.Collects h) (hneeds : headerNeeds h = 0) (hlong : longLength h = false)
      (hlen : h.length ≤ 8) (harrive : Reader.arrive max frames h = (behind, .inl s)) :
      Holds max e s behind

end WsFrameExtractor

def Exit.extractor : Exit → WsFrameExtractor
  | .returned _ e => e
  | .finished e => e

/-- How the loop should end where the reader comes to `s` and `messages` have been let out. -/
structure Exit.Shows (exit : Exit) (max : ℕ) (messages : List Bytes) (s : Reader) : Prop where
  holds : exit.extractor.Holds max s s.late
  messages : exit.extractor.mMessages ++ s.late = messages
  early : s.midHeader → exit = .returned false exit.extractor
  finished : ¬ s.midHeader → exit = .finished exit.extractor

namespace WsFrameExtractor
variable {max fuel : ℕ} {s' : Reader}

/-- What the loop does in at most `fuel` turns. -/
def Loops (max fuel : ℕ) (s' : Reader) : Prop :=
  ∀ (e : WsFrameExtractor) (s : Reader) (input : Bytes) (msgs : List Bytes), e.Steady max s →
    input ≠ [] → input.length ≤ fuel → run (Reader.step max) s input = (msgs, .inl s') →
    ∃ exit, e.processLoop fuel input = some exit ∧ exit.Shows max (e.mMessages ++ msgs) s'

/-- The payload part of a turn. -/
theorem payload_turn (ih : Loops max fuel s') {e : WsFrameExtractor} {hd : FrameHeader}
    {frames got input : Bytes} {msgs : List Bytes} (he : e.Takes hd got) (hbase : e.Base max frames)
    (hgot : got.length ≤ hd.length) (hmax : frames.length + hd.length ≤ max)
    (hfuel : (input.drop (hd.length - got.length)).length ≤ fuel)
    (hrun : (if got.length + input.length < hd.length then
        ([], .inl ⟨frames, .payload hd (got ++ hd.unmask got.length input), []⟩)
      else
        let r := Reader.finish hd.fin
          (frames ++ (got ++ hd.unmask got.length (input.take (hd.length - got.length))))
        after r.1 (run (Reader.step max) ⟨r.2, .header [], []⟩
          (input.drop (hd.length - got.length)))) = (msgs, .inl s')) :
    ∃ exit, (if e.mMaxMessage.toNat < (e.mMessageSize + e.mPayloadLength) % 2 ^ 32 then
          some (.returned true e)
        else processLoop fuel (e.takePayload input).1 (e.takePayload input).2) = some exit ∧
      exit.Shows max (e.mMessages ++ msgs) s' := by
  have hsize : ¬ e.mMaxMessage.toNat < (e.mMessageSize + e.mPayloadLength) % 2 ^ 32 := by
    have hlt := hbase.lt
    rw [hbase.maxMessage, hbase.messageSize, he.payloadLength, Nat.mod_eq_of_lt (by omega)]
    omega
  rw [if_neg hsize]
  by_cases hmore : got.length + input.length < hd.length
  · rw [if_pos hmore] at hrun
    cases hrun
    obtain ⟨e', htake, hkept, he'⟩ := takePayload_more he hmore
    rw [htake]
    refine ⟨.finished e', by simp [processLoop], ?_, ?_, nofun, fun _ => rfl⟩
    · exact .steady (.payload (hbase.kept hkept) he' (by simpa using hmore) hmax)
    · simp [Exit.extractor, hkept.messages]
  · rw [if_neg hmore] at hrun
    obtain ⟨e', htake, hcollects, hbase', hmessages⟩ :=
      takePayload_whole he hbase hgot hmax (Nat.le_of_not_lt hmore)
    rw [htake]
    generalize Reader.finish hd.fin (frames ++ (got ++ hd.unmask got.length
      (input.take (hd.length - got.length)))) = r at hrun hbase' hmessages
    generalize input.drop (hd.length - got.length) = rest at hrun hfuel
    have hsteady : e'.Steady max ⟨r.2, .header [], []⟩ :=
      .header hbase' hcollects (by simp [headerNeeds]) rfl
    obtain ⟨msgs', rfl, hrest⟩ := after_eq hrun
    by_cases hnil : rest = []
    · subst hnil
      cases hrest
      refine ⟨.finished e', by simp [processLoop], .steady hsteady, ?_, ?_, fun _ => rfl⟩
      · simp [Exit.extractor, hmessages]
      · simp [Reader.midHeader]
    · obtain ⟨exit, hloop, hshows⟩ := ih e' _ rest msgs' hsteady hnil hfuel hrest
      rw [hmessages, List.append_assoc] at hshows
      exact ⟨exit, hloop, hshows⟩

/-- A turn that starts with a header parsed. -/
theorem processLoop_taking {e : WsFrameExtractor} {input : Bytes} (he : e.mHaveHeader = true)
    (hinput : input ≠ []) (fuel : ℕ) :
    e.processLoop (fuel + 1) input =
      if e.mMaxMessage.toNat < (e.mMessageSize + e.mPayloadLength) % 2 ^ 32 then
        some (.returned true e)
      else processLoop fuel (e.takePayload input).1 (e.takePayload input).2 := by
  cases input with
  | nil => exact absurd rfl hinput
  | cons c input => simp only [processLoop, findHeader_over (.inl he), he, if_true]

/-- The payload part of a turn that has just parsed the header `h`. -/
theorem parsed_turn (ih : Loops max fuel s') {e : WsFrameExtractor} {frames h input : Bytes}
    {msgs msgs' : List Bytes} {s : Reader} (he : e.Takes (frameHeader h) [])
    (hbase : e.Base max frames) (hneeds : headerNeeds h = 0) (hlong : longLength h = false)
    (hinput : input ≠ []) (hfuel : input.length ≤ fuel)
    (harrive : Reader.arrive max frames h = (msgs, .inl s))
    (hrun : run (Reader.step max) s input = (msgs', .inl s')) :
    ∃ exit, (if e.mMaxMessage.toNat < (e.mMessageSize + e.mPayloadLength) % 2 ^ 32 then
          some (.returned true e)
        else processLoop fuel (e.takePayload input).1 (e.takePayload input).2) = some exit ∧
      exit.Shows max (e.mMessages ++ (msgs ++ msgs')) s' := by
  have hdrop : ∀ n, (input.drop n).length ≤ fuel := by
    intro n
    rw [List.length_drop]
    omega
  obtain ⟨hmax, ⟨hzero, hmsgs, rfl⟩ | ⟨hzero, rfl, rfl⟩⟩ :=
    Reader.arrive_complete hneeds hlong harrive
  · refine payload_turn ih he hbase (Nat.zero_le _) hmax (hdrop _) ?_
    rw [if_neg (by omega), hzero]
    simp only [List.length_nil, Nat.sub_zero, List.take_zero, FrameHeader.unmask_nil,
      List.append_nil, List.drop_zero]
    rw [Reader.run_late hinput [] msgs, hrun, ← hmsgs]
    rfl
  · have hpos : ([] : Bytes).length < (frameHeader h).length := Nat.pos_of_ne_zero hzero
    rw [Reader.run_payload hpos] at hrun
    rw [List.nil_append]
    exact payload_turn ih he hbase (Nat.zero_le _) hmax (hdrop _) hrun

theorem processLoop_steady (max fuel : ℕ) (s' : Reader) : Loops max fuel s' := by
  induction fuel with
  | zero =>
    intro e s input msgs _ hinput hlen
    exact absurd (List.eq_nil_of_length_eq_zero (Nat.le_zero.1 hlen)) hinput
  | succ fuel ih =>
    intro e s input msgs hsteady hinput hlen hrun
    have hpos := List.length_pos_of_ne_nil hinput
    cases hsteady with
    | payload hbase he hgot hmax =>
      rw [processLoop_taking he.haveHeader hinput]
      rw [Reader.run_payload hgot] at hrun
      refine payload_turn ih he hbase hgot.le hmax ?_ hrun
      rw [List.length_drop]
      omega
    | @header frames h late hbase he hneeds hlong =>
      have hlong' := Reader.longLength_of_run hlong hrun
      obtain ⟨c, rest, rfl⟩ := List.exists_cons_of_ne_nil hinput
      have hfound := findHeader_spec he hlong' hneeds hinput rest.length
      rw [processLoop]
      generalize e.findHeader (rest.length + 3) (c :: rest) = r at hfound
      cases hfound with
      | @lacking e' hkept he' hlacks hneeds' hlen' =>
        rw [Reader.run_header hinput hlacks hlong', Reader.arrive_lacking hneeds' hlong'] at hrun
        cases proceed_nil hrun
        refine ⟨_, rfl, .steady (.header (hbase.kept hkept) he' hneeds' hlong'), ?_,
          fun _ => rfl, fun h => absurd ⟨by simp, hlen'⟩ h⟩
        simp [Exit.extractor, hkept.messages]
      | @used e' hkept he' hlacks hneeds' hlen' =>
        rw [Reader.run_header hinput hlacks hlong'] at hrun
        have harrive := proceed_nil hrun
        have hlate := Reader.late_of_arrive harrive
        have hmessages : e'.mMessages ++ s'.late = e.mMessages ++ msgs := by
          rw [hkept.messages, hlate]
        refine ⟨.finished e', by simp [he'.haveHeader, processLoop], ?_⟩
        by_cases hdone : headerNeeds (h ++ c :: rest) = 0
        · rw [← hlate] at harrive
          refine ⟨.pending (hbase.kept hkept) he' hdone hlong' hlen' harrive, hmessages, ?_,
            fun _ => rfl⟩
          obtain ⟨-, ⟨-, -, hs'⟩ | ⟨-, -, hs'⟩⟩ := Reader.arrive_complete hdone hlong' harrive
          · rw [hs']
            simp [Reader.midHeader]
          · rw [hs']
            simp [Reader.midHeader]
        · rw [Reader.arrive_lacking hdone hlong'] at harrive
          cases harrive
          have htwo := hneeds'.resolve_left hdone
          exact ⟨.steady (.header (hbase.kept hkept) he' hdone hlong'), hmessages,
            fun h => absurd htwo h.2, fun _ => rfl⟩
      | @parsed e' p rest' hkept hsplit hp hrest hlacks hneeds' he' =>
        have hlong'' : longLength (h ++ p) = false := by
          rw [hsplit, ← List.append_assoc] at hlong'
          exact longLength_of_append hlong'
        rw [hsplit] at hrun
        obtain ⟨msgs₁, s₁, msgs₂, hfirst, hsecond, rfl⟩ := run_append_inl hrun
        rw [Reader.run_header hp hlacks hlong''] at hfirst
        have hturn := parsed_turn ih he' (hbase.kept hkept) hneeds' hlong'' hrest ?_
          (proceed_nil hfirst) hsecond
        · rw [hkept.messages] at hturn
          simpa only [he'.haveHeader, if_true] using hturn
        · have hplen := List.length_pos_of_ne_nil hp
          have : (c :: rest).length = p.length + rest'.length := by rw [hsplit, List.length_append]
          omega

/-- The loop over input that the reader goes through. -/
theorem processLoop_spec {e : WsFrameExtractor} {s : Reader} {behind msgs : List Bytes}
    {input : Bytes} (he : e.Holds max s behind) (hinput : input ≠ []) (hfuel : input.length < fuel)
    (hrun : run (Reader.step max) s input = (msgs, .inl s')) :
    ∃ exit, e.processLoop fuel input = some exit ∧
      exit.Shows max (e.mMessages ++ (behind ++ msgs)) s' := by
  cases he with
  | steady hsteady =>
    exact processLoop_steady max fuel s' e s input msgs hsteady hinput hfuel.le hrun
  | pending hbase he hneeds hlong hlen harrive =>
    obtain ⟨fuel, rfl⟩ : ∃ n, fuel = n + 1 := ⟨fuel - 1, by omega⟩
    obtain ⟨c, rest, rfl⟩ := List.exists_cons_of_ne_nil hinput
    obtain ⟨e', hkept, he', hfind⟩ :=
      findHeader_complete he hlong hneeds hlen hinput (rest.length + 2)
    have hturn := parsed_turn (processLoop_steady max fuel s') he' (hbase.kept hkept) hneeds hlong
      hinput (Nat.le_of_lt_succ hfuel) harrive hrun
    rw [hkept.messages] at hturn
    simpa only [processLoop, hfind, he'.haveHeader, if_true] using hturn

end WsFrameExtractor

end Resiprocate.WebSocket
