import Resiprocate.ConnectionMessages
import Resiprocate.WsFrameExtractorRefinement

/-! What `wsProcessData` delivers when a stream of frames comes in pieces. A read that ends inside
a header returns before the queue of messages is looked at, and an empty frame is only taken with
the byte after it; messages wait until a later read. -/
namespace Resiprocate.WebSocket
open Scanner StreamMachine

/-! ### The first bytes of a stream -/

/-- The frames wholly inside the first `n` bytes. -/
def inside : List Frame → ℕ → List Frame
  | [], _ => []
  | f :: fs, n => if f.encode.length ≤ n then f :: inside fs (n - f.encode.length) else []

/-- The first `n` bytes end inside a header, but not just after its first two bytes. -/
def endsInHeader : List Frame → ℕ → Bool
  | [], _ => false
  | f :: fs, n =>
    if f.encode.length ≤ n then endsInHeader fs (n - f.encode.length)
    else n ≠ 0 ∧ n < f.header.length ∧ n ≠ 2

/-- The first `n` bytes end just after an empty final frame; `last` says whether they do if `n`
is 0. -/
def endsInEmpty : Bool → List Frame → ℕ → Bool
  | last, [], _ => last
  | last, f :: fs, n =>
    if f.encode.length ≤ n then endsInEmpty (f.fin && f.payload.isEmpty) fs (n - f.encode.length)
    else n = 0 && last

theorem endsInEmpty_of_inHeader {fs : List Frame} {n : ℕ} (last : Bool)
    (h : endsInHeader fs n = true) : endsInEmpty last fs n = false := by
  induction fs generalizing n last with
  | nil => simp [endsInHeader] at h
  | cons f fs ih =>
    unfold endsInHeader at h
    unfold endsInEmpty
    split_ifs at h ⊢
    · exact ih _ h
    · have hzero : n ≠ 0 := (of_decide_eq_true h).1
      simp [hzero]

/-- The messages of frames, where `got` is the payload of earlier frames. -/
def joined : Bytes → List Frame → List Bytes
  | _, [] => []
  | got, f :: fs =>
    if f.fin then (got ++ f.payload) :: joined [] fs else joined (got ++ f.payload) fs

/-- No message gets longer than `max`, where `size` is the length of the first one so far. -/
def Within (max : ℕ) : ℕ → List Frame → Prop
  | _, [] => True
  | size, f :: fs => size + f.payload.length ≤ max ∧
      Within max (if f.fin then 0 else size + f.payload.length) fs

theorem run_take {max : ℕ} {fs : List Frame} (hforms : ∀ f ∈ fs, f.form ≠ .sixtyFour)
    {frames : Bytes} (hmax : Within max frames.length fs) {late : List Bytes} {last : Bool}
    (hlast : last = false ↔ late = []) (n : ℕ) :
    ∃ s, run (Reader.step max) ⟨frames, .header [], late⟩ ((stream fs).take n) =
        (joined frames (inside fs n), .inl s) ∧
      (endsInHeader fs n = true ↔ s.midHeader) ∧ (endsInEmpty last fs n = false ↔ s.late = []) := by
  induction fs generalizing n frames late last with
  | nil =>
    exact ⟨⟨frames, .header [], late⟩, by simp [stream, inside, joined, run],
      by simp [endsInHeader, Reader.midHeader], hlast⟩
  | cons f fs ih =>
    have hform := hforms f List.mem_cons_self
    obtain ⟨hsize, hmax'⟩ := hmax
    have hstream : stream (f :: fs) = f.encode ++ stream fs := by simp [stream]
    rw [hstream]
    by_cases hwhole : f.encode.length ≤ n
    · have hfinish : (if f.fin then 0 else frames.length + f.payload.length) =
          (Reader.finish f.fin (frames ++ f.payload)).2.length := by
        unfold Reader.finish
        split_ifs <;> simp
      have hlast' : (f.fin && f.payload.isEmpty) = false ↔
          (if f.payload = [] then (Reader.finish f.fin (frames ++ f.payload)).1 else []) = [] := by
        unfold Reader.finish
        cases f.fin <;> by_cases hnil : f.payload = [] <;> simp [hnil]
      rw [hfinish] at hmax'
      obtain ⟨s, hrun, hheader, hempty⟩ := ih (fun g hg => hforms g (List.mem_cons_of_mem _ hg))
        hmax' hlast' (n - f.encode.length)
      refine ⟨s, ?_, by simpa [endsInHeader, hwhole] using hheader,
        by simpa [endsInEmpty, hwhole] using hempty⟩
      rw [List.take_append, List.take_of_length_le hwhole, run_append,
        Frame.run_encode hform hsize]
      simp only [resume, hrun, inside, hwhole, if_true, joined, after]
      unfold Reader.finish
      cases f.fin <;> simp
    · have htake : (f.encode ++ stream fs).take n = f.encode.take n :=
        List.take_append_of_le_length (by omega)
      rw [htake]
      by_cases hzero : n = 0
      · subst hzero
        have hnot : f.encode ≠ [] := encode_ne_nil f
        refine ⟨⟨frames, .header [], late⟩, by simp [inside, hnot, joined, run],
          by simp [endsInHeader, hnot, Reader.midHeader], ?_⟩
        simpa [endsInEmpty, hnot] using hlast
      · have hlen : (f.encode.take n).length = n := by
          rw [List.length_take]
          omega
        have hmore : f.encode.drop n ≠ [] :=
          List.ne_nil_of_length_pos (by rw [List.length_drop]; omega)
        obtain ⟨s, hrun, hlate, hheader⟩ : ∃ s, run (Reader.step max) ⟨frames, .header [], late⟩
            (f.encode.take n) = ([], .inl s) ∧ s.late = [] ∧ (s.midHeader ↔ _) :=
          Frame.run_encode_prefix hform hsize (List.take_append_drop n f.encode).symm
            (List.ne_nil_of_length_pos (by rw [hlen]; omega)) hmore
        rw [hlen] at hheader
        refine ⟨s, by simpa [inside, hwhole, joined] using hrun, ?_, ?_⟩
        · rw [hheader]
          simp [endsInHeader, hwhole, hzero]
        · simp [endsInEmpty, hwhole, hzero, hlate]

/-! ### Reads -/

variable {κ : Type*} (T : Stream.Transport κ)

/-- What becomes of messages, one after the other. -/
def deliverAll : MsgHeaderScanner κ → List Bytes → List (Delivered κ) × MsgHeaderScanner κ
  | s, [] => ([], s)
  | s, msg :: rest =>
    let r := deliver T s msg
    let r' := deliverAll r.2 rest
    (r.1 :: r'.1, r'.2)

theorem length_deliverAll (s : MsgHeaderScanner κ) (msgs : List Bytes) :
    (deliverAll T s msgs).1.length = msgs.length := by
  induction msgs generalizing s with
  | nil => rfl
  | cons msg rest ih => simp [deliverAll, ih]

theorem deliverAll_append (s : MsgHeaderScanner κ) (msgs more : List Bytes) :
    deliverAll T s (msgs ++ more) =
      ((deliverAll T s msgs).1 ++ (deliverAll T (deliverAll T s msgs).2 more).1,
        (deliverAll T (deliverAll T s msgs).2 more).2) := by
  induction msgs generalizing s with
  | nil => rfl
  | cons msg rest ih => simp [deliverAll, ih]

namespace WsFrameExtractor

/-- What is queued makes no difference to what has been read. -/
theorem Holds.queue {e : WsFrameExtractor} {max : ℕ} {s : Reader} {behind : List Bytes}
    (h : e.Holds max s behind) (queue : List Bytes) :
    ({ e with mMessages := queue } : WsFrameExtractor).Holds max s behind := by
  cases h with
  | steady hsteady =>
    cases hsteady with
    | header hbase he hneeds hlong =>
      exact .steady (.header ⟨hbase.maxMessage, hbase.joined, hbase.messageSize⟩
        ⟨he.haveHeader, he.headerLen, he.bytes⟩ hneeds hlong)
    | payload hbase he hgot hmax =>
      exact .steady (.payload ⟨hbase.maxMessage, hbase.joined, hbase.messageSize⟩
        ⟨he.haveHeader, he.finalFrame, he.masked, he.maskKey, he.payloadLength, he.payload⟩
        hgot hmax)
  | pending hbase he hneeds hlong hlen harrive =>
    exact .pending ⟨hbase.maxMessage, hbase.joined, hbase.messageSize⟩
      ⟨he.haveHeader, he.headerLen, he.bytes⟩ hneeds hlong hlen harrive

end WsFrameExtractor

namespace WsConnection
variable {T}

/-- All that is queued is delivered. -/
theorem drain_queue (c : WsConnection κ) (e : WsFrameExtractor) {fuel : ℕ}
    (hfuel : e.mMessages.length ≤ fuel) :
    c.drain T fuel (e.mMessages.head?, false, { e with mMessages := e.mMessages.tail }) =
      some ((deliverAll T c.mMsgHeaderScanner e.mMessages).1, true,
        ⟨{ e with mMessages := [] }, (deliverAll T c.mMsgHeaderScanner e.mMessages).2⟩) := by
  obtain ⟨maxMessage, frames, queue, size, have', len, header, fin, masked, key, length, payload⟩ := e
  induction queue generalizing c fuel with
  | nil => cases fuel <;> rfl
  | cons msg rest ih =>
    cases fuel with
    | zero => simp at hfuel
    | succ fuel =>
      have hrest := ih { c with mMsgHeaderScanner := (deliver T c.mMsgHeaderScanner msg).2 }
        (Nat.le_of_succ_le_succ hfuel)
      simp only [List.head?_cons, List.tail_cons, drain, WsFrameExtractor.processBytes,
        WsFrameExtractor.processLoop, Option.map_some, Option.bind_some]
      simp only at hrest
      rw [hrest]
      rfl

/-- A connection that has read `n` bytes of a stream of frames and delivered `done`. -/
structure Stands (fs : List Frame) (max n : ℕ) (c : WsConnection κ) (done : List Bytes)
    (s : Reader) : Prop where
  holds : c.mWsFrameExtractor.Holds max s s.late
  reads : run (Reader.step max) .start ((stream fs).take n) = (joined [] (inside fs n), .inl s)
  messages : done ++ c.mWsFrameExtractor.mMessages ++ s.late = joined [] (inside fs n)
  inHeader : endsInHeader fs n = true ↔ s.midHeader
  inEmpty : endsInEmpty false fs n = false ↔ s.late = []

section Read
variable {fs : List Frame} {max n : ℕ} {c : WsConnection κ} {done : List Bytes} {s : Reader}
  (hforms : ∀ f ∈ fs, f.form ≠ .sixtyFour) (hmax : Within max 0 fs)
include hforms hmax

/-- What one read delivers: nothing if it ends inside a header, otherwise all that is queued. -/
theorem wsProcessData_spec (h : Stands fs max n c done s) {data : Bytes} (hne : data ≠ [])
    (hdata : data <+: (stream fs).drop n) :
    ∃ queue c' s', c.wsProcessData T data =
        some ((deliverAll T c.mMsgHeaderScanner queue).1, true, c') ∧
      c'.mMsgHeaderScanner = (deliverAll T c.mMsgHeaderScanner queue).2 ∧
      Stands fs max (n + data.length) c' (done ++ queue) s' ∧
      (endsInHeader fs (n + data.length) = true → queue = []) ∧
      (endsInHeader fs (n + data.length) = false → c'.mWsFrameExtractor.mMessages = []) ∧
      joined [] (inside fs n) <+: joined [] (inside fs (n + data.length)) := by
  have htake : (stream fs).take (n + data.length) = (stream fs).take n ++ data := by
    rw [List.take_add, ← List.prefix_iff_eq_take.1 hdata]
  have hsize : Within max ([] : Bytes).length fs := hmax
  obtain ⟨s', hrun, hheader, hempty⟩ :=
    run_take hforms hsize (by simp : false = false ↔ ([] : List Bytes) = []) (n + data.length)
  rw [htake] at hrun
  obtain ⟨out, s₁, msgs, hfirst, hsecond, hout⟩ := run_append_inl hrun
  obtain ⟨rfl, rfl⟩ : joined [] (inside fs n) = out ∧ s = s₁ := by
    have := h.reads.symm.trans hfirst
    cases this
    exact ⟨rfl, rfl⟩
  obtain ⟨exit, hloop, hshows⟩ := WsFrameExtractor.processLoop_spec h.holds hne
    (by omega : data.length < 2 * data.length + 1) hsecond
  have hmessages := hshows.messages
  rw [← htake] at hrun
  by_cases hmid : s'.midHeader
  · rw [hshows.early hmid] at hloop
    refine ⟨[], ⟨exit.extractor, c.mMsgHeaderScanner⟩, s', ?_, rfl, ⟨hshows.holds, hrun, ?_,
      hheader, hempty⟩, fun _ => rfl, fun h => by simp [hheader.2 hmid] at h,
      ⟨msgs, hout.symm⟩⟩
    · simp [wsProcessData, WsFrameExtractor.processBytes, hloop, drain, deliverAll]
    · rw [List.append_nil, List.append_assoc, hmessages, hout, ← h.messages]
      simp
  · rw [hshows.finished hmid] at hloop
    refine ⟨exit.extractor.mMessages, ⟨{ exit.extractor with mMessages := [] },
      (deliverAll T c.mMsgHeaderScanner exit.extractor.mMessages).2⟩, s', ?_, rfl,
      ⟨hshows.holds.queue [], hrun, ?_, hheader, hempty⟩, fun h => absurd (hheader.1 h) hmid,
      fun _ => rfl, ⟨msgs, hout.symm⟩⟩
    · simp only [wsProcessData, WsFrameExtractor.processBytes, hloop, Option.map_some,
        Option.bind_some]
      exact drain_queue c exit.extractor (by simp; omega)
    · rw [List.append_nil, List.append_assoc, hmessages, hout, ← h.messages]
      simp

end Read

/-- Whether a complete message waits after reads that go on from the first `n` bytes; `waiting`
says so of the reads before. -/
def waits (fs : List Frame) : ℕ → Bool → List Bytes → Bool
  | _, waiting, [] => waiting
  | n, waiting, data :: rest =>
    let n' := n + data.length
    waits fs n' (if endsInHeader fs n' then
      waiting || joined [] (inside fs n) ≠ joined [] (inside fs n') else endsInEmpty false fs n') rest

/-- Reads deliver the first messages of the stream; these are all that are complete unless one
waits. -/
theorem reads_stands {fs : List Frame} {max : ℕ} (hforms : ∀ f ∈ fs, f.form ≠ .sixtyFour)
    (hmax : Within max 0 fs) {n : ℕ} {waiting : Bool} {c : WsConnection κ} {done : List Bytes}
    {s : Reader} {pieces : List Bytes} (h : Stands fs max n c done s)
    (hwaiting : waiting = false ↔ c.mWsFrameExtractor.mMessages = [] ∧ s.late = [])
    (hne : ∀ data ∈ pieces, data ≠ []) (hpieces : pieces.flatten <+: (stream fs).drop n) :
    ∃ queue left c', c.reads T pieces =
        some ((deliverAll T c.mMsgHeaderScanner queue).1, true, c') ∧
      done ++ queue ++ left = joined [] (inside fs (n + pieces.flatten.length)) ∧
      (waits fs n waiting pieces = false ↔ left = []) := by
  induction pieces generalizing n waiting c done s with
  | nil =>
    refine ⟨[], c.mWsFrameExtractor.mMessages ++ s.late, c, rfl, ?_, ?_⟩
    · simpa using h.messages
    · simpa [waits] using hwaiting
  | cons data rest ih =>
    have hdata : data <+: (stream fs).drop n :=
      (List.prefix_append data rest.flatten).trans (by simpa using hpieces)
    obtain ⟨queue₁, c₁, s₁, hread, hscanner, hstands, hearly, hfinished, hmore⟩ :=
      wsProcessData_spec hforms hmax h (hne data List.mem_cons_self) hdata
    have hrest : rest.flatten <+: (stream fs).drop (n + data.length) := by
      obtain ⟨t, ht⟩ := hpieces
      exact ⟨t, by rw [← List.drop_drop, ← ht]; simp⟩
    have hwaiting₁ : (if endsInHeader fs (n + data.length) then
        waiting || joined [] (inside fs n) ≠ joined [] (inside fs (n + data.length))
        else endsInEmpty false fs (n + data.length)) = false ↔
        c₁.mWsFrameExtractor.mMessages = [] ∧ s₁.late = [] := by
      have hmessages := hstands.messages
      cases hheader : endsInHeader fs (n + data.length) with
      | false =>
        simpa [hfinished hheader] using hstands.inEmpty
      | true =>
        have hlate : s₁.late = [] := hstands.inEmpty.1 (endsInEmpty_of_inHeader false hheader)
        rw [hearly hheader, hlate, List.append_nil, List.append_nil] at hmessages
        simp only [if_true, Bool.or_eq_false_iff, hwaiting, decide_eq_false_iff_not, not_not, hlate,
          and_true]
        rw [← h.messages, ← hmessages] at hmore ⊢
        constructor
        · rintro ⟨⟨hqueue, hlate'⟩, hsame⟩
          simpa [hqueue, hlate'] using hsame
        · intro hqueue
          have hlen := hmore.length_le
          simp only [hqueue, List.append_nil, List.length_append] at hlen
          have hqueue' := List.eq_nil_of_length_eq_zero
            (by omega : c.mWsFrameExtractor.mMessages.length = 0)
          have hlate' := List.eq_nil_of_length_eq_zero (by omega : s.late.length = 0)
          simp [hqueue, hqueue', hlate']
    obtain ⟨queue₂, left, c₂, hreads, hmessages, hleft⟩ :=
      ih hstands hwaiting₁ (fun d hd => hne d (List.mem_cons_of_mem _ hd)) hrest
    refine ⟨queue₁ ++ queue₂, left, c₂, ?_, ?_, ?_⟩
    · rw [reads, hread, deliverAll_append, ← hscanner]
      simp [hreads]
    · simpa [Nat.add_assoc] using hmessages
    · simpa [waits] using hleft

/-- What the reads deliver is exactly the messages whose final frame lies wholly inside them. -/
def Delivers (T : Stream.Transport κ) (maxMessage : UInt32) (memory : WsFrameExtractor)
    (scanner : MsgHeaderScanner κ) (fs : List Frame) (pieces : List Bytes) : Prop :=
  ∃ c, (⟨.new maxMessage memory, scanner⟩ : WsConnection κ).reads T pieces =
    some ((deliverAll T scanner (joined [] (inside fs pieces.flatten.length))).1, true, c)

theorem delivers_iff (T : Stream.Transport κ) (maxMessage : UInt32) (memory : WsFrameExtractor)
    (scanner : MsgHeaderScanner κ) {fs : List Frame} {pieces : List Bytes}
    (hpayload : ∀ f ∈ fs, f.payload.length ≤ 65535) (hmax : Within maxMessage.toNat 0 fs)
    (hne : ∀ data ∈ pieces, data ≠ []) (hpieces : pieces.flatten <+: stream fs) :
    Delivers T maxMessage memory scanner fs pieces ↔ waits fs 0 false pieces = false := by
  have hforms : ∀ f ∈ fs, f.form ≠ .sixtyFour := by
    intro f hf hform
    have hfits := f.fits
    rw [hform] at hfits
    exact absurd (hpayload f hf) (Nat.not_le.2 hfits.1)
  have hsize : Within maxMessage.toNat ([] : Bytes).length fs := hmax
  obtain ⟨s, hrun, hheader, hempty⟩ :=
    run_take hforms hsize (by simp : false = false ↔ ([] : List Bytes) = []) 0
  obtain ⟨hnone, rfl⟩ : joined [] (inside fs 0) = [] ∧ s = .start := by
    rw [List.take_zero, run, Prod.mk.injEq, Sum.inl.injEq] at hrun
    exact ⟨hrun.1.symm, hrun.2.symm⟩
  have hstands : Stands fs maxMessage.toNat 0 (⟨.new maxMessage memory, scanner⟩ : WsConnection κ) []
      .start := by
    refine ⟨.steady (WsFrameExtractor.new_steady maxMessage memory), hrun, ?_, hheader, hempty⟩
    rw [hnone]
    rfl
  have hwaiting : false = false ↔
      (WsFrameExtractor.new maxMessage memory).mMessages = [] ∧ Reader.start.late = [] := by
    simp [WsFrameExtractor.new, Reader.start]
  obtain ⟨queue, left, c, hreads, hmessages, hleft⟩ :=
    reads_stands hforms hmax hstands hwaiting hne (by simpa using hpieces)
  rw [Nat.zero_add, List.nil_append] at hmessages
  rw [hleft, Delivers, hreads, ← hmessages]
  constructor
  · rintro ⟨c', hc'⟩
    have hlen := congrArg List.length (congrArg Prod.fst (Option.some.inj hc'))
    simp only [length_deliverAll, List.length_append] at hlen
    exact List.eq_nil_of_length_eq_zero (by omega)
  · rintro rfl
    exact ⟨c, by rw [List.append_nil]⟩

/-- A keepalive in a frame of its own. -/
def keepalive : Frame := ⟨true, 2, none, .seven, [13, 10, 13, 10], by decide⟩

/-- Two keepalives, in reads that end after two bytes of a header and inside a payload. -/
theorem delivers_iff_keepalives :
    Delivers Stream.Connection.sampleTransport 4 .blank Stream.Connection.sampleScanner
      [keepalive, keepalive] [[0x82, 4, 13, 10, 13, 10, 0x82, 4], [13, 10], [13]] := by
  have hmax : Within 4 0 [keepalive, keepalive] := ⟨by decide, by decide, trivial⟩
  exact (delivers_iff Stream.Connection.sampleTransport 4 .blank Stream.Connection.sampleScanner
    (by decide) hmax (by decide) (by decide)).2 (by decide)

/-- A read that ends after the first byte of a header leaves a keepalive in the queue. -/
theorem not_delivers :
    ¬ Delivers Stream.Connection.sampleTransport 4 .blank Stream.Connection.sampleScanner
      [keepalive, keepalive] [[0x82, 4, 13, 10, 13, 10, 0x82]] := by
  rintro ⟨c, hc⟩
  have hlen := congrArg (Option.map fun r => r.1.length) hc
  simp only [Option.map_some, length_deliverAll] at hlen
  revert hlen
  decide

end WsConnection

end Resiprocate.WebSocket
