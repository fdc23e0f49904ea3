import Resiprocate.ConnectionFraming
import Resiprocate.MsgHeaderScannerTexts

/-! The stream as one machine that reads a byte at a time and lets out complete messages:
what the framing of a connection is for. Buffers play no part in it. -/
namespace Resiprocate.Stream
open Scanner StreamMachine

variable {κ : Type*}

/-- A reader of the stream is in a header, with the calls made on the message so far, or in a
body of known length. -/
inductive Framer (κ : Type*)
  | header (m : Scan κ) (events : List (Event κ))
  | body (m : Scan κ) (events : List (Event κ)) (contentLength : ℕ) (got : Bytes)

/-- The text begun fits a chunk, and there are not too many headers. -/
def Fitting (m : Scan κ) : Prop := m.tail.length ≤ chunkSize ∧ m.numHeaders ≤ 1024

instance : DecidablePred (Fitting (κ := κ)) := fun _ => inferInstanceAs (Decidable (_ ∧ _))

/-- The scan of a header, in error where a text gets too long. -/
def headerScan (T : Transport κ) : Step (Scan κ) UInt8 (Event κ) (Scan κ × Bool) :=
  guarded Fitting (fun m => (m, false)) (Scan.step T.headers)

namespace Framer
variable (T : Transport κ)

/-- A header is complete. -/
def headersEnded (m : Scan κ) (events : List (Event κ)) :
    List (SipMessage κ) × (Framer κ ⊕ Unit) :=
  match T.contentLength events with
  | none => ([], .inr ())
  | some contentLength =>
    if 1024 < m.numHeaders ∨ T.messageSizeMax < contentLength then ([], .inr ())
    else if contentLength = 0 then ([⟨events, []⟩], .inl (.header m.restart []))
    else ([], .inl (.body m events contentLength []))

/-- One byte. -/
def step : Step (Framer κ) UInt8 (SipMessage κ) Unit
  | .header m events, c =>
    match headerScan T m c with
    | (out, .inl m') => ([], .inl (.header m' (events ++ out)))
    | (out, .inr (m', true)) => headersEnded T m' (events ++ out)
    | (_, .inr (_, false)) => ([], .inr ())
  | .body m events contentLength got, c =>
    if got.length + 1 < contentLength then ([], .inl (.body m events contentLength (got ++ [c])))
    else ([⟨events, got ++ [c]⟩], .inl (.header m.restart []))

/-- Reading a header is scanning it. -/
theorem run_header (m : Scan κ) (events : List (Event κ)) (data : Bytes) :
    run (step T) (.header m events) data =
      match run (headerScan T) m data with
      | (out, .inl m') => ([], .inl (.header m' (events ++ out)))
      | (out, .inr ((m', true), rest)) =>
        proceed (step T) (headersEnded T m' (events ++ out)) rest
      | (_, .inr ((_, false), rest)) => ([], .inr ((), rest)) := by
  induction data generalizing m events with
  | nil => simp [run]
  | cons c data ih =>
    rw [run_cons, run_cons, step]
    obtain ⟨out, m' | ⟨m', _ | _⟩⟩ := headerScan T m c
    · simp only [proceed, after_nil, ih, after]
      obtain ⟨out', m' | ⟨⟨m', _ | _⟩, rest⟩⟩ := run (headerScan T) m' data <;>
        simp [List.append_assoc]
    · rfl
    · rfl

/-- A body is as many bytes as its length says. -/
theorem run_body (m : Scan κ) (events : List (Event κ)) {contentLength : ℕ} {got : Bytes}
    (h : got.length < contentLength) (data : Bytes) :
    run (step T) (.body m events contentLength got) data =
      if (got ++ data).length < contentLength then
        ([], .inl (.body m events contentLength (got ++ data)))
      else after [⟨events, (got ++ data).take contentLength⟩]
        (run (step T) (.header m.restart []) ((got ++ data).drop contentLength)) := by
  induction data generalizing got with
  | nil => simp [run, h]
  | cons c data ih =>
    rw [run_cons, step]
    by_cases hmore : got.length + 1 < contentLength
    · have hlen : (got ++ [c]).length < contentLength := by simpa using hmore
      simp only [hmore, if_true, proceed, after_nil, ih hlen, List.append_assoc,
        List.singleton_append]
    · have hlen : contentLength = (got ++ [c]).length := by
        rw [List.length_append, List.length_singleton]
        omega
      have hnot : ¬ (got ++ c :: data).length < contentLength := by
        simp only [List.length_append, List.length_cons]
        omega
      simp only [hmore, if_false, proceed, hnot]
      rw [show got ++ c :: data = (got ++ [c]) ++ data by simp, hlen, List.take_left',
        List.drop_left']
      · rfl
      · rfl

/-- A message whose header is complete goes on with its body. -/
theorem proceed_headersEnded {m : Scan κ} {events : List (Event κ)} {contentLength : ℕ}
    (hlength : T.contentLength events = some contentLength) (hnum : m.numHeaders ≤ 1024)
    (hmax : contentLength ≤ T.messageSizeMax) (rest : Bytes) :
    proceed (step T) (headersEnded T m events) rest =
      if rest.length < contentLength then ([], .inl (.body m events contentLength rest))
      else after [⟨events, rest.take contentLength⟩]
        (run (step T) (.header m.restart []) (rest.drop contentLength)) := by
  have hfits : ¬ (1024 < m.numHeaders ∨ T.messageSizeMax < contentLength) := by omega
  simp only [headersEnded, hlength, hfits, if_false]
  by_cases hzero : contentLength = 0
  · simp [hzero, proceed]
  · have hpos : ([] : Bytes).length < contentLength := Nat.pos_of_ne_zero hzero
    simp only [hzero, if_false, proceed, after_nil, run_body T m events hpos, List.nil_append]

/-- Where reading goes on after a header, its length was good. -/
theorem headersEnded_inl {m : Scan κ} {events : List (Event κ)} {rest : Bytes}
    {msgs : List (SipMessage κ)} {φ : Framer κ}
    (h : proceed (step T) (headersEnded T m events) rest = (msgs, .inl φ)) :
    ∃ contentLength, T.contentLength events = some contentLength ∧ m.numHeaders ≤ 1024 ∧
      contentLength ≤ T.messageSizeMax := by
  simp only [headersEnded] at h
  cases hlength : T.contentLength events with
  | none => simp [hlength, proceed] at h
  | some contentLength =>
    refine ⟨contentLength, rfl, ?_⟩
    by_cases hfits : 1024 < m.numHeaders ∨ T.messageSizeMax < contentLength
    · simp [hlength, hfits, proceed] at h
    · omega

def Fits : Framer κ → Prop
  | .header m _ => Fitting m
  | .body .. => True

theorem Fits.step {φ φ' : Framer κ} {c : UInt8} (h : (Framer.step T φ c).2 = .inl φ') : φ'.Fits := by
  have hrestart : ∀ m : Scan κ, Fitting m.restart := fun m => ⟨Nat.zero_le _, Nat.zero_le _⟩
  cases φ with
  | header m events =>
    simp only [Framer.step] at h
    cases hstep : headerScan T m c with
    | mk out next =>
      obtain m' | ⟨m', _ | _⟩ := next
      · simp only [hstep, Sum.inl.injEq] at h
        subst h
        exact (guarded_inl hstep).2
      · simp [hstep] at h
      · simp only [hstep, headersEnded] at h
        split at h
        · cases h
        · split_ifs at h
          · cases h
            exact hrestart m'
          · cases h
            trivial
  | body m events contentLength got =>
    simp only [Framer.step] at h
    split_ifs at h
    · cases h
      trivial
    · cases h
      exact hrestart m

theorem Fits.run {φ φ' : Framer κ} (hφ : φ.Fits) {data : Bytes} {msgs : List (SipMessage κ)}
    (h : StreamMachine.run (Framer.step T) φ data = (msgs, .inl φ')) : φ'.Fits := by
  have hstep : ∀ (φ : Framer κ) c, φ.Fits →
      (∀ o ∈ (Framer.step T φ c).1, True) ∧ ∀ φ', (Framer.step T φ c).2 = .inl φ' → φ'.Fits :=
    fun φ c _ => ⟨fun _ _ => trivial, fun φ' h => step T h⟩
  exact (run_invariant hstep hφ data).2 φ' (congrArg Prod.snd h)

end Framer

/-! ### Streams of messages -/

/-- Keepalives. -/
def crlfs (n : ℕ) : Bytes := (List.replicate n [13, 10]).flatten

theorem crlfs_succ (n : ℕ) : crlfs (n + 1) = 13 :: 10 :: crlfs n := rfl

theorem crlfs_add (n k : ℕ) : crlfs (n + k) = crlfs n ++ crlfs k := by
  rw [crlfs, List.replicate_add, List.flatten_append]
  rfl

@[simp] theorem length_crlfs (n : ℕ) : (crlfs n).length = 2 * n := by
  induction n with
  | zero => rfl
  | succ n ih =>
    rw [crlfs_succ, List.length_cons, List.length_cons, ih]
    omega

/-- A scan passes over keepalives at the start of a message. -/
theorem run_scan_crlfs (T : Transport κ) (m : Scan κ) (n : ℕ) (data : Bytes) :
    run (headerScan T) m.restart (crlfs n ++ data) = run (headerScan T) m.restart data := by
  induction n with
  | zero => rfl
  | succ n ih =>
    rw [← ih, crlfs_succ]
    rfl

/-- A message as it is sent, after some keepalives. -/
structure Sent (κ : Type*) where
  keepalives : ℕ
  header : Bytes
  msg : SipMessage κ

def Sent.bytes (w : Sent κ) : Bytes := crlfs w.keepalives ++ (w.header ++ w.msg.body)

/-- The header scanned by itself makes the calls of the message and ends with its last byte.
Content-Length is the length of the body. However much of the header has been read, the start
line, field name, or value with its line end begun last takes at most a chunk. -/
structure Sent.WellFormed (T : Transport κ) (scanner : MsgHeaderScanner κ) (w : Sent κ) :
    Prop where
  ended : (scanner.prepareForMessage.scanChunk T.headers w.header).result = .scrEnd
  whole : (scanner.prepareForMessage.scanChunk T.headers w.header).unprocessed = 0
  events : (scanner.prepareForMessage.scanChunk T.headers w.header).events = w.msg.headers
  numHeaders : (scanner.prepareForMessage.scanChunk T.headers w.header).scanner.mNumHeaders ≤ 1024
  contentLength : T.contentLength w.msg.headers = some w.msg.body.length
  messageSize : w.msg.body.length ≤ T.messageSizeMax
  fits : ∀ p q, w.header = p ++ q →
    (scanner.prepareForMessage.scanChunk T.headers p).result = .scrNextChunk →
    (scanner.prepareForMessage.scanChunk T.headers p).unprocessed ≤ chunkSize

section
variable {T : Transport κ} {scanner : MsgHeaderScanner κ} {w : Sent κ}

/-- A scan of a header by itself, as a run of the machine. -/
theorem run_of_scanned {header : Bytes} {events : List (Event κ)}
    (hended : (scanner.prepareForMessage.scanChunk T.headers header).result = .scrEnd)
    (hwhole : (scanner.prepareForMessage.scanChunk T.headers header).unprocessed = 0)
    (hevents : (scanner.prepareForMessage.scanChunk T.headers header).events = events) :
    ∃ m, run (Scan.step T.headers) (Scan.ofScanner scanner none).restart header =
        (events, .inr ((m, true), [])) ∧
      m.numHeaders = (scanner.prepareForMessage.scanChunk T.headers header).scanner.mNumHeaders := by
  have hseen := MsgHeaderScanner.scanChunk_seen T.headers (s := scanner.prepareForMessage) rfl
    header
  have hstart : Scan.ofScanner scanner.prepareForMessage none =
      (Scan.ofScanner scanner none).restart := rfl
  rw [hstart, Scanned.seen, hended, hwhole, hevents] at hseen
  generalize run (Scan.step T.headers) (Scan.ofScanner scanner none).restart header = r at hseen
  obtain ⟨out, m | ⟨⟨m, _ | _⟩, rest⟩⟩ := r
  · simp [MsgHeaderScanner.seenOf] at hseen
  · simp [MsgHeaderScanner.seenOf] at hseen
  · simp only [MsgHeaderScanner.seenOf, MsgHeaderScanner.Seen.mk.injEq, true_and] at hseen
    obtain ⟨rfl, hnum, hrest⟩ := hseen
    have hnil : rest = [] := List.eq_nil_of_length_eq_zero hrest.symm
    exact ⟨m, by rw [hnil], hnum.symm⟩

/-- A scan that is left inside a header has its text begun unprocessed. -/
theorem scanned_of_run {p : Bytes} {out : List (Event κ)} {m : Scan κ}
    (h : run (Scan.step T.headers) (Scan.ofScanner scanner none).restart p = (out, .inl m)) :
    (scanner.prepareForMessage.scanChunk T.headers p).result = .scrNextChunk ∧
      (scanner.prepareForMessage.scanChunk T.headers p).unprocessed = m.tail.length := by
  have hseen := MsgHeaderScanner.scanChunk_seen T.headers (s := scanner.prepareForMessage) rfl p
  have hrun : run (Scan.step T.headers) (Scan.ofScanner scanner.prepareForMessage none) p =
      (out, .inl m) := h
  rw [hrun] at hseen
  exact ⟨congrArg MsgHeaderScanner.Seen.result hseen,
    congrArg MsgHeaderScanner.Seen.unconsumed hseen⟩

/-- A start line, field names, and values with a line end that each fit a chunk are enough. -/
theorem fits_of_events
    (hended : (scanner.prepareForMessage.scanChunk T.headers w.header).result = .scrEnd)
    (hwhole : (scanner.prepareForMessage.scanChunk T.headers w.header).unprocessed = 0)
    (hevents : (scanner.prepareForMessage.scanChunk T.headers w.header).events = w.msg.headers)
    (hfits : ∀ e ∈ w.msg.headers, e.Fits chunkSize) (p q : Bytes) (hsplit : w.header = p ++ q)
    (hnext : (scanner.prepareForMessage.scanChunk T.headers p).result = .scrNextChunk) :
    (scanner.prepareForMessage.scanChunk T.headers p).unprocessed ≤ chunkSize := by
  obtain ⟨m, hrun, -⟩ := run_of_scanned hended hwhole hevents
  rw [hsplit, run_append] at hrun
  have hseen := MsgHeaderScanner.scanChunk_seen T.headers (s := scanner.prepareForMessage) rfl p
  have hresult := congrArg MsgHeaderScanner.Seen.result hseen
  cases hp : run (Scan.step T.headers) (Scan.ofScanner scanner none).restart p with
  | mk out next =>
    rw [hp] at hrun
    obtain m₁ | ⟨⟨m₁, ended⟩, rest⟩ := next
    · have htexts : m₁.Texts := by
        have hstep : ∀ (m : Scan κ) c, m.Texts → (∀ e ∈ (Scan.step T.headers m c).1, True) ∧
            ∀ m', (Scan.step T.headers m c).2 = .inl m' → m'.Texts :=
          fun m c hm => ⟨fun _ _ => trivial, fun m' h => hm.step c h⟩
        exact (run_invariant hstep (.of_none rfl) p).2 m₁ (congrArg Prod.snd hp)
      obtain ⟨hout, hrest⟩ : w.msg.headers = out ++ (run (Scan.step T.headers) m₁ q).1 ∧
          (run (Scan.step T.headers) m₁ q).2 = .inr ((m, true), []) :=
        ⟨(congrArg Prod.fst hrun).symm, (congrArg Prod.snd hrun :)⟩
      rw [(scanned_of_run hp).2]
      refine (htexts.fits_of_run (by decide) (Prod.ext rfl hrest) fun e he => ?_).text
      exact hfits e (by rw [hout]; exact List.mem_append_right _ he)
    · -- a header that has ended or is in error asks for no more
      have hrun' : run (Scan.step T.headers) (Scan.ofScanner scanner.prepareForMessage none) p =
          (out, .inr ((m₁, ended), rest)) := hp
      rw [hrun'] at hresult
      cases ended <;> simp [Scanned.seen, MsgHeaderScanner.seenOf, hnext] at hresult

/-- The scan of a message's header from the start of a message. -/
theorem Sent.WellFormed.scan (hw : w.WellFormed T scanner) (m : Scan κ) :
    ∃ m', run (headerScan T) m.restart w.header =
      (w.msg.headers, .inr ((m', true), [])) ∧ m'.numHeaders ≤ 1024 := by
  obtain ⟨m₀, hrun₀, hnum₀⟩ := run_of_scanned hw.ended hw.whole hw.events
  obtain ⟨m', hrun, hnum⟩ := Scan.run_restart T.headers hrun₀ m
  have hle : m'.numHeaders ≤ 1024 := by
    have := hw.numHeaders
    omega
  refine ⟨m', ?_, hle⟩
  rw [headerScan, guarded_of_run, hrun]
  intro p q out m₁ hsplit hp
  constructor
  · obtain ⟨m₂, hp₂, htail⟩ := Scan.tail_restart T.headers hp (Scan.ofScanner scanner none)
    obtain ⟨hresult, hlen⟩ := scanned_of_run hp₂
    have hfits := hw.fits p q hsplit hresult
    rwa [hlen, htail] at hfits
  · rw [hsplit, run_append, hp] at hrun
    exact (Scan.numHeaders_run T.headers (Prod.ext rfl (congrArg Prod.snd hrun :))).trans hle

end

namespace Framer
variable (T : Transport κ)

theorem run_crlfs (m : Scan κ) (n : ℕ) (data : Bytes) :
    run (step T) (.header m.restart []) (crlfs n ++ data) =
      run (step T) (.header m.restart []) data := by
  rw [run_header, run_header, run_scan_crlfs]

/-- One message is let out when its last byte is read. -/
theorem run_sent {scanner : MsgHeaderScanner κ} {w : Sent κ} (hw : w.WellFormed T scanner)
    (m : Scan κ) (data : Bytes) :
    ∃ m' : Scan κ, run (step T) (.header m.restart []) (w.bytes ++ data) =
      after [w.msg] (run (step T) (.header m'.restart []) data) := by
  obtain ⟨m', hscan, hnum⟩ := hw.scan m
  refine ⟨m', ?_⟩
  rw [Sent.bytes, List.append_assoc, run_crlfs, List.append_assoc, run_header, run_append, hscan]
  simp only [resume, List.nil_append]
  rw [proceed_headersEnded T hw.contentLength hnum hw.messageSize]
  simp

/-- A stream of messages with keepalives between them lets out these messages. -/
theorem run_stream {scanner : MsgHeaderScanner κ} {sent : List (Sent κ)}
    (hsent : ∀ w ∈ sent, w.WellFormed T scanner) (m : Scan κ) (n : ℕ) :
    ∃ m' : Scan κ, run (step T) (.header m.restart []) ((sent.map Sent.bytes).flatten ++ crlfs n) =
      (sent.map Sent.msg, .inl (.header m'.restart [])) := by
  induction sent generalizing m with
  | nil =>
    refine ⟨m, ?_⟩
    have hcrlfs := run_crlfs T m n []
    simpa [run] using hcrlfs
  | cons w sent ih =>
    obtain ⟨m₁, hrun⟩ := run_sent T (hsent w List.mem_cons_self) m
      ((sent.map Sent.bytes).flatten ++ crlfs n)
    obtain ⟨m₂, hrest⟩ := ih (fun w hw => hsent w (List.mem_cons_of_mem _ hw)) m₁
    refine ⟨m₂, ?_⟩
    rw [List.map_cons, List.flatten_cons, List.append_assoc, hrun, hrest]
    rfl

end Framer

end Resiprocate.Stream
