import Resiprocate.ConnectionMessages
import Resiprocate.Keepalives

/-! The keepalives that `preparseNewBytes` notices. They are matched against the bytes of one read, so
that which of them are noticed depends on where the reads end in the gaps between messages. -/
namespace Resiprocate.Stream
open Scanner StreamMachine

variable {κ : Type*}

def Output.keepalive? : Output κ → Option Keepalive
  | .doubleCRLF => some .onDoubleCRLF
  | .singleCRLF => some .onSingleCRLF
  | .pushRxMsgUp _ | .dropped _ => none

/-- The calls of `onDoubleCRLF` and `onSingleCRLF`. -/
def keepalives (out : List (Output κ)) : List Keepalive := out.filterMap Output.keepalive?

theorem keepalives_append (out out' : List (Output κ)) :
    keepalives (out ++ out') = keepalives out ++ keepalives out' := List.filterMap_append

/-- What is left of a message that is being read. -/
inductive Framer.Inside (T : Transport κ) : Framer κ → Bytes → Prop
  | header {m m' : Scan κ} {events out : List (Event κ)} {header body : Bytes} (hfits : Fitting m)
      (hscan : run (headerScan T) m header = (out, .inr ((m', true), [])))
      (hnum : m'.numHeaders ≤ 1024) (hlength : T.contentLength (events ++ out) = some body.length)
      (hmax : body.length ≤ T.messageSizeMax) : Inside T (.header m events) (header ++ body)
  | body {m : Scan κ} {events : List (Event κ)} {got rest : Bytes} (hrest : rest ≠ [])
      (hlength : T.contentLength events = some (got ++ rest).length) :
      Inside T (.body m events (got ++ rest).length got) rest

theorem fitting_of_run {T : Transport κ} {m m' : Scan κ} {data : Bytes} {out : List (Event κ)}
    (hfits : Fitting m) (hrun : run (headerScan T) m data = (out, .inl m')) : Fitting m' := by
  have hstep : ∀ (m : Scan κ) c, Fitting m → (∀ o ∈ (headerScan T m c).1, True) ∧
      ∀ m', (headerScan T m c).2 = .inl m' → Fitting m' := by
    refine fun m c _ => ⟨fun _ _ => trivial, fun m' h => ?_⟩
    exact (guarded_inl (Prod.ext rfl h : headerScan T m c = (_, .inl m'))).2
  exact (run_invariant hstep hfits data).2 m' (congrArg Prod.snd hrun)

namespace Connection
variable (T : Transport κ)

@[simp] theorem keepalives_deliver (msg : SipMessage κ) : keepalives (deliver T msg) = [] := by
  unfold deliver
  split_ifs <;> rfl

/-! ### Inside of a message -/

section Inside
variable {T} {c : Connection κ} {m : Scan κ} {events : List (Event κ)} {data more : Bytes} {bytesRead : ℕ}

/-- A part of what is left of a message is read, and the connection goes on inside of it. -/
def GoesOn (T : Transport κ) (more : Bytes) (r : List (Output κ) × Next κ) : Prop :=
  ∃ c' φ, r = ([], .done true c') ∧ c'.mConnState ≠ .newMessage ∧ c'.Holds T φ ∧
    Framer.Inside T φ more

/-- All that is left of a message is read, and then `more`. -/
def Completes (T : Transport κ) (more : Bytes) (r : List (Output κ) × Next κ) : Prop :=
  ∃ (msg : SipMessage κ) (c' : Connection κ), r = (deliver T msg, c'.overhang more)

theorem headersEnded_goesOn {body : Bytes} (hmsg : c.mMessage = ⟨events, []⟩) (hm : m.restart = c.nextScan)
    (hlength : T.contentLength events = some (body ++ more).length)
    (hmax : (body ++ more).length ≤ T.messageSizeMax) (hmore : more ≠ []) :
    GoesOn T more (c.headersEnded T body) := by
  have hlt : body.length < (body ++ more).length := by
    rw [List.length_append]
    exact Nat.lt_add_of_pos_right (List.length_pos_of_ne_nil hmore)
  simp only [headersEnded, hmsg, hlength, if_neg (not_lt.mpr hmax), if_pos hlt]
  exact ⟨_, .body m events (body ++ more).length body, rfl, by simp,
    ⟨rfl, rfl, rfl, rfl, hlength, hlt, hm⟩, .body hmore hlength⟩

theorem headersEnded_completes {body : Bytes} (hmsg : c.mMessage = ⟨events, []⟩)
    (hlength : T.contentLength events = some body.length) (hmax : body.length ≤ T.messageSizeMax) :
    Completes T more (c.headersEnded T (body ++ more)) := by
  have hnot : ¬(body ++ more).length < body.length := by
    rw [List.length_append]
    omega
  simp only [headersEnded, hmsg, hlength, if_neg (not_lt.mpr hmax), if_neg hnot, List.drop_left]
  exact ⟨_, c, rfl⟩

/-- The header ends before the chunk does. -/
theorem run_header_past {header rest : Bytes} {m' : Scan κ} {out : List (Event κ)}
    (hscan : run (headerScan T) m header = (out, .inr ((m', true), []))) :
    run (headerScan T) m (header ++ rest) = (out, .inr ((m', true), rest)) := by
  rw [run_append, hscan]
  rfl

theorem readingHeaders_goesOn (hscanner : c.mMsgHeaderScanner.Holds m) (hmsg : c.mMessage = ⟨events, []⟩)
    (hbuffer : c.mBuffer = some (m.tail ++ data))
    (hpos : c.mBufferPos + bytesRead = (m.tail ++ data).length)
    (hinside : Framer.Inside T (.header m events) (data ++ more)) (hmore : more ≠ []) :
    GoesOn T more (c.readingHeaders T bytesRead) := by
  generalize hrest : data ++ more = rest at hinside
  cases hinside with
  | @header _ m' _ out header body hfits hscan hnum hlength hmax =>
    by_cases hshort : data.length < header.length
    · -- the header goes on after the chunk
      obtain ⟨part, hpart, rfl⟩ : ∃ part, header = data ++ part ∧ more = part ++ body := by
        rcases List.append_eq_append_iff.mp hrest with ⟨part, hheader, hmore'⟩ | ⟨part, hdata, -⟩
        · exact ⟨part, hheader, hmore'⟩
        · rw [hdata, List.length_append] at hshort
          omega
      have hne : part ≠ [] := by
        rintro rfl
        rw [hpart, List.append_nil] at hshort
        exact absurd hshort (lt_irrefl _)
      rw [hpart, run_append] at hscan
      cases hfirst : run (headerScan T) m data with
      | mk out₁ next =>
        rw [hfirst] at hscan
        obtain m₁ | ⟨x, rest'⟩ := next
        · obtain ⟨out₂, rfl, hsecond⟩ := after_eq hscan
          have hfits₁ := fitting_of_run hfits hfirst
          obtain ⟨c', hread, hstate, hholds⟩ :=
            readingHeaders_more T hscanner hmsg hbuffer hpos hfirst hfits₁
          refine ⟨c', .header m₁ (events ++ out₁), hread, by simp [hstate], hholds, ?_⟩
          exact .header hfits₁ hsecond hnum (by rwa [List.append_assoc]) hmax
        · have hnil : rest' ++ part = [] := by
            have hsnd := congrArg Prod.snd hscan
            simp only [resume, Sum.inr.injEq, Prod.mk.injEq] at hsnd
            exact hsnd.2
          exact absurd (List.append_eq_nil_iff.mp hnil).2 hne
    · obtain ⟨part, rfl, rfl⟩ : ∃ part, data = header ++ part ∧ body = part ++ more := by
        rcases List.append_eq_append_iff.mp hrest with ⟨part, hheader, hmore'⟩ | ⟨part, hdata, hbody⟩
        · have hnil : part = [] := by
            rw [hheader, List.length_append] at hshort
            exact List.eq_nil_of_length_eq_zero (by omega)
          subst hnil
          exact ⟨[], by simpa using hheader.symm, by simpa using hmore'.symm⟩
        · exact ⟨part, hdata, hbody⟩
      obtain ⟨c', hended, hmsg', hm⟩ :=
        readingHeaders_ended T hscanner hmsg hbuffer hpos (run_header_past hscan) hnum
      rw [hended]
      exact headersEnded_goesOn hmsg' hm hlength hmax hmore

theorem readingHeaders_completes {rest : Bytes} (hscanner : c.mMsgHeaderScanner.Holds m)
    (hmsg : c.mMessage = ⟨events, []⟩) (hbuffer : c.mBuffer = some (m.tail ++ (rest ++ more)))
    (hpos : c.mBufferPos + bytesRead = (m.tail ++ (rest ++ more)).length)
    (hinside : Framer.Inside T (.header m events) rest) :
    Completes T more (c.readingHeaders T bytesRead) := by
  cases hinside with
  | @header _ m' _ out header body hfits hscan hnum hlength hmax =>
    rw [List.append_assoc] at hbuffer hpos
    obtain ⟨c', hended, hmsg', -⟩ :=
      readingHeaders_ended T hscanner hmsg hbuffer hpos (run_header_past hscan) hnum
    rw [hended]
    exact headersEnded_completes hmsg' hlength hmax

theorem partialBody_goesOn {φ : Framer κ} (hstate : c.mConnState = .partialBody)
    (hready : c.Ready T data φ) (hinside : Framer.Inside T φ (data ++ more)) (hmore : more ≠ []) :
    GoesOn T more (c.partialBody T data.length) := by
  generalize hrest : data ++ more = rest at hinside
  cases hinside with
  | header => simp [Ready, hstate] at hready
  | @body m events got rest hne hlength =>
    obtain ⟨-, hbuffer, hpos, hmsg, -, hgot, hm⟩ := hready
    have hread : (c.mBuffer.getD []).take (c.mBufferPos + data.length) = got ++ data := by
      rw [hbuffer, hpos, Option.getD_some, ← List.length_append, List.take_length]
    have hlt : c.mBufferPos + data.length < (got ++ rest).length := by
      rw [hpos, ← hrest, List.length_append, List.length_append]
      have := List.length_pos_of_ne_nil hmore
      omega
    have hholds : (got ++ data).length = c.mBufferPos + data.length := by
      rw [hpos, List.length_append]
    have hinside' : Framer.Inside T (.body m events (got ++ rest).length (got ++ data)) more := by
      rw [← hrest, ← List.append_assoc]
      exact .body hmore (by rw [List.append_assoc, hrest, hlength])
    have hshort : (got ++ data).length < (got ++ rest).length := by omega
    simp only [partialBody, hmsg, hlength, hread, if_neg (not_le.mpr hlt)]
    split_ifs
    · exact ⟨_, .body m events _ (got ++ data), rfl, by simp [hstate],
        ⟨hstate, hbuffer, hholds.symm, rfl, hlength, hshort, hm⟩, hinside'⟩
    · exact ⟨_, .body m events _ (got ++ data), rfl, by simp [hstate],
        ⟨hstate, hbuffer, hholds.symm, rfl, hlength, hshort, hm⟩, hinside'⟩

theorem partialBody_completes {φ : Framer κ} {rest : Bytes} (hstate : c.mConnState = .partialBody)
    (hready : c.Ready T (rest ++ more) φ) (hinside : Framer.Inside T φ rest) :
    Completes T more (c.partialBody T (rest ++ more).length) := by
  cases hinside with
  | header => simp [Ready, hstate] at hready
  | @body m events got rest hne hlength =>
    obtain ⟨-, hbuffer, hpos, hmsg, -, hgot, hm⟩ := hready
    have hread : (c.mBuffer.getD []).take (c.mBufferPos + (rest ++ more).length) = got ++ rest ++ more := by
      rw [hbuffer, hpos, Option.getD_some, ← List.length_append, List.take_length, List.append_assoc]
    have hle : (got ++ rest).length ≤ c.mBufferPos + (rest ++ more).length := by
      rw [hpos, List.length_append, List.length_append]
      omega
    simp only [partialBody, hmsg, hlength, hread, if_pos hle, List.drop_left]
    exact ⟨_, _, rfl⟩

theorem pass_goesOn {φ : Framer κ} (hstate : c.mConnState ≠ .newMessage) (hready : c.Ready T data φ)
    (hinside : Framer.Inside T φ (data ++ more)) (hmore : more ≠ []) :
    GoesOn T more (c.pass T data.length) := by
  cases φ with
  | header m events =>
    rcases hready with ⟨n, hnew, -⟩ | ⟨hreading, hbuffer, hpos, hscanner, hmsg⟩
    · exact absurd hnew hstate
    · simp only [pass, hreading]
      exact readingHeaders_goesOn hscanner hmsg hbuffer (by rw [hpos, List.length_append]) hinside hmore
  | body m events contentLength got =>
    simp only [pass, hready.1]
    exact partialBody_goesOn hready.1 hready hinside hmore

theorem pass_completes {φ : Framer κ} {rest : Bytes} (hstate : c.mConnState ≠ .newMessage)
    (hready : c.Ready T (rest ++ more) φ) (hinside : Framer.Inside T φ rest) :
    Completes T more (c.pass T (rest ++ more).length) := by
  cases φ with
  | header m events =>
    rcases hready with ⟨n, hnew, -⟩ | ⟨hreading, hbuffer, hpos, hscanner, hmsg⟩
    · exact absurd hnew hstate
    · simp only [pass, hreading]
      exact readingHeaders_completes hscanner hmsg hbuffer (by simp only [hpos, List.length_append]) hinside
  | body m events contentLength got =>
    simp only [pass, hready.1]
    exact partialBody_completes hready.1 hready hinside

/-- A new message begins where there is no whole line end. The scanner passes over line ends as well. -/
theorem newMessage_reads {j : ℕ} (hbuffer : c.mBuffer = some (crlfs j ++ data))
    (hpos : c.mBufferPos = (crlfs j).length) (hno : ¬[13, 10] <+: data) :
    c.newMessage T data.length = readingHeaders T { c with
      mMessage := ⟨[], []⟩
      mMsgHeaderScanner := c.mMsgHeaderScanner.prepareForMessage } data.length := by
  have hdata : ((c.mBuffer.getD []).drop c.mBufferPos).take data.length = data := by
    rw [hbuffer, hpos, Option.getD_some, List.drop_left, List.take_length]
  have hdouble : ¬(4 ≤ data.length ∧ data.take 4 = [13, 10, 13, 10]) := by
    rintro ⟨-, htake⟩
    have hfour : [13, 10, 13, 10] <+: data := htake ▸ List.take_prefix 4 data
    exact hno ((List.prefix_append [13, 10] [13, 10]).trans hfour)
  have hsingle : ¬(2 ≤ data.length ∧ data.take 2 = [13, 10]) := by
    rintro ⟨-, htake⟩
    exact hno (htake ▸ List.take_prefix 2 data)
  simp only [newMessage, hdata, if_neg hdouble, if_neg hsingle]

theorem Inside.crlfs {rest : Bytes} (h : Framer.Inside T (.header m.restart events) rest) (j : ℕ) :
    Framer.Inside T (.header m.restart events) (crlfs j ++ rest) := by
  generalize hφ : Framer.header m.restart events = φ at h
  cases h with
  | @header m₁ m' _ out header body hfits hscan hnum hlength hmax =>
    cases hφ
    rw [← List.append_assoc]
    exact .header hfits ((run_scan_crlfs T m j header).trans hscan) hnum hlength hmax
  | body => cases hφ

theorem newMessage_goesOn {j : ℕ} (hbuffer : c.mBuffer = some (crlfs j ++ data))
    (hpos : c.mBufferPos = (crlfs j).length) (hno : ¬[13, 10] <+: data)
    (hinside : Framer.Inside T (.header c.nextScan []) (data ++ more)) (hmore : more ≠ []) :
    GoesOn T more (c.newMessage T data.length) := by
  rw [newMessage_reads hbuffer hpos hno]
  have hall := Inside.crlfs (m := Scan.ofScanner c.mMsgHeaderScanner none) hinside j
  rw [← List.append_assoc] at hall
  refine readingHeaders_goesOn (m := c.nextScan) (MsgHeaderScanner.holds_of_unsaved rfl) rfl hbuffer ?_
    hall hmore
  simp [hpos, nextScan, Scan.tail, Scan.ofScanner]

theorem newMessage_completes {j : ℕ} {rest : Bytes} (hbuffer : c.mBuffer = some (crlfs j ++ (rest ++ more)))
    (hpos : c.mBufferPos = (crlfs j).length) (hno : ¬[13, 10] <+: rest ++ more)
    (hinside : Framer.Inside T (.header c.nextScan []) rest) :
    Completes T more (c.newMessage T (rest ++ more).length) := by
  rw [newMessage_reads hbuffer hpos hno]
  have hall := Inside.crlfs (m := Scan.ofScanner c.mMsgHeaderScanner none) hinside j
  rw [← List.append_assoc] at hbuffer
  refine readingHeaders_completes (m := c.nextScan) (MsgHeaderScanner.holds_of_unsaved rfl) rfl hbuffer ?_ hall
  simp [hpos, nextScan, Scan.tail, Scan.ofScanner]

end Inside

end Connection

/-! ### Positions in a stream -/

/-- Where a stream has been read to: `k` line ends before the messages `sent`, in a message, or after a
lone CR at the end, where the scanner passes over the rest. -/
inductive Position (κ : Type*)
  | gap (k : ℕ) (sent : List (Sent κ))
  | inside (rest : Bytes) (sent : List (Sent κ))
  | passed (rest : Bytes)

namespace Position
variable (n : ℕ)

/-- The line ends before messages, or after the last one. -/
def nextGap : List (Sent κ) → ℕ
  | [] => n
  | w :: _ => w.keepalives

/-- The bytes after a gap. -/
def afterGap : List (Sent κ) → Bytes
  | [] => []
  | w :: sent => (w.header ++ w.msg.body) ++ (crlfs (nextGap n sent) ++ afterGap sent)

/-- What is left to read. -/
def bytes : Position κ → Bytes
  | gap k sent => crlfs k ++ afterGap n sent
  | inside rest sent => rest ++ (crlfs (nextGap n sent) ++ afterGap n sent)
  | passed rest => rest

/-- The lengths of messages, and the line ends after each. -/
def gaps : List (Sent κ) → List (ℕ × ℕ)
  | [] => []
  | w :: sent => ((w.header ++ w.msg.body).length, nextGap n sent) :: gaps sent

/-- The keepalives that are seen from there on, if reads end where `ends` says. -/
def seen (ends : ℕ → Bool) : Position κ → List Keepalive
  | gap k sent => streamKeepalives k (gaps n sent) ends
  | inside rest sent => streamKeepalives (nextGap n sent) (gaps n sent) fun i => ends (i + rest.length)
  | passed _ => []

/-- The messages that are to come. They do not start with a line end. -/
def Good (T : Transport κ) (scanner : MsgHeaderScanner κ) : Position κ → Prop
  | gap _ sent | inside _ sent => ∀ w ∈ sent, w.WellFormed T scanner ∧ w.header.head? ≠ some 13
  | passed _ => True

variable {n} {w : Sent κ} {sent : List (Sent κ)} {k : ℕ} {ends : ℕ → Bool}

/-- A gap that is passed over by the scanner is as if it were in the message after it. -/
theorem seen_gap_cons (h : gapKeepalives k ends = []) : (gap k (w :: sent)).seen n ends =
    (inside (crlfs k ++ (w.header ++ w.msg.body)) sent).seen n ends := by
  simp only [seen, gaps, streamKeepalives, h, List.nil_append, List.length_append, length_crlfs]

theorem bytes_gap_cons : (gap k (w :: sent)).bytes n =
    (inside (crlfs k ++ (w.header ++ w.msg.body)) sent).bytes n := by
  rw [bytes, bytes, afterGap, List.append_assoc (crlfs k)]

/-- A keepalive of `j` line ends that is seen is the first. -/
theorem seen_gap_seen {j : ℕ} {a : Keepalive}
    (h : gapKeepalives (k + j) ends = a :: gapKeepalives k fun i => ends (i + 2 * j)) :
    (gap (k + j) sent).seen n ends = a :: (gap k sent).seen n fun i => ends (i + 2 * j) :=
  streamKeepalives_cons h

end Position

namespace Connection
variable (T : Transport κ) {scanner : MsgHeaderScanner κ} {n : ℕ}

/-! ### What a connection holds at a position -/

/-- Between two reads. -/
def Between (c : Connection κ) : Position κ → Prop
  | .gap _ _ => c.mConnState = .newMessage ∧ c.mBuffer = none
  | .inside rest _ => c.mConnState ≠ .newMessage ∧ ∃ φ, c.Holds T φ ∧ Framer.Inside T φ rest
  | .passed rest => c.mConnState = .readingHeaders ∧ ∃ m m', Fitting m ∧ c.Holds T (.header m []) ∧
      run (headerScan T) m rest = ([], .inl m')

/-- Before a pass over `data`. -/
def At (c : Connection κ) (data : Bytes) : Position κ → Prop
  | .gap _ _ => c.mConnState = .newMessage ∧
      ∃ j, c.mBuffer = some (crlfs j ++ data) ∧ c.mBufferPos = (crlfs j).length
  | .inside rest _ => c.mConnState ≠ .newMessage ∧ ∃ φ, c.Ready T data φ ∧ Framer.Inside T φ rest
  | .passed rest => c.mConnState = .readingHeaders ∧ ∃ m m', Fitting m ∧ c.Ready T data (.header m []) ∧
      run (headerScan T) m rest = ([], .inl m')

theorem fill_mConnState (c : Connection κ) (data : Bytes) : (c.fill data).mConnState = c.mConnState := by
  simp only [fill, getWriteBuffer]
  split_ifs
  · cases c.mBuffer <;> rfl
  · rfl

variable {T}

theorem Between.fill {c : Connection κ} {pos : Position κ} (h : c.Between T pos) (data : Bytes) :
    (c.fill data).At T data pos := by
  cases pos with
  | gap k sent =>
    obtain ⟨hstate, hbuffer⟩ := h
    refine ⟨by rw [fill_mConnState, hstate], 0, ?_, ?_⟩
    · simp [Connection.fill, getWriteBuffer, hstate, hbuffer, crlfs]
    · simp [Connection.fill, getWriteBuffer, hstate, hbuffer, crlfs]
  | inside rest sent =>
    obtain ⟨hstate, φ, hholds, hinside⟩ := h
    exact ⟨by rwa [fill_mConnState], φ, hholds.fill T data, hinside⟩
  | passed rest =>
    obtain ⟨hstate, m, m', hfits, hholds, hrun⟩ := h
    exact ⟨by rwa [fill_mConnState], m, m', hfits, hholds.fill T data, hrun⟩

/-- The message after a gap. -/
theorem inside_of_wellFormed {w : Sent κ} (hw : w.WellFormed T scanner) (c : Connection κ) :
    Framer.Inside T (.header c.nextScan []) (w.header ++ w.msg.body) := by
  obtain ⟨m', hscan, hnum⟩ := hw.scan (Scan.ofScanner c.mMsgHeaderScanner none)
  exact .header ⟨Nat.zero_le _, Nat.zero_le _⟩ hscan hnum hw.contentLength hw.messageSize

theorem Inside.ne_nil {φ : Framer κ} {rest : Bytes} (h : Framer.Inside T φ rest) : rest ≠ [] := by
  cases h with
  | header hfits hscan =>
    rintro hnil
    rw [(List.append_eq_nil_iff.mp hnil).1] at hscan
    cases hscan
  | body hrest => exact hrest

/-! ### Line ends after the last message -/

section Passing
variable {c : Connection κ} {m m' : Scan κ} {data more : Bytes} {bytesRead : ℕ}

/-- The scanner passes over line ends, and waits for a message. -/
theorem readingHeaders_passing (hscanner : c.mMsgHeaderScanner.Holds m) (hmsg : c.mMessage = ⟨[], []⟩)
    (hbuffer : c.mBuffer = some (m.tail ++ data)) (hpos : c.mBufferPos + bytesRead = (m.tail ++ data).length)
    (hfits : Fitting m) (hrun : run (headerScan T) m (data ++ more) = ([], .inl m')) :
    ∃ c', c.readingHeaders T bytesRead = ([], .done true c') ∧ c'.Between T (.passed more) := by
  rw [run_append] at hrun
  cases hfirst : run (headerScan T) m data with
  | mk out₁ next =>
    rw [hfirst] at hrun
    obtain m₁ | ⟨x, rest⟩ := next
    · obtain ⟨out₂, hout, hsecond⟩ := after_eq hrun
      obtain ⟨rfl, rfl⟩ := List.append_eq_nil_iff.mp hout.symm
      have hfits₁ := fitting_of_run hfits hfirst
      obtain ⟨c', hread, hstate, hholds⟩ :=
        readingHeaders_more T hscanner hmsg hbuffer hpos hfirst hfits₁
      exact ⟨c', hread, hstate, m₁, m', hfits₁, hholds, hsecond⟩
    · simp [resume] at hrun

theorem newMessage_passing {j k : ℕ} (hbuffer : c.mBuffer = some (crlfs j ++ data))
    (hpos : c.mBufferPos = (crlfs j).length) (hno : ¬[13, 10] <+: data)
    (hdata : data ++ more = crlfs k) :
    ∃ c', c.newMessage T data.length = ([], .done true c') ∧ c'.Between T (.passed more) := by
  rw [newMessage_reads hbuffer hpos hno]
  have hall : run (headerScan T) c.nextScan (crlfs (j + k)) = ([], .inl c.nextScan) := by
    have hcrlfs := run_scan_crlfs T (Scan.ofScanner c.mMsgHeaderScanner none) (j + k) []
    rw [List.append_nil] at hcrlfs
    exact hcrlfs
  rw [crlfs_add, ← hdata, ← List.append_assoc] at hall
  refine readingHeaders_passing (m := c.nextScan) (MsgHeaderScanner.holds_of_unsaved rfl) rfl hbuffer ?_
    ⟨Nat.zero_le _, Nat.zero_le _⟩ hall
  simp [hpos, nextScan, Scan.tail, Scan.ofScanner]

end Passing

/-! ### A pass from a position to the next -/

/-- Reads end after `length` bytes, and not before. -/
def ReadEnds (ends : ℕ → Bool) (length : ℕ) : Prop :=
  (∀ i, 0 < i → i < length → ends i = false) ∧ ends length = true

/-- How a pass over `data` should end, when `want` is to be seen in the rest of the stream: what is let
out comes first, and the rest is to be seen from the position that the connection comes to. -/
inductive Stepped (T : Transport κ) (scanner : MsgHeaderScanner κ) (n : ℕ) (ends : ℕ → Bool)
    (data more : Bytes) (want : List Keepalive) : List (Output κ) × Next κ → Prop
  | done {out : List (Output κ)} {c : Connection κ} {p : Position κ} (hc : c.Between T p)
      (hgood : p.Good T scanner) (hbytes : p.bytes n = more)
      (hwant : want = keepalives out ++ p.seen n fun i => ends (i + data.length)) :
      Stepped T scanner n ends data more want (out, .done true c)
  | start {out : List (Output κ)} {c : Connection κ} {p : Position κ} {used rest : Bytes}
      (hdata : data = used ++ rest) (hused : used ≠ []) (hrest : rest ≠ []) (hc : c.At T rest p)
      (hgood : p.Good T scanner) (hbytes : p.bytes n = rest ++ more)
      (hwant : want = keepalives out ++ p.seen n fun i => ends (i + used.length)) :
      Stepped T scanner n ends data more want (out, .start c rest.length)

section Steps
variable {ends : ℕ → Bool} {c : Connection κ} {sent : List (Sent κ)} {data more rest part : Bytes}
  {r : List (Output κ) × Next κ}

theorem GoesOn.stepped (h : GoesOn T part r)
    (hgood : (Position.inside (data ++ part) sent).Good T scanner)
    (hbytes : (Position.inside (data ++ part) sent).bytes n = data ++ more) :
    Stepped T scanner n ends data more ((Position.inside (data ++ part) sent).seen n ends) r := by
  obtain ⟨c', φ, rfl, hstate, hholds, hinside⟩ := h
  refine .done (p := .inside part sent) ⟨hstate, φ, hholds, hinside⟩ hgood ?_ ?_
  · rw [Position.bytes, List.append_assoc] at hbytes
    exact List.append_cancel_left hbytes
  · have hlength (i : ℕ) : i + part.length + data.length = i + (data ++ part).length := by
      rw [List.length_append]
      omega
    simp only [Position.seen, keepalives, List.filterMap_nil, List.nil_append, hlength]

theorem Completes.stepped (h : Completes T part r) (hrest : rest ≠ [])
    (hgood : (Position.inside rest sent).Good T scanner)
    (hbytes : (Position.inside rest sent).bytes n = (rest ++ part) ++ more) :
    Stepped T scanner n ends (rest ++ part) more ((Position.inside rest sent).seen n ends) r := by
  obtain ⟨msg, c', rfl⟩ := h
  have htail : (Position.gap (Position.nextGap n sent) sent).bytes n = part ++ more := by
    rw [Position.bytes, List.append_assoc] at hbytes
    exact List.append_cancel_left hbytes
  unfold overhang
  by_cases hpart : part = []
  · subst hpart
    rw [if_pos rfl]
    refine .done (p := .gap (Position.nextGap n sent) sent) ⟨rfl, rfl⟩ hgood htail ?_
    rw [keepalives_deliver, List.nil_append, List.append_nil]
    rfl
  · rw [if_neg hpart]
    refine .start (p := .gap (Position.nextGap n sent) sent) rfl hrest hpart ⟨rfl, 0, rfl, rfl⟩ hgood
      htail ?_
    rw [keepalives_deliver, List.nil_append]
    rfl

/-- A pass that starts inside of a message, or where it begins. -/
theorem stepped_of_inside (hrest : rest ≠ [])
    (hgood : (Position.inside rest sent).Good T scanner)
    (hbytes : (Position.inside rest sent).bytes n = data ++ more)
    (hgoes : ∀ part, rest = data ++ part → part ≠ [] → GoesOn T part r)
    (hcompletes : ∀ part, data = rest ++ part → Completes T part r) :
    Stepped T scanner n ends data more ((Position.inside rest sent).seen n ends) r := by
  rcases List.append_eq_append_iff.mp hbytes with ⟨part, rfl, -⟩ | ⟨part, rfl, -⟩
  · exact (hcompletes part rfl).stepped hrest hgood hbytes
  · by_cases hpart : part = []
    · subst hpart
      have hdone := hcompletes [] (by simp)
      have hbytes' : (Position.inside (data ++ []) sent).bytes n = (data ++ [] ++ []) ++ more := by
        simpa using hbytes
      have hstep : Stepped T scanner n ends _ more _ r := hdone.stepped hrest hgood hbytes'
      simpa using hstep
    · exact (hgoes part rfl hpart).stepped hgood hbytes

/-- A keepalive of `i` line ends is noticed at the start of a gap. -/
theorem keepalive_stepped {o : Output κ} {a : Keepalive} {i j k : ℕ} (hout : o.keepalive? = some a)
    (hi : 0 < i) (hstate : c.mConnState = .newMessage)
    (hbuffer : c.mBuffer = some (crlfs j ++ (crlfs i ++ rest))) (hpos : c.mBufferPos = (crlfs j).length)
    (hgood : (Position.gap (k + i) sent).Good T scanner)
    (hbytes : (Position.gap (k + i) sent).bytes n = crlfs i ++ rest ++ more)
    (hgap : gapKeepalives (k + i) ends = a :: gapKeepalives k fun l => ends (l + 2 * i)) :
    Stepped T scanner n ends (crlfs i ++ rest) more ((Position.gap (k + i) sent).seen n ends)
      ([o], if rest.length = 0 then
          .done true { c with mBuffer := none, mBufferPos := c.mBufferPos + 2 * i }
        else .start { c with mBufferPos := c.mBufferPos + 2 * i } rest.length) := by
  have hrest : (Position.gap k sent).bytes n = rest ++ more := by
    rw [Position.bytes, Nat.add_comm k i, crlfs_add, List.append_assoc, List.append_assoc] at hbytes
    exact List.append_cancel_left hbytes
  have hone : keepalives [o] = [a] := by simp [keepalives, hout]
  rw [Position.seen_gap_seen hgap]
  by_cases hnil : rest.length = 0
  · obtain rfl : rest = [] := List.eq_nil_of_length_eq_zero hnil
    rw [if_pos hnil]
    refine .done (p := .gap k sent) ⟨hstate, rfl⟩ hgood hrest ?_
    rw [hone, List.append_nil, length_crlfs]
    rfl
  · rw [if_neg hnil]
    have hne : crlfs i ≠ [] := by
      intro h
      have hlength := length_crlfs i
      rw [h, List.length_nil] at hlength
      omega
    refine .start (p := .gap k sent) rfl hne (by rintro rfl; exact hnil rfl) ⟨hstate, j + i, ?_, ?_⟩
      hgood hrest ?_
    · rw [hbuffer, crlfs_add, List.append_assoc]
    · simp only [hpos, length_crlfs]
      omega
    · rw [hone, length_crlfs]
      rfl

theorem newMessage_double {j : ℕ} (hbuffer : c.mBuffer = some (crlfs j ++ (crlfs 2 ++ rest)))
    (hpos : c.mBufferPos = (crlfs j).length) :
    c.newMessage T (crlfs 2 ++ rest).length = ([.doubleCRLF],
      if rest.length = 0 then .done true { c with mBuffer := none, mBufferPos := c.mBufferPos + 2 * 2 }
      else .start { c with mBufferPos := c.mBufferPos + 2 * 2 } rest.length) := by
  have hdata : ((c.mBuffer.getD []).drop c.mBufferPos).take (crlfs 2 ++ rest).length = crlfs 2 ++ rest := by
    rw [hbuffer, hpos, Option.getD_some, List.drop_left, List.take_length]
  have hlength : (crlfs 2 ++ rest).length = rest.length + 4 := by
    rw [List.length_append, length_crlfs]
    omega
  simp only [newMessage, hdata]
  rw [if_pos ⟨by omega, rfl⟩, hlength, Nat.add_sub_cancel]

theorem newMessage_single {j : ℕ} (hbuffer : c.mBuffer = some (crlfs j ++ (crlfs 1 ++ rest)))
    (hpos : c.mBufferPos = (crlfs j).length) (hno : ¬[13, 10] <+: rest) :
    c.newMessage T (crlfs 1 ++ rest).length = ([.singleCRLF],
      if rest.length = 0 then .done true { c with mBuffer := none, mBufferPos := c.mBufferPos + 2 * 1 }
      else .start { c with mBufferPos := c.mBufferPos + 2 * 1 } rest.length) := by
  have hdata : ((c.mBuffer.getD []).drop c.mBufferPos).take (crlfs 1 ++ rest).length = crlfs 1 ++ rest := by
    rw [hbuffer, hpos, Option.getD_some, List.drop_left, List.take_length]
  have hlength : (crlfs 1 ++ rest).length = rest.length + 2 := by
    rw [List.length_append, length_crlfs]
    omega
  have hdouble : ¬(4 ≤ (crlfs 1 ++ rest).length ∧ (crlfs 1 ++ rest).take 4 = [13, 10, 13, 10]) := by
    rintro ⟨-, htake⟩
    refine hno (List.prefix_iff_eq_take.mpr ?_)
    have hfour : (13 : UInt8) :: 10 :: rest.take 2 = [13, 10, 13, 10] := htake
    simpa using hfour.symm
  simp only [newMessage, hdata]
  rw [if_neg hdouble, if_pos ⟨by omega, rfl⟩, hlength, Nat.add_sub_cancel]

/-- A gap of which nothing is noticed is passed over with the message after it. -/
theorem gap_stepped_past {k j : ℕ} (hdata : data ≠ []) (hbuffer : c.mBuffer = some (crlfs j ++ data))
    (hpos : c.mBufferPos = (crlfs j).length) (hno : ¬[13, 10] <+: data)
    (hgood : (Position.gap k sent).Good T scanner) (hbytes : (Position.gap k sent).bytes n = data ++ more)
    (hgap : gapKeepalives k ends = []) :
    Stepped T scanner n ends data more ((Position.gap k sent).seen n ends) (c.newMessage T data.length) := by
  cases sent with
  | nil =>
    have hall : data ++ more = crlfs k := by
      rw [← hbytes, Position.bytes, Position.afterGap, List.append_nil]
    obtain ⟨c', hread, hc'⟩ := newMessage_passing hbuffer hpos hno hall
    rw [hread]
    exact .done (p := .passed more) hc' trivial rfl hgap
  | cons w sent =>
    rw [Position.seen_gap_cons hgap]
    rw [Position.bytes_gap_cons] at hbytes
    have hinside := inside_of_wellFormed (hgood w List.mem_cons_self).1 c
    have hrest := Inside.crlfs (m := Scan.ofScanner c.mMsgHeaderScanner none) hinside k
    have hgood' : (Position.inside (crlfs k ++ (w.header ++ w.msg.body)) sent).Good T scanner :=
      fun w' hw' => hgood w' (List.mem_cons_of_mem _ hw')
    refine stepped_of_inside (Inside.ne_nil hrest) hgood' hbytes ?_ ?_
    · intro part hpart hne
      exact newMessage_goesOn hbuffer hpos hno (hpart ▸ hrest) hne
    · rintro part rfl
      exact newMessage_completes hbuffer hpos hno hrest

/-- What follows a gap does not start with a line end. -/
theorem not_crlf_of_afterGap {k : ℕ} (hgood : (Position.gap k sent).Good T scanner)
    (h : data ++ more = Position.afterGap n sent) : ¬[13, 10] <+: data := by
  rintro ⟨tail, rfl⟩
  cases sent with
  | nil => cases h
  | cons w sent =>
    obtain ⟨hw, hhead⟩ := hgood w List.mem_cons_self
    obtain ⟨m', hscan, -⟩ := hw.scan (Scan.ofScanner scanner none)
    cases hheader : w.header with
    | nil =>
      rw [hheader] at hscan
      cases (congrArg Prod.snd hscan : Sum.inl _ = _)
    | cons b header =>
      rw [Position.afterGap, hheader] at h
      rw [hheader] at hhead
      have hb : (13 : UInt8) = b := (List.cons.inj h).1
      exact hhead (congrArg some hb.symm)

theorem gap_stepped {k j : ℕ} (hdata : data ≠ []) (hstate : c.mConnState = .newMessage)
    (hbuffer : c.mBuffer = some (crlfs j ++ data)) (hpos : c.mBufferPos = (crlfs j).length)
    (hgood : (Position.gap k sent).Good T scanner) (hbytes : (Position.gap k sent).bytes n = data ++ more)
    (hends : ReadEnds ends data.length) :
    Stepped T scanner n ends data more ((Position.gap k sent).seen n ends) (c.newMessage T data.length) := by
  match k with
  | 0 => exact gap_stepped_past hdata hbuffer hpos (not_crlf_of_afterGap hgood hbytes.symm) hgood hbytes rfl
  | k + 1 =>
    match data with
    | [b] =>
      have hno : ¬[13, 10] <+: [b] := fun h => absurd h.length_le (by simp)
      exact gap_stepped_past hdata hbuffer hpos hno hgood hbytes (gapKeepalives_cut hends.2)
    | b₁ :: b₂ :: rest =>
      rw [Position.bytes, crlfs_succ] at hbytes
      obtain ⟨rfl, hsecond⟩ := List.cons.inj hbytes
      obtain ⟨rfl, hthird⟩ := List.cons.inj hsecond
      have hrest : crlfs k ++ Position.afterGap n sent = rest ++ more := hthird
      have h₁ : ends 1 = false := hends.1 1 (by omega) (by simp)
      have hall : (Position.gap (k + 1) sent).bytes n = crlfs 1 ++ rest ++ more := by
        rw [Position.bytes, crlfs_succ, List.cons_append, List.cons_append, hrest]
        rfl
      by_cases hmore : [13, 10] <+: rest
      · -- a second line end is in the same read
        obtain ⟨rest, rfl⟩ := hmore
        match k with
        | 0 => exact absurd (List.prefix_append _ _) (not_crlf_of_afterGap hgood hrest.symm)
        | k + 1 =>
          have h₂ : ends 2 = false := hends.1 2 (by omega) (by simp)
          have h₃ : ends 3 = false := hends.1 3 (by omega) (by simp)
          have hstep := keepalive_stepped (T := T) (o := .doubleCRLF) (i := 2) rfl (by omega) hstate
            hbuffer hpos hgood hall (gapKeepalives_double h₁ h₂ h₃)
          rw [← newMessage_double hbuffer hpos] at hstep
          exact hstep
      · have hcut : k = 0 ∨ ends 2 = true ∨ ends 3 = true := by
          match k, rest with
          | 0, _ => exact .inl rfl
          | _, [] => exact .inr (.inl hends.2)
          | _, [_] => exact .inr (.inr hends.2)
          | k + 1, b₃ :: b₄ :: rest =>
            rw [crlfs_succ] at hrest
            obtain ⟨hb₃, hfourth⟩ := List.cons.inj hrest
            have hb₄ : 10 = b₄ := (List.cons.inj hfourth).1
            subst hb₃ hb₄
            exact absurd (List.prefix_append [13, 10] rest) hmore
        have hstep := keepalive_stepped (T := T) (o := .singleCRLF) (i := 1) rfl (by omega) hstate
          hbuffer hpos hgood hall (gapKeepalives_single h₁ hcut)
        rw [← newMessage_single hbuffer hpos hmore] at hstep
        exact hstep

theorem passed_stepped (hstate : c.mConnState = .readingHeaders) {m m' : Scan κ} (hfits : Fitting m)
    (hready : c.Ready T data (.header m [])) (hrun : run (headerScan T) m (data ++ more) = ([], .inl m')) :
    Stepped T scanner n ends data more [] (c.pass T data.length) := by
  rcases hready with ⟨j, hnew, -⟩ | ⟨-, hbuffer, hpos, hscanner, hmsg⟩
  · rw [hstate] at hnew
    cases hnew
  · have hlength : c.mBufferPos + data.length = (m.tail ++ data).length := by rw [hpos, List.length_append]
    obtain ⟨c', hread, hc'⟩ := readingHeaders_passing hscanner hmsg hbuffer hlength hfits hrun
    simp only [pass, hstate]
    rw [hread]
    exact .done (p := .passed more) hc' trivial rfl rfl

theorem pass_stepped {pos : Position κ} (hdata : data ≠ []) (hc : c.At T data pos)
    (hgood : pos.Good T scanner) (hbytes : pos.bytes n = data ++ more) (hends : ReadEnds ends data.length) :
    Stepped T scanner n ends data more (pos.seen n ends) (c.pass T data.length) := by
  cases pos with
  | gap k sent =>
    obtain ⟨hstate, j, hbuffer, hpos⟩ := hc
    simp only [pass, hstate]
    exact gap_stepped hdata hstate hbuffer hpos hgood hbytes hends
  | inside rest sent =>
    obtain ⟨hstate, φ, hready, hinside⟩ := hc
    refine stepped_of_inside (Inside.ne_nil hinside) hgood hbytes ?_ ?_
    · rintro part rfl hpart
      exact pass_goesOn hstate hready hinside hpart
    · rintro part rfl
      exact pass_completes hstate hready hinside
  | passed rest =>
    obtain ⟨hstate, m, m', hfits, hready, hrun⟩ := hc
    obtain rfl : rest = data ++ more := hbytes
    exact passed_stepped hstate hfits hready hrun

end Steps

/-! ### Reads -/

theorem passes_seen {fuel : ℕ} {ends : ℕ → Bool} {c : Connection κ} {pos : Position κ} {data more : Bytes}
    (hfuel : data.length < fuel) (hdata : data ≠ []) (hc : c.At T data pos) (hgood : pos.Good T scanner)
    (hbytes : pos.bytes n = data ++ more) (hends : ReadEnds ends data.length) :
    ∃ out c' pos', c.passes T fuel data.length = some (out, true, c') ∧ c'.Between T pos' ∧
      pos'.Good T scanner ∧ pos'.bytes n = more ∧
      pos.seen n ends = keepalives out ++ pos'.seen n fun i => ends (i + data.length) := by
  induction fuel generalizing c data pos ends with
  | zero => omega
  | succ fuel ih =>
    have hstep := pass_stepped hdata hc hgood hbytes hends
    simp only [passes]
    generalize c.pass T data.length = r at hstep
    cases hstep with
    | done hc' hgood' hbytes' hwant => exact ⟨_, _, _, rfl, hc', hgood', hbytes', hwant⟩
    | @start out c' pos' used rest hsplit hused hrest hc' hgood' hbytes' hwant =>
      have hlength : data.length = used.length + rest.length := by rw [hsplit, List.length_append]
      have hused' := List.length_pos_of_ne_nil hused
      have hends' : ReadEnds (fun i => ends (i + used.length)) rest.length := by
        refine ⟨fun i hi hlt => hends.1 _ (by omega) (by omega), ?_⟩
        have htotal : rest.length + used.length = data.length := by omega
        simp only [htotal, hends.2]
      obtain ⟨out', c'', pos'', hpasses, hc'', hgood'', hbytes'', hseen⟩ :=
        ih (by omega) hrest hc' hgood' hbytes' hends'
      refine ⟨out ++ out', c'', pos'', by simp [hpasses], hc'', hgood'', hbytes'', ?_⟩
      have hshift (i : ℕ) : i + rest.length + used.length = i + data.length := by omega
      rw [hwant, hseen, keepalives_append, List.append_assoc]
      simp only [hshift]

end Connection

/-- A read ends after `i` bytes, or the first one begins. -/
def cutAt : List Bytes → ℕ → Bool
  | [], i => i == 0
  | data :: chunks, i => i == 0 || (data.length ≤ i && cutAt chunks (i - data.length))

@[simp] theorem cutAt_zero (chunks : List Bytes) : cutAt chunks 0 = true := by
  cases chunks <;> rfl

theorem cutAt_add (data : Bytes) (chunks : List Bytes) (i : ℕ) :
    cutAt (data :: chunks) (i + data.length) = cutAt chunks i := by
  by_cases hi : i = 0
  · simp [hi, cutAt]
  · have hne : i + data.length ≠ 0 := by omega
    simp [cutAt, hi]

namespace Connection
variable {T : Transport κ} {scanner : MsgHeaderScanner κ} {n : ℕ}

theorem readEnds_cutAt (data : Bytes) (chunks : List Bytes) :
    ReadEnds (cutAt (data :: chunks)) data.length := by
  constructor
  · intro i hi hlt
    have hne : i ≠ 0 := by omega
    simp [cutAt, hne, Nat.not_le.mpr hlt]
  · have hend := cutAt_add data chunks 0
    rwa [Nat.zero_add, cutAt_zero] at hend

/-- Nothing more is seen at the end of the stream. -/
theorem seen_of_bytes_nil {c : Connection κ} {pos : Position κ} (hc : c.Between T pos)
    (hgood : pos.Good T scanner) (hbytes : pos.bytes n = []) (ends : ℕ → Bool) : pos.seen n ends = [] := by
  cases pos with
  | gap k sent =>
    obtain ⟨hk, hafter⟩ := List.append_eq_nil_iff.mp hbytes
    obtain rfl : k = 0 := by
      have hlength := length_crlfs k
      rw [hk, List.length_nil] at hlength
      omega
    cases sent with
    | nil => rfl
    | cons w sent =>
      have hne := Inside.ne_nil (inside_of_wellFormed (hgood w List.mem_cons_self).1 c)
      exact absurd (List.append_eq_nil_iff.mp hafter).1 hne
  | inside rest sent =>
    obtain ⟨-, φ, -, hinside⟩ := hc
    exact absurd (List.append_eq_nil_iff.mp hbytes).1 (Inside.ne_nil hinside)
  | passed rest => rfl

/-- The reads of a stream notice the keepalives that are seen where they end. -/
theorem reads_seen {c : Connection κ} {pos : Position κ} {chunks : List Bytes}
    (hchunks : ∀ data ∈ chunks, data ≠ []) (hc : c.Between T pos) (hgood : pos.Good T scanner)
    (hbytes : pos.bytes n = chunks.flatten) :
    ∃ out c', c.reads T chunks = some (out, true, c') ∧ keepalives out = pos.seen n (cutAt chunks) := by
  induction chunks generalizing c pos with
  | nil => exact ⟨[], c, rfl, (seen_of_bytes_nil hc hgood hbytes _).symm⟩
  | cons data chunks ih =>
    obtain ⟨out₁, c₁, pos₁, hread, hc₁, hgood₁, hbytes₁, hseen⟩ :=
      passes_seen (Nat.lt_succ_self _) (hchunks data List.mem_cons_self) (hc.fill data) hgood hbytes
        (readEnds_cutAt data chunks)
    obtain ⟨out₂, c₂, hreads, hout₂⟩ := ih (fun d hd => hchunks d (List.mem_cons_of_mem _ hd)) hc₁ hgood₁ hbytes₁
    refine ⟨out₁ ++ out₂, c₂, by simp [reads, preparseNewBytes, hread, hreads], ?_⟩
    simp only [cutAt_add] at hseen
    rw [keepalives_append, hout₂, hseen]

theorem bytes_stream (sent : List (Sent κ)) :
    (Position.gap (Position.nextGap n sent) sent).bytes n = (sent.map Sent.bytes).flatten ++ crlfs n := by
  induction sent with
  | nil => simp [Position.bytes, Position.nextGap, Position.afterGap]
  | cons w sent ih =>
    rw [Position.bytes] at ih
    rw [Position.bytes, Position.afterGap, ih, List.map_cons, List.flatten_cons, Sent.bytes]
    simp only [Position.nextGap, List.append_assoc]

/-- In the gaps of a stream, reads end only after whole pings, counted from the start of the gap. -/
def EndAfterPings (n : ℕ) (sent : List (Sent κ)) (chunks : List Bytes) : Prop :=
  AllAfterPings (Position.nextGap n sent) (Position.gaps n sent) (cutAt chunks)

/-- A stream of messages, with keepalives in the gaps between them, cut into reads in two ways. If reads
of the one end in gaps only after whole pings, those of the other notice the same keepalives in the same
order exactly if theirs do so too. Line ends before a message are keepalives, not part of its header. -/
theorem keepalive_recognition (T : Transport κ) (scanner : MsgHeaderScanner κ) (sent : List (Sent κ)) (n : ℕ)
    (hsent : ∀ w ∈ sent, w.WellFormed T scanner ∧ w.header.head? ≠ some 13) (chunks chunks' : List Bytes)
    (hne : ∀ data ∈ chunks, data ≠ []) (hne' : ∀ data ∈ chunks', data ≠ [])
    (hchunks : chunks.flatten = (sent.map Sent.bytes).flatten ++ crlfs n)
    (hchunks' : chunks'.flatten = (sent.map Sent.bytes).flatten ++ crlfs n) :
    ∃ out out' c c', (fresh scanner).reads T chunks = some (out, true, c) ∧
      (fresh scanner).reads T chunks' = some (out', true, c') ∧
      (EndAfterPings n sent chunks → (keepalives out' = keepalives out ↔ EndAfterPings n sent chunks')) := by
  have hc : (fresh scanner).Between T (.gap (Position.nextGap n sent) sent) := ⟨rfl, rfl⟩
  obtain ⟨out, c, hreads, hout⟩ := reads_seen hne hc hsent ((bytes_stream sent).trans hchunks.symm)
  obtain ⟨out', c', hreads', hout'⟩ := reads_seen hne' hc hsent ((bytes_stream sent).trans hchunks'.symm)
  refine ⟨out, out', c, c', hreads, hreads', fun hwhole => ?_⟩
  have huncut := (streamKeepalives_eq_iff _ _ _).mpr hwhole
  rw [hout, hout', Position.seen, Position.seen, huncut]
  exact streamKeepalives_eq_iff _ _ _

/-- Two messages with a ping between them. -/
def pingedSent : List (Sent Bool) :=
  [⟨0, [65, 13, 10, 108, 58, 50, 13, 10, 13, 10],
      ⟨[.setStartLine [65], .addHeader true [108] [50]], [104, 105]⟩⟩,
    ⟨2, [66, 13, 10, 108, 58, 48, 13, 10, 13, 10],
      ⟨[.setStartLine [66], .addHeader true [108] [48]], []⟩⟩]

theorem pingedSent_wellFormed : ∀ w ∈ pingedSent, w.WellFormed sampleTransport sampleScanner ∧
    w.header.head? ≠ some 13 := by
  intro w hw
  simp only [pingedSent, List.mem_cons, List.not_mem_nil, or_false] at hw
  rcases hw with rfl | rfl
  all_goals
    refine ⟨⟨by decide +kernel, by decide +kernel, by decide +kernel, by decide +kernel,
      by decide +kernel, by decide +kernel, ?_⟩, by decide⟩
    exact fits_of_events (by decide +kernel) (by decide +kernel) (by decide +kernel)
      (by simp [Event.Fits, chunkSize])

/-- One read, and reads that end after the ping. -/
theorem keepalive_recognition_ping : ∃ out out' c c',
    (fresh sampleScanner).reads sampleTransport [(pingedSent.map Sent.bytes).flatten] = some (out, true, c) ∧
    (fresh sampleScanner).reads sampleTransport [(pingedSent.map Sent.bytes).flatten.take 16,
      (pingedSent.map Sent.bytes).flatten.drop 16] = some (out', true, c') ∧
    keepalives out' = keepalives out := by
  have hgap (chunks : List Bytes) (h₁ : cutAt chunks 13 = false) (h₂ : cutAt chunks 14 = false)
      (h₃ : cutAt chunks 15 = false) : EndAfterPings 0 pingedSent chunks := by
    refine ⟨fun i _ hlt => absurd hlt (Nat.not_lt_zero _), ?_, fun i _ hlt => absurd hlt (Nat.not_lt_zero _)⟩
    exact afterPings_add_two.mpr ⟨h₁, h₂, h₃, fun i _ hlt => absurd hlt (Nat.not_lt_zero _)⟩
  obtain ⟨out, out', c, c', hreads, hreads', hsame⟩ := keepalive_recognition sampleTransport sampleScanner
    pingedSent 0 pingedSent_wellFormed [(pingedSent.map Sent.bytes).flatten]
    [(pingedSent.map Sent.bytes).flatten.take 16, (pingedSent.map Sent.bytes).flatten.drop 16]
    (by decide) (by decide) (by decide) (by decide)
  refine ⟨out, out', c, c', hreads, hreads', ?_⟩
  exact (hsame (hgap _ rfl rfl rfl)).mpr (hgap _ rfl rfl rfl)

/-- A ping that is cut in two is noticed as two pongs. -/
theorem not_keepalive_recognition : ∃ (sent : List (Sent Bool)) (chunks chunks' : List Bytes),
    (∀ w ∈ sent, w.WellFormed sampleTransport sampleScanner ∧ w.header.head? ≠ some 13) ∧
    (∀ data ∈ chunks, data ≠ []) ∧ (∀ data ∈ chunks', data ≠ []) ∧
    chunks.flatten = (sent.map Sent.bytes).flatten ∧ chunks'.flatten = (sent.map Sent.bytes).flatten ∧
    ((fresh sampleScanner).reads sampleTransport chunks).map (fun r => keepalives r.1) =
      some [.onDoubleCRLF] ∧
    ((fresh sampleScanner).reads sampleTransport chunks').map (fun r => keepalives r.1) =
      some [.onSingleCRLF, .onSingleCRLF] :=
  ⟨pingedSent, [(pingedSent.map Sent.bytes).flatten], [(pingedSent.map Sent.bytes).flatten.take 14,
    (pingedSent.map Sent.bytes).flatten.drop 14], pingedSent_wellFormed, by decide, by decide, by decide,
    by decide, by decide +kernel, by decide +kernel⟩

end Connection
end Resiprocate.Stream
