import Resiprocate.ConnectionFramer

/-! `preparseNewBytes` refines the framer: however the stream is cut into reads, the connection
lets out the messages that the framer lets out, as long as every text begun fits a chunk. -/
namespace Resiprocate.Stream
open Scanner StreamMachine

variable {κ : Type*}

/-- What is let out apart from keepalives. -/
def Output.isMessage : Output κ → Bool
  | .doubleCRLF | .singleCRLF => false
  | .pushRxMsgUp _ | .dropped _ => true

def messages (out : List (Output κ)) : List (Output κ) := out.filter Output.isMessage

@[simp] theorem messages_nil : messages ([] : List (Output κ)) = [] := rfl

theorem messages_append (out out' : List (Output κ)) :
    messages (out ++ out') = messages out ++ messages out' := List.filter_append ..

def Output.pushed? : Output κ → Option (SipMessage κ)
  | .pushRxMsgUp msg => some msg
  | _ => none

/-- The messages pushed up. -/
def pushed (out : List (Output κ)) : List (SipMessage κ) := out.filterMap Output.pushed?

theorem pushed_messages (out : List (Output κ)) : pushed (messages out) = pushed out := by
  rw [pushed, messages, List.filterMap_filter, pushed]
  congr 1
  funext o
  cases o <;> rfl

namespace Connection
variable (T : Transport κ)

theorem messages_deliver (msg : SipMessage κ) : messages (deliver T msg) = deliver T msg := by
  unfold deliver
  split_ifs <;> rfl

/-- Messages that pass the basic check are pushed up when there is no congestion. -/
theorem pushed_deliver {msgs : List (SipMessage κ)} (hnormal : T.rejectionBehavior = .normal)
    (hcheck : ∀ msg ∈ msgs, T.basicCheck msg = true) :
    pushed (msgs.flatMap (deliver T)) = msgs := by
  induction msgs with
  | nil => rfl
  | cons msg msgs ih =>
    have hpush : deliver T msg = [.pushRxMsgUp msg] := by
      simp [deliver, hnormal, hcheck msg List.mem_cons_self]
    have hrest := ih fun msg hmsg => hcheck msg (List.mem_cons_of_mem _ hmsg)
    rw [List.flatMap_cons, hpush, pushed, List.singleton_append, List.filterMap_cons]
    exact congrArg (msg :: ·) hrest

/-! ### What a connection holds -/

/-- The scan of the next message. -/
def nextScan (c : Connection κ) : Scan κ := Scan.ofScanner c.mMsgHeaderScanner.prepareForMessage none

/-- What the connection holds between two reads. -/
def Holds (c : Connection κ) : Framer κ → Prop
  | .header m events =>
    c.mConnState = .newMessage ∧ c.mBuffer = none ∧ m = c.nextScan ∧ events = [] ∨
    c.mConnState = .readingHeaders ∧ c.mBuffer = some m.tail ∧ c.mBufferPos = m.tail.length ∧
      c.mMsgHeaderScanner.Holds m ∧ c.mMessage = ⟨events, []⟩
  | .body m events contentLength got =>
    c.mConnState = .partialBody ∧ c.mBuffer = some got ∧ c.mBufferPos = got.length ∧
      c.mMessage = ⟨events, []⟩ ∧ T.contentLength events = some contentLength ∧
      got.length < contentLength ∧ m.restart = c.nextScan

/-- What the connection holds before a pass over `data`. Keepalives passed over are still in
the buffer. -/
def Ready (c : Connection κ) (data : Bytes) : Framer κ → Prop
  | .header m events =>
    (∃ n, c.mConnState = .newMessage ∧ c.mBuffer = some (crlfs n ++ data) ∧
      c.mBufferPos = (crlfs n).length ∧ m = c.nextScan ∧ events = []) ∨
    c.mConnState = .readingHeaders ∧ c.mBuffer = some (m.tail ++ data) ∧
      c.mBufferPos = m.tail.length ∧ c.mMsgHeaderScanner.Holds m ∧ c.mMessage = ⟨events, []⟩
  | .body m events contentLength got =>
    c.mConnState = .partialBody ∧ c.mBuffer = some (got ++ data) ∧ c.mBufferPos = got.length ∧
      c.mMessage = ⟨events, []⟩ ∧ T.contentLength events = some contentLength ∧
      got.length < contentLength ∧ m.restart = c.nextScan

theorem Holds.fill {c : Connection κ} {φ : Framer κ} (h : c.Holds T φ) (data : Bytes) :
    (c.fill data).Ready T data φ := by
  cases φ with
  | header m events =>
    rcases h with ⟨hstate, hbuffer, hm, hevents⟩ | ⟨hstate, hbuffer, hpos, hscanner, hmsg⟩
    · refine .inl ⟨0, ?_⟩
      simp [Connection.fill, getWriteBuffer, hstate, hbuffer, crlfs, hm, hevents, nextScan]
    · refine .inr ?_
      simp [Connection.fill, getWriteBuffer, hstate, hbuffer, hpos, hscanner, hmsg]
  | body m events contentLength got =>
    obtain ⟨hstate, hbuffer, hpos, hmsg, hlength, hgot, hm⟩ := h
    have hwrite : c.getWriteBuffer = c := by simp [getWriteBuffer, hstate]
    simp only [Connection.fill, hwrite]
    exact ⟨hstate, by simp [hbuffer, hpos], hpos, hmsg, hlength, hgot, hm⟩

/-! ### One pass -/

/-- How a pass over `n` bytes should end when the framer reads them, lets out `msgs` and comes
to `φ'`: the same messages are let out, and what is held, or is left to do, shows the framer. -/
inductive Passed (φ' : Framer κ) (n : ℕ) :
    List (SipMessage κ) → List (Output κ) × Next κ → Prop
  | done {msgs : List (SipMessage κ)} {out : List (Output κ)} {c : Connection κ}
      (hout : messages out = msgs.flatMap (deliver T)) (hc : c.Holds T φ') :
      Passed φ' n msgs (out, .done true c)
  | start {msgs msgs' : List (SipMessage κ)} {out : List (Output κ)} {c : Connection κ}
      {data : Bytes} {φ : Framer κ} (hout : messages out = msgs.flatMap (deliver T))
      (hc : c.Ready T data φ) (hlt : data.length < n)
      (hrun : run (Framer.step T) φ data = (msgs', .inl φ')) :
      Passed φ' n (msgs ++ msgs') (out, .start c data.length)

/-- After a message its overhang is read as the start of the next one. -/
theorem overhang_passed {c : Connection κ} {msg : SipMessage κ} {rest : Bytes} {n : ℕ}
    {msgs : List (SipMessage κ)} {φ' : Framer κ} (hlt : rest.length < n)
    (hrun : after [msg] (run (Framer.step T) (.header c.nextScan []) rest) = (msgs, .inl φ')) :
    Passed T φ' n msgs (deliver T msg, c.overhang rest) := by
  have hout : messages (deliver T msg) = [msg].flatMap (deliver T) := by
    simp [messages_deliver]
  unfold overhang
  by_cases hrest : rest = []
  · subst hrest
    cases hrun
    simp only [if_true]
    exact .done hout (.inl ⟨rfl, rfl, rfl, rfl⟩)
  · simp only [hrest, if_false]
    have hmsgs : msgs = [msg] ++ (run (Framer.step T) (.header c.nextScan []) rest).1 :=
      (congrArg Prod.fst hrun).symm
    rw [hmsgs]
    refine .start hout (φ := .header c.nextScan []) ?_ hlt
      (Prod.ext rfl (congrArg Prod.snd hrun :))
    exact .inl ⟨0, rfl, rfl, rfl, rfl, rfl⟩

/-- The rest of a chunk after a header is the body, or its beginning. -/
theorem headersEnded_passed {c : Connection κ} {m : Scan κ} {events : List (Event κ)}
    {rest : Bytes} {n : ℕ} {msgs : List (SipMessage κ)} {φ' : Framer κ}
    (hmsg : c.mMessage = ⟨events, []⟩) (hm : m.restart = c.nextScan) (hlt : rest.length < n)
    (hrun : proceed (Framer.step T) (Framer.headersEnded T m events) rest = (msgs, .inl φ')) :
    Passed T φ' n msgs (c.headersEnded T rest) := by
  obtain ⟨contentLength, hlength, hnum, hmax⟩ := Framer.headersEnded_inl T hrun
  rw [Framer.proceed_headersEnded T hlength hnum hmax] at hrun
  have hnot : ¬ T.messageSizeMax < contentLength := by omega
  simp only [headersEnded, hmsg, hlength, hnot, if_false]
  by_cases hmore : rest.length < contentLength
  · simp only [hmore, if_true] at hrun ⊢
    cases hrun
    exact .done rfl ⟨rfl, rfl, rfl, rfl, hlength, hmore, hm⟩
  · simp only [hmore, if_false] at hrun ⊢
    rw [hm] at hrun
    refine overhang_passed T ?_ hrun
    rw [List.length_drop]
    omega

/-- A chunk that does not end the header is used up; what is begun goes to the next buffer. -/
theorem readingHeaders_more {c : Connection κ} {m m' : Scan κ} {events out : List (Event κ)}
    {data : Bytes} {bytesRead : ℕ} (hscanner : c.mMsgHeaderScanner.Holds m)
    (hmsg : c.mMessage = ⟨events, []⟩) (hbuffer : c.mBuffer = some (m.tail ++ data))
    (hpos : c.mBufferPos + bytesRead = (m.tail ++ data).length)
    (hscan : run (headerScan T) m data = (out, .inl m')) (hfits : Fitting m') :
    ∃ c', c.readingHeaders T bytesRead = ([], .done true c') ∧ c'.mConnState = .readingHeaders ∧
      c'.Holds T (.header m' (events ++ out)) := by
  have hr := MsgHeaderScanner.scanChunk_reports T.headers hscanner data
  have hchunk : (c.mBuffer.getD []).take (c.mBufferPos + bytesRead) = m.tail ++ data := by
    rw [hbuffer, hpos, Option.getD_some, List.take_length]
  simp only [readingHeaders, hchunk]
  generalize c.mMsgHeaderScanner.scanChunk T.headers (m.tail ++ data) = r at hr
  rw [run_of_guarded hscan (by simp)] at hr
  obtain ⟨hresult, hlen, htail, hsaved, hne, hm'⟩ := hr.more m' rfl
  obtain ⟨htext, hnum⟩ := hfits
  have hnum' : ¬ 1024 < r.scanner.mNumHeaders := by
    rw [show r.scanner.mNumHeaders = m'.numHeaders from congrArg Scan.numHeaders hm']
    omega
  have hlong : ¬ chunkSize < r.unprocessed := by omega
  have hholds : r.scanner.Holds m' := ⟨hm', hsaved, hne⟩
  simp only [hresult, reduceCtorEq, if_false, hnum', hlong, false_and, if_true, htail, hmsg,
    hr.events]
  split_ifs with hnothing hzero
  · exact ⟨_, rfl, rfl, .inr ⟨rfl, rfl, hlen, hholds, rfl⟩⟩
  · have hnil : m'.tail = [] := List.eq_nil_of_length_eq_zero (hlen.symm.trans hzero)
    exact ⟨_, rfl, rfl, .inr ⟨rfl, by simp [hnil], by simp [hnil], hholds, rfl⟩⟩
  · exact ⟨_, rfl, rfl, .inr ⟨rfl, rfl, hlen, hholds, rfl⟩⟩

/-- The header ends inside the chunk. -/
theorem readingHeaders_ended {c : Connection κ} {m m' : Scan κ} {events out : List (Event κ)}
    {data rest : Bytes} {bytesRead : ℕ} (hscanner : c.mMsgHeaderScanner.Holds m)
    (hmsg : c.mMessage = ⟨events, []⟩) (hbuffer : c.mBuffer = some (m.tail ++ data))
    (hpos : c.mBufferPos + bytesRead = (m.tail ++ data).length)
    (hscan : run (headerScan T) m data = (out, .inr ((m', true), rest)))
    (hle : m'.numHeaders ≤ 1024) :
    ∃ c' : Connection κ, c.readingHeaders T bytesRead = c'.headersEnded T rest ∧
      c'.mMessage = ⟨events ++ out, []⟩ ∧ m'.restart = c'.nextScan := by
  have hr := MsgHeaderScanner.scanChunk_reports T.headers hscanner data
  have hchunk : (c.mBuffer.getD []).take (c.mBufferPos + bytesRead) = m.tail ++ data := by
    rw [hbuffer, hpos, Option.getD_some, List.take_length]
  simp only [readingHeaders, hchunk]
  generalize c.mMsgHeaderScanner.scanChunk T.headers (m.tail ++ data) = r at hr
  rw [run_of_guarded hscan (by simp)] at hr
  obtain ⟨hresult, hlen, hnum, hname, hkind⟩ := hr.ended m' rest rfl
  obtain ⟨p, hp, hdata⟩ := run_stopped hscan
  have hnum' : ¬ 1024 < r.scanner.mNumHeaders := by omega
  have hpart : r.unprocessed ≠ c.mBufferPos + bytesRead := by
    have := List.length_pos_of_ne_nil hp
    rw [hlen, hpos, hdata]
    simp only [List.length_append]
    omega
  have hrest : (m.tail ++ data).drop ((m.tail ++ data).length - r.unprocessed) = rest := by
    have hsplit : m.tail ++ data = (m.tail ++ p) ++ rest := by rw [hdata, List.append_assoc]
    have hskip : (m.tail ++ data).length - rest.length = (m.tail ++ p).length := by
      rw [hsplit, List.length_append]
      omega
    rw [hlen, hskip, hsplit, List.drop_left]
  simp only [hresult, reduceCtorEq, if_false, hnum', and_false, hpart, hrest]
  refine ⟨_, rfl, ?_, ?_⟩
  · simp [hmsg, hr.events]
  · simp [Scan.restart, nextScan, Scan.ofScanner, MsgHeaderScanner.prepareForMessage, hname,
      hkind]

/-- A chunk of header. `hshort` is for the caller, whose chunk may hold more than `n` bytes. -/
theorem readingHeaders_passed {c : Connection κ} {m : Scan κ} {events : List (Event κ)}
    {data : Bytes} {bytesRead n : ℕ} {msgs : List (SipMessage κ)} {φ' : Framer κ}
    (hscanner : c.mMsgHeaderScanner.Holds m) (hmsg : c.mMessage = ⟨events, []⟩)
    (hbuffer : c.mBuffer = some (m.tail ++ data))
    (hpos : c.mBufferPos + bytesRead = (m.tail ++ data).length)
    (hrun : run (Framer.step T) (.header m events) data = (msgs, .inl φ')) (hfits : φ'.Fits)
    (hshort : ∀ out r rest, run (headerScan T) m data = (out, .inr (r, rest)) →
      rest.length < n) :
    Passed T φ' n msgs (c.readingHeaders T bytesRead) := by
  rw [Framer.run_header] at hrun
  cases hscan : run (headerScan T) m data with
  | mk out next =>
    rw [hscan] at hrun
    obtain m' | ⟨⟨m', _ | _⟩, rest⟩ := next
    · cases hrun
      obtain ⟨c', hmore, -, hholds⟩ :=
        readingHeaders_more T hscanner hmsg hbuffer hpos hscan hfits
      rw [hmore]
      exact .done rfl hholds
    · cases hrun
    · obtain ⟨-, -, hle, -⟩ := Framer.headersEnded_inl T hrun
      obtain ⟨c', hended, hmsg', hm⟩ :=
        readingHeaders_ended T hscanner hmsg hbuffer hpos hscan hle
      rw [hended]
      exact headersEnded_passed T hmsg' hm (hshort _ _ _ hscan) hrun

/-- Keepalives at the start of a message are passed over. -/
theorem keepalive_passed {c : Connection κ} {out : List (Output κ)} {n k : ℕ} {rest : Bytes}
    {msgs : List (SipMessage κ)} {φ' : Framer κ} (hout : messages out = []) (hk : 0 < k)
    (hstate : c.mConnState = .newMessage) (hbuffer : c.mBuffer = some (crlfs n ++ (crlfs k ++ rest)))
    (hpos : c.mBufferPos = (crlfs n).length)
    (hrun : run (Framer.step T) (.header c.nextScan []) (crlfs k ++ rest) = (msgs, .inl φ')) :
    Passed T φ' (crlfs k ++ rest).length msgs
      (out, if rest.length = 0 then
          .done true { c with mBuffer := none, mBufferPos := c.mBufferPos + 2 * k }
        else .start { c with mBufferPos := c.mBufferPos + 2 * k } rest.length) := by
  have hrun' : run (Framer.step T) (.header c.nextScan []) rest = (msgs, .inl φ') := by
    rw [← hrun]
    exact (Framer.run_crlfs T (Scan.ofScanner c.mMsgHeaderScanner none) k rest).symm
  by_cases hrest : rest.length = 0
  · have hnil : rest = [] := List.eq_nil_of_length_eq_zero hrest
    subst hnil
    cases hrun'
    exact .done hout (.inl ⟨hstate, rfl, rfl, rfl⟩)
  · simp only [hrest, if_false]
    rw [← List.nil_append msgs]
    refine .start hout (φ := .header c.nextScan []) ?_ ?_ hrun'
    · refine .inl ⟨n + k, hstate, ?_, ?_, rfl, rfl⟩
      · rw [hbuffer, crlfs_add, List.append_assoc]
      · simp only [hpos, length_crlfs]
        omega
    · simp only [List.length_append, length_crlfs]
      omega

theorem newMessage_passed {c : Connection κ} {n : ℕ} {data : Bytes} {msgs : List (SipMessage κ)}
    {φ' : Framer κ} (hstate : c.mConnState = .newMessage)
    (hbuffer : c.mBuffer = some (crlfs n ++ data)) (hpos : c.mBufferPos = (crlfs n).length)
    (hrun : run (Framer.step T) (.header c.nextScan []) data = (msgs, .inl φ'))
    (hfits : φ'.Fits) : Passed T φ' data.length msgs (c.newMessage T data.length) := by
  have hdata : ((c.mBuffer.getD []).drop c.mBufferPos).take data.length = data := by
    rw [hbuffer, hpos, Option.getD_some, List.drop_left, List.take_length]
  have hkeep : ∀ k, data.take (2 * k) = crlfs k → data = crlfs k ++ data.drop (2 * k) ∧
      data.length - 2 * k = (data.drop (2 * k)).length := by
    intro k hk
    rw [← hk, List.take_append_drop, List.length_drop]
    exact ⟨rfl, rfl⟩
  simp only [newMessage, hdata]
  by_cases hdouble : 4 ≤ data.length ∧ data.take 4 = [13, 10, 13, 10]
  · rw [if_pos hdouble]
    obtain ⟨hsplit, hlen⟩ := hkeep 2 hdouble.2
    rw [hsplit] at hbuffer hrun
    have hpassed := keepalive_passed T (rfl : messages [.doubleCRLF] = []) (by omega) hstate
      hbuffer hpos hrun
    rw [← hsplit, ← hlen] at hpassed
    exact hpassed
  rw [if_neg hdouble]
  by_cases hsingle : 2 ≤ data.length ∧ data.take 2 = [13, 10]
  · rw [if_pos hsingle]
    obtain ⟨hsplit, hlen⟩ := hkeep 1 hsingle.2
    rw [hsplit] at hbuffer hrun
    have hpassed := keepalive_passed T (rfl : messages [.singleCRLF] = []) (by omega) hstate
      hbuffer hpos hrun
    rw [← hsplit, ← hlen] at hpassed
    exact hpassed
  · rw [if_neg hsingle]
    -- the chunk starts with the keepalives passed over, which the scanner passes over too
    have hcrlfs := Framer.run_crlfs T (Scan.ofScanner c.mMsgHeaderScanner none) n data
    refine readingHeaders_passed T (c := { c with
        mMessage := ⟨[], []⟩
        mMsgHeaderScanner := c.mMsgHeaderScanner.prepareForMessage }) (m := c.nextScan)
      (MsgHeaderScanner.holds_of_unsaved rfl) rfl hbuffer ?_ (hcrlfs.trans hrun) hfits ?_
    · simp [hpos, nextScan, Scan.tail, Scan.ofScanner]
    · intro out r rest hscan
      have hpast := run_scan_crlfs T (Scan.ofScanner c.mMsgHeaderScanner none) n data
      obtain ⟨p, hp, hsplit⟩ := run_stopped (hpast.symm.trans hscan)
      have := List.length_pos_of_ne_nil hp
      rw [hsplit, List.length_append]
      omega

theorem partialBody_passed {c : Connection κ} {m : Scan κ} {events : List (Event κ)}
    {contentLength : ℕ} {got data : Bytes} {msgs : List (SipMessage κ)} {φ' : Framer κ}
    (hready : c.Ready T data (.body m events contentLength got))
    (hrun : run (Framer.step T) (.body m events contentLength got) data = (msgs, .inl φ')) :
    Passed T φ' data.length msgs (c.partialBody T data.length) := by
  obtain ⟨hstate, hbuffer, hpos, hmsg, hlength, hgot, hm⟩ := hready
  have hread : (c.mBuffer.getD []).take (c.mBufferPos + data.length) = got ++ data := by
    rw [hbuffer, hpos, Option.getD_some, ← List.length_append, List.take_length]
  rw [Framer.run_body T m events hgot] at hrun
  simp only [partialBody, hmsg, hlength, hread]
  by_cases hmore : (got ++ data).length < contentLength
  · have hnot : ¬ contentLength ≤ c.mBufferPos + data.length := by
      rw [List.length_append] at hmore
      omega
    have hholds : (got ++ data).length = c.mBufferPos + data.length := by
      rw [hpos, List.length_append]
    simp only [hmore, if_true] at hrun
    cases hrun
    simp only [hnot, if_false]
    split_ifs
    · exact .done rfl ⟨hstate, hbuffer, hholds.symm, rfl, hlength, hmore, hm⟩
    · exact .done rfl ⟨hstate, hbuffer, hholds.symm, rfl, hlength, hmore, hm⟩
  · have hle : contentLength ≤ c.mBufferPos + data.length := by
      rw [List.length_append] at hmore
      omega
    simp only [hmore, if_false] at hrun
    simp only [hle, if_true]
    rw [hm] at hrun
    refine overhang_passed T ?_ hrun
    rw [List.length_drop, List.length_append]
    omega

theorem pass_passed {c : Connection κ} {data : Bytes} {φ φ' : Framer κ}
    {msgs : List (SipMessage κ)} (hready : c.Ready T data φ)
    (hrun : run (Framer.step T) φ data = (msgs, .inl φ')) (hfits : φ'.Fits) :
    Passed T φ' data.length msgs (c.pass T data.length) := by
  cases φ with
  | header m events =>
    rcases hready with ⟨n, hstate, hbuffer, hpos, rfl, rfl⟩ | ⟨hstate, hbuffer, hpos, hscanner, hmsg⟩
    · simp only [pass, hstate]
      exact newMessage_passed T hstate hbuffer hpos hrun hfits
    · simp only [pass, hstate]
      refine readingHeaders_passed T hscanner hmsg hbuffer ?_ hrun hfits ?_
      · rw [hpos, List.length_append]
      · intro out r rest hscan
        obtain ⟨p, hp, hsplit⟩ := run_stopped hscan
        have := List.length_pos_of_ne_nil hp
        rw [hsplit, List.length_append]
        omega
  | body m events contentLength got =>
    simp only [pass, hready.1]
    exact partialBody_passed T hready hrun

/-! ### Reads -/

/-- The passes of one read come to where the framer comes to. -/
theorem passes_refines {fuel : ℕ} {c : Connection κ} {data : Bytes} {φ φ' : Framer κ}
    {msgs : List (SipMessage κ)} (hfuel : data.length < fuel) (hready : c.Ready T data φ)
    (hrun : run (Framer.step T) φ data = (msgs, .inl φ')) (hfits : φ'.Fits) :
    ∃ out c', c.passes T fuel data.length = some (out, true, c') ∧
      messages out = msgs.flatMap (deliver T) ∧ c'.Holds T φ' := by
  induction fuel generalizing c data φ msgs with
  | zero => omega
  | succ fuel ih =>
    have hpassed := pass_passed T hready hrun hfits
    simp only [passes]
    generalize c.pass T data.length = r at hpassed
    cases hpassed with
    | done hout hc => exact ⟨_, _, rfl, hout, hc⟩
    | @start _ _ out _ _ _ hout hc hlt hrest =>
      obtain ⟨out', c', hpasses, hout', hc'⟩ := ih (by omega) hc hrest
      refine ⟨out ++ out', c', by simp [hpasses], ?_, hc'⟩
      rw [messages_append, hout, hout', List.flatMap_append]

/-- Reads over which the framer does not stop all return true, and let out what it lets out. -/
theorem reads_refines {c : Connection κ} {φ φ' : Framer κ} {msgs : List (SipMessage κ)}
    {chunks : List Bytes} (hc : c.Holds T φ) (hφ : φ.Fits)
    (hrun : run (Framer.step T) φ chunks.flatten = (msgs, .inl φ')) :
    ∃ out c', c.reads T chunks = some (out, true, c') ∧
      messages out = msgs.flatMap (deliver T) ∧ c'.Holds T φ' := by
  induction chunks generalizing c φ msgs with
  | nil =>
    cases hrun
    exact ⟨[], c, rfl, rfl, hc⟩
  | cons data chunks ih =>
    rw [List.flatten_cons, run_append] at hrun
    cases hfirst : run (Framer.step T) φ data with
    | mk msgs₁ next =>
      rw [hfirst] at hrun
      obtain φ₁ | ⟨x, rest⟩ := next
      · obtain ⟨msgs₂, hmsgs, hrest⟩ : ∃ msgs₂, msgs = msgs₁ ++ msgs₂ ∧
            run (Framer.step T) φ₁ chunks.flatten = (msgs₂, .inl φ') :=
          ⟨_, (congrArg Prod.fst hrun).symm, Prod.ext rfl (congrArg Prod.snd hrun :)⟩
        subst hmsgs
        have hφ₁ := hφ.run T hfirst
        obtain ⟨out₁, c₁, hread, hout₁, hc₁⟩ := passes_refines T (Nat.lt_succ_self _)
          (hc.fill T data) hfirst hφ₁
        obtain ⟨out₂, c₂, hreads, hout₂, hc₂⟩ := ih hc₁ hφ₁ hrest
        refine ⟨out₁ ++ out₂, c₂, ?_, ?_, hc₂⟩
        · simp [reads, preparseNewBytes, hread, hreads]
        · rw [messages_append, hout₁, hout₂, List.flatMap_append]
      · simp [resume] at hrun

/-- A stream of well-formed messages with keepalives between them, cut into reads in any way:
every read returns true, and the messages let out are those of the stream, in order. All of them
are pushed up unless they are refused. -/
theorem reads_stream (scanner : MsgHeaderScanner κ) (sent : List (Sent κ)) (n : ℕ)
    (chunks : List Bytes) (hsent : ∀ w ∈ sent, w.WellFormed T scanner)
    (hchunks : chunks.flatten = (sent.map Sent.bytes).flatten ++ crlfs n) :
    ∃ out c, (fresh scanner).reads T chunks = some (out, true, c) ∧
      messages out = (sent.map Sent.msg).flatMap (deliver T) ∧
      (T.rejectionBehavior = .normal → (∀ w ∈ sent, T.basicCheck w.msg = true) →
        pushed out = sent.map Sent.msg) := by
  obtain ⟨m, hrun⟩ := Framer.run_stream T hsent (Scan.ofScanner scanner none) n
  rw [← hchunks] at hrun
  have hholds : (fresh scanner).Holds T (.header (Scan.ofScanner scanner none).restart []) :=
    .inl ⟨rfl, rfl, rfl, rfl⟩
  obtain ⟨out, c, hreads, hout, -⟩ := reads_refines T hholds ⟨Nat.zero_le _, Nat.zero_le _⟩ hrun
  refine ⟨out, c, hreads, hout, fun hnormal hcheck => ?_⟩
  rw [← pushed_messages, hout]
  exact pushed_deliver T hnormal (by simpa using hcheck)

/-- A transport on which `l` is the Content-Length. -/
def sampleTransport : Transport Bool where
  headers := ⟨fun name => name = [108], fun _ => false⟩
  contentLength events := events.findSome? fun
    | .addHeader true _ value => some (value.foldl (fun n c => 10 * n + (c.toNat - 48)) 0)
    | _ => none
  isRequest _ := true
  basicCheck _ := true
  rejectionBehavior := .normal
  messageSizeMax := 100000

/-- Two messages, the first with a body; a keepalive before each. -/
def sampleSent : List (Sent Bool) :=
  [⟨1, [65, 13, 10, 108, 58, 50, 13, 10, 13, 10],
      ⟨[.setStartLine [65], .addHeader true [108] [50]], [104, 105]⟩⟩,
    ⟨1, [66, 13, 10, 108, 58, 48, 13, 10, 13, 10],
      ⟨[.setStartLine [66], .addHeader true [108] [48]], []⟩⟩]

def sampleScanner : MsgHeaderScanner Bool := ⟨.msgStart, 0, 0, [], false⟩

theorem sampleSent_wellFormed : ∀ w ∈ sampleSent, w.WellFormed sampleTransport sampleScanner := by
  intro w hw
  simp only [sampleSent, List.mem_cons, List.not_mem_nil, or_false] at hw
  rcases hw with rfl | rfl
  all_goals
    refine ⟨by decide +kernel, by decide +kernel, by decide +kernel, by decide +kernel,
      by decide +kernel, by decide +kernel, ?_⟩
    exact fits_of_events (by decide +kernel) (by decide +kernel) (by decide +kernel)
      (by simp [Event.Fits, chunkSize])

/-- Reads that end in a keepalive, in a field name, in a body and in the middle of the next
message. -/
theorem reads_stream_twoMessages : ∃ out c, (fresh sampleScanner).reads sampleTransport
    [[13], [10, 65, 13, 10, 108], [58, 50, 13, 10, 13, 10, 104], [105, 13, 10, 66, 13, 10, 108, 58],
      [48, 13, 10, 13, 10, 13, 10]] = some (out, true, c) ∧ pushed out = sampleSent.map Sent.msg := by
  obtain ⟨out, c, hreads, -, hpushed⟩ := reads_stream sampleTransport sampleScanner sampleSent 1
    [[13], [10, 65, 13, 10, 108], [58, 50, 13, 10, 13, 10, 104], [105, 13, 10, 66, 13, 10, 108, 58],
      [48, 13, 10, 13, 10, 13, 10]] sampleSent_wellFormed (by decide +kernel)
  exact ⟨out, c, hreads, hpushed rfl fun _ _ => rfl⟩

end Connection

end Resiprocate.Stream
