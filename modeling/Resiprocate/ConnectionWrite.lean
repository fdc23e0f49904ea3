import Resiprocate.MsgHeaderScanner

/-! Writing to a connection: `performWrite` and `performWrites`, with the framing of WebSocket
data. SigComp is not built in. -/
namespace Resiprocate.Stream
open Scanner (Bytes)

inductive TransmissionFormat
  | unknown | uncompressed | compressed | webSocketHandshake | webSocketData
  deriving DecidableEq, Repr

inductive SendDataCommand
  | noCommand | closeConnection | enableFlowTimer
  deriving DecidableEq, Repr

/-- What is queued for sending. -/
structure SendData where
  data : Bytes
  sigcompId : Bytes
  command : SendDataCommand

/-- The frame that `performWrite` makes of a message. -/
def wsFrame (dataRaw : Bytes) : Bytes :=
  let lSize := dataRaw.length
  0x82 :: (if lSize ≤ 0x7D then [UInt8.ofNat lSize]
    else if lSize ≤ 0xFFFF then
      [0x7E, UInt8.ofNat (lSize >>> 8 &&& 0xFF), UInt8.ofNat (lSize &&& 0xFF)]
    else
      0x7F :: [56, 48, 40, 32, 24, 16, 8, 0].map fun shift => UInt8.ofNat (lSize >>> shift &&& 0xFF))
    ++ dataRaw

/-- The members of a connection that take part in writing. -/
structure Sender where
  mOutstandingSends : List SendData
  mSendPos : ℕ
  mSendingTransmissionFormat : TransmissionFormat
  compressionEnabled : Bool

/-- What a call finds: whether a TLS handshake goes on, and what the socket returns. -/
structure SocketWrite where
  transportWrite : Bool
  nBytes : ℤ

namespace Sender

/-- The transmission format is settled, and WebSocket data is framed. -/
def prepare (s : Sender) (front : SendData) (rest : List SendData) : Sender :=
  match s.mSendingTransmissionFormat with
  | .unknown =>
    if front.sigcompId ≠ [] ∧ s.compressionEnabled then
      { s with mSendingTransmissionFormat := .compressed }
    else { s with mSendingTransmissionFormat := .uncompressed }
  | .webSocketHandshake => { s with mSendingTransmissionFormat := .webSocketData }
  | .webSocketData =>
    { s with
      mOutstandingSends := ⟨wsFrame front.data, front.sigcompId, .noCommand⟩ :: rest }
  | .uncompressed | .compressed => s

/-- What is written of the message in front. -/
def writeFront (s : Sender) (nBytes : ℤ) : Bytes × ℤ × Sender :=
  match s.mOutstandingSends with
  | [] => ([], 0, s)
  | front :: rest =>
    if nBytes < 0 then ([], -1, s)
    else if nBytes = 0 then ([], 0, s)
    else
      let pos := s.mSendPos + nBytes.toNat
      ((front.data.drop s.mSendPos).take nBytes.toNat, nBytes,
        if pos = front.data.length then { s with mSendPos := 0, mOutstandingSends := rest }
        else { s with mSendPos := pos })

/-- `performWrite`: what is written, what it returns and what it leaves. -/
def performWrite (s : Sender) (w : SocketWrite) : Bytes × ℤ × Sender :=
  if w.transportWrite then ([], 0, s)
  else
    match s.mOutstandingSends with
    | [] => ([], 0, s)
    | front :: rest =>
      match front.command with
      | .closeConnection => ([], -1, s)
      | .enableFlowTimer => ([], 0, { s with mOutstandingSends := rest })
      | .noCommand => (s.prepare front rest).writeFront w.nBytes

/-- Calls of `performWrite` until one fails. -/
def writes : Sender → List SocketWrite → Bytes × Sender
  | s, [] => ([], s)
  | s, w :: ws =>
    let (out, result, s) := s.performWrite w
    if result < 0 then (out, s)
    else
      let (out', s) := writes s ws
      (out ++ out', s)

/-- `performWrites`, as far as the socket is given; what is left of it comes last. `max` counts
down from its own value, or wraps around. -/
def performWrites : UInt32 → Sender → List SocketWrite → Bytes × Bool × Sender × List SocketWrite
  | _, s, [] => ([], true, s, [])
  | max, s, w :: ws =>
    let (out, result, s) := s.performWrite w
    if 0 < result ∧ s.mOutstandingSends ≠ [] ∧ max - 1 ≠ 0 then
      let (out', r) := performWrites (max - 1) s ws
      (out ++ out', r)
    else (out, decide (0 ≤ result), s, ws)

/-! ### What should be written -/

/-- The messages queued, one after the other, with the framing that the format asks for. -/
def messageStream : TransmissionFormat → List SendData → Bytes
  | _, [] => []
  | format, front :: rest =>
    match front.command with
    | .closeConnection | .enableFlowTimer => messageStream format rest
    | .noCommand =>
      match format with
      | .webSocketHandshake => front.data ++ messageStream .webSocketData rest
      | .webSocketData => wsFrame front.data ++ messageStream .webSocketData rest
      | .unknown | .uncompressed | .compressed => front.data ++ messageStream format rest

def isWebSocket : TransmissionFormat → Bool
  | .webSocketHandshake | .webSocketData => true
  | _ => false

/-- What a call offers to the socket of the message in front. -/
def offered (s : Sender) (front : SendData) (rest : List SendData) : Bytes :=
  (((s.prepare front rest).mOutstandingSends.head?.map (·.data)).getD []).drop s.mSendPos

/-- The socket takes no more than it is offered; on a WebSocket connection it takes all of it,
or fails. -/
def Meets (s : Sender) (w : SocketWrite) : Prop :=
  w.transportWrite = false → ∀ front rest, s.mOutstandingSends = front :: rest →
    front.command = .noCommand → w.nBytes ≤ (s.offered front rest).length ∧
      (isWebSocket s.mSendingTransmissionFormat = true →
        w.nBytes < 0 ∨ 0 < w.nBytes ∧ w.nBytes = (s.offered front rest).length)

/-- Every call meets the condition until one fails. -/
def AllMeet : Sender → List SocketWrite → Prop
  | _, [] => True
  | s, w :: ws => s.Meets w ∧ (0 ≤ (s.performWrite w).2.1 → AllMeet (s.performWrite w).2.2 ws)

/-- What is still to be written. -/
def remaining (s : Sender) : Bytes :=
  (messageStream s.mSendingTransmissionFormat s.mOutstandingSends).drop s.mSendPos

/-- Nothing of the message in front has been written, or it is not a WebSocket message. -/
def Placed (s : Sender) : Prop :=
  s.mSendPos = 0 ∨ isWebSocket s.mSendingTransmissionFormat = false ∧
    ∃ front rest, s.mOutstandingSends = front :: rest ∧ front.command = .noCommand ∧
      s.mSendPos ≤ front.data.length

section
variable {s : Sender} {front : SendData} {rest : List SendData}

/-- Without framing the format makes no difference. -/
theorem messageStream_plain {format format' : TransmissionFormat} (h : isWebSocket format = false)
    (h' : isWebSocket format' = false) (sends : List SendData) :
    messageStream format sends = messageStream format' sends := by
  induction sends with
  | nil => rfl
  | cons front rest ih =>
    cases hcommand : front.command <;> cases format <;> cases format' <;>
      simp_all [messageStream, isWebSocket]

theorem prepare_plain (s : Sender) (front : SendData) (rest : List SendData)
    (h : isWebSocket s.mSendingTransmissionFormat = false) :
    (s.prepare front rest).mOutstandingSends = s.mOutstandingSends ∧
    (s.prepare front rest).mSendPos = s.mSendPos ∧
    isWebSocket (s.prepare front rest).mSendingTransmissionFormat = false := by
  unfold prepare
  cases hformat : s.mSendingTransmissionFormat with
  | unknown =>
    dsimp only
    split_ifs <;> exact ⟨rfl, rfl, rfl⟩
  | uncompressed | compressed => exact ⟨rfl, rfl, by rw [hformat]; rfl⟩
  | webSocketHandshake | webSocketData => simp [hformat, isWebSocket] at h

/-- What is offered of a WebSocket message is what its stream starts with. -/
theorem prepare_webSocket (h : isWebSocket s.mSendingTransmissionFormat = true)
    (hsends : s.mOutstandingSends = front :: rest) (hcommand : front.command = .noCommand) :
    ∃ data, (s.prepare front rest).mOutstandingSends.head?.map (·.data) = some data ∧
      (s.prepare front rest).mOutstandingSends.tail = rest ∧
      (s.prepare front rest).mSendPos = s.mSendPos ∧
      (s.prepare front rest).mSendingTransmissionFormat = .webSocketData ∧
      messageStream s.mSendingTransmissionFormat s.mOutstandingSends =
        data ++ messageStream .webSocketData rest := by
  cases hformat : s.mSendingTransmissionFormat with
  | unknown | uncompressed | compressed => simp [hformat, isWebSocket] at h
  | webSocketHandshake =>
    exact ⟨front.data, by simp [prepare, hformat, hsends, messageStream, hcommand]⟩
  | webSocketData =>
    exact ⟨wsFrame front.data, by simp [prepare, hformat, hsends, messageStream, hcommand]⟩

theorem messageStream_cons_plain {format : TransmissionFormat} (h : isWebSocket format = false)
    (hcommand : front.command = .noCommand) {pos : ℕ} (hpos : pos ≤ front.data.length) :
    (messageStream format (front :: rest)).drop pos =
      front.data.drop pos ++ messageStream format rest := by
  have hcons : messageStream format (front :: rest) = front.data ++ messageStream format rest := by
    cases format <;> simp_all [messageStream, isWebSocket]
  rw [hcons, List.drop_append_of_le_length hpos]

/-- A write that takes a part of a message that is not framed. -/
theorem writeFront_plain (h : isWebSocket s.mSendingTransmissionFormat = false)
    (hsends : s.mOutstandingSends = front :: rest) (hcommand : front.command = .noCommand)
    (hpos : s.mSendPos ≤ front.data.length) {nBytes : ℤ}
    (hn : nBytes ≤ (front.data.drop s.mSendPos).length) (hok : 0 ≤ (s.writeFront nBytes).2.1) :
    (s.writeFront nBytes).1 ++ (s.writeFront nBytes).2.2.remaining = s.remaining ∧
      (s.writeFront nBytes).2.2.Placed := by
  simp only [writeFront, hsends] at hok ⊢
  by_cases hneg : nBytes < 0
  · simp [hneg] at hok
  by_cases hzero : nBytes = 0
  · simp only [hzero, lt_irrefl, if_false, if_true, List.nil_append, true_and]
    exact .inr ⟨h, front, rest, hsends, hcommand, hpos⟩
  obtain ⟨k, rfl⟩ : ∃ k : ℕ, nBytes = k := ⟨nBytes.toNat, by omega⟩
  rw [List.length_drop] at hn
  simp only [hneg, hzero, if_false, Int.toNat_natCast]
  by_cases hwhole : s.mSendPos + k = front.data.length
  · have hall : (front.data.drop s.mSendPos).take k = front.data.drop s.mSendPos := by
      rw [List.take_of_length_le]
      rw [List.length_drop]
      omega
    simp only [hwhole, if_true, hall]
    refine ⟨?_, .inl rfl⟩
    rw [remaining, remaining, hsends, messageStream_cons_plain h hcommand hpos]
    rfl
  · simp only [hwhole, if_false]
    have hle : s.mSendPos + k ≤ front.data.length := by omega
    refine ⟨?_, .inr ⟨h, front, rest, rfl, hcommand, hle⟩⟩
    rw [remaining, remaining, hsends, messageStream_cons_plain h hcommand hpos,
      messageStream_cons_plain h hcommand hle, ← List.append_assoc, ← List.drop_drop,
      List.take_append_drop]

/-- A write that takes all that is offered of a WebSocket message. -/
theorem writeFront_whole {data : Bytes} (hsends : s.mOutstandingSends.head?.map (·.data) = some data)
    (hpos : s.mSendPos = 0) {nBytes : ℤ} (hlen : 0 < nBytes) (hn : nBytes = data.length) :
    s.writeFront nBytes = (data, nBytes, { s with mOutstandingSends := s.mOutstandingSends.tail }) := by
  obtain ⟨sends, pos, format, enabled⟩ := s
  obtain rfl : pos = 0 := hpos
  cases sends with
  | nil => simp at hsends
  | cons front rest =>
    simp only [List.head?_cons, Option.map_some, Option.some.injEq] at hsends
    subst hsends
    have hneg : ¬ nBytes < 0 := by omega
    have hzero : nBytes ≠ 0 := by omega
    simp only [writeFront, hneg, hzero, if_false]
    simp [hn]

/-- One call: what is written and what remains make up what remained. -/
theorem performWrite_step {w : SocketWrite} (hs : s.Placed) (hw : s.Meets w)
    (hok : 0 ≤ (s.performWrite w).2.1) :
    (s.performWrite w).1 ++ (s.performWrite w).2.2.remaining = s.remaining ∧
      (s.performWrite w).2.2.Placed := by
  unfold performWrite at hok ⊢
  cases htransport : w.transportWrite with
  | true =>
    simp only [if_true]
    exact ⟨rfl, hs⟩
  | false =>
    simp only [htransport, Bool.false_eq_true, if_false] at hok ⊢
    cases hsends : s.mOutstandingSends with
    | nil => exact ⟨rfl, hs⟩
    | cons front rest =>
      simp only [hsends] at hok ⊢
      cases hcommand : front.command with
      | closeConnection => simp [hcommand] at hok
      | enableFlowTimer =>
        -- the timer is enabled between two messages
        have hpos : s.mSendPos = 0 := by
          rcases hs with hpos | ⟨-, front', rest', hsends', hcommand', -⟩
          · exact hpos
          · cases hsends.symm.trans hsends'
            rw [hcommand] at hcommand'
            cases hcommand'
        refine ⟨?_, .inl hpos⟩
        simp [remaining, hsends, messageStream, hcommand, hpos]
      | noCommand =>
        simp only [hcommand] at hok ⊢
        obtain ⟨hn, hwhole⟩ := hw htransport front rest hsends hcommand
        cases hformat : isWebSocket s.mSendingTransmissionFormat with
        | false =>
          have hpos : s.mSendPos ≤ front.data.length := by
            rcases hs with hpos | ⟨-, front', rest', hsends', -, hpos⟩
            · omega
            · cases hsends.symm.trans hsends'
              exact hpos
          obtain ⟨hsame, hsame', hplain⟩ := s.prepare_plain front rest hformat
          have hsends' := hsame.trans hsends
          have hremaining : (s.prepare front rest).remaining = s.remaining := by
            rw [remaining, remaining, hsame, hsame', messageStream_plain hplain hformat]
          rw [← hremaining]
          refine writeFront_plain hplain hsends' hcommand (hsame'.trans_le hpos) ?_ hok
          simpa [offered, hsends', hsame'] using hn
        | true =>
          have hpos : s.mSendPos = 0 := by
            rcases hs with hpos | ⟨hplain, -⟩
            · exact hpos
            · simp [hformat] at hplain
          obtain ⟨data, hdata, htail, hpos', hformat', hstream⟩ :=
            prepare_webSocket hformat hsends hcommand
          rcases hwhole hformat with hneg | ⟨hlen, hall⟩
          · obtain ⟨front', hfront, -⟩ := Option.map_eq_some_iff.1 hdata
            obtain ⟨rest', hsends'⟩ := List.head?_eq_some_iff.1 hfront
            simp [writeFront, hsends', hneg] at hok
          · rw [offered, hdata, hpos, Option.getD_some, List.drop_zero] at hall
            rw [writeFront_whole hdata (hpos'.trans hpos) hlen hall]
            refine ⟨?_, .inl (hpos'.trans hpos)⟩
            rw [remaining, remaining, hstream, hpos]
            simp [htail, hformat', hpos'.trans hpos]

theorem writeFront_failed {nBytes : ℤ} (h : (s.writeFront nBytes).2.1 < 0) :
    (s.writeFront nBytes).1 = [] := by
  unfold writeFront at h ⊢
  split at h
  · rfl
  · split_ifs at h ⊢
    · rfl
    · rfl
    · simp only at h
      omega

/-- A call that fails writes nothing. -/
theorem performWrite_failed {w : SocketWrite} (h : (s.performWrite w).2.1 < 0) :
    (s.performWrite w).1 = [] := by
  unfold performWrite at h ⊢
  cases htransport : w.transportWrite with
  | true => rfl
  | false =>
    simp only [htransport, Bool.false_eq_true, if_false] at h ⊢
    cases hsends : s.mOutstandingSends with
    | nil => rfl
    | cons front rest =>
      simp only [hsends] at h ⊢
      cases hcommand : front.command with
      | closeConnection | enableFlowTimer => rfl
      | noCommand =>
        simp only [hcommand] at h ⊢
        exact writeFront_failed h

end

/-- `performWrites` stops earlier, at the latest after `max` calls. -/
theorem performWrites_prefix (max : UInt32) (s : Sender) (ws : List SocketWrite) :
    (performWrites max s ws).1 <+: (s.writes ws).1 := by
  induction ws generalizing max s with
  | nil => exact List.nil_prefix
  | cons w ws ih =>
    simp only [performWrites, writes]
    by_cases hfail : (s.performWrite w).2.1 < 0
    · have hstop : ¬ 0 < (s.performWrite w).2.1 := by omega
      simp [hfail, hstop]
    · rw [if_neg hfail]
      split_ifs
      · exact (List.prefix_append_right_inj _).2 (ih _ _)
      · exact List.prefix_append _ _

/-- However the socket takes the bytes that it is offered, as long as it never takes a part of a
WebSocket message, what is written is the messages queued, in order and each framed once. -/
theorem writes_prefix (s : Sender) (ws : List SocketWrite) (hs : s.mSendPos = 0)
    (hws : s.AllMeet ws) :
    (s.writes ws).1 <+: messageStream s.mSendingTransmissionFormat s.mOutstandingSends ∧
    ∀ max, (performWrites max s ws).1 <+:
      messageStream s.mSendingTransmissionFormat s.mOutstandingSends := by
  have hrun : ∀ s : Sender, s.Placed → s.AllMeet ws → (s.writes ws).1 <+: s.remaining := by
    clear hs hws s
    induction ws with
    | nil => exact fun s _ _ => List.nil_prefix
    | cons w ws ih =>
      intro s hs hws
      simp only [writes]
      by_cases hfail : (s.performWrite w).2.1 < 0
      · simp [hfail, performWrite_failed hfail]
      · have hok : 0 ≤ (s.performWrite w).2.1 := by omega
        obtain ⟨hout, hs'⟩ := performWrite_step hs hws.1 hok
        rw [if_neg hfail, ← hout]
        exact (List.prefix_append_right_inj _).2 (ih _ hs' (hws.2 hok))
  have hremaining : s.remaining = messageStream s.mSendingTransmissionFormat s.mOutstandingSends := by
    rw [remaining, hs, List.drop_zero]
  rw [← hremaining]
  have hwrites := hrun s (.inl hs) hws
  exact ⟨hwrites, fun max => ( performWrites_prefix max s ws).trans hwrites⟩

/-- A handshake and a message, each taken at once. -/
theorem writes_prefix_webSocket :
    let s : Sender := ⟨[⟨[72], [], .noCommand⟩, ⟨[1, 2, 3], [], .noCommand⟩], 0, .webSocketHandshake, false⟩
    (s.writes [⟨false, 1⟩, ⟨false, 5⟩]).1 = [72, 0x82, 3, 1, 2, 3] ∧
    (s.writes [⟨false, 1⟩, ⟨false, 5⟩]).1 <+:
      messageStream s.mSendingTransmissionFormat s.mOutstandingSends := by
  refine ⟨by decide, ( writes_prefix _ _ rfl ?_).1⟩
  refine ⟨?_, fun _ => ⟨?_, fun _ => trivial⟩⟩
  · rintro - front rest ⟨⟩ -
    decide
  · rintro - front rest ⟨⟩ -
    decide

/-- A message whose frame is taken in two parts is framed again in between; so is a handshake
that the socket does not take at first. -/
theorem webSocket_framed_again :
    let s : Sender := ⟨[⟨[1, 2, 3], [], .noCommand⟩], 0, .webSocketData, false⟩
    let h : Sender := ⟨[⟨[72], [], .noCommand⟩], 0, .webSocketHandshake, false⟩
    ((s.writes [⟨false, 2⟩, ⟨false, 5⟩]).1 = [0x82, 3, 0x82, 3, 1, 2, 3] ∧
      ¬ (s.writes [⟨false, 2⟩, ⟨false, 5⟩]).1 <+:
        messageStream s.mSendingTransmissionFormat s.mOutstandingSends) ∧
    (h.writes [⟨false, 0⟩, ⟨false, 3⟩]).1 = [0x82, 1, 72] ∧
      ¬ (h.writes [⟨false, 0⟩, ⟨false, 3⟩]).1 <+:
        messageStream h.mSendingTransmissionFormat h.mOutstandingSends := by
  decide

end Sender

end Resiprocate.Stream
