import Resiprocate.MsgHeaderScanner

/-! Cutting a byte stream into SIP messages: the receive buffer of a connection and
`preparseNewBytes`. Buffers hold what has been written to them; allocation does not fail. -/
namespace Resiprocate.Stream
open Scanner

/-- `ConnectionBase::ChunkSize`. -/
def chunkSize : ℕ := 8192

inductive ConnState
  | newMessage | readingHeaders | partialBody
  deriving DecidableEq, Repr

/-- A message under construction: the calls made on it by the scanner, and its body. -/
structure SipMessage (κ : Type*) where
  headers : List (Event κ)
  body : Bytes
  deriving DecidableEq

inductive RejectionBehavior
  | normal | rejectingNewWork | rejectingNonEssential
  deriving DecidableEq, Repr

/-- What the framing asks of the rest of the stack. `contentLength = none` is the exception of a
missing or malformed Content-Length. -/
structure Transport (κ : Type*) where
  headers : Headers κ
  contentLength : List (Event κ) → Option ℕ
  isRequest : List (Event κ) → Bool
  basicCheck : SipMessage κ → Bool
  rejectionBehavior : RejectionBehavior
  messageSizeMax : ℕ

/-- `mBuffer = none` is the null pointer; otherwise it holds the bytes written so far. -/
structure Connection (κ : Type*) where
  mConnState : ConnState
  mBuffer : Option Bytes
  mBufferPos : ℕ
  mBufferSize : ℕ
  mMessage : SipMessage κ
  mMsgHeaderScanner : MsgHeaderScanner κ

/-- What a read lets out: keepalives noticed, messages pushed up, and messages dropped for
congestion or because they fail the basic check. -/
inductive Output (κ : Type*)
  | doubleCRLF
  | singleCRLF
  | pushRxMsgUp (msg : SipMessage κ)
  | dropped (msg : SipMessage κ)

/-- How a pass through the switch ends: with a return, or by going back to `start`. -/
inductive Next (κ : Type*)
  | done (result : Bool) (c : Connection κ)
  | start (c : Connection κ) (bytesRead : ℕ)

/-- The size of a buffer that takes over `n` bytes. -/
def grownSize (n : ℕ) : ℕ := max (n * 3 / 2) chunkSize

namespace Connection
variable {κ : Type*}

/-- A connection that has read nothing; the scanner may hold anything. -/
def fresh (scanner : MsgHeaderScanner κ) : Connection κ :=
  ⟨.newMessage, none, 0, 0, ⟨[], []⟩, scanner⟩

/-- `getWriteBuffer`. -/
def getWriteBuffer (c : Connection κ) : Connection κ :=
  if c.mConnState = .newMessage then
    match c.mBuffer with
    | none => { c with mBuffer := some [], mBufferSize := chunkSize, mBufferPos := 0 }
    | some _ => { c with mBufferPos := 0 }
  else c

/-- The room that `getWriteBuffer` offers. -/
def room (c : Connection κ) : ℕ := c.getWriteBuffer.mBufferSize - c.getWriteBuffer.mBufferPos

/-- The socket writes `data` into the write buffer. -/
def fill (c : Connection κ) (data : Bytes) : Connection κ :=
  let c := c.getWriteBuffer
  { c with mBuffer := some ((c.mBuffer.getD []).take c.mBufferPos ++ data) }

variable (T : Transport κ)

/-- Leaves nothing behind of a message that cannot be read. -/
def discard (c : Connection κ) : Connection κ :=
  { c with mBuffer := none, mMessage := ⟨[], []⟩, mConnState := .newMessage }

/-- A complete message is pushed up unless it is refused. -/
def deliver (msg : SipMessage κ) : List (Output κ) :=
  if T.rejectionBehavior = .rejectingNonEssential ∨
      T.rejectionBehavior = .rejectingNewWork ∧ T.isRequest msg.headers then [.dropped msg]
  else if !T.basicCheck msg then [.dropped msg]
  else [.pushRxMsgUp msg]

/-- Bytes after the end of a message go to a buffer of their own, and the switch starts over. -/
def overhang (c : Connection κ) (rest : Bytes) : Next κ :=
  let c := { c with mConnState := .newMessage, mBuffer := none, mMessage := ⟨[], []⟩ }
  if rest = [] then .done true c
  else .start { c with mBuffer := some rest, mBufferPos := 0, mBufferSize := grownSize rest.length }
    rest.length

/-- The header is complete; `rest` is what follows it in the chunk. -/
def headersEnded (c : Connection κ) (rest : Bytes) : List (Output κ) × Next κ :=
  match T.contentLength c.mMessage.headers with
  | none => ([], .done false { c with mMessage := ⟨[], []⟩, mBuffer := none })
  | some contentLength =>
    if T.messageSizeMax < contentLength then
      ([], .done false { c with mMessage := ⟨[], []⟩, mBuffer := none })
    else if rest.length < contentLength then
      ([], .done true { c with
        mBuffer := some rest
        mBufferPos := rest.length
        mBufferSize := min (grownSize rest.length) contentLength
        mConnState := .partialBody })
    else
      let msg := { c.mMessage with body := rest.take contentLength }
      (deliver T msg, c.overhang (rest.drop contentLength))

/-- `case ReadingHeaders`. -/
def readingHeaders (c : Connection κ) (bytesRead : ℕ) : List (Output κ) × Next κ :=
  let chunkLength := c.mBufferPos + bytesRead
  let chunk := (c.mBuffer.getD []).take chunkLength
  let r := c.mMsgHeaderScanner.scanChunk T.headers chunk
  let unprocessed := chunk.drop (chunk.length - r.unprocessed)
  if r.result = .scrError then ([], .done false { c.discard with mMsgHeaderScanner := r.scanner })
  else if 1024 < r.scanner.mNumHeaders then
    ([], .done false { c.discard with mMsgHeaderScanner := r.scanner })
  else if chunkSize < r.unprocessed ∧ r.result = .scrNextChunk then
    ([], .done false { c.discard with mMsgHeaderScanner := r.scanner })
  else
    let c := { c with
      mMsgHeaderScanner := r.scanner
      mMessage := { c.mMessage with headers := c.mMessage.headers ++ r.events } }
    if r.unprocessed = chunkLength then
      -- nothing was parsed: the buffer is made larger
      ([], .done true { c with
        mBuffer := some unprocessed
        mBufferPos := r.unprocessed
        mBufferSize := grownSize r.unprocessed
        mConnState := .readingHeaders })
    else if r.result = .scrNextChunk then
      if r.unprocessed = 0 then
        ([], .done true { c with
          mBuffer := some [], mBufferPos := 0, mBufferSize := chunkSize
          mConnState := .readingHeaders })
      else
        -- the text begun is shifted to the next chunk
        ([], .done true { c with
          mBuffer := some unprocessed
          mBufferPos := r.unprocessed
          mBufferSize := grownSize r.unprocessed
          mConnState := .readingHeaders })
    else c.headersEnded T unprocessed

/-- `case NewMessage`: keepalives, or a new message whose header is read. -/
def newMessage (c : Connection κ) (bytesRead : ℕ) : List (Output κ) × Next κ :=
  let data := ((c.mBuffer.getD []).drop c.mBufferPos).take bytesRead
  if 4 ≤ bytesRead ∧ data.take 4 = [13, 10, 13, 10] then
    ([.doubleCRLF],
      if bytesRead - 4 = 0 then .done true { c with mBuffer := none, mBufferPos := c.mBufferPos + 4 }
      else .start { c with mBufferPos := c.mBufferPos + 4 } (bytesRead - 4))
  else if 2 ≤ bytesRead ∧ data.take 2 = [13, 10] then
    ([.singleCRLF],
      if bytesRead - 2 = 0 then .done true { c with mBuffer := none, mBufferPos := c.mBufferPos + 2 }
      else .start { c with mBufferPos := c.mBufferPos + 2 } (bytesRead - 2))
  else
    readingHeaders T { c with
      mMessage := ⟨[], []⟩
      mMsgHeaderScanner := c.mMsgHeaderScanner.prepareForMessage } bytesRead

/-- `case PartialBody`. -/
def partialBody (c : Connection κ) (bytesRead : ℕ) : List (Output κ) × Next κ :=
  match T.contentLength c.mMessage.headers with
  | none => ([], .done false { c with mMessage := ⟨[], []⟩, mBuffer := none })
  | some contentLength =>
    let c := { c with mBufferPos := c.mBufferPos + bytesRead }
    let buffer := (c.mBuffer.getD []).take c.mBufferPos
    if contentLength ≤ c.mBufferPos then
      let msg := { c.mMessage with body := buffer.take contentLength }
      (deliver T msg, c.overhang (buffer.drop contentLength))
    else if c.mBufferPos = c.mBufferSize then
      ([], .done true { c with mBufferSize := min (c.mBufferSize * 3 / 2) contentLength })
    else ([], .done true c)

/-- One pass through the switch of `preparseNewBytes`. -/
def pass (c : Connection κ) (bytesRead : ℕ) : List (Output κ) × Next κ :=
  match c.mConnState with
  | .newMessage => c.newMessage T bytesRead
  | .readingHeaders => c.readingHeaders T bytesRead
  | .partialBody => c.partialBody T bytesRead

/-- Passes until one returns, at most `fuel` of them. -/
def passes : ℕ → Connection κ → ℕ → Option (List (Output κ) × Bool × Connection κ)
  | 0, _, _ => none
  | fuel + 1, c, bytesRead =>
    match c.pass T bytesRead with
    | (out, .done result c) => some (out, result, c)
    | (out, .start c bytesRead) =>
      (passes fuel c bytesRead).map fun r => (out ++ r.1, r.2)

/-- `preparseNewBytes`. Every pass that starts over has used up at least one byte. -/
def preparseNewBytes (c : Connection κ) (bytesRead : ℕ) :
    Option (List (Output κ) × Bool × Connection κ) :=
  c.passes T (bytesRead + 1) bytesRead

/-- Reads one after the other, as long as each returns true. -/
def reads : Connection κ → List Bytes → Option (List (Output κ) × Bool × Connection κ)
  | c, [] => some ([], true, c)
  | c, data :: rest =>
    match (c.fill data).preparseNewBytes T data.length with
    | some (out, true, c) => (reads c rest).map fun r => (out ++ r.1, r.2)
    | r => r

end Connection

end Resiprocate.Stream
