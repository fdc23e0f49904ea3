import Resiprocate.ConnectionFraming

/-! Messages out of WebSocket frames: `WsFrameExtractor` and `wsProcessData`. Buffers hold what
has been written to them, and `Data::size_type` is 32 bits wide. -/
namespace Resiprocate.WebSocket
open Scanner

/-- The members of the extractor. `mPayload = none` is the null pointer; otherwise it holds the
`mPayloadPos` bytes written so far. -/
structure WsFrameExtractor where
  mMaxMessage : UInt32
  mFrames : List Bytes
  mMessages : List Bytes
  mMessageSize : ℕ
  mHaveHeader : Bool
  mHeaderLen : ℕ
  mWsHeader : ℕ → UInt8
  mFinalFrame : Bool
  mMasked : Bool
  mWsMaskKey : Fin 4 → UInt8
  mPayloadLength : ℕ
  mPayload : Option Bytes

/-- `mMaxHeaderLen`. -/
def maxHeaderLen : ℕ := 14

/-- XOR with the key; `pos` is the offset of the first byte in the payload. -/
def unmask (key : Fin 4 → UInt8) : ℕ → Bytes → Bytes
  | _, [] => []
  | pos, c :: rest => (c ^^^ key (Fin.ofNat 4 (pos &&& 3))) :: unmask key (pos + 1) rest

/-- How a search for a header leaves its loop: `processBytes` returns at once, or the search is
over. -/
inductive HeaderSearch
  | returned (dropConnection : Bool) (e : WsFrameExtractor)
  | over (e : WsFrameExtractor) (input : Bytes)

/-- How the loop over the input ends: by a return inside it, or with all of the input taken. -/
inductive Exit
  | returned (dropConnection : Bool) (e : WsFrameExtractor)
  | finished (e : WsFrameExtractor)

namespace WsFrameExtractor

/-- The constructor; `memory` is what the members that it does not set happen to hold. -/
def new (maxMessage : UInt32) (memory : WsFrameExtractor) : WsFrameExtractor :=
  { memory with
    mMaxMessage := maxMessage, mFrames := [], mMessages := [], mMessageSize := 0
    mHaveHeader := false, mHeaderLen := 0 }

/-- Memory that holds zeros. -/
def blank : WsFrameExtractor := ⟨0, [], [], 0, false, 0, fun _ => 0, false, false, fun _ => 0, 0, none⟩

/-- The end of `parseHeader`: the mask key, if any, stands at `hdrPos`. -/
def parseMaskKey (e : WsFrameExtractor) (hdrPos : ℕ) : ℕ × WsFrameExtractor :=
  if e.mMasked then
    -- the difference is unsigned
    if hdrPos ≤ e.mHeaderLen ∧ e.mHeaderLen - hdrPos < 4 then (hdrPos + 4 - e.mHeaderLen, e)
    else (0, { e with
      mWsMaskKey := fun i => e.mWsHeader (hdrPos + i), mHaveHeader := true, mPayload := none })
  else (0, { e with mHaveHeader := true, mPayload := none })

/-- What the first two bytes of a header say. -/
def parseFlags (e : WsFrameExtractor) : WsFrameExtractor :=
  { e with
    mFinalFrame := e.mWsHeader 0 >>> 7 != 0
    mMasked := e.mWsHeader 1 >>> 7 != 0
    mPayloadLength := (e.mWsHeader 1 &&& 0x7F).toNat }

/-- What a header that should have `length` bytes before the mask key lacks. -/
def tooShort (e : WsFrameExtractor) (length : ℕ) : ℕ × WsFrameExtractor :=
  (length - e.mHeaderLen + if e.mMasked then 4 else 0, e)

/-- The length of eight bytes. The last operator of the expression is a logical or. -/
def longPayloadLength (e : WsFrameExtractor) : ℕ :=
  let h := fun i => (e.mWsHeader (2 + i)).toNat
  if h 0 <<< 56 ||| h 1 <<< 48 ||| h 2 <<< 40 ||| h 3 <<< 32 ||| h 4 <<< 24 ||| h 5 <<< 16 |||
      h 6 <<< 8 ≠ 0 ∨ h 7 ≠ 0 then 1 else 0

/-- `parseHeader` returns how many more bytes of header are needed. -/
def parseHeader (e : WsFrameExtractor) : ℕ × WsFrameExtractor :=
  if e.mHeaderLen < 2 then (2 - e.mHeaderLen, e)
  else
    let e := e.parseFlags
    if e.mPayloadLength = 126 then
      if e.mHeaderLen < 4 then e.tooShort 4
      else parseMaskKey
        { e with mPayloadLength := (e.mWsHeader 2).toNat <<< 8 ||| (e.mWsHeader 3).toNat } 4
    else if e.mPayloadLength = 127 then
      if e.mHeaderLen < 8 then e.tooShort 8
      else parseMaskKey { e with mPayloadLength := e.longPayloadLength } 10
    else parseMaskKey e 2

/-- Moves up to `needed` bytes of input to the header. -/
def collect : WsFrameExtractor → ℕ → Bytes → ℕ × WsFrameExtractor × Bytes
  | e, 0, input => (0, e, input)
  | e, needed + 1, [] => (needed + 1, e, [])
  | e, needed + 1, c :: input =>
    collect { e with
      mWsHeader := Function.update e.mWsHeader e.mHeaderLen c
      mHeaderLen := e.mHeaderLen + 1 } needed input

/-- The loop that runs while there is no header and there is input. A turn that takes no byte
finds the header; `fuel` counts the turns. -/
def findHeader : ℕ → WsFrameExtractor → Bytes → HeaderSearch
  | 0, e, input => .over e input
  | fuel + 1, e, input =>
    if e.mHaveHeader ∨ input = [] then .over e input
    else
      let (needed, e) := e.parseHeader
      if maxHeaderLen ≤ e.mHeaderLen then .returned true e
      else
        let (needed, e, input) := e.collect needed input
        if 0 < needed then .returned false e else findHeader fuel e input

def joinFrames (e : WsFrameExtractor) : WsFrameExtractor :=
  match e.mFrames with
  | [] => e
  | frames => { e with
      mFrames := [], mMessages := e.mMessages ++ [frames.flatten], mMessageSize := 0 }

/-- A whole frame is queued. -/
def queueFrame (e : WsFrameExtractor) (payload : Bytes) : WsFrameExtractor :=
  let e := { e with
    mMessageSize := (e.mMessageSize + e.mPayloadLength) % 2 ^ 32
    mFrames := e.mFrames ++ [payload]
    mHaveHeader := false, mHeaderLen := 0, mPayload := none }
  if e.mFinalFrame then e.joinFrames else e

/-- Takes payload from the input. -/
def takePayload (e : WsFrameExtractor) (input : Bytes) : WsFrameExtractor × Bytes :=
  let payload := e.mPayload.getD []
  let takeBytes := min input.length (e.mPayloadLength - payload.length)
  let taken := input.take takeBytes
  let payload := payload ++ if e.mMasked then unmask e.mWsMaskKey payload.length taken else taken
  (if payload.length = e.mPayloadLength then e.queueFrame payload
    else { e with mPayload := some payload }, input.drop takeBytes)

/-- The loop over the input. Of two turns at least one takes a byte; `fuel` counts the turns. -/
def processLoop : ℕ → WsFrameExtractor → Bytes → Option Exit
  | _, e, [] => some (.finished e)
  | 0, _, _ :: _ => none
  | fuel + 1, e, c :: input =>
    match e.findHeader (input.length + 3) (c :: input) with
    | .returned dropConnection e => some (.returned dropConnection e)
    | .over e input =>
      if e.mHaveHeader then
        if e.mMaxMessage.toNat < (e.mMessageSize + e.mPayloadLength) % 2 ^ 32 then
          some (.returned true e)
        else processLoop fuel (e.takePayload input).1 (e.takePayload input).2
      else processLoop fuel e input

/-- `processBytes` returns a message, if any, and whether to drop the connection. -/
def processBytes (e : WsFrameExtractor) (input : Bytes) :
    Option (Option Bytes × Bool × WsFrameExtractor) :=
  (e.processLoop (2 * input.length + 1) input).map fun
    | .returned dropConnection e => (none, dropConnection, e)
    | .finished e => (e.mMessages.head?, false, { e with mMessages := e.mMessages.tail })

end WsFrameExtractor

/-! ### `wsProcessData` -/

variable {κ : Type*} (T : Stream.Transport κ)

/-- What becomes of a message: a keepalive is answered, a SIP message is pushed up unless it
cannot be parsed or fails the basic check. -/
inductive Delivered (κ : Type*)
  | doubleCRLF
  | pushRxMsgUp (msg : Stream.SipMessage κ)
  | rejected

/-- One message of `wsProcessData`. -/
def deliver (s : MsgHeaderScanner κ) (msg : Bytes) : Delivered κ × MsgHeaderScanner κ :=
  if msg = [13, 10, 13, 10] then (.doubleCRLF, s)
  else
    let r := s.prepareForMessage.scanChunk T.headers msg
    let message := ⟨r.events, msg.drop (msg.length - r.unprocessed)⟩
    if r.result = .scrEnd ∧ T.basicCheck message then (.pushRxMsgUp message, r.scanner)
    else (.rejected, r.scanner)

/-- The part of a connection that takes part in reading WebSocket data. -/
structure WsConnection (κ : Type*) where
  mWsFrameExtractor : WsFrameExtractor
  mMsgHeaderScanner : MsgHeaderScanner κ

namespace WsConnection

/-- The loop of `wsProcessData`: messages are asked for until there is none. -/
def drain : ℕ → WsConnection κ → Option Bytes × Bool × WsFrameExtractor →
    Option (List (Delivered κ) × Bool × WsConnection κ)
  | _, c, (none, dropConnection, e) =>
    some ([], !dropConnection, { c with mWsFrameExtractor := e })
  | 0, _, (some _, _) => none
  | fuel + 1, c, (some msg, _, e) =>
    let (out, scanner) := deliver T c.mMsgHeaderScanner msg
    (e.processBytes []).bind fun r =>
      (drain fuel { c with mMsgHeaderScanner := scanner } r).map fun r => (out :: r.1, r.2)

def wsProcessData (c : WsConnection κ) (data : Bytes) :
    Option (List (Delivered κ) × Bool × WsConnection κ) :=
  (c.mWsFrameExtractor.processBytes data).bind fun r =>
    drain T (r.2.2.mMessages.length + 1) c r

/-- Reads one after the other, as long as each returns true. -/
def reads : WsConnection κ → List Bytes → Option (List (Delivered κ) × Bool × WsConnection κ)
  | c, [] => some ([], true, c)
  | c, data :: rest =>
    (c.wsProcessData T data).bind fun
      | (out, true, c) => (reads c rest).map fun r => (out ++ r.1, r.2)
      | r => some r

end WsConnection

end Resiprocate.WebSocket
