import Resiprocate.ResponseLengths

/-! Whether what the encoder writes fits into the buffer that it is given. The buffers have a fixed size,
and the encoder does not look at it: a Send indication with much data does not fit, nor does a refusal
with a long realm and a long name of the software. -/
namespace Resiprocate.ReTurn
open StunMessage

def turnDataMethod : UInt16 := 0x007

/-- `sendDataToClient` to a peer without a channel. -/
def dataIndication (tid : Vector UInt8 16) (peerAddress : StunTuple) (data : Data) : StunMessage :=
  { (TurnAsyncSocket.createHeader tid stunClassIndication turnDataMethod init).set .turnData data with
    mTurnXorPeerAddress := [stunAtrAddressOfTuple peerAddress] }

theorem encodedLength_dataIndication_le (tid : Vector UInt8 16) (peerAddress : StunTuple) (data : Data) :
    (dataIndication tid peerAddress data).encodedLength ≤ data.length + 8 + 36 + 8 := by
  have hpeer := encodedLength_address_le (stunAtrAddressOfTuple peerAddress)
  have hpad := padded_le data.length
  have hlength : (dataIndication tid peerAddress data).encodedLength =
      20 + (4 + padded data.length) + (stunAtrAddressOfTuple peerAddress).encodedLength := by
    have hdata : Attr.turnData.kind.encodedLength data = 4 + padded data.length := rfl
    simp [dataIndication, encodedLength, listsLength, allAttrs, firstAttrs, middleAttrs, lastAttrs,
      attrLength, StunMessage.set, TurnAsyncSocket.createHeader, init, hdata]
  rw [hlength]
  omega

/-- The places where a message is encoded. -/
inductive Encoding
  | request (m : StunMessage) (h : ClientRequest m)
  | answer (m : StunMessage) (h : ClientResponse m)
  | sendIndication (s : TurnAsyncSocket) (tid : Vector UInt8 16) (peerTuple : StunTuple) (data : Data)
  | response (h : RequestHandler) (hcredentials : h.ShortCredentials) (times : ℕ → ℕ) (t : TurnManager)
    (allocations : TurnAllocationManager) (asked : StunMessage) (relay : RelayStart) (rfc3489 : Bool)
  | dataIndication (tid : Vector UInt8 16) (peerAddress : StunTuple) (data : Data)

namespace Encoding

def message : Encoding → StunMessage
  | request m _ => m
  | answer m _ => m
  | sendIndication s tid peerTuple data => s.sendIndication tid peerTuple data
  | response h _ times t allocations asked relay rfc3489 =>
    (h.processStunMessage times t allocations asked init relay rfc3489).response
  | dataIndication tid peerAddress data => ReTurn.dataIndication tid peerAddress data

/-- `REQUEST_BUFFER_SIZE`, `RESPONSE_BUFFER_SIZE` and the size computed from the data. -/
def bufLen : Encoding → ℕ
  | request _ _ | answer _ _ | sendIndication _ _ _ _ => 4096
  | response _ _ _ _ _ _ _ _ => 1024
  | dataIndication _ _ data => data.length + 8 + 36 + 8

/-- What is bounded by nothing but the buffer: the data of a Send indication, and the texts of a refusal. -/
def Fits : Encoding → Prop
  | sendIndication s _ peerTuple data => sendIndicationLength s.mSoftware peerTuple.mAddress data ≤ 4096
  | response h hcredentials times t allocations asked relay rfc3489 =>
    let m := (response h hcredentials times t allocations asked relay rfc3489).message
    m.has .realm = true → RequestHandler.refusalLength m ≤ 1024
  | _ => True

theorem encodedLength_le_iff (e : Encoding) : e.message.encodedLength ≤ e.bufLen ↔ e.Fits := by
  cases e with
  | request m h => exact iff_true_intro h.bounded.encodedLength_le
  | answer m h => exact iff_true_intro h.bounded.encodedLength_le
  | sendIndication s tid peerTuple data =>
    exact iff_of_eq (congrArg (· ≤ 4096) (encodedLength_sendIndication s tid peerTuple data))
  | response h hcredentials times t allocations asked relay rfc3489 =>
    exact (RequestHandler.processStunMessage_answers hcredentials relay rfc3489).fits_iff
  | dataIndication tid peerAddress data =>
    exact iff_true_intro (encodedLength_dataIndication_le tid peerAddress data)

end Encoding
end Resiprocate.ReTurn
