import Resiprocate.RequestHandler
import Resiprocate.TcpFraming

/-! ChannelData over UDP, from the datagram to what the server relays and to what the client hands to
its application. -/
namespace Resiprocate.ReTurn
open BigEndian

def channelNumber (data : Data) : ℕ := value (data.take 2)

/-- `sendFirstQueuedData`: the datagram that is sent to a peer. -/
def Sent.datagram? : Sent → Option (StunTuple × Data)
  | .toPeer peerAddress data bufferStartPos => some (peerAddress, data.drop bufferStartPos)
  | .nothing | .toClientOnChannel _ _ _ | .dataIndToClient _ _ _ | .tcpRelay => none

namespace RequestHandler

def processTurnData (allocations : TurnAllocationManager) (times : ℕ → ℕ) (channelNumber : ℕ)
    (localTuple remoteTuple : StunTuple) (data : Data) : Sent × TurnAllocationManager :=
  match allocations ⟨localTuple, remoteTuple⟩ with
  | none => (.nothing, allocations)
  | some allocation =>
    let sent := allocation.sendDataToPeer times channelNumber data true
    (sent.1, Function.update allocations ⟨localTuple, remoteTuple⟩ (some sent.2))

end RequestHandler

namespace UdpServer

inductive Received
  /-- The datagram is parsed as a STUN message. -/
  | stunMessage (data : Data)
  | channelData (sent : Sent)
  | dropped

/-- `UdpServer::onReceiveSuccess`. -/
def onReceiveSuccess (allocations : TurnAllocationManager) (times : ℕ → ℕ)
    (localTuple remoteTuple : StunTuple) (data : Data) : Received × TurnAllocationManager :=
  if 4 < data.length then
    if isStun data then (.stunMessage data, allocations)
    else if data.length < lengthField data + 4 then (.dropped, allocations)
    else
      let r := RequestHandler.processTurnData allocations times (channelNumber data) localTuple remoteTuple data
      (.channelData r.1, r.2)
  else (.dropped, allocations)

end UdpServer

/-- What a client keeps to take channel data apart. -/
structure TurnClient where
  mLocalBinding : StunTuple
  mHaveAllocation : Bool
  mChannelManager : ChannelManager

namespace TurnClient

inductive Received
  /-- The data is parsed as a STUN message; if it is none it is handed on as it is. -/
  | stunMessage (data : Data)
  /-- `onReceiveSuccess` of the application. -/
  | success (address : Address) (port : ℕ) (data : Data)
  | failure
  | discarded

/-- `TurnAsyncSocket::handleReceivedData`. -/
def handleReceivedData (c : TurnClient) (now : ℕ) (address : Address) (port : ℕ) (data : Data) :
    Received × TurnClient :=
  if 4 < data.length then
    if isStun data then (.stunMessage data, c)
    else if c.mHaveAllocation then
      if c.mLocalBinding.mTransport = .udp ∧ data.length < lengthField data + 4 then (.discarded, c)
      else
        match c.mChannelManager.findRemotePeerByChannel now (channelNumber data) with
        | (none, m) => (.discarded, { c with mChannelManager := m })
        | (some ptr, m) =>
          match m.peers ptr with
          | none => (.discarded, { c with mChannelManager := { m with fault := true } })
          | some peer =>
            (.success peer.mPeerTuple.mAddress peer.mPeerTuple.mPort (data.drop 4),
              { c with mChannelManager := m })
    else (.success address port data, c)
  else (.failure, c)

end TurnClient

/-- The bytes of a ChannelData message. -/
def payload (data : Data) : Data := (data.drop 4).take (lengthField data)

theorem drop_eq_payload {data : Data} (h : lengthField data + 4 ≤ data.length) :
    data.drop 4 = payload data ↔ data.length = lengthField data + 4 := by
  rw [payload, eq_comm, List.take_eq_self_iff, List.length_drop]
  omega

/-- Framed data is sent from its fifth byte on. -/
theorem sendDataToPeer_datagram {a : TurnAllocation} {times : ℕ → ℕ} {channel : ℕ} {data bytes : Data}
    {peer : StunTuple} (h : (a.sendDataToPeer times channel data true).1.datagram? = some (peer, bytes)) :
    bytes = data.drop 4 := by
  have haddress {a : TurnAllocation} {now : ℕ} {peerAddress : StunTuple}
      (h : (a.sendDataToPeerAddress now peerAddress data true).1.datagram? = some (peer, bytes)) :
      bytes = data.drop 4 := by
    unfold TurnAllocation.sendDataToPeerAddress at h
    split at h
    · cases h
    · split at h
      · cases h
        rfl
      · split at h
        · cases h
        · cases h
  unfold TurnAllocation.sendDataToPeer at h
  split at h
  · cases h
  · split at h
    · cases h
    · exact haddress h

/-- For every datagram that is relayed, and every one that the application is handed, the bytes are
those after the header exactly if the datagram ends with them. -/
theorem channelData_payload (data : Data) :
    (∀ allocations times localTuple remoteTuple sent peer bytes,
      (UdpServer.onReceiveSuccess allocations times localTuple remoteTuple data).1 = .channelData sent →
      sent.datagram? = some (peer, bytes) → (bytes = payload data ↔ data.length = lengthField data + 4)) ∧
    ∀ (c : TurnClient) now address port address' port' bytes,
      c.mHaveAllocation = true → c.mLocalBinding.mTransport = .udp → isStun data = false →
      (c.handleReceivedData now address port data).1 = .success address' port' bytes →
      (bytes = payload data ↔ data.length = lengthField data + 4) := by
  constructor
  · intro allocations times localTuple remoteTuple sent peer bytes hreceived hsent
    unfold UdpServer.onReceiveSuccess at hreceived
    split_ifs at hreceived with hlong hstun hshort
    cases hreceived
    have hbytes : bytes = data.drop 4 := by
      unfold RequestHandler.processTurnData at hsent
      split at hsent
      · cases hsent
      · exact sendDataToPeer_datagram hsent
    rw [hbytes]
    exact drop_eq_payload (not_lt.mp hshort)
  · intro c now address port address' port' bytes hhave hudp hstun hreceived
    simp only [TurnClient.handleReceivedData, hstun, hhave, hudp, true_and, if_true, Bool.false_eq_true,
      if_false] at hreceived
    split_ifs at hreceived with hlong hshort
    have hbytes : bytes = data.drop 4 := by
      split at hreceived
      · cases hreceived
      · split at hreceived
        · cases hreceived
        · cases hreceived
          rfl
    rw [hbytes]
    exact drop_eq_payload (not_lt.mp hshort)

def clientTuple : StunTuple := ⟨.udp, .v4 0x7f000001, 5000⟩
def serverTuple : StunTuple := ⟨.udp, .v4 0x7f000001, 3478⟩
def relayTuple : StunTuple := ⟨.udp, .v4 0x7f000001, 49152⟩
def farTuple : StunTuple := ⟨.udp, .v4 0x7f000001, 6000⟩

/-- An allocation with a channel bound to a peer. -/
def channelAllocation : TurnAllocation :=
  ((TurnAllocation.new serverTuple clientTuple ⟨[], []⟩ relayTuple 0 600).addChannelBinding (fun _ => 0)
    farTuple 0x4000).2

def channelAllocations : TurnAllocationManager := fun key =>
  if key = ⟨serverTuple, clientTuple⟩ then some channelAllocation else none

/-- The client's side of the same channel. -/
def channelClient : TurnClient := ⟨clientTuple, true, channelAllocation.mChannelManager⟩

theorem relayed_channelData (data : Data) (hlong : 4 < data.length) (hstun : isStun data = false)
    (hlength : lengthField data + 4 ≤ data.length) (hchannel : channelNumber data = 0x4000) :
    (UdpServer.onReceiveSuccess channelAllocations (fun _ => 0) serverTuple clientTuple data).1 =
      .channelData (.toPeer farTuple data 4) := by
  simp only [UdpServer.onReceiveSuccess, if_pos hlong, hstun, Bool.false_eq_true, if_false,
    if_neg (not_lt.mpr hlength), hchannel]
  rfl

theorem handed_channelData (data : Data) (hlong : 4 < data.length) (hstun : isStun data = false)
    (hlength : lengthField data + 4 ≤ data.length) (hchannel : channelNumber data = 0x4000) :
    (channelClient.handleReceivedData 0 serverTuple.mAddress serverTuple.mPort data).1 =
      .success farTuple.mAddress farTuple.mPort (data.drop 4) := by
  have hhave : channelClient.mHaveAllocation = true := rfl
  simp only [TurnClient.handleReceivedData, if_pos hlong, hstun, Bool.false_eq_true, if_false, hhave,
    if_true, not_lt.mpr hlength, and_false, hchannel]
  rfl

/-- A datagram that ends with its bytes. -/
theorem channelData_payload_exact : [7] = payload [64, 0, 0, 1, 7] ∧ [7] = payload [64, 0, 0, 1, 7] :=
  ⟨((channelData_payload [64, 0, 0, 1, 7]).1 channelAllocations (fun _ => 0) serverTuple clientTuple _
      farTuple [7] (relayed_channelData _ (by decide) (by decide) (by decide) (by decide)) rfl).mpr rfl,
    ((channelData_payload [64, 0, 0, 1, 7]).2 channelClient 0 serverTuple.mAddress serverTuple.mPort _ _ [7]
      rfl rfl (by decide)
      (handed_channelData _ (by decide) (by decide) (by decide) (by decide))).mpr rfl⟩

/-- The bytes that fill a datagram up are relayed and handed on. -/
theorem not_channelData_payload :
    payload [64, 0, 0, 1, 7, 0, 0, 0] = [7] ∧
    (∃ sent, (UdpServer.onReceiveSuccess channelAllocations (fun _ => 0) serverTuple clientTuple
      [64, 0, 0, 1, 7, 0, 0, 0]).1 = .channelData sent ∧ sent.datagram? = some (farTuple, [7, 0, 0, 0])) ∧
    (channelClient.handleReceivedData 0 serverTuple.mAddress serverTuple.mPort [64, 0, 0, 1, 7, 0, 0, 0]).1 =
      .success farTuple.mAddress farTuple.mPort [7, 0, 0, 0] :=
  ⟨by decide, ⟨_, relayed_channelData _ (by decide) (by decide) (by decide) (by decide), rfl⟩,
    handed_channelData _ (by decide) (by decide) (by decide) (by decide)⟩

end Resiprocate.ReTurn
