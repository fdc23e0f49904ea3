import Mathlib
import Resiprocate.ChannelManager

/-! An allocation of the TURN server: its relay address, the permissions installed
for peers and the channel bindings. Each operation reads the clock at the places
where the code does; `times` holds the readings of one call in order. -/
namespace Resiprocate.ReTurn

structure TurnAllocationKey where
  mClientLocalTuple : StunTuple
  mClientRemoteTuple : StunTuple
  deriving DecidableEq

structure StunAuth where
  mClientUsername : Data
  mClientSharedSecret : Data
  deriving DecidableEq

structure TurnPermission where
  mExpires : ℕ
  mTimeoutSeconds : ℕ
  deriving DecidableEq

def TurnPermission.isExpired (permission : TurnPermission) (now : ℕ) : Bool :=
  permission.mExpires < now

def TurnPermission.refresh (permission : TurnPermission) (now : ℕ) : TurnPermission :=
  { permission with mExpires := now + permission.mTimeoutSeconds }

/-- `TURN_PERMISSION_LIFETIME_SECONDS`. -/
def permissionLifetimeSeconds : ℕ := 300

structure TurnAllocation where
  mKey : TurnAllocationKey
  mClientAuth : StunAuth
  mRequestedTuple : StunTuple
  mExpires : ℕ
  mTurnPermissionMap : Address → Option TurnPermission
  mChannelManager : ChannelManager

/-- What an allocation hands to its sockets. -/
inductive Sent
  | nothing
  /-- `mUdpRelayServer->doSend`; framed data is sent from its fifth byte on. -/
  | toPeer (peerAddress : StunTuple) (data : Data) (bufferStartPos : ℕ)
  | toClientOnChannel (client : StunTuple) (channel : ℕ) (data : Data)
  | dataIndToClient (client : StunTuple) (peerAddress : StunTuple) (data : Data)
  /-- TCP relays are not implemented: the code asserts. -/
  | tcpRelay
  deriving DecidableEq

namespace TurnAllocation

def new (clientLocalTuple clientRemoteTuple : StunTuple) (clientAuth : StunAuth)
    (requestedTuple : StunTuple) (now lifetime : ℕ) : TurnAllocation where
  mKey := ⟨clientLocalTuple, clientRemoteTuple⟩
  mClientAuth := clientAuth
  mRequestedTuple := requestedTuple
  mExpires := now + lifetime
  mTurnPermissionMap _ := none
  mChannelManager := .empty

def refresh (a : TurnAllocation) (now lifetime : ℕ) : TurnAllocation :=
  { a with mExpires := now + lifetime }

/-- An expired permission is erased by the look-up. -/
def existsPermission (a : TurnAllocation) (now : ℕ) (address : Address) : Bool × TurnAllocation :=
  match a.mTurnPermissionMap address with
  | none => (false, a)
  | some permission =>
    if permission.isExpired now then
      (false, { a with mTurnPermissionMap := Function.update a.mTurnPermissionMap address none })
    else (true, a)

def refreshPermission (a : TurnAllocation) (now : ℕ) (address : Address) : TurnAllocation :=
  let permission := match a.mTurnPermissionMap address with
    | none => ⟨now + permissionLifetimeSeconds, permissionLifetimeSeconds⟩
    | some permission => permission.refresh now
  { a with mTurnPermissionMap := Function.update a.mTurnPermissionMap address (some permission) }

/-- `sendDataToPeer` of a Send indication. -/
def sendDataToPeerAddress (a : TurnAllocation) (now : ℕ) (peerAddress : StunTuple) (data : Data)
    (isFramed : Bool) : Sent × TurnAllocation :=
  match a.existsPermission now peerAddress.mAddress with
  | (false, a) => (.nothing, a)
  | (true, a) =>
    if a.mRequestedTuple.mTransport = .udp then
      (.toPeer peerAddress data (if isFramed then 4 else 0), a)
    else if data.length ≤ 4 then (.nothing, a)
    else (.tcpRelay, a)

/-- `sendDataToPeer` of framed data on a channel. -/
def sendDataToPeer (a : TurnAllocation) (times : ℕ → ℕ) (channelNumber : ℕ) (data : Data)
    (isFramed : Bool) : Sent × TurnAllocation :=
  match a.mChannelManager.findRemotePeerByChannel (times 0) channelNumber with
  | (none, m) => (.nothing, { a with mChannelManager := m })
  | (some ptr, m) =>
    match m.peers ptr with
    | none => (.nothing, { a with mChannelManager := { m with fault := true } })
    | some peer =>
      ({ a with mChannelManager := m } : TurnAllocation).sendDataToPeerAddress (times 1)
        peer.mPeerTuple data isFramed

def sendDataToClient (a : TurnAllocation) (times : ℕ → ℕ) (peerAddress : StunTuple) (data : Data) :
    Sent × TurnAllocation :=
  match a.existsPermission (times 0) peerAddress.mAddress with
  | (false, a) => (.nothing, a)
  | (true, a) =>
    match a.mChannelManager.findRemotePeerByPeerAddress (times 1) peerAddress with
    | (none, m) =>
      (.dataIndToClient a.mKey.mClientRemoteTuple peerAddress data, { a with mChannelManager := m })
    | (some ptr, m) =>
      match m.peers ptr with
      | none => (.nothing, { a with mChannelManager := { m with fault := true } })
      | some peer =>
        (.toClientOnChannel a.mKey.mClientRemoteTuple peer.mChannel data,
          { a with mChannelManager := m })

/-- A channel keeps its peer and a peer its channel; the same pair again is a refresh. -/
def addChannelBinding (a : TurnAllocation) (times : ℕ → ℕ) (peerAddress : StunTuple)
    (channelNumber : ℕ) : Bool × TurnAllocation :=
  match a.mChannelManager.findRemotePeerByChannel (times 0) channelNumber with
  | (some ptr, m) =>
    match m.peers ptr with
    | none => (false, { a with mChannelManager := { m with fault := true } })
    | some peer =>
      if peer.mPeerTuple ≠ peerAddress then (false, { a with mChannelManager := m })
      else
        let a := { a with mChannelManager := m.refreshPeer (times 1) ptr }
        (true, a.refreshPermission (times 4) peerAddress.mAddress)
  | (none, m) =>
    match m.findRemotePeerByPeerAddress (times 1) peerAddress with
    | (some _, m) => (false, { a with mChannelManager := m })
    | (none, m) =>
      let a := { a with
        mChannelManager := m.createChannelBinding (times 2) (times 3) peerAddress channelNumber }
      (true, a.refreshPermission (times 4) peerAddress.mAddress)

end TurnAllocation

end Resiprocate.ReTurn
