import Mathlib
import Resiprocate.StunTuple

/-! Channel bindings of an allocation. Two maps hold pointers to the same
`RemotePeer` objects, one by channel and one by peer address; expired peers are
deleted by the look-up that comes across them. The objects live in `peers`, and
`fault` is set when an assertion fails or a deleted object is used. -/
namespace Resiprocate.ReTurn

structure RemotePeer where
  mPeerTuple : StunTuple
  mChannel : ℕ
  mExpires : ℕ
  mTimeoutSeconds : ℕ
  deriving DecidableEq

/-- `time(0) > mExpires`. -/
def RemotePeer.isExpired (peer : RemotePeer) (now : ℕ) : Bool := peer.mExpires < now

def RemotePeer.refresh (peer : RemotePeer) (now : ℕ) : RemotePeer :=
  { peer with mExpires := now + peer.mTimeoutSeconds }

/-- `TURN_CHANNEL_BINDING_LIFETIME_SECONDS`. -/
def channelBindingLifetimeSeconds : ℕ := 600

structure ChannelManager where
  peers : ℕ → Option RemotePeer
  /-- The address of the next object. -/
  fresh : ℕ
  mChannelRemotePeerMap : ℕ → Option ℕ
  mTupleRemotePeerMap : StunTuple → Option ℕ
  fault : Bool

namespace ChannelManager

def empty : ChannelManager where
  peers _ := none
  fresh := 0
  mChannelRemotePeerMap _ := none
  mTupleRemotePeerMap _ := none
  fault := false

/-- A pointer is returned while its peer has not expired. The entry that was looked up
is erased by its key, the other one by what the peer holds. -/
def findRemotePeerByChannel (m : ChannelManager) (now : ℕ) (channelNumber : ℕ) :
    Option ℕ × ChannelManager :=
  match m.mChannelRemotePeerMap channelNumber with
  | none => (none, m)
  | some ptr =>
    match m.peers ptr with
    | none => (none, { m with fault := true })
    | some peer =>
      if peer.isExpired now then
        (none, { m with
          peers := Function.update m.peers ptr none
          mTupleRemotePeerMap := Function.update m.mTupleRemotePeerMap peer.mPeerTuple none
          mChannelRemotePeerMap := Function.update m.mChannelRemotePeerMap channelNumber none })
      else (some ptr, m)

def findRemotePeerByPeerAddress (m : ChannelManager) (now : ℕ) (peerAddress : StunTuple) :
    Option ℕ × ChannelManager :=
  match m.mTupleRemotePeerMap peerAddress with
  | none => (none, m)
  | some ptr =>
    match m.peers ptr with
    | none => (none, { m with fault := true })
    | some peer =>
      if peer.isExpired now then
        (none, { m with
          peers := Function.update m.peers ptr none
          mChannelRemotePeerMap := Function.update m.mChannelRemotePeerMap peer.mChannel none
          mTupleRemotePeerMap := Function.update m.mTupleRemotePeerMap peerAddress none })
      else (some ptr, m)

/-- The assertion looks the peer up at `nowFind`; the object is made at `nowNew`. -/
def createChannelBinding (m : ChannelManager) (nowFind nowNew : ℕ) (peerTuple : StunTuple)
    (channel : ℕ) : ChannelManager :=
  let found := m.findRemotePeerByPeerAddress nowFind peerTuple
  let m := found.2
  { peers := Function.update m.peers m.fresh
      (some ⟨peerTuple, channel, nowNew + channelBindingLifetimeSeconds,
        channelBindingLifetimeSeconds⟩)
    fresh := m.fresh + 1
    mTupleRemotePeerMap := Function.update m.mTupleRemotePeerMap peerTuple (some m.fresh)
    mChannelRemotePeerMap := Function.update m.mChannelRemotePeerMap channel (some m.fresh)
    fault := m.fault || found.1.isSome }

def refreshPeer (m : ChannelManager) (now : ℕ) (ptr : ℕ) : ChannelManager :=
  match m.peers ptr with
  | none => { m with fault := true }
  | some peer => { m with peers := Function.update m.peers ptr (some (peer.refresh now)) }

end ChannelManager

end Resiprocate.ReTurn
