import Mathlib
import Resiprocate.TurnAllocation

/-! Channel bindings are one-to-one. Whatever an allocation does to them is a row of
three changes: an expired binding is dropped, a binding is refreshed, and a
channel and a peer that are both unbound are bound to each other. -/
namespace Resiprocate.ReTurn

namespace ChannelManager

/-- `ptr` is bound: the object is there, under its channel and under its peer. -/
structure Holds (m : ChannelManager) (ptr : ℕ) (peer : RemotePeer) : Prop where
  object : m.peers ptr = some peer
  channel : m.mChannelRemotePeerMap peer.mChannel = some ptr
  tuple : m.mTupleRemotePeerMap peer.mPeerTuple = some ptr

/-- The two maps are inverse to each other, no assertion has failed and no deleted
object has been used. -/
structure OneToOne (m : ChannelManager) : Prop where
  byChannel : ∀ c ptr, m.mChannelRemotePeerMap c = some ptr → ∃ peer, m.Holds ptr peer ∧ peer.mChannel = c
  byTuple : ∀ t ptr, m.mTupleRemotePeerMap t = some ptr → ∃ peer, m.Holds ptr peer ∧ peer.mPeerTuple = t
  fresh : ∀ ptr peer, m.peers ptr = some peer → ptr < m.fresh
  noFault : m.fault = false

def drop (m : ChannelManager) (ptr : ℕ) (peer : RemotePeer) : ChannelManager :=
  { m with
    peers := Function.update m.peers ptr none
    mChannelRemotePeerMap := Function.update m.mChannelRemotePeerMap peer.mChannel none
    mTupleRemotePeerMap := Function.update m.mTupleRemotePeerMap peer.mPeerTuple none }

def set (m : ChannelManager) (ptr : ℕ) (peer : RemotePeer) : ChannelManager :=
  { m with peers := Function.update m.peers ptr (some peer) }

def bind (m : ChannelManager) (peer : RemotePeer) : ChannelManager :=
  { m with
    peers := Function.update m.peers m.fresh (some peer)
    fresh := m.fresh + 1
    mTupleRemotePeerMap := Function.update m.mTupleRemotePeerMap peer.mPeerTuple (some m.fresh)
    mChannelRemotePeerMap := Function.update m.mChannelRemotePeerMap peer.mChannel (some m.fresh) }

def newPeer (now : ℕ) (peerTuple : StunTuple) (channel : ℕ) : RemotePeer :=
  ⟨peerTuple, channel, now + channelBindingLifetimeSeconds, channelBindingLifetimeSeconds⟩

/-- One change between the times `lo` and `hi`. -/
inductive Change (lo hi : ℕ) (m : ChannelManager) : ChannelManager → Prop
  | dropped {ptr now : ℕ} {peer : RemotePeer} : m.Holds ptr peer → peer.isExpired now →
    lo ≤ now → now ≤ hi → Change lo hi m (m.drop ptr peer)
  | refreshed {ptr now : ℕ} {peer : RemotePeer} : m.Holds ptr peer →
    lo ≤ now → now ≤ hi → Change lo hi m (m.set ptr (peer.refresh now))
  | bound {now channel : ℕ} {peerTuple : StunTuple} :
    m.mChannelRemotePeerMap channel = none → m.mTupleRemotePeerMap peerTuple = none →
    lo ≤ now → now ≤ hi → Change lo hi m (m.bind (newPeer now peerTuple channel))

/-- Changes one after the other, from the time `lo` to a later one. -/
inductive Changes (lo : ℕ) (m : ChannelManager) : ℕ → ChannelManager → Prop
  | refl {hi : ℕ} : lo ≤ hi → Changes lo m hi m
  | tail {mid hi : ℕ} {m' m'' : ChannelManager} :
    Changes lo m mid m' → Change mid hi m' m'' → Changes lo m hi m''

variable {m m' m'' : ChannelManager} {ptr ptr' lo mid hi : ℕ} {peer peer' : RemotePeer}

theorem Holds.object_inj (h : m.Holds ptr peer) (h' : m.Holds ptr peer') : peer = peer' :=
  Option.some.inj (h.object.symm.trans h'.object)

theorem Holds.channel_inj (h : m.Holds ptr peer) (h' : m.Holds ptr' peer')
    (hc : peer.mChannel = peer'.mChannel) : ptr = ptr' :=
  Option.some.inj (h.channel.symm.trans (hc ▸ h'.channel))

theorem Holds.tuple_inj (h : m.Holds ptr peer) (h' : m.Holds ptr' peer')
    (ht : peer.mPeerTuple = peer'.mPeerTuple) : ptr = ptr' :=
  Option.some.inj (h.tuple.symm.trans (ht ▸ h'.tuple))

/-- Dropping one binding leaves the others. -/
theorem Holds.drop_other (h : m.Holds ptr peer) (h' : m.Holds ptr' peer') (hne : ptr' ≠ ptr) :
    (m.drop ptr peer).Holds ptr' peer' where
  object := by simp [drop, hne, h'.object]
  channel := by
    have hc : peer'.mChannel ≠ peer.mChannel := fun hc => hne (h'.channel_inj h hc)
    simp [drop, hc, h'.channel]
  tuple := by
    have ht : peer'.mPeerTuple ≠ peer.mPeerTuple := fun ht => hne (h'.tuple_inj h ht)
    simp [drop, ht, h'.tuple]

theorem OneToOne.drop (h : OneToOne m) (hp : m.Holds ptr peer) : OneToOne (m.drop ptr peer) where
  byChannel c q hq := by
    obtain ⟨hc, hq⟩ : c ≠ peer.mChannel ∧ m.mChannelRemotePeerMap c = some q := by
      simpa [ChannelManager.drop, Function.update_apply] using hq
    obtain ⟨peer', hold, rfl⟩ := h.byChannel c q hq
    refine ⟨peer', hp.drop_other hold ?_, rfl⟩
    rintro rfl
    exact hc (congrArg RemotePeer.mChannel (hold.object_inj hp))
  byTuple t q hq := by
    obtain ⟨ht, hq⟩ : t ≠ peer.mPeerTuple ∧ m.mTupleRemotePeerMap t = some q := by
      simpa [ChannelManager.drop, Function.update_apply] using hq
    obtain ⟨peer', hold, rfl⟩ := h.byTuple t q hq
    refine ⟨peer', hp.drop_other hold ?_, rfl⟩
    rintro rfl
    exact ht (congrArg RemotePeer.mPeerTuple (hold.object_inj hp))
  fresh q peer' hq := by
    obtain ⟨-, hq⟩ : q ≠ ptr ∧ m.peers q = some peer' := by
      simpa [ChannelManager.drop, Function.update_apply] using hq
    exact h.fresh q peer' hq
  noFault := h.noFault

/-- Another object for a binding, of the same channel and peer. -/
theorem Holds.set_self (h : m.Holds ptr peer) (hc : peer'.mChannel = peer.mChannel)
    (ht : peer'.mPeerTuple = peer.mPeerTuple) : (m.set ptr peer').Holds ptr peer' where
  object := by simp [set]
  channel := hc ▸ h.channel
  tuple := ht ▸ h.tuple

theorem Holds.set_other (h' : m.Holds ptr' peer') (hne : ptr' ≠ ptr) :
    (m.set ptr peer).Holds ptr' peer' where
  object := by simp [set, hne, h'.object]
  channel := h'.channel
  tuple := h'.tuple

theorem OneToOne.set (h : OneToOne m) (hp : m.Holds ptr peer)
    (hc : peer'.mChannel = peer.mChannel) (ht : peer'.mPeerTuple = peer.mPeerTuple) :
    OneToOne (m.set ptr peer') where
  byChannel c q hq := by
    obtain ⟨old, hold, rfl⟩ := h.byChannel c q hq
    by_cases hqp : q = ptr
    · subst hqp
      exact ⟨peer', hp.set_self hc ht, by rw [hc, hold.object_inj hp]⟩
    · exact ⟨old, hold.set_other hqp, rfl⟩
  byTuple t q hq := by
    obtain ⟨old, hold, rfl⟩ := h.byTuple t q hq
    by_cases hqp : q = ptr
    · subst hqp
      exact ⟨peer', hp.set_self hc ht, by rw [ht, hold.object_inj hp]⟩
    · exact ⟨old, hold.set_other hqp, rfl⟩
  fresh q old hq := by
    by_cases hqp : q = ptr
    · subst hqp
      exact h.fresh q peer hp.object
    · exact h.fresh q old (by simpa [ChannelManager.set, hqp] using hq)
  noFault := h.noFault

theorem Holds.bind_new : (m.bind peer).Holds m.fresh peer where
  object := by simp [bind]
  channel := by simp [bind]
  tuple := by simp [bind]

theorem Holds.bind_other (h : OneToOne m) (h' : m.Holds ptr' peer')
    (hc : m.mChannelRemotePeerMap peer.mChannel = none)
    (ht : m.mTupleRemotePeerMap peer.mPeerTuple = none) : (m.bind peer).Holds ptr' peer' where
  object := by
    have hne : ptr' ≠ m.fresh := (h.fresh ptr' peer' h'.object).ne
    simp [bind, hne, h'.object]
  channel := by
    have hne : peer'.mChannel ≠ peer.mChannel := fun he => by
      have := h'.channel
      simp [he, hc] at this
    simp [bind, hne, h'.channel]
  tuple := by
    have hne : peer'.mPeerTuple ≠ peer.mPeerTuple := fun he => by
      have := h'.tuple
      simp [he, ht] at this
    simp [bind, hne, h'.tuple]

theorem OneToOne.bind (h : OneToOne m) (hc : m.mChannelRemotePeerMap peer.mChannel = none)
    (ht : m.mTupleRemotePeerMap peer.mPeerTuple = none) : OneToOne (m.bind peer) where
  byChannel c q hq := by
    by_cases he : c = peer.mChannel
    · obtain rfl : m.fresh = q := by simpa [ChannelManager.bind, he] using hq
      exact ⟨peer, Holds.bind_new, he.symm⟩
    · obtain ⟨old, hold, rfl⟩ := h.byChannel c q (by simpa [ChannelManager.bind, he] using hq)
      exact ⟨old, hold.bind_other h hc ht, rfl⟩
  byTuple t q hq := by
    by_cases he : t = peer.mPeerTuple
    · obtain rfl : m.fresh = q := by simpa [ChannelManager.bind, he] using hq
      exact ⟨peer, Holds.bind_new, he.symm⟩
    · obtain ⟨old, hold, rfl⟩ := h.byTuple t q (by simpa [ChannelManager.bind, he] using hq)
      exact ⟨old, hold.bind_other h hc ht, rfl⟩
  fresh q old hq := by
    by_cases he : q = m.fresh
    · simp [ChannelManager.bind, he]
    · have := h.fresh q old (by simpa [ChannelManager.bind, he] using hq)
      simp only [ChannelManager.bind]
      omega
  noFault := h.noFault

/-- No binding lasts longer than a refresh at `now` would make it last. -/
def Timed (now : ℕ) (m : ChannelManager) : Prop :=
  ∀ ptr peer, m.peers ptr = some peer →
    peer.mTimeoutSeconds = channelBindingLifetimeSeconds ∧
      peer.mExpires ≤ now + channelBindingLifetimeSeconds

theorem Timed.mono (h : Timed lo m) (hle : lo ≤ hi) : Timed hi m := fun ptr peer hp =>
  ⟨(h ptr peer hp).1, (h ptr peer hp).2.trans (Nat.add_le_add_right hle _)⟩

theorem Change.oneToOne (h : OneToOne m) (hc : Change lo hi m m') : OneToOne m' := by
  cases hc with
  | dropped hp => exact h.drop hp
  | refreshed hp => exact h.set hp rfl rfl
  | bound hchan htup => exact h.bind hchan htup

theorem Change.timed (h : Timed hi m) (hc : Change lo hi m m') : Timed hi m' := by
  intro q p hq
  cases hc with
  | @dropped ptr now peer hp =>
    obtain ⟨-, hq⟩ : q ≠ ptr ∧ m.peers q = some p := by
      simpa [drop, Function.update_apply] using hq
    exact h q p hq
  | @refreshed ptr now peer hp hlo hhi =>
    by_cases hqp : q = ptr
    · obtain rfl : peer.refresh now = p := by simpa [set, hqp] using hq
      have ht := (h ptr peer hp.object).1
      refine ⟨ht, ?_⟩
      simp only [RemotePeer.refresh, ht]
      omega
    · exact h q p (by simpa [set, hqp] using hq)
  | @bound now channel peerTuple _ _ hlo hhi =>
    by_cases hqp : q = m.fresh
    · obtain rfl : newPeer now peerTuple channel = p := by simpa [bind, hqp] using hq
      refine ⟨rfl, ?_⟩
      simp only [newPeer]
      omega
    · exact h q p (by simpa [bind, hqp] using hq)

/-- `peer'` is `peer` with the same or a later time of expiry. -/
structure Extends (peer peer' : RemotePeer) : Prop where
  channel : peer'.mChannel = peer.mChannel
  tuple : peer'.mPeerTuple = peer.mPeerTuple
  expires : peer.mExpires ≤ peer'.mExpires

theorem Extends.trans {p q r : RemotePeer} (h : Extends p q) (h' : Extends q r) : Extends p r :=
  ⟨h'.channel.trans h.channel, h'.tuple.trans h.tuple, h.expires.trans h'.expires⟩

/-- A binding that has not expired at `hi` survives what happens until then. -/
theorem Change.holds (h : OneToOne m) (ht : Timed lo m) (hp : m.Holds ptr peer)
    (hexp : hi ≤ peer.mExpires) (hc : Change lo hi m m') :
    ∃ peer', m'.Holds ptr peer' ∧ Extends peer peer' := by
  cases hc with
  | @dropped q now peer' hq hgone hlo hhi =>
    refine ⟨peer, hq.drop_other hp ?_, rfl, rfl, le_rfl⟩
    rintro rfl
    have hnow : peer'.mExpires < now := by simpa [RemotePeer.isExpired] using hgone
    rw [hq.object_inj hp] at hnow
    omega
  | @refreshed q now peer' hq hlo hhi =>
    by_cases hqp : ptr = q
    · subst hqp
      obtain rfl := hq.object_inj hp
      refine ⟨peer'.refresh now, hp.set_self rfl rfl, rfl, rfl, ?_⟩
      obtain ⟨htime, hle⟩ := ht ptr peer' hp.object
      simp only [RemotePeer.refresh, htime]
      omega
    · exact ⟨peer, hp.set_other hqp, rfl, rfl, le_rfl⟩
  | bound hchan htup => exact ⟨peer, hp.bind_other h hchan htup, rfl, rfl, le_rfl⟩

theorem Change.le (hc : Change lo hi m m') : lo ≤ hi := by
  cases hc with
  | dropped _ _ hlo hhi => exact hlo.trans hhi
  | refreshed _ hlo hhi => exact hlo.trans hhi
  | bound _ _ hlo hhi => exact hlo.trans hhi

theorem Change.later (hc : Change lo mid m m') (hle : mid ≤ hi) : Change lo hi m m' := by
  cases hc with
  | dropped hp he hlo hhi => exact .dropped hp he hlo (hhi.trans hle)
  | refreshed hp hlo hhi => exact .refreshed hp hlo (hhi.trans hle)
  | bound hchan htup hlo hhi => exact .bound hchan htup hlo (hhi.trans hle)

theorem Changes.le (hc : Changes lo m hi m') : lo ≤ hi := by
  induction hc with
  | refl hle => exact hle
  | tail _ hstep ih => exact ih.trans hstep.le

theorem Changes.later (hc : Changes lo m mid m') (hle : mid ≤ hi) : Changes lo m hi m' := by
  cases hc with
  | refl h => exact .refl (h.trans hle)
  | tail h hstep => exact .tail h (hstep.later hle)

theorem Changes.trans (h : Changes lo m mid m') (h' : Changes mid m' hi m'') :
    Changes lo m hi m'' := by
  induction h' with
  | refl hle => exact h.later hle
  | tail _ hstep ih => exact ih.tail hstep

theorem Change.changes (hc : Change lo hi m m') : Changes lo m hi m' := .tail (.refl le_rfl) hc

theorem Changes.invariant (hc : Changes lo m hi m') (h : OneToOne m) (ht : Timed lo m) :
    OneToOne m' ∧ Timed hi m' := by
  induction hc with
  | refl hle => exact ⟨h, ht.mono hle⟩
  | tail _ hstep ih => exact ⟨hstep.oneToOne ih.1, hstep.timed (ih.2.mono hstep.le)⟩

theorem Changes.oneToOne (hc : Changes lo m hi m') (h : OneToOne m) : OneToOne m' := by
  induction hc with
  | refl => exact h
  | tail _ hstep ih => exact hstep.oneToOne ih

/-- A binding that has not expired at the end is there all the time. -/
theorem Changes.holds (hc : Changes lo m hi m') (h : OneToOne m) (ht : Timed lo m)
    (hp : m.Holds ptr peer) (hexp : hi ≤ peer.mExpires) :
    ∃ peer', m'.Holds ptr peer' ∧ Extends peer peer' := by
  induction hc with
  | refl => exact ⟨peer, hp, rfl, rfl, le_rfl⟩
  | tail hsteps hstep ih =>
    obtain ⟨peer', hp', hext⟩ := ih (hstep.le.trans hexp)
    obtain ⟨ho, htime⟩ := hsteps.invariant h ht
    obtain ⟨peer'', hp'', hext'⟩ := hstep.holds ho htime hp' (hexp.trans hext.expires)
    exact ⟨peer'', hp'', hext.trans hext'⟩

/-- A look-up that finds nothing leaves the key unbound: it was so before, or its
binding has expired and is dropped. -/
theorem findByChannel_spec (h : OneToOne m) (now c : ℕ) :
    (∃ ptr peer, m.Holds ptr peer ∧ peer.mChannel = c ∧
      m.findRemotePeerByChannel now c = (some ptr, m)) ∨
    ∃ m', m.findRemotePeerByChannel now c = (none, m') ∧ Changes now m now m' ∧
      m'.mChannelRemotePeerMap c = none := by
  cases hc : m.mChannelRemotePeerMap c with
  | none => exact .inr ⟨m, by simp [findRemotePeerByChannel, hc], .refl le_rfl, hc⟩
  | some ptr =>
    obtain ⟨peer, hp, rfl⟩ := h.byChannel c ptr hc
    by_cases he : peer.isExpired now
    · refine .inr ⟨m.drop ptr peer, ?_, (Change.dropped hp he le_rfl le_rfl).changes, by simp [drop]⟩
      simp [findRemotePeerByChannel, hc, hp.object, he, drop]
    · exact .inl ⟨ptr, peer, hp, rfl, by simp [findRemotePeerByChannel, hc, hp.object, he]⟩

theorem findByPeerAddress_spec (h : OneToOne m) (now : ℕ) (t : StunTuple) :
    (∃ ptr peer, m.Holds ptr peer ∧ peer.mPeerTuple = t ∧
      m.findRemotePeerByPeerAddress now t = (some ptr, m)) ∨
    ∃ m', m.findRemotePeerByPeerAddress now t = (none, m') ∧ Changes now m now m' ∧
      m'.mTupleRemotePeerMap t = none ∧
      ∀ c, m.mChannelRemotePeerMap c = none → m'.mChannelRemotePeerMap c = none := by
  cases ht : m.mTupleRemotePeerMap t with
  | none =>
    exact .inr ⟨m, by simp [findRemotePeerByPeerAddress, ht], .refl le_rfl, ht, fun _ hc => hc⟩
  | some ptr =>
    obtain ⟨peer, hp, rfl⟩ := h.byTuple t ptr ht
    by_cases he : peer.isExpired now
    · refine .inr ⟨m.drop ptr peer, ?_, (Change.dropped hp he le_rfl le_rfl).changes, by simp [drop],
        ?_⟩
      · simp [findRemotePeerByPeerAddress, ht, hp.object, he, drop]
      · intro c hc
        simp [drop, Function.update_apply, hc]
    · exact .inl ⟨ptr, peer, hp, rfl, by simp [findRemotePeerByPeerAddress, ht, hp.object, he]⟩

/-- The assertion of `createChannelBinding` holds when the peer is unbound. -/
theorem createChannelBinding_eq (hf : m.fault = false) {t : StunTuple}
    (ht : m.mTupleRemotePeerMap t = none) (nowFind now c : ℕ) :
    m.createChannelBinding nowFind now t c = m.bind (newPeer now t c) := by
  simp [createChannelBinding, findRemotePeerByPeerAddress, ht, bind, newPeer, hf]

theorem refreshPeer_eq (hp : m.Holds ptr peer) (now : ℕ) :
    m.refreshPeer now ptr = m.set ptr (peer.refresh now) := by
  simp [refreshPeer, hp.object, set]

end ChannelManager

namespace TurnAllocation

open ChannelManager

variable {a a' : TurnAllocation} {lo hi : ℕ} {times : ℕ → ℕ}

/-- What the client, its peers and requests make an allocation do. -/
inductive Call
  | addChannelBinding (peerAddress : StunTuple) (channelNumber : ℕ)
  | sendDataToPeer (channelNumber : ℕ) (data : Data) (isFramed : Bool)
  | sendDataToPeerAddress (peerAddress : StunTuple) (data : Data) (isFramed : Bool)
  | sendDataToClient (peerAddress : StunTuple) (data : Data)
  | refreshPermission (address : Address)

def call (a : TurnAllocation) (times : ℕ → ℕ) : Call → TurnAllocation
  | .addChannelBinding peerAddress channelNumber =>
    (a.addChannelBinding times peerAddress channelNumber).2
  | .sendDataToPeer channelNumber data isFramed =>
    (a.sendDataToPeer times channelNumber data isFramed).2
  | .sendDataToPeerAddress peerAddress data isFramed =>
    (a.sendDataToPeerAddress (times 0) peerAddress data isFramed).2
  | .sendDataToClient peerAddress data => (a.sendDataToClient times peerAddress data).2
  | .refreshPermission address => a.refreshPermission (times 0) address

@[simp] theorem refreshPermission_channels (now : ℕ) (address : Address) :
    (a.refreshPermission now address).mChannelManager = a.mChannelManager := rfl

@[simp] theorem existsPermission_channels (now : ℕ) (address : Address) :
    (a.existsPermission now address).2.mChannelManager = a.mChannelManager := by
  unfold existsPermission
  split
  · rfl
  · split <;> rfl

@[simp] theorem sendDataToPeerAddress_channels (now : ℕ) (peerAddress : StunTuple) (data : Data)
    (isFramed : Bool) :
    (a.sendDataToPeerAddress now peerAddress data isFramed).2.mChannelManager =
      a.mChannelManager := by
  have hchannels := a.existsPermission_channels now peerAddress.mAddress
  unfold sendDataToPeerAddress
  split
  next heq => simpa [heq] using hchannels
  next heq => split_ifs <;> simpa [heq] using hchannels

/-- What a call does to the channel bindings. -/
theorem call_changes (h : OneToOne a.mChannelManager) (hm : Monotone times) (c : Call) :
    Changes (times 0) a.mChannelManager (times 4) (a.call times c).mChannelManager := by
  have h01 : times 0 ≤ times 1 := hm (by omega)
  have h13 : times 1 ≤ times 3 := hm (by omega)
  have h34 : times 3 ≤ times 4 := hm (by omega)
  have h04 : times 0 ≤ times 4 := hm (by omega)
  cases c with
  | addChannelBinding peerAddress channelNumber =>
    obtain ⟨ptr, peer, hp, rfl, hfind⟩ | ⟨m', hfind, hch, hnone⟩ :=
      findByChannel_spec h (times 0) channelNumber
    · simp only [call, addChannelBinding, hfind, hp.object]
      split_ifs
      · exact .refl h04
      · rw [refreshPermission_channels, refreshPeer_eq hp]
        exact (Change.refreshed hp h01 (h13.trans h34)).changes
    · have h' := (hch.later h01).oneToOne h
      obtain ⟨ptr, peer, hp, -, hfind'⟩ | ⟨m'', hfind', hch', htup, hkeep⟩ :=
        findByPeerAddress_spec h' (times 1) peerAddress
      · simpa only [call, addChannelBinding, hfind, hfind'] using hch.later h04
      · simp only [call, addChannelBinding, hfind, hfind', refreshPermission_channels]
        rw [createChannelBinding_eq (hch'.oneToOne h').noFault htup]
        exact ((hch.later h01).trans hch').tail (.bound (hkeep _ hnone) htup h13 h34)
  | sendDataToPeer channelNumber data isFramed =>
    obtain ⟨ptr, peer, hp, -, hfind⟩ | ⟨m', hfind, hch, -⟩ :=
      findByChannel_spec h (times 0) channelNumber
    · simp only [call, sendDataToPeer, hfind, hp.object, sendDataToPeerAddress_channels]
      exact .refl h04
    · simpa only [call, sendDataToPeer, hfind] using hch.later h04
  | sendDataToPeerAddress peerAddress data isFramed =>
    simp only [call, sendDataToPeerAddress_channels]
    exact .refl h04
  | sendDataToClient peerAddress data =>
    have hchannels := a.existsPermission_channels (times 0) peerAddress.mAddress
    simp only [call, sendDataToClient]
    split
    next heq =>
      rw [heq] at hchannels
      rw [hchannels]
      exact .refl h04
    next b heq =>
      rw [heq] at hchannels
      have hb : OneToOne b.mChannelManager := hchannels ▸ h
      rw [← hchannels]
      obtain ⟨ptr, peer, hp, -, hfind⟩ | ⟨m', hfind, hch, -⟩ :=
        findByPeerAddress_spec hb (times 1) peerAddress
      · simp only [hfind, hp.object]
        exact .refl h04
      · have hwait : Changes (times 0) b.mChannelManager (times 1) b.mChannelManager := .refl h01
        simpa only [hfind] using (hwait.trans hch).later (h13.trans h34)
  | refreshPermission address => exact .refl h04

/-- Calls one after the other, from one time to a later one. -/
inductive Runs (a : TurnAllocation) (now : ℕ) : TurnAllocation → ℕ → Prop
  | refl : Runs a now a now
  | call {b : TurnAllocation} {since : ℕ} {times : ℕ → ℕ} {c : Call} : Runs a now b since →
    Monotone times → since ≤ times 0 → Runs a now (b.call times c) (times 4)

variable {now now' : ℕ}

theorem Runs.changes (h : Runs a now a' now') (ho : OneToOne a.mChannelManager) :
    Changes now a.mChannelManager now' a'.mChannelManager := by
  induction h with
  | refl => exact .refl le_rfl
  | call _ hm hle ih => exact (ih.later hle).trans (call_changes (ih.oneToOne ho) hm _)

theorem empty_oneToOne : OneToOne .empty where
  byChannel _ _ h := by cases h
  byTuple _ _ h := by cases h
  fresh _ _ h := by cases h
  noFault := rfl

/-- After any calls the two maps are inverse to each other and no assertion has failed;
a binding that is there at some time is there, with the same channel and peer, at every
later time at which it has not expired. -/
theorem channels_oneToOne (clientLocalTuple clientRemoteTuple requestedTuple : StunTuple)
    (clientAuth : StunAuth) (start lifetime : ℕ)
    (h : Runs (new clientLocalTuple clientRemoteTuple clientAuth requestedTuple start lifetime)
      start a now) (h' : Runs a now a' now') :
    OneToOne a.mChannelManager ∧ ∀ ptr peer, a.mChannelManager.Holds ptr peer →
      now' ≤ peer.mExpires →
      ∃ peer', a'.mChannelManager.Holds ptr peer' ∧ Extends peer peer' := by
  obtain ⟨ho, ht⟩ := (h.changes empty_oneToOne).invariant empty_oneToOne (fun _ _ hp => by cases hp)
  exact ⟨ho, fun ptr peer hp hexp => (h'.changes ho).holds ho ht hp hexp⟩

def hostAt (port : ℕ) : StunTuple := ⟨.udp, .v4 0x7f000001, port⟩

/-- An allocation with the channel 0x4000 bound at the time 5. -/
def boundAllocation : TurnAllocation :=
  (new (hostAt 3478) (hostAt 1000) ⟨[], []⟩ (hostAt 49152) 0 600).call (fun _ => 5)
    (.addChannelBinding (hostAt 7000) 0x4000)

/-- Ten minutes later another peer asks for the channel. -/
theorem channels_oneToOne_bound : OneToOne boundAllocation.mChannelManager ∧
    ∃ peer, (boundAllocation.call (fun _ => 605)
        (.addChannelBinding (hostAt 7001) 0x4000)).mChannelManager.Holds 0 peer ∧
      Extends ⟨hostAt 7000, 0x4000, 605, 600⟩ peer := by
  have hbound : Runs (new (hostAt 3478) (hostAt 1000) ⟨[], []⟩ (hostAt 49152) 0 600) 0
      boundAllocation 5 := .call .refl (fun _ _ _ => le_rfl) (Nat.zero_le 5)
  have hlater : Runs boundAllocation 5 (boundAllocation.call (fun _ => 605)
      (.addChannelBinding (hostAt 7001) 0x4000)) 605 :=
    .call .refl (fun _ _ _ => le_rfl) (by decide : 5 ≤ (fun _ : ℕ => 605) 0)
  obtain ⟨ho, hkept⟩ := channels_oneToOne _ _ _ _ _ _ hbound hlater
  exact ⟨ho, hkept 0 ⟨hostAt 7000, 0x4000, 605, 600⟩ ⟨rfl, rfl, rfl⟩ le_rfl⟩

end TurnAllocation

end Resiprocate.ReTurn
