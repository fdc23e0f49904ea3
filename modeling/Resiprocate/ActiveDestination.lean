import Resiprocate.ClientChannels

/-! The active destination of a TURN client is a pointer to one of its remote peers. A look-up that comes
across an expired peer deletes it and does not look at the pointer. -/
namespace Resiprocate.ReTurn
open TransitionSystem

/-- What `TurnAsyncSocket` keeps of its allocation. -/
structure ActiveSocket extends ClientChannelManager where
  mHaveAllocation : Bool
  mActiveDestination : Option ℕ

namespace ActiveSocket

def new (randInt : ℕ) : ActiveSocket where
  toClientChannelManager := .new randInt
  mHaveAllocation := false
  mActiveDestination := none

/-- `createChannelBinding` returns the object that it makes. -/
def doSetActiveDestination (s : ActiveSocket) (times : ℕ → ℕ) (remoteTuple : StunTuple) : ActiveSocket :=
  match s.findRemotePeerByPeerAddress (times 0) remoteTuple with
  | (some remotePeer, channels) =>
    { s with toChannelManager := channels, mActiveDestination := some remotePeer }
  | (none, channels) =>
    let created := ClientChannelManager.createNextChannelBinding
      { s.toClientChannelManager with toChannelManager := channels } (times 1) (times 2) remoteTuple
    { s with toClientChannelManager := created, mActiveDestination := some channels.fresh }

def doClearActiveDestination (s : ActiveSocket) : ActiveSocket :=
  if s.mHaveAllocation then { s with mActiveDestination := none } else s

/-- The peer that the pointer is at is read without a look-up. -/
def doSendFramed (s : ActiveSocket) : ActiveSocket :=
  match s.mActiveDestination with
  | none => s
  | some ptr =>
    match s.peers ptr with
    | none => { s with fault := true }
    | some _ => s

/-- What happens at a socket. The times are those of the readings of the clock. -/
inductive Call
  | setActiveDestination (remoteTuple : StunTuple)
  | clearActiveDestination
  | sendFramed
  | sendToFramed (remoteTuple : StunTuple)
  /-- `handleReceivedData` of what is not a STUN message. -/
  | channelData (channelNumber : ℕ)
  | channelBindSuccess (channelNumber : ℕ)
  | channelBindingTimerExpired (channelNumber : ℕ)
  /-- A response to an Allocate or a Refresh request, or none in time. -/
  | allocation (mHaveAllocation : Bool)

def channelCall (s : ActiveSocket) (times : ℕ → ℕ) (c : ClientChannelManager.Call) : ActiveSocket :=
  { s with toClientChannelManager := s.toClientChannelManager.call times c }

def call (s : ActiveSocket) (times : ℕ → ℕ) : Call → ActiveSocket
  | .setActiveDestination remoteTuple => s.doSetActiveDestination times remoteTuple
  | .clearActiveDestination => s.doClearActiveDestination
  | .sendFramed => s.doSendFramed
  | .sendToFramed remoteTuple => s.channelCall times (.contact remoteTuple)
  | .channelData channelNumber =>
    if s.mHaveAllocation then s.channelCall times (.lookUp channelNumber) else s
  | .channelBindSuccess channelNumber => s.channelCall times (.channelBindSuccess channelNumber)
  | .channelBindingTimerExpired channelNumber => s.channelCall times (.lookUp channelNumber)
  | .allocation mHaveAllocation => { s with mHaveAllocation }

/-- The life of a socket, with the last reading of the clock. -/
def life (randInt : ℕ) : System (ActiveSocket × ℕ) ((ℕ → ℕ) × Call) where
  init p := p.1 = new randInt
  enabled p e := Monotone e.1 ∧ p.2 ≤ e.1 0
  next p e := (p.1.call e.1 e.2, e.1 2)

/-- The object is there, and the map has it under its own peer. -/
def RegisteredAt (s : ActiveSocket) (ptr : ℕ) : Prop :=
  ∃ peer, s.peers ptr = some peer ∧ s.mTupleRemotePeerMap peer.mPeerTuple = some ptr

/-- The pointer is null or at a peer that is registered. -/
def Registered (s : ActiveSocket) : Prop := ∀ ptr, s.mActiveDestination = some ptr → s.RegisteredAt ptr

/-- What the call looks up, without setting the pointer to what it finds. -/
def lookedUp (s : ActiveSocket) : Call → Option ℕ
  | .sendToFramed remoteTuple => s.mTupleRemotePeerMap remoteTuple
  | .channelData channelNumber =>
    if s.mHaveAllocation then s.mChannelRemotePeerMap channelNumber else none
  | .channelBindSuccess channelNumber | .channelBindingTimerExpired channelNumber =>
    s.mChannelRemotePeerMap channelNumber
  | _ => none

/-- The active destination is not looked up after it has expired, unless to set it again. -/
def Spares (p : ActiveSocket × ℕ) (e : (ℕ → ℕ) × Call) : Prop :=
  ∀ ptr peer, p.1.mActiveDestination = some ptr → p.1.lookedUp e.2 = some ptr →
    p.1.peers ptr = some peer → peer.isExpired (e.1 0) = false

end ActiveSocket

/-! ### Objects and their entries -/

namespace ChannelManager

/-- An entry is for an object of its key, and each object has the entry of its peer. A channel may be
bound again before its object is deleted. -/
structure Live (m : ChannelManager) : Prop where
  byChannel : ∀ c ptr, m.mChannelRemotePeerMap c = some ptr → ∃ peer, m.peers ptr = some peer ∧ peer.mChannel = c
  byTuple : ∀ t ptr, m.mTupleRemotePeerMap t = some ptr → ∃ peer, m.peers ptr = some peer ∧ peer.mPeerTuple = t
  object : ∀ ptr peer, m.peers ptr = some peer → m.mTupleRemotePeerMap peer.mPeerTuple = some ptr
  fresh : ∀ ptr peer, m.peers ptr = some peer → ptr < m.fresh
  noFault : m.fault = false

/-- The outcomes of a look-up, by what the map has for the key. -/
inductive Found (m : ChannelManager) (now : ℕ) : Option ℕ → Option ℕ × ChannelManager → Prop
  | absent : Found m now none (none, m)
  | kept {ptr : ℕ} {peer : RemotePeer} : m.peers ptr = some peer → peer.isExpired now = false →
    Found m now (some ptr) (some ptr, m)
  | deleted {ptr : ℕ} {peer : RemotePeer} : m.peers ptr = some peer → peer.isExpired now = true →
    Found m now (some ptr) (none, m.drop ptr peer)

variable {m : ChannelManager} {ptr q now : ℕ} {peer peer' : RemotePeer}

theorem Live.findByPeerAddress (h : Live m) (now : ℕ) (t : StunTuple) :
    Found m now (m.mTupleRemotePeerMap t) (m.findRemotePeerByPeerAddress now t) := by
  cases ht : m.mTupleRemotePeerMap t with
  | none => simpa [findRemotePeerByPeerAddress, ht] using Found.absent
  | some ptr =>
    obtain ⟨peer, hp, rfl⟩ := h.byTuple t ptr ht
    cases he : peer.isExpired now with
    | false => simpa [findRemotePeerByPeerAddress, ht, hp, he] using Found.kept hp he
    | true => simpa [findRemotePeerByPeerAddress, ht, hp, he, drop] using Found.deleted hp he

theorem Live.findByChannel (h : Live m) (now c : ℕ) :
    Found m now (m.mChannelRemotePeerMap c) (m.findRemotePeerByChannel now c) := by
  cases hc : m.mChannelRemotePeerMap c with
  | none => simpa [findRemotePeerByChannel, hc] using Found.absent
  | some ptr =>
    obtain ⟨peer, hp, rfl⟩ := h.byChannel c ptr hc
    cases he : peer.isExpired now with
    | false => simpa [findRemotePeerByChannel, hc, hp, he] using Found.kept hp he
    | true => simpa [findRemotePeerByChannel, hc, hp, he, drop] using Found.deleted hp he

theorem live_empty : Live empty := ⟨nofun, nofun, nofun, nofun, rfl⟩

theorem Live.drop (h : Live m) (hp : m.peers ptr = some peer) : Live (m.drop ptr peer) where
  byChannel c q hq := by
    obtain ⟨hc, hq⟩ : c ≠ peer.mChannel ∧ m.mChannelRemotePeerMap c = some q := by
      simpa [ChannelManager.drop, Function.update_apply] using hq
    obtain ⟨p, hobject, rfl⟩ := h.byChannel c q hq
    have hne : q ≠ ptr := by
      rintro rfl
      exact hc (congrArg RemotePeer.mChannel (Option.some.inj (hobject.symm.trans hp)))
    exact ⟨p, by simp [ChannelManager.drop, hne, hobject], rfl⟩
  byTuple t q hq := by
    obtain ⟨ht, hq⟩ : t ≠ peer.mPeerTuple ∧ m.mTupleRemotePeerMap t = some q := by
      simpa [ChannelManager.drop, Function.update_apply] using hq
    obtain ⟨p, hobject, rfl⟩ := h.byTuple t q hq
    have hne : q ≠ ptr := by
      rintro rfl
      exact ht (congrArg RemotePeer.mPeerTuple (Option.some.inj (hobject.symm.trans hp)))
    exact ⟨p, by simp [ChannelManager.drop, hne, hobject], rfl⟩
  object q p hq := by
    obtain ⟨hne, hobject⟩ : q ≠ ptr ∧ m.peers q = some p := by
      simpa [ChannelManager.drop, Function.update_apply] using hq
    have htuple := h.object q p hobject
    have ht : p.mPeerTuple ≠ peer.mPeerTuple := by
      intro heq
      rw [heq, h.object ptr peer hp] at htuple
      exact hne (Option.some.inj htuple).symm
    simp [ChannelManager.drop, ht, htuple]
  fresh q p hq := by
    obtain ⟨-, hobject⟩ : q ≠ ptr ∧ m.peers q = some p := by
      simpa [ChannelManager.drop, Function.update_apply] using hq
    exact h.fresh q p hobject
  noFault := h.noFault

theorem Live.set (h : Live m) (hp : m.peers ptr = some peer) (hc : peer'.mChannel = peer.mChannel)
    (ht : peer'.mPeerTuple = peer.mPeerTuple) : Live (m.set ptr peer') := by
  -- each object keeps its channel and its peer
  have hkeeps (q : ℕ) (p : RemotePeer) (hq : m.peers q = some p) :
      ∃ p', (m.set ptr peer').peers q = some p' ∧ p'.mChannel = p.mChannel ∧ p'.mPeerTuple = p.mPeerTuple := by
    by_cases hqp : q = ptr
    · subst hqp
      obtain rfl : peer = p := Option.some.inj (hp.symm.trans hq)
      exact ⟨peer', by simp [ChannelManager.set], hc, ht⟩
    · exact ⟨p, by simp [ChannelManager.set, hqp, hq], rfl, rfl⟩
  have hold (q : ℕ) (p' : RemotePeer) (hq : (m.set ptr peer').peers q = some p') :
      ∃ p, m.peers q = some p ∧ p.mPeerTuple = p'.mPeerTuple := by
    by_cases hqp : q = ptr
    · subst hqp
      obtain rfl : peer' = p' := by simpa [ChannelManager.set] using hq
      exact ⟨peer, hp, ht.symm⟩
    · exact ⟨p', by simpa [ChannelManager.set, hqp] using hq, rfl⟩
  refine ⟨fun c q hq => ?_, fun t q hq => ?_, fun q p' hq => ?_, fun q p' hq => ?_, h.noFault⟩
  · obtain ⟨p, hobject, rfl⟩ := h.byChannel c q hq
    obtain ⟨p', hobject', hchannel, -⟩ := hkeeps q p hobject
    exact ⟨p', hobject', hchannel⟩
  · obtain ⟨p, hobject, rfl⟩ := h.byTuple t q hq
    obtain ⟨p', hobject', -, htuple⟩ := hkeeps q p hobject
    exact ⟨p', hobject', htuple⟩
  · obtain ⟨p, hobject, htuple⟩ := hold q p' hq
    exact htuple ▸ h.object q p hobject
  · obtain ⟨p, hobject, -⟩ := hold q p' hq
    exact h.fresh q p hobject

theorem Live.bind (h : Live m) (ht : m.mTupleRemotePeerMap peer.mPeerTuple = none) : Live (m.bind peer) := by
  have hold (q : ℕ) (p : RemotePeer) (hq : m.peers q = some p) : (m.bind peer).peers q = some p := by
    simp [ChannelManager.bind, (h.fresh q p hq).ne, hq]
  have hnew : (m.bind peer).peers m.fresh = some peer := by simp [ChannelManager.bind]
  refine ⟨fun c q hq => ?_, fun t q hq => ?_, fun q p hq => ?_, fun q p hq => ?_, h.noFault⟩
  · by_cases hc : c = peer.mChannel
    · obtain rfl : m.fresh = q := by simpa [ChannelManager.bind, hc] using hq
      exact ⟨peer, hnew, hc.symm⟩
    · obtain ⟨p, hobject, hchannel⟩ := h.byChannel c q (by simpa [ChannelManager.bind, hc] using hq)
      exact ⟨p, hold q p hobject, hchannel⟩
  · by_cases he : t = peer.mPeerTuple
    · obtain rfl : m.fresh = q := by simpa [ChannelManager.bind, he] using hq
      exact ⟨peer, hnew, he.symm⟩
    · obtain ⟨p, hobject, htuple⟩ := h.byTuple t q (by simpa [ChannelManager.bind, he] using hq)
      exact ⟨p, hold q p hobject, htuple⟩
  · by_cases hqf : q = m.fresh
    · subst hqf
      obtain rfl : peer = p := by simpa [ChannelManager.bind] using hq
      simp [ChannelManager.bind]
    · have htuple := h.object q p (by simpa [ChannelManager.bind, hqf] using hq)
      have hne : p.mPeerTuple ≠ peer.mPeerTuple := by
        intro heq
        rw [heq, ht] at htuple
        cases htuple
      simpa [ChannelManager.bind, hne] using htuple
  · by_cases hqf : q = m.fresh
    · simp [ChannelManager.bind, hqf]
    · have hlt := h.fresh q p (by simpa [ChannelManager.bind, hqf] using hq)
      exact hlt.trans (Nat.lt_succ_self _)

theorem Live.refreshPeer (h : Live m) (hp : m.peers ptr = some peer) (now : ℕ) :
    m.refreshPeer now ptr = m.set ptr (peer.refresh now) ∧ Live (m.refreshPeer now ptr) := by
  have heq : m.refreshPeer now ptr = m.set ptr (peer.refresh now) := by
    simp [ChannelManager.refreshPeer, hp, ChannelManager.set]
  exact ⟨heq, heq ▸ h.set hp rfl rfl⟩

theorem isSome_drop : ((m.drop ptr peer).peers q).isSome ↔ q ≠ ptr ∧ (m.peers q).isSome := by
  by_cases hq : q = ptr <;> simp [drop, hq]

theorem isSome_set (hp : m.peers ptr = some peer) : ((m.set ptr peer').peers q).isSome ↔ (m.peers q).isSome := by
  by_cases hq : q = ptr
  · simp [set, hq, hp]
  · simp [set, hq]

theorem isSome_bind : ((m.bind peer).peers q).isSome ↔ q = m.fresh ∨ (m.peers q).isSome := by
  by_cases hq : q = m.fresh <;> simp [bind, hq]

/-- The only object that a look-up deletes is the one that it comes across, if that has expired. -/
theorem Found.live (h : Live m) {entry : Option ℕ} {result : Option ℕ × ChannelManager}
    (hf : Found m now entry result) : Live result.2 ∧ result.2.fresh = m.fresh ∧
      ∀ ptr peer, m.peers ptr = some peer →
        ((result.2.peers ptr).isSome ↔ (entry = some ptr → peer.isExpired now = false)) := by
  cases hf with
  | absent => exact ⟨h, rfl, fun ptr peer hp => by simp [hp]⟩
  | @kept q old hold hexpired =>
    refine ⟨h, rfl, fun ptr peer hp => iff_of_true (by simp [hp]) ?_⟩
    rintro ⟨⟩
    obtain rfl : old = peer := Option.some.inj (hold.symm.trans hp)
    exact hexpired
  | @deleted q old hold hexpired =>
    refine ⟨h.drop hold, rfl, fun ptr peer hp => ?_⟩
    rw [isSome_drop]
    constructor
    · rintro ⟨hne, -⟩ hq
      exact absurd (Option.some.inj hq).symm hne
    · intro hkept
      refine ⟨?_, by simp [hp]⟩
      rintro rfl
      obtain rfl : old = peer := Option.some.inj (hold.symm.trans hp)
      rw [hkept rfl] at hexpired
      cases hexpired

/-- What is found is there. -/
theorem Found.object {entry : Option ℕ} {channels : ChannelManager}
    (hf : Found m now entry (some ptr, channels)) : ∃ peer, channels.peers ptr = some peer := by
  cases hf with
  | kept hp _ => exact ⟨_, hp⟩

/-- A peer that is not found has no entry any more. -/
theorem Live.unbound (h : Live m) {channels : ChannelManager} {t : StunTuple}
    (hfind : m.findRemotePeerByPeerAddress now t = (none, channels)) :
    channels.mTupleRemotePeerMap t = none := by
  have hfound := h.findByPeerAddress now t
  rw [hfind] at hfound
  generalize ht : m.mTupleRemotePeerMap t = entry at hfound
  cases hfound with
  | absent => exact ht
  | @deleted q old hold hexpired =>
    obtain ⟨p, hobject, rfl⟩ := h.byTuple t q ht
    obtain rfl : old = p := Option.some.inj (hold.symm.trans hobject)
    simp [ChannelManager.drop]

end ChannelManager

/-! ### What a call does to the objects -/

namespace ClientChannelManager
open ChannelManager

/-- What the map has for the key that the call looks up. -/
def entry (m : ClientChannelManager) : Call → Option ℕ
  | .contact remoteTuple => m.mTupleRemotePeerMap remoteTuple
  | .lookUp channelNumber | .channelBindSuccess channelNumber => m.mChannelRemotePeerMap channelNumber

variable {m : ClientChannelManager}

theorem live_createNext (h : Live m.toChannelManager) {t : StunTuple} (ht : m.mTupleRemotePeerMap t = none)
    (nowFind now : ℕ) : ∃ peer, (m.createNextChannelBinding nowFind now t).toChannelManager = m.bind peer ∧
      Live (m.bind peer) ∧ peer.mPeerTuple = t :=
  ⟨newPeer now t m.getNextChannelNumber.mNextChannelNumber, createChannelBinding_eq h.noFault ht _ _ _,
    h.bind ht, rfl⟩

/-- The only object that a call deletes is the one that it looks up, if that has expired. -/
theorem live_call (h : Live m.toChannelManager) (times : ℕ → ℕ) (c : Call) :
    Live (m.call times c).toChannelManager ∧ ∀ ptr peer, m.peers ptr = some peer →
      (((m.call times c).peers ptr).isSome ↔ (m.entry c = some ptr → peer.isExpired (times 0) = false)) := by
  cases c with
  | contact t =>
    have hfound := h.findByPeerAddress (times 0) t
    obtain ⟨hlive, hfresh, hkept⟩ := hfound.live h
    cases hfind : m.findRemotePeerByPeerAddress (times 0) t with
    | mk found channels =>
      rw [hfind] at hlive hfresh hkept hfound
      cases found with
      | some ptr => simpa only [call, hfind, entry] using And.intro hlive hkept
      | none =>
        have ht : channels.mTupleRemotePeerMap t = none := h.unbound hfind
        obtain ⟨new, hbind, hnew, -⟩ :=
          live_createNext (m := { m with toChannelManager := channels }) hlive ht (times 1) (times 2)
        simp only [call, hfind, entry]
        rw [hbind]
        refine ⟨hnew, fun ptr peer hp => ?_⟩
        have hne : ptr ≠ channels.fresh := hfresh ▸ (h.fresh ptr peer hp).ne
        rw [isSome_bind, ← hkept ptr peer hp]
        simp [hne]
  | lookUp c =>
    obtain ⟨hlive, -, hkept⟩ := (h.findByChannel (times 0) c).live h
    exact ⟨hlive, hkept⟩
  | channelBindSuccess c =>
    have hfound := h.findByChannel (times 0) c
    obtain ⟨hlive, -, hkept⟩ := hfound.live h
    cases hfind : m.findRemotePeerByChannel (times 0) c with
    | mk found channels =>
      rw [hfind] at hlive hkept hfound
      cases found with
      | none => simpa only [call, hfind, entry] using And.intro hlive hkept
      | some ptr =>
        obtain ⟨peer, hp⟩ := hfound.object
        obtain ⟨hset, hrefreshed⟩ := hlive.refreshPeer hp (times 1)
        simp only [call, hfind, entry]
        refine ⟨hrefreshed, fun q p hq => ?_⟩
        rw [hset, isSome_set hp]
        exact hkept q p hq

end ClientChannelManager

namespace ActiveSocket
open ChannelManager

variable {s : ActiveSocket} {times : ℕ → ℕ}

theorem registeredAt_iff (h : Live s.toChannelManager) {ptr : ℕ} : s.RegisteredAt ptr ↔ (s.peers ptr).isSome := by
  constructor
  · rintro ⟨peer, hp, -⟩
    simp [hp]
  · intro hsome
    obtain ⟨peer, hp⟩ := Option.isSome_iff_exists.mp hsome
    exact ⟨peer, hp, h.object ptr peer hp⟩

theorem registered_iff (h : Live s.toChannelManager) :
    s.Registered ↔ ∀ ptr, s.mActiveDestination = some ptr → (s.peers ptr).isSome :=
  forall₂_congr fun _ _ => registeredAt_iff h

/-- What sets the pointer sets it to a peer that is registered. -/
theorem live_setActiveDestination (h : Live s.toChannelManager) (t : StunTuple) :
    Live (s.doSetActiveDestination times t).toChannelManager ∧ (s.doSetActiveDestination times t).Registered := by
  have hfound := h.findByPeerAddress (times 0) t
  obtain ⟨hlive, -, -⟩ := hfound.live h
  cases hfind : s.findRemotePeerByPeerAddress (times 0) t with
  | mk found channels =>
    rw [hfind] at hlive hfound
    cases found with
    | some ptr =>
      obtain ⟨peer, hp⟩ := hfound.object
      simp only [doSetActiveDestination, hfind]
      refine ⟨hlive, (registered_iff hlive).mpr ?_⟩
      rintro _ ⟨⟩
      simp [hp]
    | none =>
      obtain ⟨new, hbind, hnew, -⟩ := ClientChannelManager.live_createNext
        (m := { s.toClientChannelManager with toChannelManager := channels }) hlive (h.unbound hfind)
        (times 1) (times 2)
      have hcreated : (s.doSetActiveDestination times t).toChannelManager = channels.bind new := by
        simp only [doSetActiveDestination, hfind]
        exact hbind
      have hactive : (s.doSetActiveDestination times t).mActiveDestination = some channels.fresh := by
        simp only [doSetActiveDestination, hfind]
      rw [hcreated]
      refine ⟨hnew, (registered_iff (hcreated ▸ hnew)).mpr ?_⟩
      rw [hactive, hcreated]
      rintro _ ⟨⟩
      exact isSome_bind.mpr (.inl rfl)

/-- A call that looks up no pointer of its own keeps the active destination unless it has expired. -/
theorem live_channelCall (h : Live s.toChannelManager) (hs : s.Registered) (c : ClientChannelManager.Call) :
    Live (s.channelCall times c).toChannelManager ∧ ((s.channelCall times c).Registered ↔
      ∀ ptr peer, s.mActiveDestination = some ptr → s.entry c = some ptr → s.peers ptr = some peer →
        peer.isExpired (times 0) = false) := by
  obtain ⟨hlive, hkept⟩ := ClientChannelManager.live_call h times c
  refine ⟨hlive, (registered_iff (s := s.channelCall times c) hlive).trans ?_⟩
  constructor
  · intro hr ptr peer hptr hentry hp
    exact (hkept ptr peer hp).mp (hr ptr hptr) hentry
  · intro hspared ptr hptr
    obtain ⟨peer, hp, -⟩ := hs ptr hptr
    exact (hkept ptr peer hp).mpr fun hentry => hspared ptr peer hptr hentry hp

/-- One step keeps the pointer good exactly if it spares what it is at. -/
theorem live_step {p : ActiveSocket × ℕ} (h : Live p.1.toChannelManager) (hs : p.1.Registered)
    (e : (ℕ → ℕ) × Call) : Live (p.1.call e.1 e.2).toChannelManager ∧
      ((p.1.call e.1 e.2).Registered ↔ Spares p e) := by
  obtain ⟨s, clock⟩ := p
  obtain ⟨times, c⟩ := e
  have hnone (hl : s.lookedUp c = none) : Spares (s, clock) (times, c) := by
    intro ptr peer _ hptr
    rw [hl] at hptr
    cases hptr
  cases c with
  | setActiveDestination t =>
    obtain ⟨hlive, hregistered⟩ : Live (s.doSetActiveDestination times t).toChannelManager ∧
        (s.doSetActiveDestination times t).Registered := live_setActiveDestination h t
    exact ⟨hlive, iff_of_true hregistered (hnone rfl)⟩
  | clearActiveDestination =>
    simp only [call, doClearActiveDestination]
    split_ifs
    · exact ⟨h, iff_of_true nofun (hnone rfl)⟩
    · exact ⟨h, iff_of_true hs (hnone rfl)⟩
  | sendFramed =>
    have hsame : s.doSendFramed = s := by
      cases hptr : s.mActiveDestination with
      | none => simp [doSendFramed, hptr]
      | some ptr =>
        obtain ⟨peer, hp, -⟩ : s.RegisteredAt ptr := hs ptr hptr
        simp [doSendFramed, hptr, hp]
    simp only [call, hsame]
    exact ⟨h, iff_of_true hs (hnone rfl)⟩
  | sendToFramed t => exact live_channelCall h hs (.contact t)
  | channelData c =>
    cases ha : s.mHaveAllocation with
    | false =>
      simp only [call, ha]
      exact ⟨h, iff_of_true hs (hnone (by simp [lookedUp, ha]))⟩
    | true =>
      simp only [call, ha, Spares, lookedUp]
      exact live_channelCall h hs (.lookUp c)
  | channelBindSuccess c => exact live_channelCall h hs (.channelBindSuccess c)
  | channelBindingTimerExpired c => exact live_channelCall h hs (.lookUp c)
  | allocation => exact ⟨h, iff_of_true hs (hnone rfl)⟩

theorem live_of_reach {randInt : ℕ} {p : ActiveSocket × ℕ} (h : Reach (life randInt) Spares p) :
    Live p.1.toChannelManager ∧ p.1.Registered := by
  refine h.invariant (P := fun p => Live p.1.toChannelManager ∧ p.1.Registered)
    (fun p hp => ?_) fun p e _ hs _ hspares => ?_
  · have hnew : p.1 = new randInt := hp
    rw [hnew]
    exact ⟨live_empty, nofun⟩
  · obtain ⟨hlive, hregistered⟩ := live_step hs.1 hs.2 e
    exact ⟨hlive, hregistered.mpr hspares⟩

/-- As long as no call but one that sets the active destination comes across it when it has expired, it is
null or a registered peer, and no deleted peer is used. A step from there keeps it so exactly if it does not
come across it either. -/
theorem registered_of_spares (randInt : ℕ) {p : ActiveSocket × ℕ} (h : Reach (life randInt) Spares p) :
    p.1.Registered ∧ p.1.fault = false ∧ ∀ e, (life randInt).enabled p e →
      (((life randInt).next p e).1.Registered ↔ Spares p e) := by
  obtain ⟨hlive, hregistered⟩ := live_of_reach h
  exact ⟨hregistered, hlive.noFault, fun e _ => (live_step hlive hregistered e).2⟩

/-- A destination that is set, and to which is sent at once. -/
theorem registered_of_spares_first :
    ((new 0).call (fun _ => 0) (.setActiveDestination (ClientChannelManager.remote 0))).Registered ∧
      ((new 0).call (fun _ => 0) (.setActiveDestination (ClientChannelManager.remote 0))).mActiveDestination =
        some 0 := by
  have hreach : Reach (life 0) Spares
      ((life 0).next (new 0, 0) (fun _ => 0, .setActiveDestination (ClientChannelManager.remote 0))) :=
    .step (.init rfl) ⟨fun _ _ _ => le_rfl, le_rfl⟩ fun _ _ h => nomatch h
  exact ⟨(registered_of_spares 0 hreach).1, rfl⟩

/-- The destination is set, is not refreshed for ten minutes, and is then sent to by its address. -/
theorem not_registered : ∃ p, Reach (life 0) anyStep p ∧ ¬ p.1.Registered ∧ p.1.mActiveDestination = some 0 ∧
    p.1.fault = false ∧ ((life 0).next p (fun _ => 601, .sendFramed)).1.fault = true := by
  refine ⟨(life 0).next ((life 0).next (new 0, 0)
    (fun _ => 0, .setActiveDestination (ClientChannelManager.remote 0)))
    (fun _ => 601, .sendToFramed (ClientChannelManager.remote 0)), ?_, ?_, rfl, rfl, rfl⟩
  · exact .step (.step (.init rfl) ⟨fun _ _ _ => le_rfl, le_rfl⟩ trivial)
      ⟨fun _ _ _ => le_rfl, Nat.zero_le _⟩ trivial
  · intro h
    obtain ⟨peer, hp, -⟩ := h 0 rfl
    cases hp

end ActiveSocket

end Resiprocate.ReTurn
