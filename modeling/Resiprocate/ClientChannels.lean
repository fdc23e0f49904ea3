import Resiprocate.ChannelBindings
import Resiprocate.TransitionSystem
import Resiprocate.WrappingCounter

/-! Channel numbers of a TURN client. The numbers come from a counter that goes round; the channels
that are still bound are not looked at. -/
namespace Resiprocate.ReTurn
open TransitionSystem

/-- `MIN_CHANNEL_NUM`. -/
def minChannelNum : ℕ := 0x4000

/-- `MAX_CHANNEL_NUM`. -/
def maxChannelNum : ℕ := 0x7FFF

structure ClientChannelManager extends ChannelManager where
  mNextChannelNumber : ℕ

namespace ClientChannelManager

/-- `ChannelManager::ChannelManager`. `Random::getRandom` is not negative. -/
def new (randInt : ℕ) : ClientChannelManager where
  toChannelManager := .empty
  mNextChannelNumber := minChannelNum + randInt % (maxChannelNum - minChannelNum + 1)

/-- `getNextChannelNumber` leaves the number that it returns in `mNextChannelNumber`. -/
def getNextChannelNumber (m : ClientChannelManager) : ClientChannelManager :=
  { m with mNextChannelNumber :=
      if m.mNextChannelNumber = maxChannelNum then minChannelNum else m.mNextChannelNumber + 1 }

def createNextChannelBinding (m : ClientChannelManager) (nowFind nowNew : ℕ) (peerTuple : StunTuple) :
    ClientChannelManager :=
  let m := m.getNextChannelNumber
  { m with toChannelManager :=
      m.toChannelManager.createChannelBinding nowFind nowNew peerTuple m.mNextChannelNumber }

/-- What `TurnAsyncSocket` does with the channels. -/
inductive Call
  /-- `doSetActiveDestination` and `doSendToFramed`. -/
  | contact (remoteTuple : StunTuple)
  /-- `handleReceivedData` and `channelBindingTimerExpired`. -/
  | lookUp (channelNumber : ℕ)
  /-- `handleChannelBindResponse` to a success response. -/
  | channelBindSuccess (channelNumber : ℕ)

def call (m : ClientChannelManager) (times : ℕ → ℕ) : Call → ClientChannelManager
  | .contact remoteTuple =>
    match m.findRemotePeerByPeerAddress (times 0) remoteTuple with
    | (some _, channels) => { m with toChannelManager := channels }
    | (none, channels) =>
      createNextChannelBinding { m with toChannelManager := channels } (times 1) (times 2) remoteTuple
  | .lookUp channelNumber =>
    { m with toChannelManager := (m.findRemotePeerByChannel (times 0) channelNumber).2 }
  | .channelBindSuccess channelNumber =>
    match m.findRemotePeerByChannel (times 0) channelNumber with
    | (none, channels) => { m with toChannelManager := channels }
    | (some ptr, channels) => { m with toChannelManager := channels.refreshPeer (times 1) ptr }

/-- The life of a socket. The state keeps the last reading of the clock. -/
def life (randInt : ℕ) : System (ClientChannelManager × ℕ) ((ℕ → ℕ) × Call) where
  init s := s.1 = new randInt
  enabled s e := Monotone e.1 ∧ s.2 ≤ e.1 0
  next s e := (s.1.call e.1 e.2, e.1 2)

/-- The peers that a call leaves bound before it may bind another. -/
def others (m : ClientChannelManager) (times : ℕ → ℕ) (remoteTuple : StunTuple) : ChannelManager :=
  (m.findRemotePeerByPeerAddress (times 0) remoteTuple).2

/-- The call makes a binding for the peer. -/
def Binds (m : ClientChannelManager) (times : ℕ → ℕ) (remoteTuple : StunTuple) : Prop :=
  (m.findRemotePeerByPeerAddress (times 0) remoteTuple).1 = none

/-- A new peer gets a number that no other peer has. -/
def Unused (s : ClientChannelManager × ℕ) (e : (ℕ → ℕ) × Call) : Prop :=
  ∀ remoteTuple, e.2 = .contact remoteTuple → s.1.Binds e.1 remoteTuple →
    ∀ ptr peer, (s.1.others e.1 remoteTuple).Holds ptr peer →
      peer.mChannel ≠ s.1.getNextChannelNumber.mNextChannelNumber

/-- When a peer is bound, fewer than 16384 have been bound since each peer that is still bound. The
objects are numbered as they are made. -/
def Spaced (s : ClientChannelManager × ℕ) (e : (ℕ → ℕ) × Call) : Prop :=
  ∀ remoteTuple, e.2 = .contact remoteTuple → s.1.Binds e.1 remoteTuple →
    ∀ ptr peer, (s.1.others e.1 remoteTuple).Holds ptr peer → s.1.fresh < ptr + 16384

end ClientChannelManager

/-! ### Look-ups -/

namespace ChannelManager
variable {m m' : ChannelManager} {ptr q now : ℕ} {peer p : RemotePeer}

theorem holds_drop (hp : m.Holds ptr peer) :
    (m.drop ptr peer).Holds q p ↔ m.Holds q p ∧ p.mPeerTuple ≠ peer.mPeerTuple := by
  constructor
  · intro h
    obtain ⟨-, hobject⟩ : q ≠ ptr ∧ m.peers q = some p := by
      simpa [drop, Function.update_apply] using h.object
    obtain ⟨-, hchannel⟩ : p.mChannel ≠ peer.mChannel ∧ m.mChannelRemotePeerMap p.mChannel = some q := by
      simpa [drop, Function.update_apply] using h.channel
    obtain ⟨hne, htuple⟩ : p.mPeerTuple ≠ peer.mPeerTuple ∧ m.mTupleRemotePeerMap p.mPeerTuple = some q := by
      simpa [drop, Function.update_apply] using h.tuple
    exact ⟨⟨hobject, hchannel, htuple⟩, hne⟩
  · rintro ⟨h, hne⟩
    refine hp.drop_other h ?_
    rintro rfl
    exact hne (congrArg RemotePeer.mPeerTuple (h.object_inj hp))

/-- A look-up that finds no peer leaves all the others. -/
theorem findByPeerAddress_none (h : OneToOne m) {t : StunTuple}
    (hnone : (m.findRemotePeerByPeerAddress now t).1 = none) :
    OneToOne (m.findRemotePeerByPeerAddress now t).2 ∧
      (m.findRemotePeerByPeerAddress now t).2.fresh = m.fresh ∧
      (m.findRemotePeerByPeerAddress now t).2.mTupleRemotePeerMap t = none ∧
      ∀ q p, (m.findRemotePeerByPeerAddress now t).2.Holds q p ↔ m.Holds q p ∧ p.mPeerTuple ≠ t := by
  cases ht : m.mTupleRemotePeerMap t with
  | none =>
    have hfind : m.findRemotePeerByPeerAddress now t = (none, m) := by simp [findRemotePeerByPeerAddress, ht]
    rw [hfind]
    refine ⟨h, rfl, ht, fun q p => ⟨fun hq => ⟨hq, ?_⟩, And.left⟩⟩
    rintro rfl
    rw [hq.tuple] at ht
    cases ht
  | some ptr =>
    obtain ⟨peer, hp, rfl⟩ := h.byTuple t ptr ht
    by_cases he : peer.isExpired now
    · have hfind : m.findRemotePeerByPeerAddress now peer.mPeerTuple = (none, m.drop ptr peer) := by
        simp [findRemotePeerByPeerAddress, ht, hp.object, he, drop]
      rw [hfind]
      exact ⟨h.drop hp, rfl, by simp [drop], fun q p => holds_drop hp⟩
    · simp [findRemotePeerByPeerAddress, ht, hp.object, he] at hnone

/-- What a step leaves of the bindings, refreshed or not. -/
structure Keeps (m m' : ChannelManager) : Prop where
  oneToOne : OneToOne m'
  fresh : m'.fresh = m.fresh
  held : ∀ q p', m'.Holds q p' → ∃ p, m.Holds q p ∧ p'.mChannel = p.mChannel

theorem Keeps.refl (h : OneToOne m) : Keeps m m := ⟨h, rfl, fun _ p' hq => ⟨p', hq, rfl⟩⟩

theorem Keeps.drop (h : OneToOne m) (hp : m.Holds ptr peer) : Keeps m (m.drop ptr peer) :=
  ⟨h.drop hp, rfl, fun _ p' hq => ⟨p', ((holds_drop hp).mp hq).1, rfl⟩⟩

theorem Keeps.refresh (h : OneToOne m) (hp : m.Holds ptr peer) : Keeps m (m.refreshPeer now ptr) := by
  rw [refreshPeer_eq hp]
  refine ⟨h.set hp rfl rfl, rfl, fun q p' hq => ?_⟩
  obtain ⟨p, hold, hc⟩ := h.byChannel _ _ hq.channel
  exact ⟨p, hold, hc.symm⟩

theorem Keeps.findByPeerAddress (h : OneToOne m) (now : ℕ) (t : StunTuple) :
    Keeps m (m.findRemotePeerByPeerAddress now t).2 := by
  obtain ⟨ptr, peer, -, -, hfind⟩ | ⟨m', hfind, -⟩ := findByPeerAddress_spec h now t
  · rw [hfind]
    exact .refl h
  · have hnone : (m.findRemotePeerByPeerAddress now t).1 = none := by rw [hfind]
    obtain ⟨ho, hfresh, -, hheld⟩ := findByPeerAddress_none h hnone
    exact ⟨ho, hfresh, fun q p hq => ⟨p, ((hheld q p).mp hq).1, rfl⟩⟩

theorem Keeps.findByChannel (h : OneToOne m) (now c : ℕ) : Keeps m (m.findRemotePeerByChannel now c).2 := by
  cases hc : m.mChannelRemotePeerMap c with
  | none => simpa [findRemotePeerByChannel, hc] using Keeps.refl h
  | some ptr =>
    obtain ⟨peer, hp, rfl⟩ := h.byChannel c ptr hc
    by_cases he : peer.isExpired now
    · have hfind : (m.findRemotePeerByChannel now peer.mChannel).2 = m.drop ptr peer := by
        simp [findRemotePeerByChannel, hc, hp.object, he, ChannelManager.drop]
      rw [hfind]
      exact .drop h hp
    · simpa [findRemotePeerByChannel, hc, hp.object, he] using Keeps.refl h

/-- A channel that is in use cannot be bound to another peer. -/
theorem oneToOne_bind (h : OneToOne m) (ht : m.mTupleRemotePeerMap peer.mPeerTuple = none) :
    OneToOne (m.bind peer) ↔ ∀ q p, m.Holds q p → p.mChannel ≠ peer.mChannel := by
  constructor
  · intro hbound q p hq hsame
    have hne : p.mPeerTuple ≠ peer.mPeerTuple := by
      intro heq
      rw [← heq, hq.tuple] at ht
      cases ht
    have hold : q ≠ m.fresh := (h.fresh q p hq.object).ne
    have htuple : (m.bind peer).mTupleRemotePeerMap p.mPeerTuple = some q := by
      simp [bind, hne, hq.tuple]
    obtain ⟨p', hq', -⟩ := hbound.byTuple _ _ htuple
    have hobject : (m.bind peer).peers q = some p := by simp [bind, hold, hq.object]
    obtain rfl : p = p' := Option.some.inj (hobject.symm.trans hq'.object)
    have hchannel : (m.bind peer).mChannelRemotePeerMap p.mChannel = some m.fresh := by simp [bind, hsame]
    exact hold (Option.some.inj (hq'.channel.symm.trans hchannel))
  · intro hunused
    refine h.bind ?_ ht
    cases hc : m.mChannelRemotePeerMap peer.mChannel with
    | none => rfl
    | some q =>
      obtain ⟨p, hq, hp⟩ := h.byChannel _ _ hc
      exact absurd hp (hunused q p hq)

end ChannelManager

/-! ### Numbers in the order of the bindings -/

namespace ClientChannelManager
open ChannelManager

/-- The channel numbers in turn. -/
def numbers (randInt : ℕ) (i : ℕ) : ℕ :=
  (WrappingCounter.next minChannelNum maxChannelNum)^[i] (new randInt).mNextChannelNumber

variable {randInt : ℕ} {m : ClientChannelManager}

theorem start_mem (randInt : ℕ) : minChannelNum ≤ (new randInt).mNextChannelNumber ∧
    (new randInt).mNextChannelNumber ≤ maxChannelNum := by
  simp only [new, minChannelNum, maxChannelNum]
  omega

/-- The numbers of two bindings are the same only if they are whole rounds apart. -/
theorem numbers_eq {i j : ℕ} (hij : i < j) (hnear : j ≤ i + 16384) :
    numbers randInt i = numbers randInt j ↔ j = i + 16384 := by
  obtain ⟨hlo, hhi⟩ := start_mem randInt
  have hround : maxChannelNum + 1 - minChannelNum = 16384 := rfl
  constructor
  · intro h
    have hle := WrappingCounter.round_le (show minChannelNum ≤ maxChannelNum by decide) hhi hij h
    omega
  · rintro rfl
    exact (WrappingCounter.iterate_add_round hlo hhi i).symm

structure Numbered (randInt : ℕ) (m : ClientChannelManager) : Prop where
  oneToOne : OneToOne m.toChannelManager
  next : m.mNextChannelNumber = numbers randInt m.fresh
  channel : ∀ ptr peer, m.Holds ptr peer → peer.mChannel = numbers randInt (ptr + 1)
  recent : ∀ ptr peer, m.Holds ptr peer → m.fresh ≤ ptr + 16384

theorem numbered_new (randInt : ℕ) : Numbered randInt (new randInt) where
  oneToOne := ⟨nofun, nofun, nofun, rfl⟩
  next := rfl
  channel _ _ h := nomatch h.object
  recent _ _ h := nomatch h.object

theorem Numbered.keeps (h : Numbered randInt m) {channels : ChannelManager}
    (hkeeps : m.toChannelManager.Keeps channels) :
    Numbered randInt { m with toChannelManager := channels } where
  oneToOne := hkeeps.oneToOne
  next := h.next.trans (congrArg _ hkeeps.fresh.symm)
  channel ptr peer hp := by
    obtain ⟨p, hold, hc⟩ := hkeeps.held ptr peer hp
    exact hc.trans (h.channel ptr p hold)
  recent ptr peer hp := by
    obtain ⟨p, hold, -⟩ := hkeeps.held ptr peer hp
    exact hkeeps.fresh.trans_le (h.recent ptr p hold)

theorem Numbered.getNext (h : Numbered randInt m) :
    m.getNextChannelNumber.mNextChannelNumber = numbers randInt (m.fresh + 1) := by
  rw [numbers, Function.iterate_succ_apply', ← numbers, ← h.next]
  rfl

/-- The next number is unused if and only if a round has not passed since any peer was bound. -/
theorem Numbered.unused (h : Numbered randInt m) :
    (∀ ptr peer, m.Holds ptr peer → peer.mChannel ≠ m.getNextChannelNumber.mNextChannelNumber) ↔
      ∀ ptr peer, m.Holds ptr peer → m.fresh < ptr + 16384 := by
  refine forall₂_congr fun ptr peer => forall_congr' fun hp => ?_
  have hlt := h.oneToOne.fresh ptr peer hp.object
  have hrecent := h.recent ptr peer hp
  rw [h.channel ptr peer hp, h.getNext, Ne, numbers_eq (by omega) (by omega)]
  omega

/-- A peer that is unbound is bound to the next number. -/
theorem createNext_eq (h : Numbered randInt m) {t : StunTuple} (ht : m.mTupleRemotePeerMap t = none)
    (nowFind now : ℕ) : m.createNextChannelBinding nowFind now t =
      { m.getNextChannelNumber with
        toChannelManager := m.bind (newPeer now t m.getNextChannelNumber.mNextChannelNumber) } := by
  have heq := createChannelBinding_eq h.oneToOne.noFault ht nowFind now
    m.getNextChannelNumber.mNextChannelNumber
  simp only [createNextChannelBinding]
  rw [← heq]
  rfl

theorem Numbered.bind (h : Numbered randInt m) {peer : RemotePeer}
    (ht : m.mTupleRemotePeerMap peer.mPeerTuple = none)
    (hc : peer.mChannel = m.getNextChannelNumber.mNextChannelNumber)
    (hspaced : ∀ ptr peer, m.Holds ptr peer → m.fresh < ptr + 16384) :
    Numbered randInt { m.getNextChannelNumber with toChannelManager := m.bind peer } := by
  have hunused := h.unused.mpr hspaced
  rw [← hc] at hunused
  have hbound := (oneToOne_bind h.oneToOne ht).mpr hunused
  -- a peer that is bound is the new one, or was bound before
  have hheld {q : ℕ} {p : RemotePeer} (hq : (m.bind peer).Holds q p) :
      q = m.fresh ∧ p = peer ∨ m.Holds q p := by
    by_cases hnew : q = m.fresh
    · have hobject := hq.object
      simp only [ChannelManager.bind, hnew, Function.update_self, Option.some.injEq] at hobject
      exact .inl ⟨hnew, hobject.symm⟩
    · have htuple : m.mTupleRemotePeerMap p.mPeerTuple = some q := by
        have htuple := hq.tuple
        simp only [ChannelManager.bind, Function.update_apply] at htuple
        split_ifs at htuple
        · exact absurd (Option.some.inj htuple).symm hnew
        · exact htuple
      obtain ⟨old, hold, -⟩ := h.oneToOne.byTuple _ _ htuple
      have hobject : (m.bind peer).peers q = some old := by simp [ChannelManager.bind, hnew, hold.object]
      obtain rfl : old = p := Option.some.inj (hobject.symm.trans hq.object)
      exact .inr hold
  refine ⟨hbound, h.getNext, fun q p hq => ?_, fun q p hq => ?_⟩
  · obtain ⟨rfl, rfl⟩ | hold := hheld hq
    · exact hc.trans h.getNext
    · exact h.channel q p hold
  · obtain ⟨rfl, rfl⟩ | hold := hheld hq
    · show m.fresh + 1 ≤ _
      omega
    · exact hspaced q p hold

/-- One step keeps the numbers in order exactly if it is spaced. -/
theorem Numbered.step {s : ClientChannelManager × ℕ} {e : (ℕ → ℕ) × Call} (h : Numbered randInt s.1) :
    (Unused s e ↔ Spaced s e) ∧ (Spaced s e → Numbered randInt (s.1.call e.1 e.2)) ∧
      (OneToOne (s.1.call e.1 e.2).toChannelManager → Spaced s e) := by
  obtain ⟨m, clock⟩ := s
  obtain ⟨times, c⟩ := e
  cases c with
  | contact t =>
    have hothers := h.keeps (Keeps.findByPeerAddress h.oneToOne (times 0) t)
    obtain ⟨found, channels, hfind⟩ : ∃ found channels,
        m.findRemotePeerByPeerAddress (times 0) t = (found, channels) := ⟨_, _, rfl⟩
    cases found with
    | some ptr =>
      have hspaced : Spaced (m, clock) (times, .contact t) := by
        rintro t' ht' hbinds
        cases ht'
        simp [Binds, hfind] at hbinds
      have hunused : Unused (m, clock) (times, .contact t) := by
        rintro t' ht' hbinds
        cases ht'
        simp [Binds, hfind] at hbinds
      simp only [call, hfind] at hothers ⊢
      exact ⟨iff_of_true hunused hspaced, fun _ => hothers, fun _ => hspaced⟩
    | none =>
      have hnone : (m.findRemotePeerByPeerAddress (times 0) t).1 = none := by rw [hfind]
      obtain ⟨-, hfresh, htuple, -⟩ := findByPeerAddress_none h.oneToOne hnone
      rw [hfind] at hothers hfresh htuple
      have hunused : Unused (m, clock) (times, .contact t) ↔
          ∀ ptr peer, channels.Holds ptr peer → peer.mChannel ≠ m.getNextChannelNumber.mNextChannelNumber := by
        simp [Unused, Binds, others, hfind]
      have hspaced : Spaced (m, clock) (times, .contact t) ↔
          ∀ ptr peer, channels.Holds ptr peer → channels.fresh < ptr + 16384 := by
        have hmade : channels.fresh = m.fresh := hfresh
        simp [Spaced, Binds, others, hfind, hmade]
      simp only [call, hfind]
      rw [createNext_eq hothers htuple]
      refine ⟨hunused.trans (hothers.unused.trans hspaced.symm), fun hs => ?_, fun ho => ?_⟩
      · exact hothers.bind htuple rfl (hspaced.mp hs)
      · exact hspaced.mpr (hothers.unused.mp ((oneToOne_bind hothers.oneToOne htuple).mp ho))
  | lookUp c =>
    have hkept := h.keeps (Keeps.findByChannel h.oneToOne (times 0) c)
    have hspaced : Spaced (m, clock) (times, .lookUp c) := nofun
    exact ⟨iff_of_true nofun hspaced, fun _ => hkept, fun _ => hspaced⟩
  | channelBindSuccess c =>
    have hspaced : Spaced (m, clock) (times, .channelBindSuccess c) := nofun
    refine ⟨iff_of_true nofun hspaced, fun _ => ?_, fun _ => hspaced⟩
    obtain ⟨ptr, peer, hp, -, hfind⟩ | ⟨m', hfind, -⟩ := findByChannel_spec h.oneToOne (times 0) c
    · simp only [call, hfind]
      exact h.keeps (.refresh h.oneToOne hp)
    · have hkept := h.keeps (Keeps.findByChannel h.oneToOne (times 0) c)
      rw [hfind] at hkept
      simpa only [call, hfind] using hkept

theorem numbered_of_reach {s : ClientChannelManager × ℕ} (h : Reach (life randInt) Spaced s) :
    Numbered randInt s.1 :=
  h.invariant (fun _ hs => hs ▸ numbered_new randInt) fun _ _ _ hs _ hspaced => hs.step.2.1 hspaced

/-- As long as each peer is bound less than a round of numbers after all that are still bound, the maps
are inverse to each other. A step from there gives a number that is unused, and leaves the maps inverse
to each other, exactly if that is so. -/
theorem channel_numbers (randInt : ℕ) {s : ClientChannelManager × ℕ} (h : Reach (life randInt) Spaced s) :
    OneToOne s.1.toChannelManager ∧ ∀ e, (life randInt).enabled s e →
      (Unused s e ↔ Spaced s e) ∧ (OneToOne ((life randInt).next s e).1.toChannelManager ↔ Spaced s e) := by
  have hnumbered := numbered_of_reach h
  refine ⟨hnumbered.oneToOne, fun e _ => ?_⟩
  obtain ⟨hunused, hkeeps, hneeds⟩ := hnumbered.step (e := e)
  exact ⟨hunused, hneeds, fun hspaced => (hkeeps hspaced).oneToOne⟩

/-! ### A client that contacts many peers -/

/-- A peer for each port. -/
def remote (port : ℕ) : StunTuple := ⟨.udp, .v4 0x7f000001, port⟩

/-- The peers are contacted in the order of their ports, in the same second. -/
def contacted : ℕ → ClientChannelManager × ℕ
  | 0 => (new 0, 0)
  | n + 1 => (life 0).next (contacted n) (fun _ => 0, .contact (remote n))

theorem call_contact (h : Numbered randInt m) {t : StunTuple} (ht : m.mTupleRemotePeerMap t = none)
    (times : ℕ → ℕ) : m.call times (.contact t) =
      { m.getNextChannelNumber with
        toChannelManager := m.bind (newPeer (times 2) t m.getNextChannelNumber.mNextChannelNumber) } := by
  have hfind : m.findRemotePeerByPeerAddress (times 0) t = (none, m.toChannelManager) := by
    simp [findRemotePeerByPeerAddress, ht]
  simp only [call, hfind]
  exact createNext_eq h ht _ _

structure Contacted (n : ℕ) : Prop where
  reach : Reach (life 0) Spaced (contacted n)
  clock : (contacted n).2 = 0
  fresh : (contacted n).1.fresh = n
  held : ∀ i < n, (contacted n).1.Holds i (newPeer 0 (remote i) (numbers 0 (i + 1)))
  only : ∀ ptr peer, (contacted n).1.peers ptr = some peer → peer.mPeerTuple = remote ptr

/-- The next peer is not bound. -/
theorem Contacted.unbound {n : ℕ} (h : Contacted n) :
    (contacted n).1.mTupleRemotePeerMap (remote n) = none := by
  have ho := (numbered_of_reach h.reach).oneToOne
  cases ht : (contacted n).1.mTupleRemotePeerMap (remote n) with
  | none => rfl
  | some ptr =>
    obtain ⟨peer, hp, htuple⟩ := ho.byTuple _ _ ht
    have hport : n = ptr := congrArg StunTuple.mPort (htuple.symm.trans (h.only ptr peer hp.object))
    have hlt := ho.fresh ptr peer hp.object
    rw [h.fresh] at hlt
    omega

theorem Contacted.next {n : ℕ} (h : Contacted n) : (contacted (n + 1)).1.toChannelManager =
    (contacted n).1.bind (newPeer 0 (remote n) (numbers 0 (n + 1))) := by
  have hnumbered := numbered_of_reach h.reach
  have hstep : (contacted (n + 1)).1 = (contacted n).1.call (fun _ => 0) (.contact (remote n)) := rfl
  rw [hstep, call_contact hnumbered h.unbound, hnumbered.getNext, h.fresh]

theorem contacted_of_le {n : ℕ} (hn : n ≤ 16384) : Contacted n := by
  induction n with
  | zero => exact ⟨.init rfl, rfl, rfl, nofun, nofun⟩
  | succ n ih =>
    have h := ih (by omega)
    have hnumbered := numbered_of_reach h.reach
    have hspaced : Spaced (contacted n) (fun _ => 0, .contact (remote n)) := by
      intro _ _ _ ptr _ _
      rw [h.fresh]
      omega
    have hreach : Reach (life 0) Spaced (contacted (n + 1)) :=
      h.reach.step ⟨fun _ _ _ => le_rfl, h.clock.le⟩ hspaced
    have ho := (numbered_of_reach hreach).oneToOne
    have hfree : (contacted n).1.mChannelRemotePeerMap (numbers 0 (n + 1)) = none := by
      rw [h.next] at ho
      have hunused := (oneToOne_bind hnumbered.oneToOne h.unbound).mp ho
      cases hc : (contacted n).1.mChannelRemotePeerMap (numbers 0 (n + 1)) with
      | none => rfl
      | some ptr =>
        obtain ⟨peer, hp, hsame⟩ := hnumbered.oneToOne.byChannel _ _ hc
        exact absurd hsame (hunused ptr peer hp)
    refine ⟨hreach, rfl, ?_, fun i hi => ?_, fun ptr peer hp => ?_⟩
    · rw [h.next]
      exact congrArg (· + 1) h.fresh
    · rw [h.next]
      rcases Nat.lt_succ_iff_lt_or_eq.mp hi with hlt | rfl
      · exact (h.held i hlt).bind_other hnumbered.oneToOne hfree h.unbound
      · have hnew : ((contacted i).1.bind (newPeer 0 (remote i) (numbers 0 (i + 1)))).Holds
          (contacted i).1.fresh (newPeer 0 (remote i) (numbers 0 (i + 1))) := Holds.bind_new
        rwa [h.fresh] at hnew
    · rw [h.next] at hp
      by_cases hnew : ptr = n
      · subst hnew
        simp only [ChannelManager.bind, h.fresh, Function.update_self, Option.some.injEq] at hp
        rw [← hp]
        rfl
      · simp only [ChannelManager.bind, h.fresh, Function.update_of_ne hnew] at hp
        exact h.only ptr peer hp

/-- One peer is contacted. -/
theorem channel_numbers_first : OneToOne ((new 0).call (fun _ => 0) (.contact (remote 0))).toChannelManager :=
  ((channel_numbers 0 (.init rfl : Reach (life 0) Spaced (new 0, 0))).2 (fun _ => 0, .contact (remote 0))
    ⟨fun _ _ _ => le_rfl, le_rfl⟩).2.mpr fun _ _ _ _ _ h => nomatch h.object

/-- The first peer and a peer with the same number are bound side by side. -/
theorem Contacted.repeats {n : ℕ} (h : Contacted n) (hn : 0 < n) (hsame : numbers 0 1 = numbers 0 (n + 1)) :
    ∃ s, Reach (life 0) anyStep s ∧ ∃ ptr ptr' peer peer',
      s.1.peers ptr = some peer ∧ s.1.mTupleRemotePeerMap peer.mPeerTuple = some ptr ∧
      s.1.peers ptr' = some peer' ∧ s.1.mTupleRemotePeerMap peer'.mPeerTuple = some ptr' ∧
      peer.isExpired s.2 = false ∧ peer.mPeerTuple ≠ peer'.mPeerTuple ∧ peer.mChannel = peer'.mChannel := by
  have hreach : Reach (life 0) anyStep (contacted n) := h.reach.mono fun _ _ _ => trivial
  have hfirst := h.held 0 hn
  have hne : remote 0 ≠ remote n := fun heq => hn.ne (congrArg StunTuple.mPort heq)
  have hold : 0 ≠ n := hn.ne
  refine ⟨contacted (n + 1), hreach.step ⟨fun _ _ _ => le_rfl, h.clock.le⟩ trivial, 0, n,
    newPeer 0 (remote 0) (numbers 0 1), newPeer 0 (remote n) (numbers 0 (n + 1)), ?_⟩
  rw [h.next]
  refine ⟨?_, ?_, ?_, ?_, rfl, hne, hsame⟩
  · simp [ChannelManager.bind, h.fresh, hold, hfirst.object]
  · have htuple : (contacted n).1.mTupleRemotePeerMap (remote 0) = some 0 := hfirst.tuple
    simp [ChannelManager.bind, newPeer, hne, htuple]
  · simp [ChannelManager.bind, h.fresh]
  · simp [ChannelManager.bind, newPeer, h.fresh]

/-- The 16385th peer gets the number of the first, which is still bound. -/
theorem not_channel_numbers : ∃ s, Reach (life 0) anyStep s ∧ ∃ ptr ptr' peer peer',
    s.1.peers ptr = some peer ∧ s.1.mTupleRemotePeerMap peer.mPeerTuple = some ptr ∧
    s.1.peers ptr' = some peer' ∧ s.1.mTupleRemotePeerMap peer'.mPeerTuple = some ptr' ∧
    peer.isExpired s.2 = false ∧ peer.mPeerTuple ≠ peer'.mPeerTuple ∧ peer.mChannel = peer'.mChannel :=
  (contacted_of_le le_rfl).repeats (by decide) ((numbers_eq (by decide) (by decide)).mpr rfl)

end ClientChannelManager

end Resiprocate.ReTurn
