import Mathlib
import Resiprocate.RequestHandlerChanges
import Resiprocate.TransitionSystem
import Resiprocate.TurnManagerCalls

/-! The relay ports of a server and the allocations that own them. Several managers of
allocations, one for each of the server's transports and connections, share the
ports. -/
namespace Resiprocate.ReTurn

open StunMessage TurnManager TransitionSystem

variable {ι : Type*} [DecidableEq ι]

structure Server (ι : Type*) where
  turnManager : TurnManager
  managers : ι → TurnAllocationManager

/-- A message for one of the managers, the timer of an allocation, and the end of the
socket that an allocation came from. -/
inductive ServerEvent (ι : Type*)
  | message (i : ι) (times : ℕ → ℕ) (request response : StunMessage) (relay : RelayStart)
    (isRFC3489BackwardsCompatServer : Bool)
  | allocationExpired (i : ι) (now : ℕ) (key : TurnAllocationKey)
  | onSocketDestroyed (i : ι) (key : TurnAllocationKey)

namespace Server

def setManager (s : Server ι) (i : ι) (r : TurnManager × TurnAllocationManager) : Server ι :=
  ⟨r.1, Function.update s.managers i r.2⟩

def step (h : RequestHandler) (s : Server ι) : ServerEvent ι → Server ι
  | .message i times request response relay rfc3489 =>
    let o := h.processStunMessage times s.turnManager (s.managers i) request response relay rfc3489
    s.setManager i (o.turnManager, o.allocations)
  | .allocationExpired i now key =>
    s.setManager i
      (allocationExpired h.config.toPortRange s.turnManager (s.managers i) now key)
  | .onSocketDestroyed i key =>
    s.setManager i (removeTurnAllocation h.config.toPortRange s.turnManager (s.managers i) key)

/-- A server starts without allocations. -/
def system (ι : Type*) [DecidableEq ι] (h : RequestHandler) : System (Server ι) (ServerEvent ι) where
  init s := s = ⟨.new h.config.toPortRange, fun _ _ => none⟩
  enabled _ _ := True
  next := step h

/-- The UDP ports that are allocated are the relay ports of the allocations, and no two
allocations have the same port. -/
structure PortsOwned (s : Server ι) : Prop where
  owned : ∀ port, s.turnManager.getPortAllocationMap .udp port = .allocated ↔
    ∃ i key a, s.managers i key = some a ∧ a.mRequestedTuple.mPort = port
  one : ∀ i i' key key' a a', s.managers i key = some a → s.managers i' key' = some a' →
    a.mRequestedTuple.mPort = a'.mRequestedTuple.mPort → i = i' ∧ key = key'

/-- Whenever a relay socket is opened in the step, it opens. -/
def RelayOpens (_ : Server ι) : ServerEvent ι → Prop
  | .message _ _ _ _ relay _ => relay = .started
  | _ => True

end Server

/-- The ports are allocated as before. -/
def SameAllocated (t t' : TurnManager) : Prop :=
  ∀ q, t'.getPortAllocationMap .udp q = .allocated ↔ t.getPortAllocationMap .udp q = .allocated

/-- One more port is allocated. -/
structure Takes (c : PortRange) (t t' : TurnManager) (port : ℕ) : Prop where
  inRange : c.InRange port
  free : t.getPortAllocationMap .udp port ≠ .allocated
  taken : ∀ q, t'.getPortAllocationMap .udp q = .allocated ↔
    q = port ∨ t.getPortAllocationMap .udp q = .allocated

variable {c : PortRange} {t t' : TurnManager}

theorem sameAllocated_of_samePorts (h : SamePorts t t') : SameAllocated t t' := fun q => by
  rw [h .udp q]

theorem Takes.congr {t'' : TurnManager} {port : ℕ} (h : Takes c t t' port) (hs : SamePorts t' t'') :
    Takes c t t'' port :=
  ⟨h.inRange, h.free, fun q => by rw [hs .udp q, h.taken]⟩

theorem takes_setPort {port : ℕ} (hr : c.InRange port)
    (hf : t.getPortAllocationMap .udp port ≠ .allocated) :
    Takes c t (t.setPort .udp port .allocated) port := by
  refine ⟨hr, hf, fun q => ?_⟩
  by_cases hq : q = port <;> simp [hq]

/-- The answer of a search is 0, or the port that it took. -/
theorem handsOut_takes {suitable : ℕ → Prop} {mark : ℕ → TurnManager} {port : ℕ}
    (ho : HandsOut t suitable mark port t') (hmark : ∀ q, suitable q → Takes c t (mark q) q) :
    (port = 0 ∧ SameAllocated t t') ∨ (port ≠ 0 ∧ Takes c t t' port) := by
  obtain ⟨hne, hs, hp⟩ | ⟨h0, -, hp⟩ := ho
  · exact .inr ⟨hne, (hmark port hs).congr hp⟩
  · exact .inl ⟨h0, sameAllocated_of_samePorts hp⟩

theorem free_takes {port : ℕ} (hf : Free c .udp t port) :
    Takes c t (t.setPort .udp port .allocated) port :=
  takes_setPort hf.1 (by simp [hf.2])

theorem pair_takes {port : ℕ} (hf : Free c .udp t port) (hnext : Free c .udp t (port + 1)) :
    Takes c t ((t.setPort .udp port .allocated).setPort .udp (port + 1) .reserved) port := by
  refine ⟨hf.1, by simp [hf.2], fun q => ?_⟩
  by_cases hq : q = port + 1
  · subst hq
    simp [hnext.2]
  · by_cases hp : q = port <;> simp [hq, hp]

namespace RequestHandler

variable {h : RequestHandler} {times : ℕ → ℕ} {allocations : TurnAllocationManager}
  {request response : StunMessage}

/-- What a choice of a port means for the ports. -/
def Chosen (c : PortRange) (t t' : TurnManager) : PortChoice → Prop
  | .port port => Takes c t t' port
  | .refused _ _ => SameAllocated t t'

theorem chosen_ofPort {port : ℕ}
    (hp : (port = 0 ∧ SameAllocated t t') ∨ (port ≠ 0 ∧ Takes c t t' port)) :
    Chosen c t t' (.ofPort port) := by
  obtain ⟨rfl, hs⟩ | ⟨hne, ht⟩ := hp
  · exact hs
  · simpa [PortChoice.ofPort, hne, Chosen] using ht

variable (hmin : 0 < h.config.mAllocationPortRangeMin) (ht : Cursors h.config.toPortRange t)
include hmin ht

theorem chooseAnyPort_spec :
    Chosen h.config.toPortRange t (h.chooseAnyPort t .udp).2 (h.chooseAnyPort t .udp).1 ∧
      Cursors h.config.toPortRange (h.chooseAnyPort t .udp).2 := by
  obtain ⟨port, t', he, hmeets, hmoved⟩ :=
    allocateAnyPort_spec hmin (ht .udp) (le_refl portSearchBound)
  simp only [chooseAnyPort, he, Option.getD_some]
  simp only [Meets] at hmeets
  exact ⟨chosen_ofPort (handsOut_takes hmeets fun q hq => free_takes hq), ht.moved hmoved⟩

theorem choosePort_spec (request : StunMessage) :
    Chosen h.config.toPortRange t (h.choosePort t request .udp).2.1
        (h.choosePort t request .udp).1 ∧
      Cursors h.config.toPortRange (h.choosePort t request .udp).2.1 := by
  simp only [choosePort]
  cases hev : request.attrs .turnEvenPort with
  | some propType =>
    dsimp only
    split_ifs
    · exact ⟨fun _ => .rfl, ht⟩
    · obtain ⟨port, t', he, hmeets, hmoved⟩ :=
        allocateEvenPort_spec hmin (ht .udp) (le_refl portSearchBound)
      simp only [he, Option.getD_some]
      simp only [Meets] at hmeets
      exact ⟨chosen_ofPort (handsOut_takes hmeets fun q hq => free_takes hq.2), ht.moved hmoved⟩
    · obtain ⟨port, t', he, hmeets, hmoved⟩ :=
        allocateEvenPortPair_spec hmin (ht .udp) (le_refl portSearchBound)
      simp only [he, Option.getD_some]
      simp only [Meets] at hmeets
      exact ⟨chosen_ofPort (handsOut_takes hmeets fun q hq => pair_takes hq.2.1 hq.2.2),
        ht.moved hmoved⟩
    · exact ⟨fun _ => .rfl, ht⟩
  | none =>
    cases htok : request.attrs .turnReservationToken with
    | none => exact chooseAnyPort_spec hmin ht
    | some token =>
      change UInt64 at token
      dsimp only
      generalize token.toUInt16.toNat = port
      obtain ⟨r, t', hcall, hmeets, hcursors⟩ := call_spec hmin ht (le_refl portSearchBound)
        (.allocatePort .udp port true)
      simp only [call, Option.some.injEq, Prod.mk.injEq] at hcall
      obtain ⟨rfl, rfl⟩ := hcall
      obtain ⟨hgranted, hports⟩ := hmeets
      split_ifs with hno hzero
      · refine ⟨sameAllocated_of_samePorts ?_, hcursors⟩
        simpa [hno] using hports
      · -- port 0 is below the range
        obtain ⟨hr, -⟩ := hgranted.mp (by simpa using hno)
        have := hr.1
        omega
      · have hyes := by simpa using hno
        obtain ⟨hr, hreserved⟩ := hgranted.mp hyes
        rw [if_pos hyes] at hports
        exact ⟨(takes_setPort hr (by simp [hreserved])).congr hports, hcursors⟩

end RequestHandler

/-- What ties an allocation to a port and to its place in a manager. -/
def TurnAllocation.owner (a : TurnAllocation) : TurnAllocationKey × StunTuple :=
  (a.mKey, a.mRequestedTuple)

def SameOwners (allocations allocations' : TurnAllocationManager) : Prop :=
  ∀ key, (allocations' key).map TurnAllocation.owner = (allocations key).map TurnAllocation.owner

/-- What a message does to the ports and the allocations: nothing that counts here, or a
new allocation with a newly taken port, or an allocation is removed. -/
inductive Effect (c : PortRange) (t : TurnManager) (allocations : TurnAllocationManager)
    (key : TurnAllocationKey) (o : Outcome) : Prop
  | same : SameAllocated t o.turnManager → SameOwners allocations o.allocations →
    Effect c t allocations key o
  | taken {a : TurnAllocation} : Takes c t o.turnManager a.mRequestedTuple.mPort →
    a.mRequestedTuple.mTransport = .udp → a.mKey = key → allocations key = none →
    o.allocations = Function.update allocations key (some a) → Effect c t allocations key o
  | removed {a : TurnAllocation} : allocations key = some a →
    (o.turnManager, o.allocations) = removeTurnAllocation c t allocations a.mKey →
    Effect c t allocations key o

/-- The cursors of the ports are kept too. -/
def Does (c : PortRange) (t : TurnManager) (allocations : TurnAllocationManager)
    (key : TurnAllocationKey) (o : Outcome) : Prop :=
  Cursors c o.turnManager ∧ Effect c t allocations key o

theorem SameOwners.rfl {allocations : TurnAllocationManager} : SameOwners allocations allocations :=
  fun _ => Eq.refl _

@[simp] theorem refreshPermission_owner (a : TurnAllocation) (now : ℕ) (address : Address) :
    (a.refreshPermission now address).owner = a.owner := Eq.refl _

@[simp] theorem refresh_owner (a : TurnAllocation) (now lifetime : ℕ) :
    (a.refresh now lifetime).owner = a.owner := Eq.refl _

@[simp] theorem existsPermission_owner (a : TurnAllocation) (now : ℕ) (address : Address) :
    (a.existsPermission now address).2.owner = a.owner := by
  obtain hsame | ⟨_, -, -, heq⟩ := RequestHandler.existsPermission_state a now address
  · rw [hsame]
  · rw [heq]
    exact Eq.refl _

@[simp] theorem addChannelBinding_owner (a : TurnAllocation) (times : ℕ → ℕ)
    (peerAddress : StunTuple) (channelNumber : ℕ) :
    (a.addChannelBinding times peerAddress channelNumber).2.owner = a.owner := by
  simp only [TurnAllocation.addChannelBinding]
  split
  · split
    · exact Eq.refl _
    · split_ifs <;> exact Eq.refl _
  · split <;> exact Eq.refl _

theorem installPermissions_owner (times : ℕ → ℕ) (i : ℕ) (addresses : List StunAtrAddress)
    (a : TurnAllocation) :
    (RequestHandler.installPermissions times i addresses a).owner = a.owner := by
  induction addresses generalizing i a with
  | nil => exact Eq.refl _
  | cons address rest ih =>
    simp only [RequestHandler.installPermissions, ih, refreshPermission_owner]

namespace RequestHandler

variable {h : RequestHandler} {times : ℕ → ℕ} {allocations : TurnAllocationManager}
  {request response : StunMessage}

theorem sameOwners_update {a a' : TurnAllocation} (hk : allocations request.key = some a)
    (ha : a'.owner = a.owner) : SameOwners allocations (update allocations request a') := by
  intro key
  by_cases hkey : key = request.key
  · subst hkey
    simp [update, hk, ha]
  · simp [update, hkey]

variable {c : PortRange}

theorem does_same (ht : Cursors c t) {o : Outcome} (hto : o.turnManager = t)
    (ho : SameOwners allocations o.allocations) : Does c t allocations request.key o :=
  ⟨hto ▸ ht, .same (fun q => by rw [hto]) ho⟩

theorem does_reject (ht : Cursors c t) (errorCode : ℕ) (msg : String) (realm : Option Data) :
    Does c t allocations request.key
      (h.reject times t allocations response errorCode msg realm) :=
  does_same ht (Eq.refl _) .rfl

theorem withAllocation_does (ht : Cursors c t) (noAllocation : String)
    {process : TurnAllocation → Outcome}
    (hp : ∀ a, allocations request.key = some a → Does c t allocations request.key (process a)) :
    Does c t allocations request.key
      (h.withAllocation times t allocations request response noAllocation process) := by
  simp only [withAllocation]
  split_ifs
  · exact does_reject ht _ _ _
  cases hk : allocations request.key with
  | none => exact does_reject ht _ _ _
  | some a =>
    dsimp only
    split_ifs
    · exact does_reject ht _ _ _
    · exact does_reject ht _ _ _
    · exact hp a hk

theorem deallocatePort_cursors (ht : Cursors c t) (transport : TransportType) (port : ℕ) :
    Cursors c (t.deallocatePort c transport port) := by
  intro x
  have hx := ht x
  simp only [deallocatePort]
  split_ifs <;> simpa using hx

theorem removeTurnAllocation_cursors (ht : Cursors c t) (key : TurnAllocationKey) :
    Cursors c (removeTurnAllocation c t allocations key).1 := by
  simp only [removeTurnAllocation]
  split
  · exact ht
  · exact deallocatePort_cursors ht _ _

theorem processTurnRefreshRequest_does (ht : Cursors h.config.toPortRange t) :
    Does h.config.toPortRange t allocations request.key
      (h.processTurnRefreshRequest times t allocations request response) := by
  refine withAllocation_does ht _ fun a hk => ?_
  dsimp only
  split_ifs
  · exact ⟨removeTurnAllocation_cursors ht _, .removed hk (Eq.refl _)⟩
  · exact does_same ht (Eq.refl _) (sameOwners_update hk (refresh_owner _ _ _))

theorem processTurnCreatePermissionRequest_does (ht : Cursors c t) :
    Does c t allocations request.key
      (h.processTurnCreatePermissionRequest times t allocations request response) := by
  refine withAllocation_does ht _ fun a hk => ?_
  split_ifs
  · exact does_reject ht _ _ _
  · exact does_same ht (Eq.refl _) (sameOwners_update hk (installPermissions_owner _ _ _ _))

theorem processTurnChannelBindRequest_does (ht : Cursors c t) :
    Does c t allocations request.key
      (h.processTurnChannelBindRequest times t allocations request response) := by
  refine withAllocation_does ht _ fun a hk => ?_
  split
  · dsimp only
    split_ifs
    · exact does_reject ht _ _ _
    · exact does_same ht (Eq.refl _) (sameOwners_update hk (addChannelBinding_owner _ _ _ _))
    · exact does_same ht (Eq.refl _) (sameOwners_update hk (addChannelBinding_owner _ _ _ _))
  · exact does_reject ht _ _ _

theorem processTurnSendIndication_owners :
    SameOwners allocations (processTurnSendIndication times allocations request).2 := by
  obtain hsame | ⟨a, address, permission, hk, -, -, heq⟩ := processTurnSendIndication_allocations
    times allocations request
  · rw [hsame]
    exact .rfl
  · rw [heq]
    exact sameOwners_update hk (Eq.refl _)

/-- With a relay that starts, an Allocate request that takes a port makes its owner. -/
theorem processTurnAllocateRequest_does (times : ℕ → ℕ) (allocations : TurnAllocationManager)
    (request response : StunMessage) (hmin : 0 < h.config.mAllocationPortRangeMin)
    (ht : Cursors h.config.toPortRange t) :
    Does h.config.toPortRange t allocations request.key
      (h.processTurnAllocateRequest times t allocations request response .started) := by
  simp only [processTurnAllocateRequest]
  split
  · exact does_reject ht _ _ _
  split
  · exact does_reject ht _ _ _
  next hkey =>
    have hnone : allocations request.key = none := by simpa using hkey
    split
    · exact does_reject ht _ _ _
    split
    · exact does_reject ht _ _ _
    split
    · exact does_reject ht _ _ _
    obtain ⟨hchosen, hcursors⟩ := choosePort_spec hmin ht request
    generalize h.choosePort t request .udp = chosen at hchosen hcursors ⊢
    obtain ⟨choice, t', token⟩ := chosen
    cases choice with
    | refused errorCode msg => exact ⟨hcursors, .same hchosen .rfl⟩
    | port port =>
      refine ⟨hcursors, .taken ?_ ?_ ?_ hnone (Eq.refl _)⟩
      · exact hchosen
      · exact Eq.refl _
      · exact Eq.refl _

theorem does_finish {o : Outcome} (ho : Does c t allocations request.key o) :
    Does c t allocations request.key (h.finish request o) := by
  obtain ⟨hcursors, heffect⟩ := ho
  refine ⟨by rwa [finish_turnManager], ?_⟩
  cases heffect with
  | same hs ho => exact .same (by rwa [finish_turnManager]) (by rwa [finish_allocations])
  | taken hp hu hkey hnone heq =>
    exact .taken (by rwa [finish_turnManager]) hu hkey hnone (by rwa [finish_allocations])
  | removed hk heq => exact .removed hk (by rwa [finish_turnManager, finish_allocations])

theorem processStunMessage_does (times : ℕ → ℕ) (allocations : TurnAllocationManager)
    (request response : StunMessage) (rfc3489 : Bool) (hmin : 0 < h.config.mAllocationPortRangeMin)
    (ht : Cursors h.config.toPortRange t) :
    Does h.config.toPortRange t allocations request.key
      (h.processStunMessage times t allocations request response .started rfc3489) := by
  simp only [processStunMessage]
  refine does_finish ?_
  split_ifs
  · exact does_same ht (Eq.refl _) .rfl
  · exact does_same ht (Eq.refl _) .rfl
  simp only [dispatch]
  split_ifs
  · simp only [processRequest]
    split_ifs
    · exact does_same ht (Eq.refl _) .rfl
    · exact does_same ht (Eq.refl _) .rfl
    · obtain ⟨hcursors, heffect⟩ := processTurnAllocateRequest_does times allocations request
        (h.handleAuthentication times request
          { response with mRemoteTuple := request.mRemoteTuple }).2 hmin ht
      refine ⟨hcursors, ?_⟩
      cases heffect with
      | same hs ho => exact .same hs ho
      | taken hp hu hkey hnone heq => exact .taken hp hu hkey hnone heq
      | removed hk heq => exact .removed hk heq
    · exact processTurnRefreshRequest_does ht
    · exact processTurnCreatePermissionRequest_does ht
    · exact processTurnChannelBindRequest_does ht
    · exact does_reject ht _ _ _
  · exact does_same ht (Eq.refl _) processTurnSendIndication_owners
  · exact does_same ht (Eq.refl _) .rfl

end RequestHandler

/-- Who owns what: for each manager and key the allocation's own key and relay address. -/
abbrev Owners (ι : Type*) := ι → TurnAllocationKey → Option (TurnAllocationKey × StunTuple)

/-- The ports of a server and the owners of its relay addresses. -/
structure Owned (c : PortRange) (t : TurnManager) (own : Owners ι) : Prop where
  cursors : Cursors c t
  allocated : ∀ port, t.getPortAllocationMap .udp port = .allocated ↔
    ∃ i key o, own i key = some o ∧ o.2.mPort = port
  one : ∀ i i' key key' o o', own i key = some o → own i' key' = some o' →
    o.2.mPort = o'.2.mPort → i = i' ∧ key = key'
  placed : ∀ i key o, own i key = some o →
    o.1 = key ∧ o.2.mTransport = .udp ∧ c.InRange o.2.mPort

def Owners.set (own : Owners ι) (i : ι) (key : TurnAllocationKey)
    (o : Option (TurnAllocationKey × StunTuple)) : Owners ι :=
  Function.update own i (Function.update (own i) key o)

theorem Owners.set_self (own : Owners ι) (i : ι) (key : TurnAllocationKey)
    (o : Option (TurnAllocationKey × StunTuple)) : own.set i key o i key = o := by
  simp [Owners.set]

theorem Owners.set_other {own : Owners ι} {i i' : ι} {key key' : TurnAllocationKey}
    {o : Option (TurnAllocationKey × StunTuple)} (h : ¬ (i' = i ∧ key' = key)) :
    own.set i key o i' key' = own i' key' := by
  by_cases hi : i' = i
  · subst hi
    have hk : key' ≠ key := fun hk => h ⟨rfl, hk⟩
    simp [Owners.set, hk]
  · simp [Owners.set, hi]

variable {own : Owners ι} {i : ι} {key : TurnAllocationKey}

theorem Owned.congr (h : Owned c t own) (hs : SameAllocated t t') (hc : Cursors c t') :
    Owned c t' own :=
  ⟨hc, fun port => (hs port).trans (h.allocated port), h.one, h.placed⟩

/-- A new allocation owns the port that was taken for it. -/
theorem Owned.take (h : Owned c t own) {tuple : StunTuple} (hnone : own i key = none)
    (ht : Takes c t t' tuple.mPort) (hu : tuple.mTransport = .udp) (hc : Cursors c t') :
    Owned c t' (own.set i key (some (key, tuple))) where
  cursors := hc
  allocated port := by
    rw [ht.taken, h.allocated]
    constructor
    · rintro (rfl | ⟨i', key', o, ho, rfl⟩)
      · exact ⟨i, key, _, own.set_self i key _, rfl⟩
      · refine ⟨i', key', o, ?_, rfl⟩
        rw [Owners.set_other, ho]
        rintro ⟨rfl, rfl⟩
        simp [hnone] at ho
    · rintro ⟨i', key', o, ho, rfl⟩
      by_cases hat : i' = i ∧ key' = key
      · obtain ⟨rfl, rfl⟩ := hat
        rw [own.set_self] at ho
        exact .inl (by rw [← Option.some.inj ho])
      · rw [Owners.set_other hat] at ho
        exact .inr ⟨i', key', o, ho, rfl⟩
  one i₁ i₂ key₁ key₂ o₁ o₂ h₁ h₂ hp := by
    -- the port was free, so that no older allocation has it
    have hnew : ∀ {i' key' o}, own i' key' = some o → o.2.mPort ≠ tuple.mPort := fun ho he =>
      ht.free ((h.allocated _).mpr ⟨_, _, _, ho, he⟩)
    by_cases hat₁ : i₁ = i ∧ key₁ = key
    · obtain ⟨rfl, rfl⟩ := hat₁
      rw [own.set_self] at h₁
      obtain rfl := Option.some.inj h₁
      by_cases hat₂ : i₂ = i₁ ∧ key₂ = key₁
      · exact ⟨hat₂.1.symm, hat₂.2.symm⟩
      · rw [Owners.set_other hat₂] at h₂
        exact absurd hp.symm (hnew h₂)
    · rw [Owners.set_other hat₁] at h₁
      by_cases hat₂ : i₂ = i ∧ key₂ = key
      · obtain ⟨rfl, rfl⟩ := hat₂
        rw [own.set_self] at h₂
        obtain rfl := Option.some.inj h₂
        exact absurd hp (hnew h₁)
      · rw [Owners.set_other hat₂] at h₂
        exact h.one _ _ _ _ _ _ h₁ h₂ hp
  placed i' key' o ho := by
    by_cases hat : i' = i ∧ key' = key
    · obtain ⟨rfl, rfl⟩ := hat
      rw [own.set_self] at ho
      obtain rfl := Option.some.inj ho
      exact ⟨rfl, hu, ht.inRange⟩
    · rw [Owners.set_other hat] at ho
      exact h.placed i' key' o ho

theorem deallocatePort_allocated {port : ℕ} (hr : c.InRange port) (q : ℕ) :
    (t.deallocatePort c .udp port).getPortAllocationMap .udp q = .allocated ↔
      q ≠ port ∧ t.getPortAllocationMap .udp q = .allocated := by
  have hmeets : Meets c t (.deallocatePort .udp port) .done (t.deallocatePort c .udp port) :=
    deallocatePort_spec port
  rw [hmeets .udp q]
  by_cases hq : q = port
  · simp [hq, hr]
  · by_cases hres : t.getPortAllocationMap .udp q = .reserved
    · simp only [hres]
      split_ifs <;> simp
    · simp [hq, hres]

/-- An allocation that is removed gives its port back. -/
theorem Owned.remove (h : Owned c t own) {o : TurnAllocationKey × StunTuple}
    (ho : own i key = some o) :
    Owned c (t.deallocatePort c o.2.mTransport o.2.mPort) (own.set i key none) := by
  obtain ⟨-, hu, hr⟩ := h.placed i key o ho
  rw [hu]
  have hold : ∀ {i' key' o'}, own.set i key none i' key' = some o' →
      ¬ (i' = i ∧ key' = key) ∧ own i' key' = some o' := by
    intro i' key' o' ho'
    by_cases hat : i' = i ∧ key' = key
    · obtain ⟨rfl, rfl⟩ := hat
      simp [own.set_self] at ho'
    · exact ⟨hat, by rwa [Owners.set_other hat] at ho'⟩
  refine ⟨RequestHandler.deallocatePort_cursors h.cursors _ _, fun port => ?_, ?_, ?_⟩
  · rw [deallocatePort_allocated hr, h.allocated]
    constructor
    · rintro ⟨hne, i', key', o', ho', rfl⟩
      refine ⟨i', key', o', ?_, rfl⟩
      rw [Owners.set_other, ho']
      rintro ⟨rfl, rfl⟩
      rw [ho] at ho'
      exact hne (by rw [Option.some.inj ho'])
    · rintro ⟨i', key', o', ho', rfl⟩
      obtain ⟨hat, ho'⟩ := hold ho'
      exact ⟨fun hp => hat (h.one _ _ _ _ _ _ ho' ho hp), i', key', o', ho', rfl⟩
  · intro i₁ i₂ key₁ key₂ o₁ o₂ h₁ h₂ hp
    exact h.one _ _ _ _ _ _ (hold h₁).2 (hold h₂).2 hp
  · intro i' key' o' ho'
    exact h.placed i' key' o' (hold ho').2

namespace Server

variable {h : RequestHandler} {s : Server ι}

def owners (s : Server ι) : Owners ι := fun i key =>
  (s.managers i key).map TurnAllocation.owner

theorem owners_setManager (i : ι) (r : TurnManager × TurnAllocationManager) (i' : ι)
    (key : TurnAllocationKey) : (s.setManager i r).owners i' key =
      if i' = i then (r.2 key).map TurnAllocation.owner else s.owners i' key := by
  by_cases hi : i' = i
  · subst hi
    simp [owners, setManager]
  · simp [owners, setManager, hi]

/-- A change at one key of one manager. -/
theorem owners_update (i : ι) (t : TurnManager) (key : TurnAllocationKey)
    (a : Option TurnAllocation) :
    (s.setManager i (t, Function.update (s.managers i) key a)).owners =
      s.owners.set i key (a.map TurnAllocation.owner) := by
  funext i' key'
  rw [owners_setManager]
  by_cases hat : i' = i ∧ key' = key
  · obtain ⟨rfl, rfl⟩ := hat
    simp [Owners.set_self]
  · rw [Owners.set_other hat]
    split_ifs with hi
    · subst hi
      have hk : key' ≠ key := fun hk => hat ⟨rfl, hk⟩
      simp [hk, owners]
    · rfl

def Holds (h : RequestHandler) (s : Server ι) : Prop :=
  Owned h.config.toPortRange s.turnManager s.owners

theorem Holds.remove (hs : Holds h s) (i : ι) (key : TurnAllocationKey) :
    Holds h (s.setManager i (removeTurnAllocation h.config.toPortRange s.turnManager
      (s.managers i) key)) := by
  cases hk : s.managers i key with
  | none =>
    have hsame : s.setManager i (s.turnManager, s.managers i) = s := by
      simp [setManager, Function.update_eq_self]
    simp only [removeTurnAllocation, hk, hsame]
    exact hs
  | some a =>
    have ho : s.owners i key = some a.owner := by simp [owners, hk]
    simp only [removeTurnAllocation, hk, Holds]
    rw [owners_update]
    exact Owned.remove hs ho

/-- Each event keeps the ports with their owners when the relay that it opens starts. -/
theorem Holds.step (hs : Holds h s) (hmin : 0 < h.config.mAllocationPortRangeMin)
    (e : ServerEvent ι) (he : RelayOpens s e) : Holds h (s.step h e) := by
  cases e with
  | message i times request response relay rfc3489 =>
    obtain rfl : relay = .started := he
    obtain ⟨hcursors, heffect⟩ := RequestHandler.processStunMessage_does times
      (s.managers i) request response rfc3489 hmin hs.cursors
    simp only [Server.step]
    generalize h.processStunMessage times s.turnManager (s.managers i) request response .started
      rfc3489 = o at hcursors heffect ⊢
    cases heffect with
    | same hports howners =>
      have hown : (s.setManager i (o.turnManager, o.allocations)).owners = s.owners := by
        funext i' key'
        rw [owners_setManager]
        split_ifs with hi
        · subst hi
          exact howners key'
        · rfl
      simp only [Holds, hown]
      exact Owned.congr hs hports hcursors
    | @taken a htakes hu hkey hnone heq =>
      have ho : s.owners i request.key = none := by simp [owners, hnone]
      simp only [Holds]
      rw [heq, owners_update]
      have hown := Owned.take hs ho htakes hu hcursors
      rwa [← hkey] at hown ⊢
    | @removed a hk heq =>
      have hremove := hs.remove i a.mKey
      rwa [← heq] at hremove
  | allocationExpired i now key =>
    simp only [Server.step, allocationExpired]
    split
    next hk =>
      have hsame : s.setManager i (s.turnManager, s.managers i) = s := by
        simp [setManager, Function.update_eq_self]
      rwa [hsame]
    next a hk =>
      split_ifs
      · exact hs.remove i key
      · have hsame : s.setManager i (s.turnManager, s.managers i) = s := by
          simp [setManager, Function.update_eq_self]
        rwa [hsame]
  | onSocketDestroyed i key => exact hs.remove i key

theorem Holds.portsOwned (hs : Holds h s) : PortsOwned s where
  owned port := by
    rw [hs.allocated]
    constructor
    · rintro ⟨i, key, o, ho, hp⟩
      obtain ⟨a, ha, rfl⟩ := Option.map_eq_some_iff.mp ho
      exact ⟨i, key, a, ha, hp⟩
    · rintro ⟨i, key, a, ha, hp⟩
      exact ⟨i, key, a.owner, by simp [owners, ha], hp⟩
  one i i' key key' a a' ha ha' hp :=
    hs.one i i' key key' a.owner a'.owner (by simp [owners, ha]) (by simp [owners, ha']) hp

theorem holds_new (h : RequestHandler) :
    Holds h (⟨.new h.config.toPortRange, fun _ _ => none⟩ : Server ι) where
  cursors := new_cursors _
  allocated port := by
    simp [owners, TurnManager.new, getPortAllocationMap]
  one i _ key _ o _ ho := by simp [owners] at ho
  placed i key o ho := by simp [owners] at ho

/-- In every run in which each relay socket opens, exactly the ports of the allocations
are allocated, one for each. -/
theorem ports_owned (ι : Type) [DecidableEq ι] (h : RequestHandler)
    (hmin : 0 < h.config.mAllocationPortRangeMin) {s : Server ι}
    (hs : Reach (system ι h) RelayOpens s) : PortsOwned s := by
  have hold : Holds h s := by
    refine Reach.invariant (P := Holds h) ?_ ?_ hs
    · rintro _ rfl
      exact holds_new h
    · intro s e _ hs _ he
      exact hs.step hmin e he
  exact hold.portsOwned

/-- A server with one user and with checksums that do not depend on the text. -/
def relayHandler : RequestHandler :=
  { RequestHandler.plainHandler with
    config := { RequestHandler.plainHandler.config with
      mUsers := fun _ _ => true
      mRealmUsersAuthenticaionCredentials := fun _ _ => some []
      credentials_of_users := by simp }
    md5 := fun _ => List.replicate 32 48 }

/-- An Allocate request for UDP with a nonce of the time 0. -/
def allocateRequest : StunMessage :=
  { (((((init.set .messageIntegrity (.replicate 20 0)).set .username [97]).set .realm [114]).set
      .nonce (48 :: 58 :: List.replicate 32 48)).set .turnRequestedTransport (17 : UInt8)) with
    mClass := stunClassRequest
    mMethod := turnAllocateMethod }

def allocateEvent (relay : RelayStart) : ServerEvent Unit :=
  .message () (fun _ => 0) allocateRequest init relay false

def startedServer : Server Unit := ⟨.new relayHandler.config.toPortRange, fun _ _ => none⟩

/-- The request is the first thing that the server gets. -/
theorem reach_allocate {ok : Server Unit → ServerEvent Unit → Prop} {relay : RelayStart}
    (hok : ok startedServer (allocateEvent relay)) :
    Reach (system Unit relayHandler) ok
      (startedServer.step relayHandler (allocateEvent relay)) := by
  have hstart : Reach (system Unit relayHandler) ok startedServer := .init rfl
  exact .step (M := system Unit relayHandler) hstart trivial hok

theorem ports_owned_allocate : PortsOwned (startedServer.step relayHandler (allocateEvent .started)) :=
  ports_owned Unit relayHandler (by decide) (reach_allocate rfl)

/-- The relay socket cannot be opened: the port stays allocated without an owner. -/
theorem not_ports_owned : ¬ ∀ (h : RequestHandler) (s : Server Unit),
    0 < h.config.mAllocationPortRangeMin → Reach (system Unit h) anyStep s → PortsOwned s := by
  intro hall
  have hs := hall relayHandler (startedServer.step relayHandler (allocateEvent .failed)) (by decide)
    (reach_allocate trivial)
  obtain ⟨i, key, a, ha, -⟩ := (hs.owned 49152).mp (by decide)
  have hnone : (startedServer.step relayHandler (allocateEvent .failed)).managers i key = none := by
    rfl
  rw [hnone] at ha
  cases ha

end Server

end Resiprocate.ReTurn
