import Mathlib
import Resiprocate.ChannelBindings

/-! Data passes between the client and a peer only under a permission for the peer's
address that was installed or refreshed within its lifetime. A run keeps the permissions
that have been granted, each with the time of the grant. -/
namespace Resiprocate.ReTurn

/-- The peer to which a socket is given data, and no other output, goes. -/
def Sent.peer : Sent → Option Address
  | .toPeer peerAddress _ _ => some peerAddress.mAddress
  | _ => none

/-- The client is given data of a peer. -/
def Sent.isToClient : Sent → Bool
  | .toClientOnChannel .. | .dataIndToClient .. => true
  | _ => false

namespace TurnAllocation

structure Grant where
  address : Address
  time : ℕ
  deriving DecidableEq

/-- The permission that a call installs or refreshes, with the clock it read for that. -/
def grants (a : TurnAllocation) (times : ℕ → ℕ) : Call → List Grant
  | .addChannelBinding peerAddress channelNumber =>
    if (a.addChannelBinding times peerAddress channelNumber).1 then
      [⟨peerAddress.mAddress, times 4⟩] else []
  | .refreshPermission address => [⟨address, times 0⟩]
  | _ => []

/-- The peer to or from which a call relays data, at the clock it read for the permission. -/
inductive Relays (a : TurnAllocation) (times : ℕ → ℕ) : Call → Address → ℕ → Prop
  | onChannel {channelNumber : ℕ} {data : Data} {isFramed : Bool} {address : Address} :
    (a.sendDataToPeer times channelNumber data isFramed).1.peer = some address →
    Relays a times (.sendDataToPeer channelNumber data isFramed) address (times 1)
  | byIndication {peerAddress : StunTuple} {data : Data} {isFramed : Bool} {address : Address} :
    (a.sendDataToPeerAddress (times 0) peerAddress data isFramed).1.peer = some address →
    Relays a times (.sendDataToPeerAddress peerAddress data isFramed) address (times 0)
  | fromPeer {peerAddress : StunTuple} {data : Data} :
    (a.sendDataToClient times peerAddress data).1.isToClient →
    Relays a times (.sendDataToClient peerAddress data) peerAddress.mAddress (times 0)

/-- Calls one after the other, with the permissions that they have granted. -/
inductive Granting (a : TurnAllocation) (start : ℕ) : TurnAllocation → ℕ → List Grant → Prop
  | refl : Granting a start a start []
  | call {b : TurnAllocation} {since : ℕ} {log : List Grant} {times : ℕ → ℕ} {c : Call} :
    Granting a start b since log → Monotone times → since ≤ times 0 →
    Granting a start (b.call times c) (times 4) (log ++ b.grants times c)

/-- Every permission there is has been granted, and lasts from then for its lifetime. -/
def Permitted (now : ℕ) (log : List Grant) (a : TurnAllocation) : Prop :=
  ∀ address permission, a.mTurnPermissionMap address = some permission →
    permission.mTimeoutSeconds = permissionLifetimeSeconds ∧
      ∃ time, ⟨address, time⟩ ∈ log ∧ time ≤ now ∧
        permission.mExpires = time + permissionLifetimeSeconds

variable {a a' b : TurnAllocation} {now later start t : ℕ} {log : List Grant} {times : ℕ → ℕ}
  {address : Address} {c : Call}

theorem Permitted.mono (h : Permitted now log a) (hle : now ≤ later) (more : List Grant) :
    Permitted later (log ++ more) a := by
  intro address permission hp
  obtain ⟨htimeout, time, hmem, htime, hexp⟩ := h address permission hp
  exact ⟨htimeout, time, List.mem_append_left more hmem, htime.trans hle, hexp⟩

/-- Only the permissions matter. -/
theorem Permitted.of_sub (h : Permitted now log a)
    (hsub : ∀ address permission, a'.mTurnPermissionMap address = some permission →
      a.mTurnPermissionMap address = some permission) : Permitted now log a' :=
  fun address permission hp => h address permission (hsub address permission hp)

theorem existsPermission_sub {peer : Address} {permission : TurnPermission}
    (h : (a.existsPermission now peer).2.mTurnPermissionMap address = some permission) :
    a.mTurnPermissionMap address = some permission := by
  unfold existsPermission at h
  split at h
  · exact h
  · split_ifs at h
    · obtain ⟨-, h⟩ : address ≠ peer ∧ a.mTurnPermissionMap address = some permission := by
        simpa [Function.update_apply] using h
      exact h
    · exact h

/-- A permission that is found was granted within its lifetime. -/
theorem Permitted.of_exists (h : Permitted now log a) (hle : now ≤ t)
    (hfound : (a.existsPermission t address).1 = true) :
    ∃ time, ⟨address, time⟩ ∈ log ∧ time ≤ t ∧ t ≤ time + permissionLifetimeSeconds := by
  unfold existsPermission at hfound
  split at hfound
  next => cases hfound
  next permission hp =>
    obtain ⟨-, time, hmem, htime, hexp⟩ := h address permission hp
    split_ifs at hfound with hgone
    have hlast : t ≤ permission.mExpires := by simpa [TurnPermission.isExpired] using hgone
    exact ⟨time, hmem, htime.trans hle, hexp ▸ hlast⟩

theorem Permitted.refreshPermission (h : Permitted now log a) (hle : now ≤ t) :
    Permitted t (log ++ [⟨address, t⟩]) (a.refreshPermission t address) := by
  intro peer permission hp
  by_cases hpeer : peer = address
  · subst hpeer
    have hnew : (⟨peer, t⟩ : Grant) ∈ log ++ [⟨peer, t⟩] := by simp
    cases hold : a.mTurnPermissionMap peer with
    | none =>
      obtain rfl : (⟨t + permissionLifetimeSeconds, permissionLifetimeSeconds⟩ : TurnPermission) =
          permission := by
        simpa [TurnAllocation.refreshPermission, hold] using hp
      exact ⟨rfl, t, hnew, le_rfl, rfl⟩
    | some old =>
      have htimeout := (h peer old hold).1
      obtain rfl : old.refresh t = permission := by
        simpa [TurnAllocation.refreshPermission, hold] using hp
      exact ⟨htimeout, t, hnew, le_rfl, by rw [TurnPermission.refresh, htimeout]⟩
  · have hold : a.mTurnPermissionMap peer = some permission := by
      simpa [TurnAllocation.refreshPermission, hpeer] using hp
    exact h.mono hle [⟨address, t⟩] peer permission hold

theorem sendDataToPeerAddress_snd (a : TurnAllocation) (now : ℕ) (peerAddress : StunTuple)
    (data : Data) (isFramed : Bool) :
    (a.sendDataToPeerAddress now peerAddress data isFramed).2 =
      (a.existsPermission now peerAddress.mAddress).2 := by
  unfold sendDataToPeerAddress
  split
  next heq => simp [heq]
  next heq => split_ifs <;> simp [heq]

/-- Data for a peer is checked against the peer's own address. -/
theorem sendDataToPeerAddress_peer {peerAddress : StunTuple} {data : Data} {isFramed : Bool}
    (h : (a.sendDataToPeerAddress now peerAddress data isFramed).1.peer = some address) :
    address = peerAddress.mAddress ∧ (a.existsPermission now peerAddress.mAddress).1 = true := by
  unfold sendDataToPeerAddress at h
  split at h
  next heq => simp [Sent.peer] at h
  next b heq =>
    split_ifs at h
    · simp only [Sent.peer, Option.some.injEq] at h
      exact ⟨h.symm, by rw [heq]⟩
    · simp only [Sent.peer, Option.some.injEq] at h
      exact ⟨h.symm, by rw [heq]⟩
    · simp [Sent.peer] at h
    · simp [Sent.peer] at h

/-- Framed data is checked against the address of the peer of its channel. -/
theorem sendDataToPeer_spec (a : TurnAllocation) (times : ℕ → ℕ) (channelNumber : ℕ) (data : Data)
    (isFramed : Bool) :
    ((a.sendDataToPeer times channelNumber data isFramed).2.mTurnPermissionMap =
        a.mTurnPermissionMap ∧
      (a.sendDataToPeer times channelNumber data isFramed).1.peer = none) ∨
    ∃ m peer, a.sendDataToPeer times channelNumber data isFramed =
      ({ a with mChannelManager := m } : TurnAllocation).sendDataToPeerAddress (times 1)
        (RemotePeer.mPeerTuple peer) data isFramed := by
  unfold sendDataToPeer
  split
  next => exact .inl ⟨rfl, rfl⟩
  next ptr m heq =>
    split
    next => exact .inl ⟨rfl, rfl⟩
    next peer hpeer => exact .inr ⟨m, peer, rfl⟩

/-- Data from a peer is checked against the peer's own address. -/
theorem sendDataToClient_spec (a : TurnAllocation) (times : ℕ → ℕ) (peerAddress : StunTuple)
    (data : Data) :
    (a.sendDataToClient times peerAddress data).2.mTurnPermissionMap =
        (a.existsPermission (times 0) peerAddress.mAddress).2.mTurnPermissionMap ∧
      ((a.sendDataToClient times peerAddress data).1.isToClient →
        (a.existsPermission (times 0) peerAddress.mAddress).1 = true) := by
  unfold sendDataToClient
  split
  next heq => simp [heq, Sent.isToClient]
  next b heq =>
    split
    · simp [heq]
    · split <;> simp [heq]

theorem addChannelBinding_spec (a : TurnAllocation) (times : ℕ → ℕ) (peerAddress : StunTuple)
    (channelNumber : ℕ) :
    ∃ m, a.addChannelBinding times peerAddress channelNumber =
        (false, { a with mChannelManager := m }) ∨
      a.addChannelBinding times peerAddress channelNumber =
        (true, ({ a with mChannelManager := m } : TurnAllocation).refreshPermission (times 4)
          peerAddress.mAddress) := by
  unfold addChannelBinding
  split
  next ptr m heq =>
    split
    · exact ⟨_, .inl rfl⟩
    · split_ifs
      · exact ⟨_, .inl rfl⟩
      · exact ⟨_, .inr rfl⟩
  next m heq =>
    split
    · exact ⟨_, .inl rfl⟩
    · exact ⟨_, .inr rfl⟩

/-- A call keeps every permission granted. -/
theorem Permitted.call (h : Permitted now log a) (hm : Monotone times) (hle : now ≤ times 0)
    (c : Call) : Permitted (times 4) (log ++ a.grants times c) (a.call times c) := by
  have h04 : times 0 ≤ times 4 := hm (by omega)
  have hkeep := h.mono (hle.trans h04) []
  cases c with
  | addChannelBinding peerAddress channelNumber =>
    obtain ⟨m, heq | heq⟩ := a.addChannelBinding_spec times peerAddress channelNumber
    · simp only [grants, TurnAllocation.call, heq, Bool.false_eq_true, if_false]
      exact hkeep.of_sub fun _ _ hp => hp
    · simp only [grants, TurnAllocation.call, heq, if_true]
      have hm : Permitted now log { a with mChannelManager := m } := h.of_sub fun _ _ hp => hp
      exact hm.refreshPermission (hle.trans h04)
  | sendDataToPeer channelNumber data isFramed =>
    obtain ⟨hmap, -⟩ | ⟨m, peer, heq⟩ := a.sendDataToPeer_spec times channelNumber data isFramed
    · exact hkeep.of_sub fun address permission hp => by rwa [TurnAllocation.call, hmap] at hp
    · apply hkeep.of_sub
      intro address permission hp
      rw [TurnAllocation.call, heq, sendDataToPeerAddress_snd] at hp
      have hsub := existsPermission_sub hp
      exact hsub
  | sendDataToPeerAddress peerAddress data isFramed =>
    apply hkeep.of_sub
    intro address permission hp
    rw [TurnAllocation.call, sendDataToPeerAddress_snd] at hp
    exact existsPermission_sub hp
  | sendDataToClient peerAddress data =>
    apply hkeep.of_sub
    intro address permission hp
    rw [TurnAllocation.call, (sendDataToClient_spec ..).1] at hp
    exact existsPermission_sub hp
  | refreshPermission address =>
    have hnew : Permitted (times 0) _ (a.refreshPermission (times 0) address) :=
      h.refreshPermission hle
    have hlater := hnew.mono h04 []
    rwa [List.append_nil] at hlater

theorem Granting.permitted (h : Granting a start b now log) (hnew : Permitted start [] a) :
    Permitted now log b := by
  induction h with
  | refl => exact hnew
  | call _ hm hle ih => exact ih.call hm hle _

/-- What relays data has found a permission. -/
theorem Relays.exists_grant (h : Relays b times c address t) (hp : Permitted now log b)
    (hm : Monotone times) (hle : now ≤ times 0) :
    ∃ time, ⟨address, time⟩ ∈ log ∧ time ≤ t ∧ t ≤ time + permissionLifetimeSeconds := by
  have h01 : times 0 ≤ times 1 := hm (by omega)
  cases h with
  | @onChannel channelNumber data isFramed _ hsent =>
    obtain ⟨-, hnone⟩ | ⟨m, peer, heq⟩ := b.sendDataToPeer_spec times channelNumber data isFramed
    · rw [hnone] at hsent
      cases hsent
    · rw [heq] at hsent
      obtain ⟨rfl, hfound⟩ := sendDataToPeerAddress_peer hsent
      have hp' : Permitted now log { b with mChannelManager := m } := hp.of_sub fun _ _ hq => hq
      exact hp'.of_exists (hle.trans h01) hfound
  | byIndication hsent =>
    obtain ⟨rfl, hfound⟩ := sendDataToPeerAddress_peer hsent
    exact hp.of_exists hle hfound
  | fromPeer hsent => exact hp.of_exists hle ((sendDataToClient_spec ..).2 hsent)

/-- In every run, data that is relayed to or from a peer has a permission for the peer's
address that was granted at most 300 seconds before. -/
theorem relays_permitted (clientLocalTuple clientRemoteTuple requestedTuple : StunTuple)
    (clientAuth : StunAuth) (lifetime : ℕ)
    (h : Granting (new clientLocalTuple clientRemoteTuple clientAuth requestedTuple start lifetime)
      start b now log) (hm : Monotone times) (hle : now ≤ times 0)
    (hr : Relays b times c address t) :
    ∃ time, ⟨address, time⟩ ∈ log ∧ time ≤ t ∧ t ≤ time + 300 :=
  hr.exists_grant (h.permitted fun _ _ hp => by cases hp) hm hle

/-- On a channel that was bound at the time 5, data is relayed at the time 305. -/
theorem relays_permitted_bound :
    ∃ time, (⟨.v4 0x7f000001, time⟩ : Grant) ∈
        [(⟨.v4 0x7f000001, 5⟩ : Grant)] ∧ time ≤ 305 ∧ 305 ≤ time + 300 := by
  have hrun : Granting (new (hostAt 3478) (hostAt 1000) ⟨[], []⟩ (hostAt 49152) 0 600) 0
      boundAllocation 5 [⟨.v4 0x7f000001, 5⟩] :=
    .call (c := .addChannelBinding (hostAt 7000) 0x4000) .refl (fun _ _ _ => le_rfl) (Nat.zero_le 5)
  have hrelay : Relays boundAllocation (fun _ => 305) (.sendDataToPeer 0x4000 [1] false)
      (.v4 0x7f000001) 305 := .onChannel (by decide)
  exact relays_permitted _ _ _ _ _ hrun (fun _ _ _ => le_rfl) (by decide) hrelay

end TurnAllocation

end Resiprocate.ReTurn
