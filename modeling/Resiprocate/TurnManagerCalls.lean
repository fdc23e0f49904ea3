import Mathlib
import Resiprocate.TurnManagerSearch

/-! What each call of the port allocator does, and what therefore holds of every
run: a port is handed out only while it is free, and the port above an even one
stays reserved only while the even one is allocated. -/
namespace Resiprocate.ReTurn

open CyclicSearch

inductive PortCall
  | allocateAnyPort (transport : TransportType)
  | allocateEvenPort (transport : TransportType)
  | allocateEvenPortPair (transport : TransportType)
  | allocatePort (transport : TransportType) (port : ℕ) (reserved : Bool)
  | deallocatePort (transport : TransportType) (port : ℕ)

inductive PortReply
  | port (port : ℕ)
  | granted (granted : Bool)
  | done
  deriving DecidableEq, Repr

namespace TurnManager

def call (c : PortRange) (fuel : ℕ) (t : TurnManager) : PortCall → Option (PortReply × TurnManager)
  | .allocateAnyPort transport =>
    (t.allocateAnyPort c fuel transport).map fun r => (.port r.1, r.2)
  | .allocateEvenPort transport =>
    (t.allocateEvenPort c fuel transport).map fun r => (.port r.1, r.2)
  | .allocateEvenPortPair transport =>
    (t.allocateEvenPortPair c fuel transport).map fun r => (.port r.1, r.2)
  | .allocatePort transport port reserved =>
    some (.granted (t.allocatePort c transport port reserved).1,
      (t.allocatePort c transport port reserved).2)
  | .deallocatePort transport port => some (.done, t.deallocatePort c transport port)

/-- States of the allocator after any calls that have returned. -/
inductive Reached (c : PortRange) : TurnManager → Prop
  | new : Reached c (new c)
  | call {t t' : TurnManager} {fuel : ℕ} {p : PortCall} {r : PortReply} :
    Reached c t → t.call c fuel p = some (r, t') → Reached c t'

def SamePorts (t t' : TurnManager) : Prop :=
  ∀ transport port, t'.getPortAllocationMap transport port = t.getPortAllocationMap transport port

/-- A port that a call may hand out. -/
def Free (c : PortRange) (transport : TransportType) (t : TurnManager) (port : ℕ) : Prop :=
  c.InRange port ∧ t.getPortAllocationMap transport port = .unallocated

/-- A suitable port is handed out and marked, or there is none and 0 is returned. -/
def HandsOut (t : TurnManager) (suitable : ℕ → Prop) (mark : ℕ → TurnManager) (port : ℕ)
    (t' : TurnManager) : Prop :=
  (port ≠ 0 ∧ suitable port ∧ SamePorts (mark port) t') ∨
    port = 0 ∧ (∀ q, ¬ suitable q) ∧ SamePorts t t'

/-- What a call promises about its answer and the states of the ports. -/
def Meets (c : PortRange) (t : TurnManager) : PortCall → PortReply → TurnManager → Prop
  | .allocateAnyPort transport, .port port, t' =>
    HandsOut t (Free c transport t) (t.setPort transport · .allocated) port t'
  | .allocateEvenPort transport, .port port, t' =>
    HandsOut t (fun q => q % 2 = 0 ∧ Free c transport t q) (t.setPort transport · .allocated) port t'
  | .allocateEvenPortPair transport, .port port, t' =>
    HandsOut t (fun q => q % 2 = 0 ∧ Free c transport t q ∧ Free c transport t (q + 1))
      (fun q => (t.setPort transport q .allocated).setPort transport (q + 1) .reserved) port t'
  | .allocatePort transport port reserved, .granted granted, t' =>
    (granted ↔ c.InRange port ∧ t.getPortAllocationMap transport port =
      if reserved then .reserved else .unallocated) ∧
    SamePorts (if granted then t.setPort transport port .allocated else t) t'
  | .deallocatePort transport port, .done, t' =>
    ∀ x q, t'.getPortAllocationMap x q =
      if isTcp transport = isTcp x ∧ c.InRange port ∧
          (q = port ∨ q = port + 1 ∧ port % 2 = 0 ∧ t.getPortAllocationMap x q = .reserved) then
        .unallocated
      else t.getPortAllocationMap x q
  | _, _, _ => False

/-- A port is reserved only while the even port below it is allocated. -/
def ReservedBelow (t : TurnManager) : Prop :=
  ∀ transport port, t.getPortAllocationMap transport port = .reserved →
    ∃ even, port = even + 1 ∧ even % 2 = 0 ∧ t.getPortAllocationMap transport even = .allocated

/-- In every state that calls lead to, every call ends and meets its promise. -/
def PortsKept (c : PortRange) : Prop :=
  ∀ t, Reached c t → ReservedBelow t ∧
    ∀ p, ∃ r t', (∀ fuel ≥ 65536, t.call c fuel p = some (r, t')) ∧ Meets c t p r t'

variable {c : PortRange} {transport : TransportType} {t t' : TurnManager}

/-- The cursor is at a port of the range, or one below it as at the start. -/
def Cursor (c : PortRange) (last : ℕ) : Prop :=
  (∃ i, last = c.portAt i) ∨ last = (c.mAllocationPortRangeMin + 65535) % 65536

theorem Cursor.advance {last : ℕ} (h : Cursor c last) : ∃ i, c.advance last 1 = c.portAt i := by
  obtain ⟨i, hi⟩ | hlast := h
  · subst hi
    exact ⟨i + 1, c.advance_portAt Nat.one_pos (one_dvd _) (one_dvd _)⟩
  · have hmax := c.max_lt
    have hmm := c.min_lt_max
    refine ⟨0, ?_⟩
    have hnext : (last + 1) % 65536 = c.mAllocationPortRangeMin := by omega
    simp only [PortRange.advance, PortRange.portAt, hnext, Nat.zero_mod, Nat.add_zero]
    split_ifs <;> omega

/-- Every search starts with a step that brings the cursor into the range. -/
theorem start_at (h : Cursor c (t.lastAllocatedPort transport)) :
    ∃ i, advanceLastAllocatedPort c transport 1 t =
      (c.portAt i, t.setLastAllocatedPort transport (c.portAt i)) := by
  obtain ⟨i, hi⟩ := h.advance
  exact ⟨i, by simp only [advanceLastAllocatedPort, hi]⟩

theorem setLast_at (i : ℕ) :
    At c transport i (t.setLastAllocatedPort transport (c.portAt i)) := by
  simp [At]

/-- The next even port is at most one step away; the pair's extra tests on it
say nothing more. -/
theorem seek_even (c : PortRange) (transport : TransportType) (t : TurnManager) (ok : ℕ → Bool) (i : ℕ) {fuel : ℕ}
    (hok : ∀ q, c.InRange q → (ok q = true ↔ q % 2 = 0)) (hf : 65536 ≤ fuel) :
    ∃ j, 2 ∣ j ∧ seek (advanceLastAllocatedPort c transport 1) ok fuel
        (c.portAt i, t.setLastAllocatedPort transport (c.portAt i)) =
      some (c.portAt j, t.setLastAllocatedPort transport (c.portAt j)) := by
  have hwalk := walk_at (t := t.setLastAllocatedPort transport (c.portAt i)) Nat.one_pos
    (one_dvd c.size) (one_dvd i) (setLast_at i)
  have heven : 2 ∣ i + 1 * (i % 2) := by omega
  have hreach : ok (walk (advanceLastAllocatedPort c transport 1) (i % 2)
      (c.portAt i, t.setLastAllocatedPort transport (c.portAt i))).1 := by
    rw [hwalk, hok _ (c.portAt_inRange _)]
    exact c.portAt_even heven
  obtain ⟨k, -, hk, he⟩ := seek_ok (advanceLastAllocatedPort c transport 1) ok _ hreach
    (by omega : i % 2 < fuel)
  rw [hwalk] at hk he
  refine ⟨i + 1 * k, ?_, by simpa using he⟩
  have hp := (hok _ (c.portAt_inRange _)).mp hk
  have hmin := c.min_even
  refine (Nat.dvd_mod_iff c.size_even).mp ?_
  simp only [PortRange.portAt] at hp
  omega

theorem isUnallocated_setLast (last q : ℕ) :
    isUnallocated transport (t.setLastAllocatedPort transport last) q =
      isUnallocated transport t q := by
  simp [isUnallocated]

variable {fuel : ℕ}

/-- A search finds a suitable port or shows that there is none. -/
theorem search_suitable (transport : TransportType) (t : TurnManager)
    (free : TurnManager → ℕ → Bool) (suitable : ℕ → Prop) {d i : ℕ} (hd : 0 < d) (hdn : d ∣ c.size) (hdi : d ∣ i) (hf : 65536 ≤ fuel)
    (hfree : ∀ (t : TurnManager) last q,
      free (t.setLastAllocatedPort transport last) q = free t q)
    (hfound : ∀ j, d ∣ j → free t (c.portAt j) → suitable (c.portAt j))
    (hall : ∀ q, suitable q → c.InRange q ∧ d ∣ q - c.mAllocationPortRangeMin ∧ free t q) :
    ∃ found j, search (advanceLastAllocatedPort c transport d) free (c.portAt i) fuel
        (c.portAt i, t.setLastAllocatedPort transport (c.portAt i)) =
          some (found, t.setLastAllocatedPort transport (c.portAt j)) ∧
      match found with
      | none => ∀ q, ¬ suitable q
      | some port => c.InRange port ∧ suitable port := by
  obtain ⟨j, hj, hp, he⟩ | ⟨j, -, hnone, he⟩ := search_ports free hd hdn hdi
    (setLast_at (t := t) i) hf fun last q => hfree _ last q
  · rw [hfree] at hp
    exact ⟨some (c.portAt j), j, by simpa using he, c.portAt_inRange j, hfound j hj hp⟩
  · refine ⟨none, j, by simpa using he, fun q hq => ?_⟩
    obtain ⟨hr, hdq, hp⟩ := hall q hq
    have hnot := hnone q hr hdq
    rw [hfree, hp] at hnot
    cases hnot

/-- The result of a call that searches: the answer to what was found. -/
def answer (mark : ℕ → TurnManager → TurnManager) : Option ℕ × TurnManager → ℕ × TurnManager
  | (none, t) => (0, t)
  | (some port, t) => (port, mark port t)

/-- Only the cursor of the call's own map has moved, to a port of the range. -/
def CursorMoved (c : PortRange) (transport : TransportType) (t t' : TurnManager) : Prop :=
  ∃ i, ∀ x, t'.lastAllocatedPort x =
    if isTcp transport = isTcp x then c.portAt i else t.lastAllocatedPort x

theorem answer_handsOut (transport : TransportType) (t : TurnManager) {suitable : ℕ → Prop}
    (mark : ℕ → TurnManager → TurnManager) {found : Option ℕ} (j : ℕ) (hmin : 0 < c.mAllocationPortRangeMin)
    (hmark : ∀ q last, SamePorts (mark q t) (mark q (t.setLastAllocatedPort transport last)))
    (hlast : ∀ q (t : TurnManager) x, (mark q t).lastAllocatedPort x = t.lastAllocatedPort x)
    (h : match found with
      | none => ∀ q, ¬ suitable q
      | some port => c.InRange port ∧ suitable port) :
    HandsOut t suitable (mark · t)
      (answer mark (found, t.setLastAllocatedPort transport (c.portAt j))).1
      (answer mark (found, t.setLastAllocatedPort transport (c.portAt j))).2 ∧
    CursorMoved c transport t
      (answer mark (found, t.setLastAllocatedPort transport (c.portAt j))).2 := by
  cases found with
  | none =>
    exact ⟨.inr ⟨rfl, h, fun x q => by simp [answer]⟩, j, fun x => by simp [answer]⟩
  | some port =>
    have hpos : port ≠ 0 := by
      have hge := h.1.1
      omega
    exact ⟨.inl ⟨hpos, h.2, hmark port _⟩, j, fun x => by simp [answer, hlast]⟩

theorem allocateAnyPort_spec (hmin : 0 < c.mAllocationPortRangeMin)
    (ht : Cursor c (t.lastAllocatedPort transport)) (hf : 65536 ≤ fuel) :
    ∃ port t', t.allocateAnyPort c fuel transport = some (port, t') ∧
      Meets c t (.allocateAnyPort transport) (.port port) t' ∧ CursorMoved c transport t t' := by
  obtain ⟨i, hi⟩ := start_at ht
  obtain ⟨found, j, he, hfound⟩ := search_suitable transport t (isUnallocated transport)
    (Free c transport t) Nat.one_pos (one_dvd _) (one_dvd i) hf
    (fun _ _ _ => isUnallocated_setLast _ _)
    (fun j _ hp => ⟨c.portAt_inRange j, by simpa [isUnallocated] using hp⟩)
    (fun q hq => ⟨hq.1, one_dvd _, by simpa [isUnallocated] using hq.2⟩)
  have hanswer := answer_handsOut transport t (fun q t => t.setPort transport q .allocated) j hmin
    (fun _ _ _ _ => by simp) (fun _ _ _ => by simp) hfound
  refine ⟨_, _, ?_, hanswer⟩
  cases found <;> simp [allocateAnyPort, hi, he, answer]

theorem even_index {q : ℕ} (hq : q % 2 = 0) : 2 ∣ q - c.mAllocationPortRangeMin := by
  have hmin := c.min_even
  omega

theorem allocateEvenPort_spec (hmin : 0 < c.mAllocationPortRangeMin)
    (ht : Cursor c (t.lastAllocatedPort transport)) (hf : 65536 ≤ fuel) :
    ∃ port t', t.allocateEvenPort c fuel transport = some (port, t') ∧
      Meets c t (.allocateEvenPort transport) (.port port) t' ∧ CursorMoved c transport t t' := by
  obtain ⟨i, hi⟩ := start_at ht
  obtain ⟨k, hk, hseek⟩ := seek_even c transport t (fun port => port % 2 = 0) i (fun q _ => by simp) hf
  obtain ⟨found, j, he, hfound⟩ := search_suitable transport t (isUnallocated transport)
    (fun q => q % 2 = 0 ∧ Free c transport t q) Nat.two_pos c.size_even hk hf
    (fun _ _ _ => isUnallocated_setLast _ _)
    (fun j hj hp => ⟨c.portAt_even hj, c.portAt_inRange j, by simpa [isUnallocated] using hp⟩)
    (fun q hq => ⟨hq.2.1, even_index hq.1, by simpa [isUnallocated] using hq.2.2⟩)
  have hanswer := answer_handsOut transport t (fun q t => t.setPort transport q .allocated) j hmin
    (fun _ _ _ _ => by simp) (fun _ _ _ => by simp) hfound
  refine ⟨_, _, ?_, hanswer⟩
  cases found <;> simp [allocateEvenPort, hi, hseek, he, answer]

theorem allocateEvenPortPair_spec (hmin : 0 < c.mAllocationPortRangeMin)
    (ht : Cursor c (t.lastAllocatedPort transport)) (hf : 65536 ≤ fuel) :
    ∃ port t', t.allocateEvenPortPair c fuel transport = some (port, t') ∧
      Meets c t (.allocateEvenPortPair transport) (.port port) t' ∧
      CursorMoved c transport t t' := by
  have hnext : ∀ q, q % 2 = 0 → c.InRange q → c.InRange (q + 1) := fun q hq hr => by
    have hmax := c.max_odd
    simp only [PortRange.InRange] at *
    omega
  obtain ⟨i, hi⟩ := start_at ht
  obtain ⟨k, hk, hseek⟩ := seek_even c transport t
    (fun port => ¬ (port % 2 ≠ 0 ∨ port + 1 = 0 ∨ c.mAllocationPortRangeMax < port + 1)) i
    (fun q hq => by
      have := hnext q
      simp only [PortRange.InRange, decide_eq_true_eq] at *
      omega) hf
  obtain ⟨found, j, he, hfound⟩ := search_suitable transport t
    (fun t q => isUnallocated transport t q && isUnallocated transport t (q + 1))
    (fun q => q % 2 = 0 ∧ Free c transport t q ∧ Free c transport t (q + 1))
    Nat.two_pos c.size_even hk hf
    (fun _ _ _ => by simp only [isUnallocated_setLast])
    (fun j hj hp => by
      have heven := c.portAt_even hj
      have hr := c.portAt_inRange j
      simp only [isUnallocated, Bool.and_eq_true, decide_eq_true_eq] at hp
      exact ⟨heven, ⟨hr, hp.1⟩, hnext _ heven hr, hp.2⟩)
    (fun q hq => ⟨hq.2.1.1, even_index hq.1, by
      simp [isUnallocated, hq.2.1.2, hq.2.2.2]⟩)
  have hanswer := answer_handsOut transport t
    (fun q t => (t.setPort transport q .allocated).setPort transport (q + 1) .reserved) j hmin
    (fun _ _ _ _ => by simp) (fun _ _ _ => by simp) hfound
  refine ⟨_, _, ?_, hanswer⟩
  simp only [allocateEvenPortPair, hi, hseek, he, Option.bind_eq_bind, Option.bind_some]
  cases found <;> rfl

theorem allocatePort_spec (port : ℕ) (reserved : Bool) :
    Meets c t (.allocatePort transport port reserved)
      (.granted (t.allocatePort c transport port reserved).1)
      (t.allocatePort c transport port reserved).2 := by
  simp only [Meets, allocatePort, SamePorts]
  split_ifs <;> simp_all

/-- Two transports that share the map have the same ports. -/
theorem getPortAllocationMap_congr {x y : TransportType} (h : isTcp x = isTcp y) :
    t.getPortAllocationMap x = t.getPortAllocationMap y := by
  cases x <;> cases y <;> simp [isTcp] at h <;> rfl

theorem deallocatePort_spec (port : ℕ) :
    Meets c t (.deallocatePort transport port) .done (t.deallocatePort c transport port) := by
  intro x q
  by_cases hx : isTcp transport = isTcp x
  · have hmap := getPortAllocationMap_congr (t := t) hx
    by_cases hr : c.InRange port
    · by_cases he : port % 2 = 0 ∧ t.getPortAllocationMap transport (port + 1) = .reserved
      · by_cases hq : q = port + 1
        · subst hq
          simp [deallocatePort, hr, hx, he, ← hmap]
        · simp [deallocatePort, hr, hx, he, hq]
      · by_cases hq : q = port + 1
        · subst hq
          have hnot : ¬ (port % 2 = 0 ∧ t.getPortAllocationMap x (port + 1) = .reserved) := by
            rwa [← hmap]
          simp [deallocatePort, hr, hx, he, hnot]
        · simp [deallocatePort, hr, hx, he, hq]
    · simp [deallocatePort, hr]
  · simp only [deallocatePort, hx, false_and, if_false]
    split_ifs <;> simp [hx]

/-- A larger bound gives the same result. -/
theorem call_mono {fuel' : ℕ} {p : PortCall} {r : PortReply × TurnManager}
    (h : t.call c fuel p = some r) (hf : fuel ≤ fuel') : t.call c fuel' p = some r := by
  cases p with
  | allocateAnyPort transport =>
    simp only [call, allocateAnyPort, Option.bind_eq_bind, Option.map_eq_some_iff,
      Option.bind_eq_some_iff] at h ⊢
    obtain ⟨a, ⟨found, hs, ha⟩, hr⟩ := h
    exact ⟨a, ⟨found, search_mono hs hf, ha⟩, hr⟩
  | allocateEvenPort transport =>
    simp only [call, allocateEvenPort, Option.bind_eq_bind, Option.map_eq_some_iff,
      Option.bind_eq_some_iff] at h ⊢
    obtain ⟨a, ⟨start, hk, found, hs, ha⟩, hr⟩ := h
    exact ⟨a, ⟨start, seek_mono hk hf, found, search_mono hs hf, ha⟩, hr⟩
  | allocateEvenPortPair transport =>
    simp only [call, allocateEvenPortPair, Option.bind_eq_bind, Option.map_eq_some_iff,
      Option.bind_eq_some_iff] at h ⊢
    obtain ⟨a, ⟨start, hk, found, hs, ha⟩, hr⟩ := h
    exact ⟨a, ⟨start, seek_mono hk hf, found, search_mono hs hf, ha⟩, hr⟩
  | allocatePort transport port reserved => exact h
  | deallocatePort transport port => exact h

def Cursors (c : PortRange) (t : TurnManager) : Prop :=
  ∀ x, Cursor c (t.lastAllocatedPort x)

theorem Cursors.moved (h : Cursors c t) (hm : CursorMoved c transport t t') : Cursors c t' := by
  intro x
  obtain ⟨i, hi⟩ := hm
  rw [hi]
  split_ifs
  · exact .inl ⟨i, rfl⟩
  · exact h x

/-- Every call ends, meets its promise and leaves the cursors where they may be. -/
theorem call_spec (hmin : 0 < c.mAllocationPortRangeMin) (ht : Cursors c t) (hf : 65536 ≤ fuel)
    (p : PortCall) : ∃ r t', t.call c fuel p = some (r, t') ∧ Meets c t p r t' ∧ Cursors c t' := by
  cases p with
  | allocateAnyPort transport =>
    obtain ⟨port, t', he, hmeets, hm⟩ := allocateAnyPort_spec hmin (ht transport) hf
    exact ⟨_, _, by simp [call, he], hmeets, ht.moved hm⟩
  | allocateEvenPort transport =>
    obtain ⟨port, t', he, hmeets, hm⟩ := allocateEvenPort_spec hmin (ht transport) hf
    exact ⟨_, _, by simp [call, he], hmeets, ht.moved hm⟩
  | allocateEvenPortPair transport =>
    obtain ⟨port, t', he, hmeets, hm⟩ := allocateEvenPortPair_spec hmin (ht transport) hf
    exact ⟨_, _, by simp [call, he], hmeets, ht.moved hm⟩
  | allocatePort transport port reserved =>
    refine ⟨_, _, rfl, allocatePort_spec port reserved, fun x => ?_⟩
    have hx := ht x
    simp only [allocatePort]
    split_ifs <;> simpa using hx
  | deallocatePort transport port =>
    refine ⟨_, _, rfl, deallocatePort_spec port, fun x => ?_⟩
    have hx := ht x
    simp only [deallocatePort]
    split_ifs <;> simpa using hx

theorem ReservedBelow.congr (h : ReservedBelow t) (hs : SamePorts t t') : ReservedBelow t' := by
  intro x port hp
  rw [hs] at hp
  obtain ⟨even, he, h2, ha⟩ := h x port hp
  exact ⟨even, he, h2, by rw [hs, ha]⟩

theorem ReservedBelow.allocate (h : ReservedBelow t) (port : ℕ) :
    ReservedBelow (t.setPort transport port .allocated) := by
  intro x q hq
  simp only [getPortAllocationMap_setPort] at hq
  split_ifs at hq with hx
  obtain ⟨even, he, h2, ha⟩ := h x q hq
  exact ⟨even, he, h2, by simp [ha]⟩

theorem ReservedBelow.reserve (h : ReservedBelow t) {port : ℕ} (hp : port % 2 = 0) :
    ReservedBelow ((t.setPort transport port .allocated).setPort transport (port + 1) .reserved) := by
  intro x q hq
  by_cases hx : isTcp transport = isTcp x ∧ q = port + 1
  · exact ⟨port, hx.2, hp, by simp [hx.1]⟩
  · rw [getPortAllocationMap_setPort, if_neg hx] at hq
    obtain ⟨even, he, h2, ha⟩ := h.allocate port x q hq
    refine ⟨even, he, h2, ?_⟩
    have hne : even ≠ port + 1 := by omega
    simpa [hne] using ha

theorem HandsOut.reservedBelow {suitable : ℕ → Prop} {mark : ℕ → TurnManager} {port : ℕ}
    (ho : HandsOut t suitable mark port t') (h : ReservedBelow t)
    (hmark : ∀ q, suitable q → ReservedBelow (mark q)) : ReservedBelow t' := by
  obtain ⟨-, hs, hp⟩ | ⟨-, -, hp⟩ := ho
  · exact (hmark _ hs).congr hp
  · exact h.congr hp

/-- The promise of each call keeps reserved ports above allocated ones. -/
theorem Meets.reservedBelow {p : PortCall} {r : PortReply} (h : ReservedBelow t)
    (hm : Meets c t p r t') : ReservedBelow t' := by
  match p, r, hm with
  | .allocateAnyPort transport, .port port, hm =>
    simp only [Meets] at hm
    exact hm.reservedBelow h fun q _ => h.allocate q
  | .allocateEvenPort transport, .port port, hm =>
    simp only [Meets] at hm
    exact hm.reservedBelow h fun q _ => h.allocate q
  | .allocateEvenPortPair transport, .port port, hm =>
    simp only [Meets] at hm
    exact hm.reservedBelow h fun q hq => h.reserve hq.1
  | .allocatePort transport port reserved, .granted granted, hm =>
    cases granted with
    | false => exact h.congr hm.2
    | true => exact (h.allocate port).congr hm.2
  | .deallocatePort transport port, .done, hm =>
    intro x q hq
    rw [hm] at hq
    split_ifs at hq with hfreed
    obtain ⟨even, he, h2, ha⟩ := h x q hq
    refine ⟨even, he, h2, ?_⟩
    rw [hm]
    split_ifs with hbelow
    · -- freeing the even port would have freed the reserved one above it
      obtain ⟨hx, hr, heven | ⟨heven, hport, -⟩⟩ := hbelow
      · exact absurd ⟨hx, hr, .inr ⟨by omega, by omega, hq⟩⟩ hfreed
      · omega
    · exact ha

theorem new_cursors (c : PortRange) : Cursors c (new c) := by
  intro x
  have hboth (udp tcp : ℕ → PortState) (last : ℕ) :
      lastAllocatedPort ⟨udp, tcp, last, last⟩ x = last := by
    cases x <;> rfl
  right
  rw [new, hboth]

theorem new_reservedBelow (c : PortRange) : ReservedBelow (new c) := by
  intro x port hp
  cases x <;> cases hp

theorem Reached.invariant (hmin : 0 < c.mAllocationPortRangeMin) (h : Reached c t) :
    Cursors c t ∧ ReservedBelow t := by
  induction h with
  | new => exact ⟨new_cursors c, new_reservedBelow c⟩
  | @call t t' fuel p r _ hcall ih =>
    obtain ⟨r', t'', he, hmeets, hcursors⟩ := call_spec hmin ih.1 (Nat.le_add_left 65536 fuel) p
    have heq := (call_mono hcall (Nat.le_add_right fuel 65536)).symm.trans he
    obtain ⟨rfl, rfl⟩ : r = r' ∧ t' = t'' := by simpa using heq
    exact ⟨hcursors, hmeets.reservedBelow ih.2⟩

/-- In every run of the allocator every call ends; ports are handed out as
promised, and a reserved port is next to an allocated one. -/
theorem portsKept (c : PortRange) (hmin : 0 < c.mAllocationPortRangeMin) : PortsKept c := by
  intro t ht
  obtain ⟨hcursors, hreserved⟩ := ht.invariant hmin
  refine ⟨hreserved, fun p => ?_⟩
  obtain ⟨r, t', he, hmeets, -⟩ := call_spec hmin hcursors le_rfl p
  exact ⟨r, t', fun fuel hf => call_mono he hf, hmeets⟩

theorem dynamic_even : 49152 % 2 = 0 := rfl

theorem dynamic_odd : 65535 % 2 = 1 := rfl

theorem dynamic_ordered : 49152 < 65535 := by omega

theorem dynamic_fits : 65535 < 65536 := by omega

def dynamicPorts : PortRange := ⟨49152, 65535, dynamic_even, dynamic_odd, dynamic_ordered, dynamic_fits⟩

theorem portsKept_dynamicPorts :
    0 < dynamicPorts.mAllocationPortRangeMin ∧ PortsKept dynamicPorts :=
  ⟨by decide, portsKept dynamicPorts (by decide)⟩

/-- The range of the ports 0 and 1: port 0 is handed out by the answer that
says that there is none. -/
theorem not_portsKept : ¬ ∀ c, PortsKept c := by
  intro h
  let c : PortRange := ⟨0, 1, rfl, rfl, by omega, by omega⟩
  obtain ⟨-, hcalls⟩ := h c (new c) .new
  obtain ⟨r, t', he, hmeets⟩ := hcalls (.allocateAnyPort .udp)
  obtain ⟨t'', h1⟩ : ∃ t'', (new c).call c 1 (.allocateAnyPort .udp) = some (.port 0, t'') := by
    simp [c, call, allocateAnyPort, search, advanceLastAllocatedPort, PortRange.advance, new,
      lastAllocatedPort, setLastAllocatedPort, isUnallocated, getPortAllocationMap]
  obtain ⟨fuel, hf⟩ : ∃ fuel, 65536 ≤ fuel := ⟨_, le_rfl⟩
  have h0 := call_mono h1 (by omega : 1 ≤ fuel)
  rw [he fuel hf] at h0
  obtain ⟨rfl, rfl⟩ : r = .port 0 ∧ t' = t'' := by simpa using h0
  obtain ⟨hne, -, -⟩ | ⟨-, hnone, -⟩ := hmeets
  · exact hne rfl
  · exact hnone 0 ⟨by decide, rfl⟩

end TurnManager

end Resiprocate.ReTurn
