import Mathlib
import Resiprocate.TurnManager

/-! Where the cursor of the port allocator goes. From a port of the range it runs
through the range by ones or by twos and comes back, also where the range ends
at the last 16-bit number; the searches for a port therefore end, and an
unsuccessful one has tried every port it could hand out. -/
namespace Resiprocate.ReTurn

open CyclicSearch

namespace PortRange

variable {c : PortRange}

theorem size_even (c : PortRange) : 2 ∣ c.size := by
  have h := c.min_even
  have h' := c.max_odd
  have hlt := c.min_lt_max
  simp only [size]
  omega

theorem size_pos (c : PortRange) : 0 < c.size := by simp [size]

theorem size_le (c : PortRange) : c.size ≤ 65536 := by
  have h := c.max_lt
  simp only [size]
  omega

/-- The port at an index counted from the first one, around the range. -/
def portAt (c : PortRange) (i : ℕ) : ℕ := c.mAllocationPortRangeMin + i % c.size

theorem portAt_inRange (c : PortRange) (i : ℕ) : c.InRange (c.portAt i) := by
  have h := Nat.mod_lt i c.size_pos
  have hlt := c.min_lt_max
  simp only [InRange, portAt, size] at *
  omega

theorem portAt_index {p : ℕ} (hp : c.InRange p) :
    c.portAt (p - c.mAllocationPortRangeMin) = p := by
  have hi : p - c.mAllocationPortRangeMin < c.size := by
    simp only [InRange, size] at *
    omega
  simp only [InRange] at hp
  rw [portAt, Nat.mod_eq_of_lt hi]
  omega

theorem portAt_even (c : PortRange) {i : ℕ} (hi : 2 ∣ i) : c.portAt i % 2 = 0 := by
  have h : 2 ∣ i % c.size := (Nat.dvd_mod_iff c.size_even).mpr hi
  have hmin := c.min_even
  simp only [portAt]
  omega

/-- One step of the cursor inside the range, also over its end. -/
theorem advance_portAt (c : PortRange) {i d : ℕ} (hd : 0 < d) (hdn : d ∣ c.size) (hdi : d ∣ i) :
    c.advance (c.portAt i) d = c.portAt (i + d) := by
  have hlt := Nat.mod_lt i c.size_pos
  have hdm : d ∣ i % c.size := (Nat.dvd_mod_iff hdn).mpr hdi
  have hmax := c.max_lt
  have hmm := c.min_lt_max
  have hsize : c.size = c.mAllocationPortRangeMax - c.mAllocationPortRangeMin + 1 := rfl
  have hle : i % c.size + d ≤ c.size := by
    obtain ⟨a, ha⟩ := hdn
    obtain ⟨b, hb⟩ := hdm
    have hab : b < a := by
      rw [hb, ha] at hlt
      exact lt_of_mul_lt_mul_left hlt (Nat.zero_le d)
    calc i % c.size + d = d * (b + 1) := by rw [hb]; ring
      _ ≤ d * a := Nat.mul_le_mul le_rfl hab
      _ = c.size := ha.symm
  have hmod : (i + d) % c.size = (i % c.size + d) % c.size := by rw [Nat.mod_add_mod]
  simp only [portAt, hmod]
  obtain hend | hin := hle.eq_or_lt
  · -- over the end: past `max`, or from the last 16-bit number to 0
    rw [hend, Nat.mod_self]
    have hlast : c.mAllocationPortRangeMin + i % c.size + d = c.mAllocationPortRangeMax + 1 := by
      omega
    simp only [advance, hlast]
    split_ifs with h1 h2 <;> omega
  · rw [Nat.mod_eq_of_lt hin]
    have hlast : c.mAllocationPortRangeMin + i % c.size + d ≤ c.mAllocationPortRangeMax := by
      omega
    simp only [advance]
    split_ifs with h1 h2 <;> omega

end PortRange

namespace TurnManager

variable {c : PortRange} {transport : TransportType} {t : TurnManager} {i d : ℕ}

/-- Where a search stands: at a port of the range, which is the cursor's. -/
def At (c : PortRange) (transport : TransportType) (i : ℕ) (t : TurnManager) : Prop :=
  t.lastAllocatedPort transport = c.portAt i

theorem advance_at (hd : 0 < d) (hdn : d ∣ c.size) (hdi : d ∣ i) (ht : At c transport i t) :
    advanceLastAllocatedPort c transport d t =
      (c.portAt (i + d), t.setLastAllocatedPort transport (c.portAt (i + d))) := by
  simp only [At] at ht
  simp only [advanceLastAllocatedPort, ht, c.advance_portAt hd hdn hdi]

/-- The cursor along a search from index `i` by steps of `d`. -/
theorem walk_at (hd : 0 < d) (hdn : d ∣ c.size) (hdi : d ∣ i) (ht : At c transport i t) (k : ℕ) :
    walk (advanceLastAllocatedPort c transport d) k (c.portAt i, t) =
      (c.portAt (i + d * k), t.setLastAllocatedPort transport (c.portAt (i + d * k))) := by
  induction k generalizing i t with
  | zero =>
    simp only [At] at ht
    simp [walk, ← ht]
  | succ k ih =>
    have hnext : At c transport (i + d) (t.setLastAllocatedPort transport (c.portAt (i + d))) := by
      simp [At]
    simp only [walk, advance_at hd hdn hdi ht]
    rw [ih (Dvd.dvd.add hdi (dvd_refl d)) hnext]
    have hk : i + d + d * k = i + d * (k + 1) := by ring
    simp [hk]

/-- A walk through the whole range comes by every port that is a number of
steps away. -/
theorem index_reached {n k q : ℕ} (hn : c.size = d * n) (hdi : d ∣ i) (hq : c.InRange q)
    (hdq : d ∣ q - c.mAllocationPortRangeMin) (hk : n ≤ k) :
    ∃ j < k, c.portAt (i + d * j) = q := by
  obtain ⟨a, rfl⟩ := hdi
  obtain ⟨b, hb⟩ := hdq
  have hpos : 0 < n := Nat.pos_of_ne_zero fun h => by
    have := c.size_pos
    simp [hn, h] at this
  -- `b - a`, counted around the range
  refine ⟨(b + n - a % n) % n, lt_of_lt_of_le (Nat.mod_lt _ hpos) hk, ?_⟩
  have hcycle : (a + (b + n - a % n) % n) % n = b % n := by
    have hle := Nat.mod_lt a hpos
    calc (a + (b + n - a % n) % n) % n = (a % n + (b + n - a % n)) % n := by
          rw [Nat.add_mod_mod, Nat.mod_add_mod]
      _ = (b + n) % n := by congr 1; omega
      _ = b % n := Nat.add_mod_right b n
  have hbn : d * b < d * n := by
    rw [← hb, ← hn]
    simp only [PortRange.InRange, PortRange.size] at *
    omega
  have hb' : b < n := lt_of_mul_lt_mul_left hbn (Nat.zero_le d)
  have hmod : (d * a + d * ((b + n - a % n) % n)) % c.size = d * b := by
    rw [← Nat.mul_add, hn, Nat.mul_mod_mul_left, hcycle, Nat.mod_eq_of_lt hb']
  have hq' : c.portAt (d * b) = q := hb ▸ PortRange.portAt_index hq
  rw [PortRange.portAt, hmod, ← hq', PortRange.portAt, hn, Nat.mul_mod_mul_left,
    Nat.mod_eq_of_lt hb']

/-- A search by steps of `d` ends: at a free port, with the cursor there, or with
every port it could hand out taken. -/
theorem search_ports (free : TurnManager → ℕ → Bool) {fuel : ℕ} (hd : 0 < d) (hdn : d ∣ c.size)
    (hdi : d ∣ i) (ht : At c transport i t) (hf : 65536 ≤ fuel)
    (hfree : ∀ last q, free (t.setLastAllocatedPort transport last) q = free t q) :
    (∃ j, d ∣ j ∧ free t (c.portAt j) ∧
      search (advanceLastAllocatedPort c transport d) free (c.portAt i) fuel (c.portAt i, t) =
        some (some (c.portAt j), t.setLastAllocatedPort transport (c.portAt j))) ∨
    ∃ j, d ∣ j ∧ (∀ q, c.InRange q → d ∣ q - c.mAllocationPortRangeMin → free t q = false) ∧
      search (advanceLastAllocatedPort c transport d) free (c.portAt i) fuel (c.portAt i, t) =
        some (none, t.setLastAllocatedPort transport (c.portAt j)) := by
  obtain ⟨n, hn⟩ := hdn
  have hdn : d ∣ c.size := ⟨n, hn⟩
  have hwalk := walk_at hd hdn hdi ht
  obtain ⟨m, rfl⟩ := Nat.exists_eq_succ_of_ne_zero (n := n) fun h => by
    have := c.size_pos
    simp [hn, h] at this
  have hback : (walk (advanceLastAllocatedPort c transport d) (m + 1) (c.portAt i, t)).1 =
      c.portAt i := by
    rw [hwalk, ← Nat.succ_eq_add_one, ← hn]
    simp [PortRange.portAt]
  have hm : m < fuel := by
    have hle := c.size_le
    have hmul : m + 1 ≤ c.size := hn ▸ Nat.le_mul_of_pos_left _ hd
    omega
  obtain ⟨k, hk, he⟩ | ⟨k, hk, hall, he⟩ := search_ends free hback hm
  · rw [hwalk, hfree] at hk
    rw [hwalk] at he
    exact .inl ⟨i + d * k, Dvd.dvd.add hdi (dvd_mul_right d k), hk, he⟩
  · rw [hwalk] at hk he
    refine .inr ⟨i + d * (k + 1), Dvd.dvd.add hdi (dvd_mul_right d _), fun q hq hdq => ?_, he⟩
    have hround : m + 1 ≤ k + 1 := by
      -- back at the start: the steps taken are a whole number of rounds
      have heq : (i + d * (k + 1)) % c.size = i % c.size := by
        simpa [PortRange.portAt] using hk
      have hdvd : c.size ∣ d * (k + 1) := (Nat.modEq_iff_dvd' (Nat.le_add_right i _)).mp heq.symm
        |>.trans (by simp)
      rw [hn] at hdvd
      exact Nat.le_of_dvd k.succ_pos (Nat.dvd_of_mul_dvd_mul_left hd hdvd)
    obtain ⟨j, hj, rfl⟩ := index_reached hn hdi hq hdq hround
    have hnot := hall j (by omega)
    rwa [hwalk, hfree] at hnot

end TurnManager

end Resiprocate.ReTurn
