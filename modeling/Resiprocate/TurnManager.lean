import Mathlib
import Resiprocate.CyclicSearch
import Resiprocate.StunTuple

/-! The relay ports of a TURN server. `TurnManager` keeps the state of each port
of the configured range, one map for UDP and one for TCP and TLS, and a 16-bit
cursor per map from which the next free port is looked for. -/
namespace Resiprocate.ReTurn

open CyclicSearch

/-- The configured range; its first port must be even, its last one odd. -/
structure PortRange where
  mAllocationPortRangeMin : ℕ
  mAllocationPortRangeMax : ℕ
  min_even : mAllocationPortRangeMin % 2 = 0
  max_odd : mAllocationPortRangeMax % 2 = 1
  min_lt_max : mAllocationPortRangeMin < mAllocationPortRangeMax
  max_lt : mAllocationPortRangeMax < 65536

inductive PortState
  | unallocated
  | allocated
  | reserved
  deriving DecidableEq, Repr

structure TurnManager where
  mUdpAllocationPorts : ℕ → PortState
  mTcpAllocationPorts : ℕ → PortState
  mLastAllocatedUdpPort : ℕ
  mLastAllocatedTcpPort : ℕ

namespace PortRange

def InRange (c : PortRange) (port : ℕ) : Prop :=
  c.mAllocationPortRangeMin ≤ port ∧ port ≤ c.mAllocationPortRangeMax

instance (c : PortRange) (port : ℕ) : Decidable (c.InRange port) :=
  inferInstanceAs (Decidable (_ ∧ _))

/-- Number of ports in the range. -/
def size (c : PortRange) : ℕ := c.mAllocationPortRangeMax - c.mAllocationPortRangeMin + 1

/-- The 16-bit cursor moved on by `numToAdvance`. -/
def advance (c : PortRange) (last numToAdvance : ℕ) : ℕ :=
  let last := (last + numToAdvance) % 65536
  if c.mAllocationPortRangeMax < last then
    (c.mAllocationPortRangeMin + (last - c.mAllocationPortRangeMax - 1)) % 65536
  else if last = 0 then c.mAllocationPortRangeMin
  else last

end PortRange

namespace TurnManager

/-- The constructor: the cursors stand one below the range, as 16-bit numbers. -/
def new (c : PortRange) : TurnManager where
  mUdpAllocationPorts _ := .unallocated
  mTcpAllocationPorts _ := .unallocated
  mLastAllocatedUdpPort := (c.mAllocationPortRangeMin + 65535) % 65536
  mLastAllocatedTcpPort := (c.mAllocationPortRangeMin + 65535) % 65536

def getPortAllocationMap (t : TurnManager) : TransportType → ℕ → PortState
  | .tcp | .tls => t.mTcpAllocationPorts
  | .udp | .none => t.mUdpAllocationPorts

def setPort (t : TurnManager) (transport : TransportType) (port : ℕ) (state : PortState) :
    TurnManager :=
  match transport with
  | .tcp | .tls =>
    { t with mTcpAllocationPorts := Function.update t.mTcpAllocationPorts port state }
  | .udp | .none =>
    { t with mUdpAllocationPorts := Function.update t.mUdpAllocationPorts port state }

def lastAllocatedPort (t : TurnManager) : TransportType → ℕ
  | .tcp | .tls => t.mLastAllocatedTcpPort
  | .udp | .none => t.mLastAllocatedUdpPort

def setLastAllocatedPort (t : TurnManager) (transport : TransportType) (last : ℕ) : TurnManager :=
  match transport with
  | .tcp | .tls => { t with mLastAllocatedTcpPort := last }
  | .udp | .none => { t with mLastAllocatedUdpPort := last }

def advanceLastAllocatedPort (c : PortRange) (transport : TransportType) (numToAdvance : ℕ)
    (t : TurnManager) : ℕ × TurnManager :=
  let last := c.advance (t.lastAllocatedPort transport) numToAdvance
  (last, t.setLastAllocatedPort transport last)

def isUnallocated (transport : TransportType) (t : TurnManager) (port : ℕ) : Bool :=
  t.getPortAllocationMap transport port = .unallocated

/-- The calls run their loops with a bound; `none` stands for a loop that has
not ended within it. -/
def allocateAnyPort (c : PortRange) (fuel : ℕ) (transport : TransportType) (t : TurnManager) :
    Option (ℕ × TurnManager) := do
  let start := advanceLastAllocatedPort c transport 1 t
  match ← search (advanceLastAllocatedPort c transport 1) (isUnallocated transport)
      start.1 fuel start with
  | (none, t) => some (0, t)
  | (some port, t) => some (port, t.setPort transport port .allocated)

def allocateEvenPort (c : PortRange) (fuel : ℕ) (transport : TransportType) (t : TurnManager) :
    Option (ℕ × TurnManager) := do
  -- Ensure start port is even
  let start ← seek (advanceLastAllocatedPort c transport 1) (fun port => port % 2 = 0) fuel
    (advanceLastAllocatedPort c transport 1 t)
  match ← search (advanceLastAllocatedPort c transport 2) (isUnallocated transport)
      start.1 fuel start with
  | (none, t) => some (0, t)
  | (some port, t) => some (port, t.setPort transport port .allocated)

def allocateEvenPortPair (c : PortRange) (fuel : ℕ) (transport : TransportType)
    (t : TurnManager) : Option (ℕ × TurnManager) := do
  -- Ensure start port is even and that start port + 1 is in range
  let start ← seek (advanceLastAllocatedPort c transport 1)
    (fun port => ¬ (port % 2 ≠ 0 ∨ port + 1 = 0 ∨ c.mAllocationPortRangeMax < port + 1)) fuel
    (advanceLastAllocatedPort c transport 1 t)
  match ← search (advanceLastAllocatedPort c transport 2)
      (fun t port => isUnallocated transport t port && isUnallocated transport t (port + 1))
      start.1 fuel start with
  | (none, t) => some (0, t)
  | (some port, t) =>
    some (port, (t.setPort transport port .allocated).setPort transport (port + 1) .reserved)

def allocatePort (c : PortRange) (transport : TransportType) (port : ℕ) (reserved : Bool)
    (t : TurnManager) : Bool × TurnManager :=
  if c.InRange port then
    if reserved then
      if t.getPortAllocationMap transport port = .reserved then
        (true, t.setPort transport port .allocated)
      else (false, t)
    else if t.getPortAllocationMap transport port = .unallocated then
      (true, t.setPort transport port .allocated)
    else (false, t)
  else (false, t)

def deallocatePort (c : PortRange) (transport : TransportType) (port : ℕ) (t : TurnManager) :
    TurnManager :=
  if c.InRange port then
    let t := t.setPort transport port .unallocated
    -- If port is even - check if next higher port is reserved - if so unallocate it
    if port % 2 = 0 ∧ t.getPortAllocationMap transport (port + 1) = .reserved then
      t.setPort transport (port + 1) .unallocated
    else t
  else t

/-- The two maps and the two cursors are told apart by this. -/
def isTcp : TransportType → Bool
  | .tcp | .tls => true
  | .udp | .none => false

@[simp] theorem getPortAllocationMap_setPort (t : TurnManager) (x y : TransportType) (p q : ℕ)
    (state : PortState) : (t.setPort x p state).getPortAllocationMap y q =
      if isTcp x = isTcp y ∧ q = p then state else t.getPortAllocationMap y q := by
  cases x <;> cases y <;>
    simp [setPort, getPortAllocationMap, isTcp, Function.update_apply]

@[simp] theorem getPortAllocationMap_setLast (t : TurnManager) (x y : TransportType) (last : ℕ) :
    (t.setLastAllocatedPort x last).getPortAllocationMap y = t.getPortAllocationMap y := by
  cases x <;> cases y <;> rfl

@[simp] theorem lastAllocatedPort_setPort (t : TurnManager) (x y : TransportType) (p : ℕ)
    (state : PortState) : (t.setPort x p state).lastAllocatedPort y = t.lastAllocatedPort y := by
  cases x <;> cases y <;> rfl

@[simp] theorem lastAllocatedPort_setLast (t : TurnManager) (x y : TransportType) (last : ℕ) :
    (t.setLastAllocatedPort x last).lastAllocatedPort y =
      if isTcp x = isTcp y then last else t.lastAllocatedPort y := by
  cases x <;> cases y <;> rfl

@[simp] theorem setLast_setLast (t : TurnManager) (x : TransportType) (a b : ℕ) :
    (t.setLastAllocatedPort x a).setLastAllocatedPort x b = t.setLastAllocatedPort x b := by
  cases x <;> rfl

@[simp] theorem setLast_self (t : TurnManager) (x : TransportType) :
    t.setLastAllocatedPort x (t.lastAllocatedPort x) = t := by
  cases x <;> rfl

end TurnManager

end Resiprocate.ReTurn
