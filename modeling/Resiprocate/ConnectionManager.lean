import Mathlib

/-! The connections of a stream transport, found by their address and by their socket, and the two
lists in which they wait to be closed when they are no longer used. -/
namespace Resiprocate.Connections

/-- `τ` is what is compared of a `Tuple`: all but the flow key. -/
structure Connection (τ : Type) where
  mWho : τ
  mFlowKey : ℕ
  mIsServer : Bool
  mLastUsed : ℕ
  mFlowTimerEnabled : Bool

/-- What ends a step. -/
inductive ManagerStop
  /-- The assertions of `addConnection`. -/
  | addAssertion
  /-- A connection that was deleted is used. -/
  | dangling
  /-- Not a connection of the manager. -/
  | noConnection
  /-- The system gives no socket that is open. -/
  | openSocket
  deriving DecidableEq

structure ManagerConfig where
  MinimumGcAge : ℕ
  EnableAgressiveGc : Bool
  flowTimerSeconds : ℕ
  flowTimerGracePeriodSeconds : ℕ

/-- The lists have addresses of connections, the least recently used first. -/
structure ConnectionManager (τ : Type) where
  memory : ℕ → Option (Connection τ)
  allocated : ℕ
  mAddrMap : τ → Option ℕ
  mIdMap : ℕ → Option ℕ
  mLRUHead : List ℕ
  mFlowTimerLRUHead : List ℕ

/-- A difference of two `uint64_t`. -/
def sub64 (a b : ℕ) : ℕ := (a + 2 ^ 64 - b) % 2 ^ 64

/-- The threshold of the connections with a flow timer, an `unsigned int`. -/
def ManagerConfig.flowTimerThreshold (cfg : ManagerConfig) : ℕ :=
  (cfg.flowTimerSeconds + cfg.flowTimerGracePeriodSeconds) * 1000 % 2 ^ 32

section
variable {τ : Type} [DecidableEq τ] (cfg : ManagerConfig)

namespace ConnectionManager

def empty : ConnectionManager τ := ⟨fun _ => none, 0, fun _ => none, fun _ => none, [], []⟩

def deref (c : ConnectionManager τ) (p : ℕ) : Except ManagerStop (Connection τ) :=
  match c.memory p with
  | some conn => .ok conn
  | none => .error .dangling

def write (c : ConnectionManager τ) (p : ℕ) (conn : Connection τ) : ConnectionManager τ :=
  { c with memory := Function.update c.memory p (some conn) }

/-- `findConnection`, for a tuple with a flow key. -/
def findConnection (c : ConnectionManager τ) (addr : τ) (flowKey : ℕ)
    (onlyUseExistingConnection : Bool) : Except ManagerStop (Option ℕ) :=
  match if flowKey ≠ 0 then c.mIdMap flowKey else none with
  | some i => do
    let conn ← c.deref i
    if conn.mWho = addr then return some i
    else if onlyUseExistingConnection then return none
    else return c.mAddrMap addr
  | none =>
    if flowKey ≠ 0 ∧ onlyUseExistingConnection then .ok none else .ok (c.mAddrMap addr)

/-- `delete` of a connection: `removeConnection`, and then the lists that it is in lose it. -/
def delete (c : ConnectionManager τ) (p : ℕ) : Except ManagerStop (ConnectionManager τ) := do
  let conn ← c.deref p
  return { c with
    memory := Function.update c.memory p none
    mIdMap := if conn.mFlowKey ≠ 0 then Function.update c.mIdMap conn.mFlowKey none else c.mIdMap
    mAddrMap := if conn.mFlowKey ≠ 0 then Function.update c.mAddrMap conn.mWho none else c.mAddrMap
    mLRUHead := c.mLRUHead.erase p
    mFlowTimerLRUHead := c.mFlowTimerLRUHead.erase p }

/-- A loop of `gc` over a list, of which it closes the connections that were last used before the
threshold. It counts them. -/
def collect (threshold maxToRemove : ℕ) :
    List ℕ → ℕ → ConnectionManager τ → Except ManagerStop (ℕ × ConnectionManager τ)
  | [], numRemoved, c => .ok (numRemoved, c)
  | p :: rest, numRemoved, c =>
    if maxToRemove = 0 ∨ numRemoved ≠ maxToRemove then do
      let conn ← c.deref p
      if conn.mLastUsed < threshold then
        let c ← c.delete p
        collect threshold maxToRemove rest (numRemoved + 1) c
      else return (numRemoved, c)
    else .ok (numRemoved, c)

/-- `gc` with a `MinimumGcHeadroom` of 0. -/
def gc (c : ConnectionManager τ) (curTimeMs relThreshold maxToRemove : ℕ) :
    Except ManagerStop (ℕ × ConnectionManager τ) := do
  let (numRemoved, c) ← collect (sub64 curTimeMs relThreshold) maxToRemove c.mLRUHead 0 c
  collect (sub64 curTimeMs cfg.flowTimerThreshold) maxToRemove c.mFlowTimerLRUHead numRemoved c

/-- The loop of `gcWithTarget` with its two iterators; what remains of the target. -/
def gcWithTargetLoop :
    ℕ → List ℕ → List ℕ → ConnectionManager τ → Except ManagerStop (ℕ × ConnectionManager τ)
  | 0, _, _, c => .ok (0, c)
  | target + 1, [], [], c => .ok (target + 1, c)
  | target + 1, [], i₂ :: rest₂, c => do gcWithTargetLoop target [] rest₂ (← c.delete i₂)
  | target + 1, i :: rest, [], c => do gcWithTargetLoop target rest [] (← c.delete i)
  | target + 1, i :: rest, i₂ :: rest₂, c => do
    let conn ← c.deref i
    let conn₂ ← c.deref i₂
    if conn.mLastUsed < conn₂.mLastUsed then
      gcWithTargetLoop target rest (i₂ :: rest₂) (← c.delete i)
    else gcWithTargetLoop target (i :: rest) rest₂ (← c.delete i₂)

def gcWithTarget (c : ConnectionManager τ) (target : ℕ) :
    Except ManagerStop (ℕ × ConnectionManager τ) :=
  gcWithTargetLoop target c.mLRUHead c.mFlowTimerLRUHead c

def addConnection (c : ConnectionManager τ) (now p : ℕ) :
    Except ManagerStop (ConnectionManager τ) := do
  let conn ← c.deref p
  if (c.mAddrMap conn.mWho).isSome then .error .addAssertion
  else
    let c := { c with
      mAddrMap := Function.update c.mAddrMap conn.mWho (some p)
      mIdMap := Function.update c.mIdMap conn.mFlowKey (some p)
      mLRUHead := c.mLRUHead ++ [p] }
    let c ← if cfg.EnableAgressiveGc then Prod.snd <$> c.gc cfg now cfg.MinimumGcAge 0 else .ok c
    if (c.mAddrMap conn.mWho).isSome then return c else .error .addAssertion

/-- The sockets of the connections that are open. -/
def sockets (c : ConnectionManager τ) : List ℕ :=
  (c.mLRUHead ++ c.mFlowTimerLRUHead).filterMap fun p => (c.memory p).map (·.mFlowKey)

/-- `createConnection`: the constructor adds the connection, unless its socket is 0. -/
def createConnection (c : ConnectionManager τ) (now : ℕ) (who : τ) (sock : ℕ) (server : Bool) :
    Except ManagerStop (ConnectionManager τ) :=
  let p := c.allocated
  let c := { c.write p ⟨who, sock, server, now, false⟩ with allocated := p + 1 }
  if sock ≠ 0 then c.addConnection cfg now p else .ok c

/-- `processListen` when `accept` has given a socket. -/
def processListen (c : ConnectionManager τ) (now : ℕ) (tuple : τ) (flowKey sock : ℕ) :
    Except ManagerStop (ConnectionManager τ) := do
  if sock ∈ c.sockets then .error .openSocket
  else
    match ← c.findConnection tuple flowKey false with
    | none => c.createConnection cfg now tuple sock true
    | some p => do
      let conn ← c.deref p
      if conn.mIsServer = false then (← c.delete p).createConnection cfg now tuple sock true
      else return c

/-- `makeOutgoingConnection` when there is a socket, which may turn out not to be usable. -/
def connectSocket (c : ConnectionManager τ) (now : ℕ) (dest : τ) (usable : Bool) (sock : ℕ) :
    Except ManagerStop (ConnectionManager τ) :=
  if sock ∈ c.sockets then .error .openSocket
  else if usable then c.createConnection cfg now dest sock false
  else .ok c

/-- `makeOutgoingConnection`, with the sockets that the system gives the first and the second time. -/
def makeOutgoingConnection (c : ConnectionManager τ) (now : ℕ) (dest : τ)
    (first second : Option ℕ) (usable : Bool) : Except ManagerStop (ConnectionManager τ) :=
  match first with
  | some sock => c.connectSocket cfg now dest usable sock
  | none => do
    let (numRemoved, c) ← c.gc cfg now cfg.MinimumGcAge 1
    let c ← if numRemoved = 0 then Prod.snd <$> c.gcWithTarget 1 else .ok c
    match second with
    | some sock => c.connectSocket cfg now dest usable sock
    | none => return c

/-- What `processAllWriteRequests` does for a message: it makes a connection if it finds none. -/
def processWrite (c : ConnectionManager τ) (now : ℕ) (dest : τ) (flowKey : ℕ)
    (onlyUseExistingConnection : Bool) (first second : Option ℕ) (usable : Bool) :
    Except ManagerStop (ConnectionManager τ) := do
  match ← c.findConnection dest flowKey onlyUseExistingConnection with
  | some _ => return c
  | none =>
    if onlyUseExistingConnection then return c
    else c.makeOutgoingConnection cfg now dest first second usable

def touch (c : ConnectionManager τ) (now p : ℕ) : Except ManagerStop (ConnectionManager τ) := do
  let conn ← c.deref p
  let c := c.write p { conn with mLastUsed := now }
  if conn.mFlowTimerEnabled then
    return { c with mFlowTimerLRUHead := c.mFlowTimerLRUHead.erase p ++ [p] }
  else return { c with mLRUHead := c.mLRUHead.erase p ++ [p] }

def moveToFlowTimerLru (c : ConnectionManager τ) (p : ℕ) : ConnectionManager τ :=
  { c with
    mLRUHead := c.mLRUHead.erase p
    mFlowTimerLRUHead := c.mFlowTimerLRUHead ++ [p] }

/-- `Connection::enableFlowTimer` -/
def enableFlowTimer (c : ConnectionManager τ) (p : ℕ) :
    Except ManagerStop (ConnectionManager τ) := do
  let conn ← c.deref p
  if conn.mFlowTimerEnabled then return c
  else return (c.write p { conn with mFlowTimerEnabled := true }).moveToFlowTimerLru p

end ConnectionManager

inductive Event (τ : Type)
  | processListen (tuple : τ) (flowKey sock : ℕ)
  | processWrite (dest : τ) (flowKey : ℕ) (onlyUseExistingConnection : Bool)
      (first second : Option ℕ) (usable : Bool)
  | removeConnection (p : ℕ)
  | touch (p : ℕ)
  | enableFlowTimer (p : ℕ)
  | gc (relThreshold maxToRemove : ℕ)
  | gcWithTarget (target : ℕ)

/-- A call for a connection, which is one of the manager. -/
def ofManager (c : ConnectionManager τ) (p : ℕ) (call : Except ManagerStop (ConnectionManager τ)) :
    Except ManagerStop (ConnectionManager τ) :=
  if p ∈ c.mLRUHead ++ c.mFlowTimerLRUHead then call else .error .noConnection

def perform (c : ConnectionManager τ) (now : ℕ) :
    Event τ → Except ManagerStop (ConnectionManager τ)
  | .processListen tuple flowKey sock => c.processListen cfg now tuple flowKey sock
  | .processWrite dest flowKey onlyUseExistingConnection first second usable =>
    c.processWrite cfg now dest flowKey onlyUseExistingConnection first second usable
  | .removeConnection p => ofManager c p (c.delete p)
  | .touch p => ofManager c p (c.touch now p)
  | .enableFlowTimer p => ofManager c p (c.enableFlowTimer p)
  | .gc relThreshold maxToRemove => Prod.snd <$> c.gc cfg now relThreshold maxToRemove
  | .gcWithTarget target => Prod.snd <$> c.gcWithTarget target
end

end Resiprocate.Connections
