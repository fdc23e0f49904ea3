import Mathlib
import Resiprocate.ParseBuffer

/-! The targets and the best response of a proxied request. `Context` is a `RequestContext`
together with its `ResponseContext`: the two refer to each other and change each other. -/
namespace Resiprocate.Repro
open Rutil (Bytes isEqualNoCase)

abbrev Data := Bytes

/-- `MethodTypes`; `other` has the remaining ones by number, 0 is `UNKNOWN`. -/
inductive Method
  | invite
  | ack
  | cancel
  | other (code : ℕ)
  deriving DecidableEq, Repr

/-- What the proxy knows of a contact. `υ` is the type of URIs. -/
structure ContactInstanceRecord (υ : Type*) where
  regId : ℕ
  instanceId : Data
  uri : υ

/-- `ContactInstanceRecord::operator==`. -/
def ContactInstanceRecord.same {υ : Type*} [BEq υ] (l r : ContactInstanceRecord υ) : Bool :=
  if (l.regId != 0 && !l.instanceId.isEmpty) || (r.regId != 0 && !r.instanceId.isEmpty) then
    l.instanceId == r.instanceId && l.regId == r.regId
  else if l.regId == 0 && r.regId == 0 && !l.instanceId.isEmpty && !r.instanceId.isEmpty then
    l.instanceId == r.instanceId
  else l.instanceId == r.instanceId && l.uri == r.uri

/-- `Target::Status`. -/
inductive Status
  | candidate
  | started
  | cancelled
  | terminated
  deriving DecidableEq, Repr

structure Target (υ : Type*) where
  /-- The transaction id of the branch parameter that the target was made with. -/
  tid : Data
  record : ContactInstanceRecord υ
  status : Status
  shouldAutoProcess : Bool
  /-- No header that `buildTargetRequest` touches raises an exception. -/
  builds : Bool

structure NameAddr (υ : Type*) where
  uri : υ
  isWellFormed : Bool
  isAllContacts : Bool

/-- What stands under the `Via` that the proxy added. -/
inductive NextVia
  | missing
  | malformed
  | wellFormed (branch : Data)
  deriving DecidableEq

structure SipResponse (υ : Type*) where
  tid : Data
  method : Method
  statusCode : ℤ
  nextVia : NextVia
  wwwAuthenticates : List Data
  proxyAuthenticates : List Data
  contacts : List (NameAddr υ)

namespace SipResponse
variable {υ : Type*}

/-- A response of the proxy itself, as `Helper::makeResponse` builds it. -/
def make (tid : Data) (method : Method) (code : ℤ) : SipResponse υ where
  tid := tid
  method := method
  statusCode := code
  nextVia := .missing
  wwwAuthenticates := []
  proxyAuthenticates := []
  contacts := []

/-- `SipMessage()` with the status line that reading it makes. -/
def empty : SipResponse υ := make [] (.other 0) (-1)

/-- Neither a provisional response nor the answer to a CANCEL. -/
def isFinal (r : SipResponse υ) : Bool := 199 < r.statusCode && r.method != .cancel

end SipResponse

/-- What leaves the proxy core. -/
inductive Output (υ : Type*)
  /-- `sendResponse` -/
  | response (msg : SipResponse υ)
  /-- `send` of a response that does not go through `sendResponse` -/
  | direct (code : ℤ)
  /-- `sendRequest`: a client transaction starts -/
  | request (tid : Data)
  /-- `cancelClientInviteTransaction` -/
  | cancelClient (tid : Data)
  /-- `postTimerC` -/
  | timerC (tid : Data) (serial : ℕ)
  /-- `abandonServerTransaction` -/
  | abandon
  | forwardAck
  | postAck200Done
  /-- `resip_assert` failed -/
  | assertFailed

abbrev TransactionMap (υ : Type*) := Std.TreeMap Data (Target υ)

/-- `Processor::ChainType`. -/
inductive ChainType
  | requestChain
  | responseChain
  | targetChain
  deriving DecidableEq

structure Context (υ : Type*) where
  /-- `mOriginalRequest` is set. -/
  received : Bool
  originalMethod : Method
  originalTid : Data
  /-- The transaction id in the branch of the topmost `Via`, empty without one. -/
  originalBranch : Data
  haveSentFinalResponse : Bool
  transactionCount : ℤ
  deleted : Bool
  candidateTransactionMap : TransactionMap υ
  activeTransactionMap : TransactionMap υ
  terminatedTransactionMap : TransactionMap υ
  targetList : List (ContactInstanceRecord υ)
  transactionQueueCollection : List (List Data)
  bestResponse : SipResponse υ
  /-- `mBestResponse.isResponse()`: reading the status line of `SipMessage()` makes it one. -/
  bestIsResponse : Bool
  bestPriority : ℤ
  timerCSerial : Std.TreeMap Data ℕ
  /-- The chains whose processor has returned `WaitingForEvent` and whose `ProcessorMessage` has
  not come. The source keeps this in the messages themselves. -/
  pendingChains : List ChainType
  out : List (Output υ)

/-- How a call of a processor ends: with its result, or with an exception. -/
inductive CallResult
  | returned (result : Bool)
  | raised
  deriving DecidableEq

namespace Target
variable {υ : Type*}

/-- `cancelClientTransaction(Target*)`: the status afterwards. -/
def cancel (target : Target υ) : Target υ :=
  match target.status with
  | .started => { target with status := .cancelled }
  | .candidate => { target with status := .terminated }
  | _ => target

/-- `cancelClientTransaction(Target*)`: what it sends. -/
def cancelOut (target : Target υ) : List (Output υ) :=
  if target.status = .started then [.cancelClient target.tid] else []

end Target

/-- What a loop over a map of targets sends that cancels each of them. -/
def cancelOuts {υ : Type*} (targets : TransactionMap υ) : List (Output υ) :=
  targets.toList.flatMap fun p => p.2.cancelOut

namespace Context
variable {υ : Type*}

/-- A context for a request that has not been handed to it yet. -/
def new (method : Method) (tid branch : Data) : Context υ where
  received := false
  originalMethod := method
  originalTid := tid
  originalBranch := branch
  haveSentFinalResponse := false
  transactionCount := 1
  deleted := false
  candidateTransactionMap := ∅
  activeTransactionMap := ∅
  terminatedTransactionMap := ∅
  targetList := []
  transactionQueueCollection := []
  bestResponse := .empty
  bestIsResponse := false
  bestPriority := 50
  timerCSerial := ∅
  pendingChains := []
  out := []

def hasCandidateTransactions (s : Context υ) : Bool :=
  !s.haveSentFinalResponse && !s.candidateTransactionMap.isEmpty

def hasActiveTransactions (s : Context υ) : Bool := !s.activeTransactionMap.isEmpty

def hasTerminatedTransactions (s : Context υ) : Bool := !s.terminatedTransactionMap.isEmpty

def hasTargets (s : Context υ) : Bool :=
  s.hasCandidateTransactions || s.hasActiveTransactions || s.hasTerminatedTransactions

def areAllTransactionsTerminated (s : Context υ) : Bool :=
  s.candidateTransactionMap.isEmpty && s.activeTransactionMap.isEmpty

/-- `getTarget`, with the outcome of its assertion. -/
def getTarget (tid : Data) (s : Context υ) : Option (Target υ × Bool) :=
  match s.candidateTransactionMap[tid]? with
  | some t => some (t, t.status == .candidate)
  | none =>
    match s.activeTransactionMap[tid]? with
    | some t => some (t, !(t.status == .candidate || t.status == .terminated))
    | none => (s.terminatedTransactionMap[tid]?).map fun t => (t, t.status == .terminated)

/-- `RequestContext::sendResponse`. -/
def sendResponse (msg : SipResponse υ) (s : Context υ) : Context υ :=
  if s.originalMethod = .ack then { s with out := s.out ++ [.postAck200Done] }
  else { s with
    haveSentFinalResponse := s.haveSentFinalResponse || msg.isFinal
    out := s.out ++ [.response msg] }

/-- `Helper::makeResponse` for the original request. -/
def makeResponse (code : ℤ) (s : Context υ) : SipResponse υ :=
  .make s.originalTid s.originalMethod code

def updateTimerC (tid : Data) (s : Context υ) : Context υ :=
  let serial := match s.timerCSerial[tid]? with
    | some serial => serial + 1
    | none => 0
  { s with
    timerCSerial := s.timerCSerial.insert tid serial
    out := s.out ++ [.timerC tid serial] }

def sendRequest (tid : Data) (s : Context υ) : Context υ :=
  match s.originalMethod with
  | .ack => { s with out := s.out ++ [.postAck200Done, .request tid] }
  | .cancel => { s with out := s.out ++ [.request tid] }
  | _ => { s with
      transactionCount := s.transactionCount + 1
      out := s.out ++ [.request tid] }

/-- `resip_assert(target->status() == Target::Candidate)`. -/
def assertCandidate (target : Target υ) (s : Context υ) : Context υ :=
  if target.status = .candidate then s else { s with out := s.out ++ [.assertFailed] }

/-- Timer C runs for the transactions of an INVITE only. -/
def startTimerC (tid : Data) (s : Context υ) : Context υ :=
  if s.originalMethod = .invite then s.updateTimerC tid else s

/-- `beginClientTransaction(Target*)`; `none` when composing the request raises an exception. -/
def beginClientTransaction (target : Target υ) (s : Context υ) : Option (Context υ) :=
  if target.builds then
    some (((s.assertCandidate target).startTimerC target.tid).sendRequest target.tid)
  else none

section Duplicates
variable [BEq υ]

def isDuplicate (target : Target υ) (s : Context υ) : Bool :=
  s.targetList.any fun record => record.same target.record

def addTarget (target : Target υ) (beginImmediately checkDuplicates : Bool) (s : Context υ) :
    Context υ × CallResult :=
  if s.haveSentFinalResponse then (s, .returned false)
  else if target.status ≠ .candidate then (s, .returned false)
  else if beginImmediately then
    if checkDuplicates && s.isDuplicate target then (s, .returned false)
    else
      let s := { s with targetList := s.targetList ++ [target.record] }
      match s.beginClientTransaction target with
      | none => (s, .raised)
      | some s => ({ s with activeTransactionMap :=
          s.activeTransactionMap.insert target.tid { target with status := .started } },
        .returned true)
  else
    ({ s with
        transactionQueueCollection :=
          if target.shouldAutoProcess then s.transactionQueueCollection ++ [[target.tid]]
          else s.transactionQueueCollection
        candidateTransactionMap := s.candidateTransactionMap.insert target.tid target },
      .returned true)

/-- The body of `beginClientTransaction(tid)` and of the loop of `beginClientTransactions` for
the candidate under the key `tid`. -/
def beginCandidate (tid : Data) (target : Target υ) (s : Context υ) : Context υ × CallResult :=
  if s.isDuplicate target || s.haveSentFinalResponse then
    ({ s with
        terminatedTransactionMap :=
          s.terminatedTransactionMap.insert target.tid { target with status := .terminated }
        candidateTransactionMap := s.candidateTransactionMap.erase tid },
      .returned false)
  else
    let s := { s with targetList := s.targetList ++ [target.record] }
    match s.beginClientTransaction target with
    | none => (s, .raised)
    | some s => ({ s with
          activeTransactionMap :=
            s.activeTransactionMap.insert target.tid { target with status := .started }
          candidateTransactionMap := s.candidateTransactionMap.erase tid },
        .returned true)

/-- The loop of `beginClientTransactions` over the candidates that are left. -/
def beginCandidates : List (Data × Target υ) → Bool → Context υ → Context υ × CallResult
  | [], result, s => (s, .returned result)
  | (tid, target) :: rest, result, s =>
    match s.beginCandidate tid target with
    | (s, .raised) => (s, .raised)
    | (s, .returned began) => beginCandidates rest (result || began) s

def beginClientTransactions (s : Context υ) : Context υ × CallResult :=
  s.beginCandidates s.candidateTransactionMap.toList false

/-- `beginClientTransaction(tid)`. -/
def beginClientTransactionOf (tid : Data) (s : Context υ) : Context υ × CallResult :=
  match s.candidateTransactionMap[tid]? with
  | none => (s, .returned false)
  | some target => s.beginCandidate tid target

end Duplicates

def addTargetBatch (targets : List (Target υ)) (highPriority : Bool) (s : Context υ) :
    Context υ × CallResult :=
  if s.haveSentFinalResponse || targets.isEmpty then (s, .returned false)
  else
    let good := targets.filter fun t => t.status == .candidate
    let queue := (good.filter (·.shouldAutoProcess)).map (·.tid)
    ({ s with
        candidateTransactionMap :=
          good.foldl (fun m t => m.insert t.tid t) s.candidateTransactionMap
        transactionQueueCollection :=
          if highPriority then queue :: s.transactionQueueCollection
          else s.transactionQueueCollection ++ [queue] },
      .returned true)

/-- The loop that cancels every active transaction. -/
def cancelActive (s : Context υ) : Context υ :=
  { s with
    activeTransactionMap := s.activeTransactionMap.map fun _ t => t.cancel
    out := s.out ++ cancelOuts s.activeTransactionMap }

def cancelActiveClientTransactions (s : Context υ) : Context υ :=
  if s.haveSentFinalResponse then s
  else if s.activeTransactionMap.isEmpty then s
  else s.cancelActive

def clearCandidateTransactions (s : Context υ) : Context υ :=
  { s with
    candidateTransactionMap := ∅
    terminatedTransactionMap := s.candidateTransactionMap.toList.foldl
      (fun m p => m.insert p.2.tid p.2.cancel) s.terminatedTransactionMap
    out := s.out ++ cancelOuts s.candidateTransactionMap }

def cancelAllClientTransactions (s : Context υ) : Context υ :=
  if s.activeTransactionMap.isEmpty && s.candidateTransactionMap.isEmpty then s
  else if s.originalMethod = .invite then s.cancelActive.clearCandidateTransactions
  else s.clearCandidateTransactions

/-- `cancelClientTransaction(tid)`. -/
def cancelClientTransactionOf (tid : Data) (s : Context υ) : Context υ :=
  match s.activeTransactionMap[tid]?, decide (s.originalMethod = .invite) with
  | some t, true => { s with
      activeTransactionMap := s.activeTransactionMap.insert tid t.cancel
      out := s.out ++ t.cancelOut }
  | _, _ =>
    match s.candidateTransactionMap[tid]? with
    | some t => { s with
        terminatedTransactionMap := s.terminatedTransactionMap.insert tid t.cancel
        candidateTransactionMap := s.candidateTransactionMap.erase tid
        out := s.out ++ t.cancelOut }
    | none => s

def terminateClientTransaction (tid : Data) (s : Context υ) : Context υ :=
  match s.activeTransactionMap[tid]? with
  | some t => { s with
      terminatedTransactionMap :=
        s.terminatedTransactionMap.insert tid { t with status := .terminated }
      activeTransactionMap := s.activeTransactionMap.erase tid }
  | none =>
    match s.candidateTransactionMap[tid]? with
    | some t => { s with
        terminatedTransactionMap :=
          s.terminatedTransactionMap.insert tid { t with status := .terminated }
        candidateTransactionMap := s.candidateTransactionMap.erase tid }
    | none => s

def removeClientTransaction (tid : Data) (s : Context υ) : Context υ :=
  if tid ∈ s.terminatedTransactionMap then
    { s with terminatedTransactionMap := s.terminatedTransactionMap.erase tid }
  else if tid ∈ s.candidateTransactionMap then
    { s with candidateTransactionMap := s.candidateTransactionMap.erase tid }
  else if tid ∈ s.activeTransactionMap then
    { s with activeTransactionMap := s.activeTransactionMap.erase tid }
  else s

end Context

/-- `getPriority`: how much a final response is worth, the lowest value first. -/
def getPriority (code : ℤ) : ℤ :=
  if code ≤ 399 then 5
  else if 500 ≤ code && !(code == 501 || code == 503 || code == 580 || code == 513) then 42
  else
    match code with
    | 412 => 1
    | 484 => 2
    | 422 | 423 => 3
    | 407 | 401 => 4
    | 402 => 6
    | 493 => 10
    | 420 => 12
    | 406 | 415 | 488 => 13
    | 416 | 417 => 20
    | 405 | 501 => 21
    | 580 => 22
    | 485 => 23
    | 428 | 429 | 494 => 24
    | 413 | 414 => 25
    | 421 => 26
    | 486 => 30
    | 480 => 31
    | 410 => 32
    | 436 | 437 | 513 => 33
    | 403 => 34
    | 404 => 35
    | 487 => 36
    | 503 => 43
    | 483 | 482 => 41
    | 408 => 49
    | _ => 43

/-- What the `Via` checks at the head of `processResponse` decide. -/
inductive ViaCheck
  /-- nothing happens -/
  | ignored
  /-- the branch counts as failed -/
  | failed
  | passed
  deriving DecidableEq

namespace SipResponse
variable {υ : Type*}

/-- A final response ends its branch, a provisional one is ignored. -/
def unforwardable (r : SipResponse υ) : ViaCheck := if 199 < r.statusCode then .failed else .ignored

/-- `handleMissingResponseVias` returns false, as it does unless it is overridden. -/
def viaCheck (originalBranch : Data) (r : SipResponse υ) : ViaCheck :=
  match r.nextVia with
  | .missing =>
    if r.method = .cancel then .ignored
    else if r.statusCode ≠ 100 then r.unforwardable
    else .passed
  | .malformed => r.unforwardable
  | .wellFormed branch =>
    if isEqualNoCase branch originalBranch then .passed else r.unforwardable

/-- The kept response with the challenges of another 401 or 407. -/
def mergeChallenges (best r : SipResponse υ) : SipResponse υ :=
  { best with
    wwwAuthenticates := best.wwwAuthenticates ++ r.wwwAuthenticates
    proxyAuthenticates := best.proxyAuthenticates ++ r.proxyAuthenticates
    statusCode := if r.proxyAuthenticates.isEmpty then best.statusCode else 407 }

/-- The kept response with the contacts of another redirect. -/
def mergeContacts (best r : SipResponse υ) : SipResponse υ :=
  { best with
    contacts := (if best.statusCode / 100 = 3 then best.contacts else []) ++
      r.contacts.filter fun c => c.isWellFormed && !c.isAllContacts
    statusCode := 300 }

end SipResponse

namespace Context
variable {υ : Type*}

/-- What `forwardBestResponse` does to the targets. -/
def withdrawTargets (s : Context υ) : Context υ :=
  if s.originalMethod = .invite then s.clearCandidateTransactions.cancelActiveClientTransactions
  else s.clearCandidateTransactions

/-- A 503 is not forwarded as such. -/
def softenBest (s : Context υ) : Context υ :=
  { s with
    bestIsResponse := true
    bestResponse := if s.bestResponse.statusCode = 503
      then { s.bestResponse with statusCode := 480 } else s.bestResponse }

def abandonServerTransaction (s : Context υ) : Context υ :=
  { s with haveSentFinalResponse := true, out := s.out ++ [.abandon] }

def forwardBestResponse (s : Context υ) : Context υ :=
  let s := s.withdrawTargets.softenBest
  if s.bestResponse.statusCode = 408 ∧ s.bestResponse.method ≠ .invite then
    s.abandonServerTransaction
  else s.sendResponse s.bestResponse

def processCancel (s : Context υ) : Context υ :=
  let s := s.sendResponse (.make s.originalTid .cancel 200)
  if s.haveSentFinalResponse then s
  else
    let s := s.cancelAllClientTransactions
    if s.hasActiveTransactions then s else s.sendResponse (s.makeResponse 487)

/-- A 3xx, 4xx or 5xx response against the kept one: it replaces it, is merged into it or is
passed over. -/
def keepBest (r : SipResponse υ) (s : Context υ) : Context υ :=
  let priority := getPriority r.statusCode
  if priority = s.bestPriority then
    if r.statusCode = 401 ∨ r.statusCode = 407 then
      { s with bestResponse := s.bestResponse.mergeChallenges r }
    else if r.statusCode / 100 = 3 then
      { s with bestResponse := s.bestResponse.mergeContacts r }
    else s
  else if priority < s.bestPriority then
    { s with bestPriority := priority, bestResponse := r, bestIsResponse := true }
  else s

/-- A 6xx response against the kept one: the first is kept and ends the forking. -/
def keepGlobal (r : SipResponse υ) (s : Context υ) : Context υ :=
  if s.bestResponse.statusCode / 100 ≠ 6 then
    let s := { s with bestResponse := r, bestPriority := 0, bestIsResponse := true }
    if s.originalMethod = .invite then s.cancelAllClientTransactions else s
  else s

/-- The best response goes out once no branch is left. -/
def forwardIfDone (s : Context υ) : Context υ :=
  if s.areAllTransactionsTerminated then s.forwardBestResponse else s

/-- A 2xx response on an active branch. -/
def processSuccess (r : SipResponse υ) (s : Context υ) : Context υ :=
  let s := s.terminateClientTransaction r.tid
  let answered (s : Context υ) : Context υ :=
    { s with
      haveSentFinalResponse := true
      bestResponse := { s.bestResponse with statusCode := r.statusCode }
      bestIsResponse := true }
  if s.originalMethod = .invite then (answered s.cancelAllClientTransactions).sendResponse r
  else if s.haveSentFinalResponse then s
  else (answered s.clearCandidateTransactions).sendResponse r

/-- A response on an active branch, by its class. -/
def processActiveResponse (r : SipResponse υ) (s : Context υ) : Context υ :=
  match r.statusCode / 100 with
  | 1 =>
    let s := s.startTimerC r.tid
    if s.haveSentFinalResponse || r.statusCode = 100 then s else s.sendResponse r
  | 2 => s.processSuccess r
  | 3 | 4 | 5 =>
    let s := s.terminateClientTransaction r.tid
    if s.haveSentFinalResponse then s else (s.keepBest r).forwardIfDone
  | 6 =>
    let s := s.terminateClientTransaction r.tid
    if s.haveSentFinalResponse then s else (s.keepGlobal r).forwardIfDone
  | _ => { s with out := s.out ++ [.assertFailed] }

def processResponse (r : SipResponse υ) (s : Context υ) : Context υ :=
  match r.viaCheck s.originalBranch with
  | .ignored => s
  | .failed => s.terminateClientTransaction r.tid
  | .passed =>
    if r.tid ∈ s.activeTransactionMap then s.processActiveResponse r
    -- a 2xx is forwarded although its branch has ended
    else if r.statusCode / 100 = 2 then s.sendResponse r
    else s

/-- The part of `processTimerC` before the response it makes up: the state, and that response. -/
def processTimerC (tid : Data) (serial : ℕ) (s : Context υ) :
    Context υ × Option (SipResponse υ) :=
  if !s.haveSentFinalResponse && s.timerCSerial[tid]? == some serial then
    let s := s.cancelClientTransactionOf tid
    match s.activeTransactionMap[tid]? with
    | some t =>
      if serial = 0 && t.builds then
        (s, some { (SipResponse.make tid s.originalMethod 408) with
          nextVia := .wellFormed s.originalBranch })
      else (s, none)
    | none => (s, none)
  else (s, none)

end Context
end Resiprocate.Repro
