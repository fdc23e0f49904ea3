import Mathlib
import Resiprocate.ResponseContext
import Resiprocate.TransitionSystem

/-! A proxied request from its arrival to its last transaction: `RequestContext::process` and what
it calls. The processors are the environment: what a run of a chain calls and how it ends are part
of the event. -/
namespace Resiprocate.Repro
open TransitionSystem (System)

/-- What a processor calls. -/
inductive Call (υ : Type*)
  | addTarget (target : Target υ) (beginImmediately checkDuplicates : Bool)
  | addTargetBatch (targets : List (Target υ)) (highPriority : Bool)
  | beginClientTransactions
  | beginClientTransaction (tid : Data)
  | cancelActiveClientTransactions
  | cancelAllClientTransactions
  | clearCandidateTransactions
  | cancelClientTransaction (tid : Data)
  | sendResponse (msg : SipResponse υ)

/-- How a run of a processor chain ends: `Continue` and `SkipThisChain` are one to the caller. -/
inductive ChainResult
  | continues
  | skipsAllChains
  | waitsForEvent
  | raised
  deriving DecidableEq

/-- One run of a processor chain. -/
structure ChainRun (υ : Type*) where
  calls : List (Call υ)
  result : ChainResult

/-- How `fixStrictRouterDamage` and `removeTopRouteIfSelf` end. -/
inductive RouteCheck
  | done
  | parseException
  | baseException
  deriving DecidableEq

/-- What reaches the context. A chain that the event does not lead to is not run. -/
inductive Event (υ : Type*)
  /-- the original request, other than an ACK -/
  | request (route : RouteCheck) (requestChain targetChain : ChainRun υ)
  /-- an ACK with its own transaction id; `forwards`: it is not aimed at the proxy itself and its
  route or its From is ours -/
  | ack (route : RouteCheck) (forwards : Bool)
  | cancel (targetChain : ChainRun υ)
  | response (msg : SipResponse υ) (responseChain targetChain : ChainRun υ)
  | timerC (tid : Data) (serial : ℕ) (responseChain targetChain : ChainRun υ)
  /-- a `ProcessorMessage` for `chain`; `run` is that chain's -/
  | processorMessage (chain : ChainType) (run targetChain : ChainRun υ)
  | transactionTerminated (isClientTransaction : Bool) (tid : Data)
  | ack200Done

namespace Context
variable {υ : Type*} [BEq υ]

def call (s : Context υ) : Call υ → Context υ × CallResult
  | .addTarget target beginImmediately checkDuplicates =>
    s.addTarget target beginImmediately checkDuplicates
  | .addTargetBatch targets highPriority => s.addTargetBatch targets highPriority
  | .beginClientTransactions => s.beginClientTransactions
  | .beginClientTransaction tid => s.beginClientTransactionOf tid
  | .cancelActiveClientTransactions => (s.cancelActiveClientTransactions, .returned true)
  | .cancelAllClientTransactions => (s.cancelAllClientTransactions, .returned true)
  | .clearCandidateTransactions => (s.clearCandidateTransactions, .returned true)
  | .cancelClientTransaction tid => (s.cancelClientTransactionOf tid, .returned true)
  | .sendResponse msg => (s.sendResponse msg, .returned true)

/-- The calls of a chain, up to the first that raises an exception. -/
def calls (result : ChainResult) : List (Call υ) → Context υ → Context υ × ChainResult
  | [], s => (s, result)
  | c :: rest, s =>
    match s.call c with
    | (s, .raised) => (s, .raised)
    | (s, .returned _) => calls result rest s

/-- `ProcessorChain::process`. -/
def process (chain : ChainType) (run : ChainRun υ) (s : Context υ) : Context υ × ChainResult :=
  let (s, ret) := calls run.result run.calls s
  (if ret = .waitsForEvent then { s with pendingChains := chain :: s.pendingChains } else s, ret)

/-- An exception of the target chain: too late once a request has been forwarded. -/
def catchTargetException (ret : ChainResult) (s : Context υ) : Context υ :=
  if ret = .raised ∧ s.hasActiveTransactions = false then
    let s := s.clearCandidateTransactions
    s.sendResponse (s.makeResponse 500)
  else s

/-- After the target chain some branch is active, or it is time for a final response. `settle`
deals with targets that are all terminated. -/
def checkTargets (settle : Context υ → Context υ) (ret : ChainResult) (s : Context υ) : Context υ :=
  if ret ≠ .waitsForEvent ∧ s.haveSentFinalResponse = false ∧ s.hasActiveTransactions = false then
    if s.hasCandidateTransactions then s.sendResponse (s.makeResponse 500) else settle s
  else s

/-- The target chain after the request chain. -/
def runTargetChain (settle : Context υ → Context υ) (targetChain : ChainRun υ) (s : Context υ) :
    Context υ :=
  if !s.hasTargets then s.sendResponse (s.makeResponse 480)
  else
    let (s, ret) := s.process .targetChain targetChain
    (s.catchTargetException ret).checkTargets settle ret

def doPostRequestProcessing (targetChain : ChainRun υ) (s : Context υ) : Context υ :=
  s.runTargetChain forwardBestResponse targetChain

/-- An exception of the request chain. -/
def catchRequestException (ret : ChainResult) (s : Context υ) : Context υ :=
  if ret = .raised then s.sendResponse (s.makeResponse 500) else s

/-- The request chain on the original request, in `processRequestInviteTransaction` and
`processRequestNonInviteTransaction`, or resumed by a `ProcessorMessage`, and what follows. -/
def runRequestChain (settle : Context υ → Context υ) (requestChain targetChain : ChainRun υ)
    (s : Context υ) : Context υ :=
  let (s, ret) := s.process .requestChain requestChain
  let s := s.catchRequestException ret
  if ret ≠ .waitsForEvent ∧ s.haveSentFinalResponse = false then s.runTargetChain settle targetChain
  else s

/-- The response of `process` to an original request with broken headers. -/
def rejectRoute (code : ℤ) (s : Context υ) : Context υ := s.sendResponse (s.makeResponse code)

/-- `processRequestAckTransaction` of an ACK. -/
def processRequestAckTransaction (original forwards : Bool) (s : Context υ) : Context υ :=
  let s := if forwards then
      { s.cancelAllClientTransactions with
        out := s.cancelAllClientTransactions.out ++ [.forwardAck] }
    else s
  if original then { s with out := s.out ++ [.postAck200Done] } else s

/-- A CANCEL, by the method of the original request. -/
def processCancelRequest (targetChain : ChainRun υ) (s : Context υ) : Context υ :=
  match s.originalMethod with
  | .ack => { s with out := s.out ++ [.direct 400] }
  | .invite => s.processCancel.doPostRequestProcessing targetChain
  | _ => { s with out := s.out ++ [.direct 200] }

/-- After a response and the target chain some branch is active, or it is time for a final
response. -/
def checkBranches (msg : SipResponse υ) (s : Context υ) : Context υ :=
  if s.haveSentFinalResponse = false ∧ s.hasActiveTransactions = false then
    if s.hasCandidateTransactions then s.sendResponse (s.makeResponse 500)
    else if msg.method ≠ .invite ∧ msg.statusCode = 408 then s
    else if s.bestIsResponse then s.forwardBestResponse
    else s.sendResponse (s.makeResponse 500)
  else s

def doPostResponseProcessing (msg : SipResponse υ) (targetChain : ChainRun υ) (s : Context υ) :
    Context υ :=
  let (s, ret) := (s.processResponse msg).process .targetChain targetChain
  -- an exception of the target chain leaves `process`
  if ret = .raised then s else s.checkBranches msg

/-- `processResponseInviteTransaction` or `processResponseNonInviteTransaction`, and what
follows. -/
def processResponseTransaction (msg : SipResponse υ) (responseChain targetChain : ChainRun υ)
    (s : Context υ) : Context υ :=
  if msg.method = s.originalMethod then
    let (s, ret) := s.process .responseChain responseChain
    if ret = .continues then s.doPostResponseProcessing msg targetChain
    -- the response has been eaten, or its processing has failed
    else s.terminateClientTransaction (msg.tid.map Rutil.toLower)
  else s

/-- `process` of a `TimerCMessage`. -/
def processTimerCMessage (tid : Data) (serial : ℕ) (responseChain targetChain : ChainRun υ)
    (s : Context υ) : Context υ :=
  match s.processTimerC tid serial with
  | (s, some msg) => s.processResponseTransaction msg responseChain targetChain
  | (s, none) => s

/-- Where the request chain has been resumed, a kept 408 is not forwarded. -/
def settleResumed (s : Context υ) : Context υ :=
  let s := { s with bestIsResponse := true }
  if s.bestResponse.statusCode ≠ 408 then s.forwardBestResponse else s

/-- The event that a chain has been waiting for is there. -/
def resume (chain : ChainType) (s : Context υ) : Context υ :=
  { s with pendingChains := s.pendingChains.erase chain }

/-- The response chain resumed: an exception leaves `process`. -/
def resumeResponseChain (responseChain targetChain : ChainRun υ) (s : Context υ) : Context υ :=
  let (s, ret) := s.process .responseChain responseChain
  if ret = .raised then s else (s.process .targetChain targetChain).1

/-- `process` of a `ProcessorMessage`. -/
def processProcessorMessage (chain : ChainType) (run targetChain : ChainRun υ) (s : Context υ) :
    Context υ :=
  let s := s.resume chain
  match chain with
  | .requestChain => s.runRequestChain settleResumed run targetChain
  | .responseChain => s.resumeResponseChain run targetChain
  | .targetChain => (s.process .targetChain run).1

/-- `process` of a `TransactionTerminated`. -/
def processTransactionTerminated (isClientTransaction : Bool) (tid : Data) (s : Context υ) :
    Context υ :=
  let s := if isClientTransaction then s.removeClientTransaction tid else s
  let s := { s with transactionCount := s.transactionCount - 1 }
  { s with deleted := s.deleted || s.transactionCount == 0 }

def step (s : Context υ) : Event υ → Context υ
  | .request route requestChain targetChain =>
    let s := { s with received := true }
    match route with
    | .done => s.runRequestChain forwardBestResponse requestChain targetChain
    | .parseException => s.rejectRoute 400
    | .baseException => s.rejectRoute 500
  | .ack route forwards =>
    let original := !s.received
    let s := { s with received := true }
    if original && route != .done then { s with out := s.out ++ [.postAck200Done] }
    else s.processRequestAckTransaction original forwards
  | .cancel targetChain => s.processCancelRequest targetChain
  | .response msg responseChain targetChain =>
    s.processResponseTransaction msg responseChain targetChain
  | .timerC tid serial responseChain targetChain =>
    s.processTimerCMessage tid serial responseChain targetChain
  | .processorMessage chain run targetChain => s.processProcessorMessage chain run targetChain
  | .transactionTerminated isClientTransaction tid =>
    s.processTransactionTerminated isClientTransaction tid
  | .ack200Done => { s with deleted := true }

/-- The original request comes first and once; an ACK may come again. -/
def accepts (s : Context υ) : Event υ → Prop
  | .request .. => s.deleted = false ∧ s.received = false ∧ s.originalMethod ≠ .ack ∧
      s.originalMethod ≠ .cancel
  | .ack .. => s.deleted = false ∧ s.originalMethod = .ack
  | _ => s.deleted = false ∧ s.received = true

instance (s : Context υ) (e : Event υ) : Decidable (s.accepts e) := by
  cases e <;> exact inferInstanceAs (Decidable (_ ∧ _))

/-- Runs of one context. -/
def system (method : Method) (tid branch : Data) : System (Context υ) (Event υ) where
  init s := s = .new method tid branch
  enabled := accepts
  next := step

instance (method : Method) (tid branch : Data) (s : Context υ) (e : Event υ) :
    Decidable ((system method tid branch).enabled s e) := inferInstanceAs (Decidable (s.accepts e))

end Context
end Resiprocate.Repro
