import Resiprocate.TransactionClient

/-! The server state machines: INVITE, non-INVITE and stale, and the `sendToTU` of a new
request, which answers 503 itself when the TU takes no new work. -/
namespace Resiprocate.Transaction

def make100 (env : Env) (request : SipMessage) : SipMessage :=
  makeResponse request 100 env.computeTag ""

namespace Frame

/-! ### Non-INVITE -/

/-- A retransmission of the request. An abandoned transaction answers 500; one that has
sent its 100 and kept nothing makes a new 100. -/
def serverNonInviteRequest (cfg : Config) (env : Env) (sip : SipMessage) (f : Frame) : Frame :=
  if f.self.mState = .trying then f
  else if f.self.mState = .proceeding ∨ f.self.mState = .completed then
    if f.self.mIsAbandoned then
      let f := f.assertThat (f.self.mState = .completed) .serverNonInviteAbandoned
      let f := f.setAbandoned false
      (f.resetNextTransmission (some (makeResponse sip 500 env.computeTag ""))).sendCurrentToWire
        cfg env
    else
      let f := if f.self.mMsgToRetransmit = none ∧ f.self.mNextTransmission = none
        then f.resetNextTransmission (some (make100 env sip)) else f
      f.sendCurrentToWire cfg env
  else f.fault (.assertFailed .serverNonInviteState)

def serverNonInviteProvisional (cfg : Config) (env : Env) (sip : SipMessage) (f : Frame) :
    Frame :=
  if f.self.mState = .trying ∨ f.self.mState = .proceeding then
    ((f.resetNextTransmission (some sip)).setState .proceeding).sendCurrentToWire cfg env
  else f

def serverNonInviteFinal (cfg : Config) (env : Env) (sip : SipMessage) (f : Frame) : Frame :=
  if f.self.mIsReliable then
    (((f.resetNextTransmission (some sip)).sendCurrentToWire cfg env).terminateServerTransaction
      env).delete
  else if f.self.mState = .trying ∨ f.self.mState = .proceeding then
    (((f.setState .completed).addTimer .timerJ (64 * cfg.timers.T1)).resetNextTransmission
      (some sip)).sendCurrentToWire cfg env
  else f.assertThat (f.self.mState = .completed) .serverNonInviteState

def serverNonInviteTimer (cfg : Config) (env : Env) (t : TransactionTimer) (f : Frame) : Frame :=
  match t.type with
  | .timerJ =>
    if f.self.mState = .completed then (f.terminateServerTransaction env).delete else f
  | .timerTrying =>
    if f.self.mState = .trying then (f.sendCurrentToWire cfg env).setState .proceeding else f
  | _ => f

def serverNonInviteAbandon (cfg : Config) (env : Env) (f : Frame) : Frame :=
  if f.self.mState = .trying ∨ f.self.mState = .proceeding then
    let f := f.setAbandoned true
    if f.self.mIsReliable then (f.terminateServerTransaction env).delete
    else (f.setState .completed).addTimer .timerJ (64 * cfg.timers.T1)
  else f

def processServerNonInvite (cfg : Config) (env : Env) (msg : TransactionMessage) (f : Frame) :
    Frame :=
  match msg with
  | .sip m =>
    if m.isRequest ∧ m.method ≠ .invite ∧ m.isExternal then f.serverNonInviteRequest cfg env m
    else if m.isResponseIn 100 699 ∧ !m.isExternal then
      if m.statusCode < 200 then f.serverNonInviteProvisional cfg env m
      else f.serverNonInviteFinal cfg env m
    else f
  | .timer t => f.serverNonInviteTimer cfg env t
  | .transportFailure _ _ _ => (f.terminateServerTransaction env).delete
  | .abandonServerTransaction _ => f.serverNonInviteAbandon cfg env
  | .dnsResultMessage _ _ => f.handleSync cfg env
  | _ => f

/-! ### INVITE -/

/-- Timer H, and Timer G where the transport may lose the response. -/
def startResponseTimers (cfg : Config) (f : Frame) : Frame :=
  let f := f.addTimer .timerH cfg.timers.TH
  if f.self.mIsReliable then f else f.addTimer .timerG cfg.timers.T1

def setAckIsValid (f : Frame) : Frame := { f with self := { f.self with mAckIsValid := true } }

/-- A retransmitted INVITE: 500 for an abandoned transaction, otherwise the last response. -/
def serverInviteRetransmission (cfg : Config) (env : Env) (sip : SipMessage) (f : Frame) : Frame :=
  if f.self.mIsAbandoned then
    let f := (f.setAbandoned false).setAckIsValid
    let f := f.resetNextTransmission (some (makeResponse sip 500 env.computeTag ""))
    ((f.setState .completed).startResponseTimers cfg).sendCurrentToWire cfg env
  else if f.self.mState = .proceeding ∨ f.self.mState = .completed then
    let f := if f.self.mMsgToRetransmit = none ∧ f.self.mNextTransmission = none
      then f.resetNextTransmission (some (make100 env sip)) else f
    f.sendCurrentToWire cfg env
  else f

def serverInviteAck (cfg : Config) (env : Env) (f : Frame) : Frame :=
  if f.self.mState = .completed then
    if f.self.mIsReliable then (f.terminateServerTransaction env).delete
    else ((f.setState .confirmed).addTimer .timerI cfg.timers.T4).resetNextTransmission none
  else f

def serverInviteProvisional (cfg : Config) (env : Env) (sip : SipMessage) (f : Frame) : Frame :=
  if f.self.mState = .trying ∨ f.self.mState = .proceeding then
    ((f.resetNextTransmission (some sip)).setState .proceeding).sendCurrentToWire cfg env
  else f

def serverInviteSuccess (cfg : Config) (env : Env) (sip : SipMessage) (f : Frame) : Frame :=
  if f.self.mState = .trying ∨ f.self.mState = .proceeding then
    let f := (f.resetNextTransmission (some sip)).sendCurrentToWire cfg env
    let f : Frame := { f with self := { f.self with mMachine := .serverStale } }
    f.addTimer .timerStaleServer cfg.timers.TS
  else f

def serverInviteFailure (cfg : Config) (env : Env) (sip : SipMessage) (f : Frame) : Frame :=
  if f.self.mState = .trying ∨ f.self.mState = .proceeding then
    let f := f.setAckIsValid.resetNextTransmission (some sip)
    ((f.setState .completed).startResponseTimers cfg).sendCurrentToWire cfg env
  else f

def serverInviteTimer (cfg : Config) (env : Env) (t : TransactionTimer) (f : Frame) : Frame :=
  match t.type with
  | .timerG =>
    if f.self.mState = .completed then
      (f.sendCurrentToWire cfg env).addTimer .timerG (min cfg.timers.T2 (t.duration * 2))
    else f
  | .timerH | .timerI => (f.terminateServerTransaction env).delete
  | .timerTrying =>
    if f.self.mState = .trying then (f.sendCurrentToWire cfg env).setState .proceeding else f
  | _ => f.fault (.assertFailed .serverInviteTimer)

/-- A stored provisional is turned into a 500 and sent; with none stored, a reliable
transaction ends and an unreliable one waits for the INVITE to be retransmitted. -/
def serverInviteAbandon (cfg : Config) (env : Env) (f : Frame) : Frame :=
  if (f.self.mState = .trying ∨ f.self.mState = .proceeding) ∧ !f.self.mIsAbandoned then
    match f.self.mNextTransmission with
    | some sip =>
      let f := f.assertThat (sip.isResponse && decide (sip.statusCode / 100 = 1)) .abandonResponse
      let f := f.resetNextTransmission (some { sip with startLine := .response 500 "Server Error" })
      let f := (f.sendCurrentToWire cfg env).setAckIsValid
      (f.setState .completed).startResponseTimers cfg
    | none =>
      if f.self.mIsReliable then (f.terminateServerTransaction env).delete
      else f.setAbandoned true
  else f

def processServerInvite (cfg : Config) (env : Env) (msg : TransactionMessage) (f : Frame) :
    Frame :=
  match msg with
  | .sip m =>
    if m.isRequest ∧ m.isExternal then
      match m.method with
      | .invite => f.serverInviteRetransmission cfg env m
      | .ack => f.serverInviteAck cfg env
      | .cancel => f.fault (.assertFailed .serverInviteCancel)
      | _ => f
    else if m.isResponseIn 100 699 ∧ !m.isExternal then
      match m.method with
      | .invite =>
        if m.statusCode < 200 then f.serverInviteProvisional cfg env m
        else if m.statusCode < 300 then f.serverInviteSuccess cfg env m
        else f.serverInviteFailure cfg env m
      | .cancel => f.fault (.assertFailed .serverInviteCancel)
      | _ => f
    else f
  | .timer t => f.serverInviteTimer cfg env t
  | .transportFailure _ _ _ => (f.terminateServerTransaction env).delete
  | .abandonServerTransaction _ => f.serverInviteAbandon cfg env
  | .dnsResultMessage _ _ => f.handleSync cfg env
  | _ => f

/-! ### Stale -/

def processServerStale (cfg : Config) (env : Env) (msg : TransactionMessage) (f : Frame) : Frame :=
  match msg with
  | .timer t =>
    if t.type = .timerStaleServer then (f.terminateServerTransaction env).delete else f
  | .transportFailure _ reason subCode => f.processTransportFailure cfg env reason subCode
  | .sip m =>
    if m.isRequest ∧ m.method = .ack then
      (f.assertThat m.isExternal .serverStaleWire).sendToTU cfg env m
    else if m.isRequest ∧ m.method = .invite then f
    else if m.isResponseIn 100 699 ∧ !m.isExternal then
      (f.resetNextTransmission (some m)).sendCurrentToWire cfg env
    else f
  | .dnsResultMessage _ _ => f.handleSync cfg env
  | _ => f

/-! ### New requests -/

/-- `sendToTU` for the request that created a server transaction. -/
def sendRequestToTU (cfg : Config) (env : Env) (sip : SipMessage) (f : Frame) : Frame :=
  if env.tuRejection = .normal then f.postToTU sip
  else
    let f := f.assertThat sip.isExternal .sendToTuExternal
    let response := { makeResponse sip 503 env.computeTag "" with
      hRetryAfter := some env.tuExpectedWait, isExternal := false }
    if f.self.mMethod = .invite then f.processServerInvite cfg env (.sip response)
    else f.processServerNonInvite cfg env (.sip response)

end Frame

end Resiprocate.Transaction
