import Resiprocate.TransactionState

/-! The client state machines: INVITE, non-INVITE, stale and stateless, with DNS
failover, TCP connect supervision and the CANCEL transactions they start. -/
namespace Resiprocate.Transaction

/-- `isResponse(msg, lower, upper)` for a SIP message. -/
def SipMessage.isResponseIn (m : SipMessage) (lower upper : ℕ) : Bool :=
  m.isResponse && decide (lower ≤ m.statusCode ∧ m.statusCode ≤ upper)

/-- The 503 of `processNoDnsResults`, with the texts that name the worst failure seen. -/
def noDnsResponse (cfg : Config) (env : Env) (st : TransactionState) (request : SipMessage) :
    SipMessage :=
  let base := makeResponse request 503 env.computeTag ""
  let detail := toString st.mFailureReason.toNat ++ "," ++ toString st.mFailureSubCode ++ ")"
  let text := (if st.mDnsResult then "No other DNS entries to try (" else "Transport failure (")
    ++ detail
  let withReason (code : ℕ) (reason text : String) : SipMessage :=
    { base with
      startLine := .response code reason
      hWarnings := [⟨399, cfg.mHostname, text⟩] }
  match st.mFailureReason with
  | .none => withReason 503 "No DNS results" text
  | .failure | .transportNoSocket | .transportBadConnect | .connectionUnknown
  | .connectionException => withReason 503 "Transport failure: no transports left to try" text
  | .noTransport => withReason 503 "No matching transport found" text
  | .noRoute => withReason 503 "No route to host" text
  | .certNameMismatch => withReason 503 "Certificate Name Mismatch" text
  | .certValidationFailure => withReason 503 "Certificate Validation Failure" text
  | .transportNoExistConn =>
    withReason (if 5 ≤ cfg.outboundVersion then 430 else 410) "Flow failed" "Flow no longer exists"
  | .transportShutdown => withReason 503 "Transport shutdown: no transports left to try" text

/-- The 503 for a CANCEL that could not be delivered. -/
def failedCancelResponse (cfg : Config) (env : Env) (request : SipMessage) : SipMessage :=
  { makeResponse request 503 env.computeTag "" with
    hWarnings := [⟨399, cfg.mHostname,
      "Failed to deliver CANCEL using the same transport as the INVITE was used"⟩] }

/-- The final response of a client transaction that timed out. -/
def timeoutResponse (env : Env) (st : TransactionState) (request : SipMessage) : SipMessage :=
  if st.mPendingOperation = .dns then makeResponse request 503 env.computeTag "DNS Timeout"
  else makeResponse request 408 env.computeTag ""

/-- The stored request is a CANCEL of a transaction that has no final response yet. -/
def TransactionState.failedCancel (st : TransactionState) : Bool :=
  match st.mNextTransmission with
  | some m => m.isRequest && decide (m.method = .cancel) &&
      decide (st.mState ≠ .completed ∧ st.mState ≠ .terminated)
  | none => false

/-- Only a client transaction without a final response tries another DNS target. -/
def TransactionState.shouldFailover (st : TransactionState) : Bool :=
  decide ((st.mMachine = .clientNonInvite ∨ st.mMachine = .clientInvite) ∧
    st.mState ≠ .completed ∧ st.mState ≠ .terminated)

namespace Frame

def saveOriginalContactAndVia (sip : SipMessage) (f : Frame) : Frame :=
  { f with self := { f.self with
      mOriginalContact := if sip.hContact.isSome then sip.hContact else f.self.mOriginalContact
      mOriginalVia := some sip.via } }

/-- Puts the TU's Contact and Via back, with the next transport sequence in the branch. -/
def restoreOriginalContactAndVia (f : Frame) : Frame :=
  match f.self.mNextTransmission with
  | none =>
    if f.self.mOriginalContact.isSome ∨ f.self.mOriginalVia.isSome then
      f.fault (.nullDereference .restoreOriginal)
    else f
  | some sip =>
    let via := f.self.mOriginalVia.map fun v =>
      { v with branchTransportSeq := v.branchTransportSeq + 1 }
    let sip := { sip with
      hContact := if f.self.mOriginalContact.isSome then f.self.mOriginalContact else sip.hContact
      via := via.getD sip.via }
    { f with self := { f.self with mNextTransmission := some sip, mOriginalVia := via } }

def processNoDnsResults (cfg : Config) (env : Env) (f : Frame) : Frame :=
  match f.self.mNextTransmission with
  | none => f
  | some sip =>
    if sip.method = .ack then f
    else
      let f := f.assertThat (!f.self.mDnsResult || decide (env.dnsAvailable = .finished))
        .noDnsFinished
      let f := f.sendToTU cfg env (noDnsResponse cfg env f.self sip)
      let f := f.terminateClientTransaction env
      if f.self.mMachine = .stateless then f else f.delete

/-- Takes up the next DNS target. -/
def useTarget (cfg : Config) (env : Env) (target : Tuple) (f : Frame) : Frame :=
  let f : Frame := { f with self := { f.self with mTarget := target } }
  let f := f.processReliability cfg target.mTransportType
  f.sendCurrentToWire cfg env

/-- The failover half of `processTransportFailure`. -/
def failover (cfg : Config) (env : Env) (f : Frame) : Frame :=
  let f := f.assertThat (f.self.mMethod ≠ .cancel) .failoverCancel
  match env.dnsAvailable with
  | .available =>
    (f.restoreOriginalContactAndVia.clearMsgToRetransmit).useTarget cfg env env.dnsNext
  | .pending =>
    let f : Frame := { f with self := { f.self with mPendingOperation := .dns } }
    f.restoreOriginalContactAndVia.clearMsgToRetransmit
  | .finished => f.processNoDnsResults cfg env
  | .destroyed => f.fault (.assertFailed .failoverDestroyed)

/-- An INVITE that had a provisional is Calling again, as it goes to a new endpoint. -/
def revertToCalling (f : Frame) : Frame :=
  if f.self.mMachine = .clientInvite ∧ f.self.mState = .proceeding then f.setState .calling else f

def noteFailure (reason : FailureReason) (subCode : ℤ) (f : Frame) : Frame :=
  if f.self.mFailureReason.toNat < reason.toNat then
    { f with self := { f.self with
        mTcpConnectTimerStarted := false, mFailureReason := reason, mFailureSubCode := subCode } }
  else { f with self := { f.self with mTcpConnectTimerStarted := false } }

def processTransportFailure (cfg : Config) (env : Env) (reason : FailureReason) (subCode : ℤ)
    (f : Frame) : Frame :=
  let f := f.noteFailure reason subCode
  if f.self.failedCancel then
    let f := f.assertThat (f.self.mMethod = .cancel) .failedCancelMethod
    match f.self.mNextTransmission with
    | some sip => f.sendToTU cfg env (failedCancelResponse cfg env sip)
    | none => f
  else if !f.self.mDnsResult then f.processNoDnsResults cfg env
  else
    let f := f.dnsCommand (.greylistLast (env.nowMs + cfg.dnsGreylistDurationMs))
    if f.self.shouldFailover then
      f.revertToCalling.failover cfg env
    else f.processNoDnsResults cfg env

def processTcpConnectState (cfg : Config) (state : TcpConnect) (f : Frame) : Frame :=
  if f.self.mState = .trying ∨ f.self.mState = .calling then
    match state with
    | .connectStarted =>
      if !f.self.mTcpConnectTimerStarted ∧ cfg.timers.tcpConnectTimeout ≠ 0 then
        let f := f.addTimer .tcpConnectTimer cfg.timers.tcpConnectTimeout
        { f with self := { f.self with mTcpConnectTimerStarted := true } }
      else f
    | .connected => { f with self := { f.self with mTcpConnectTimerStarted := false } }
  else f

/-- The TCP connect timer counts as a failed connection unless the connection came up. -/
def tcpConnectTimeout (cfg : Config) (env : Env) (f : Frame) : Frame :=
  if f.self.mTcpConnectTimerStarted then
    f.processTransportFailure cfg env .connectionException 0
  else f

/-- Callback of the DNS result when ENUM rewrites the request URI. -/
def rewriteRequest (rewrite : Uri) (f : Frame) : Frame :=
  match f.self.mNextTransmission with
  | none => f.fault (.nullDereference .rewriteRequest)
  | some sip =>
    match sip.startLine with
    | .response _ _ => f.fault (.assertFailed .rewriteRequest)
    | .request uri =>
      if uri = rewrite then f
      else f.resetNextTransmission (some { sip with startLine := .request rewrite })

def handleSync (cfg : Config) (env : Env) (f : Frame) : Frame :=
  if f.self.mPendingOperation = .dns then
    let f := f.assertThat f.self.mDnsResult .handleSyncState
    match env.dnsAvailable with
    | .available =>
      let f : Frame := { f with self := { f.self with mPendingOperation := .none } }
      match f.self.mNextTransmission with
      | none => f.fault (.nullDereference .handleSync)
      | some _ => f.useTarget cfg env env.dnsNext
    | .finished =>
      let f : Frame := { f with self := { f.self with mPendingOperation := .none } }
      f.processNoDnsResults cfg env
    | .pending => f
    | .destroyed => f.fault (.assertFailed .handleSyncState)
  else f

/-! ### Non-INVITE -/

/-- A request of the TU on a non-INVITE client transaction. -/
def clientNonInviteRequest (cfg : Config) (env : Env) (sip : SipMessage) (f : Frame) : Frame :=
  (((f.resetNextTransmission (some sip)).saveOriginalContactAndVia sip).addTimer .timerF
    cfg.timers.TF).sendCurrentToWire cfg env

def clientNonInviteProvisional (cfg : Config) (env : Env) (sip : SipMessage) (f : Frame) :
    Frame :=
  if f.self.mState = .trying ∨ f.self.mState = .proceeding then
    let f := if !f.self.mIsReliable ∧ f.self.mState = .trying
      then f.addTimer .timerE2 cfg.timers.T2 else f
    (f.setState .proceeding).sendToTU cfg env sip
  else f

def clientNonInviteFinal (cfg : Config) (env : Env) (sip : SipMessage) (f : Frame) : Frame :=
  let f :=
    if f.self.mState = .trying ∨ f.self.mState = .proceeding then f.sendToTU cfg env sip
    else f.assertThat (f.self.mState = .completed) .finalResponseState
  if f.self.mIsReliable then (f.terminateClientTransaction env).delete
  else if f.self.mState = .completed then f
  else (((f.setState .completed).addTimer .timerK cfg.timers.T4).destroyDnsResult).resetNextTransmission
    none

def clientNonInviteTimer (cfg : Config) (env : Env) (t : TransactionTimer) (f : Frame) : Frame :=
  match t.type with
  | .timerE1 =>
    if f.self.mState = .trying then
      let d := if t.duration < cfg.timers.T2 then t.duration * 2 else t.duration
      (f.addTimer .timerE1 d).sendCurrentToWire cfg env
    else f
  | .timerE2 =>
    if f.self.mState = .proceeding then
      (f.addTimer .timerE2 cfg.timers.T2).sendCurrentToWire cfg env
    else f
  | .tcpConnectTimer => f.tcpConnectTimeout cfg env
  | .timerF =>
    if f.self.mState = .trying ∨ f.self.mState = .proceeding then
      match f.self.mNextTransmission with
      | none => f.fault (.nullDereference .timerF)
      | some sip => ((f.sendToTU cfg env (timeoutResponse env f.self sip)).terminateClientTransaction
          env).delete
    else f
  | .timerK => (f.terminateClientTransaction env).delete
  | _ => f

def processClientNonInvite (cfg : Config) (env : Env) (msg : TransactionMessage) (f : Frame) :
    Frame :=
  match msg with
  | .sip m =>
    if m.isRequest ∧ !m.isExternal then f.clientNonInviteRequest cfg env m
    else if m.isResponseIn 100 699 ∧ m.isExternal then
      if m.statusCode < 200 then f.clientNonInviteProvisional cfg env m
      else f.clientNonInviteFinal cfg env m
    else f
  | .timer t => f.clientNonInviteTimer cfg env t
  | .transportFailure _ reason subCode => f.processTransportFailure cfg env reason subCode
  | .tcpConnectState _ state => f.processTcpConnectState cfg state
  | .dnsResultMessage _ _ => f.handleSync cfg env
  | _ => f

end Frame

/-! ### CANCEL -/

/-- `makeCancelTransaction`: the record and the timers of the new transaction. -/
def makeCancelTransaction (cfg : Config) (tr : TransactionState) (machine : Machine) (tid : Data) :
    Frame :=
  let cancel := TransactionState.create machine .trying tid .cancel [] tr.mTransactionUser
  let f := Frame.start { cancel with mResponseTarget := tr.mResponseTarget, mTarget := tr.mTarget }
  f.processReliability cfg tr.mTarget.mTransportType

/-- Gives a CANCEL the branch and the transport sequence of the request it cancels. -/
def SipMessage.onBranchOf (cancel request : SipMessage) : SipMessage :=
  { cancel with via := { cancel.via with
    branchTid := request.via.branchTid, branchTransportSeq := request.via.branchTransportSeq } }

/-- The new transaction of `handleInternalCancel`. -/
def newClientCancel (cfg : Config) (env : Env) (cancel : SipMessage) (invite : TransactionState)
    (request : SipMessage) : Frame :=
  (makeCancelTransaction cfg invite .clientNonInvite (invite.mId ++ cancelToken)).processClientNonInvite
    cfg env (.sip (cancel.onBranchOf request))

namespace Frame

def handleInternalCancel (cfg : Config) (env : Env) (cancel : SipMessage) (f : Frame) : Frame :=
  match f.self.mNextTransmission with
  | none => f.fault (.nullDereference .internalCancel)
  | some request =>
    let child := newClientCancel cfg env cancel f.self request
    let f : Frame := { f with spawned := some (child.self, child.out) }
    f.addTimer .timerCleanUp (128 * cfg.timers.T1)

/-- A CANCEL built from the stored INVITE, with the Reason headers to go with it. -/
def sendCancel (cfg : Config) (env : Env) (reasons : Option Data) (f : Frame) : Frame :=
  match f.self.mNextTransmission with
  | none => f.fault (.nullDereference .makeCancel)
  | some request => f.handleInternalCancel cfg env { makeCancel request with hReasons := reasons }

/-! ### INVITE -/

def clientInviteRequest (cfg : Config) (env : Env) (sip : SipMessage) (f : Frame) : Frame :=
  match sip.method with
  | .invite =>
    if f.self.mState = .calling ∧ f.self.mNextTransmission = none ∧ f.self.mMsgToRetransmit = none then
      (((f.resetNextTransmission (some sip)).saveOriginalContactAndVia sip).addTimer .timerB
        cfg.timers.TB).sendCurrentToWire cfg env
    else f
  | .cancel => f.fault (.assertFailed .clientInviteCancel)
  | _ => f

def clientInviteProvisional (cfg : Config) (env : Env) (sip : SipMessage) (f : Frame) : Frame :=
  if f.self.mState = .calling ∨ f.self.mState = .proceeding then
    let f := f.setState .proceeding
    let f :=
      if f.self.mIsAbandoned then
        let reasons := f.self.mPendingCancelReasons
        let f : Frame := { f with self := { f.self with mPendingCancelReasons := none } }
        (f.sendCancel cfg env reasons).setAbandoned false
      else f
    (f.clearMsgToRetransmit).sendToTU cfg env sip
  else f

def clientInviteSuccess (cfg : Config) (env : Env) (sip : SipMessage) (f : Frame) : Frame :=
  let f := (f.setAbandoned false).sendToTU cfg env sip
  let f : Frame := { f with self := { f.self with mMachine := .clientStale, mState := .completed } }
  ((f.resetNextTransmission none).destroyDnsResult).addTimer .timerStaleClient cfg.timers.TS

/-- Forges the ACK for a failure response and makes it the current message. -/
def forgeAck (sip : SipMessage) (f : Frame) : Frame :=
  match f.self.mNextTransmission with
  | none => f.fault (.nullDereference .failureAck)
  | some request => f.resetNextTransmission (some (makeFailureAck request sip))

def clientInviteFailure (cfg : Config) (env : Env) (sip : SipMessage) (f : Frame) : Frame :=
  let f := f.setAbandoned false
  if f.self.mIsReliable then
    let f := f.forgeAck sip
    let f := f.assertThat (f.self.mTarget.mTransportType ≠ .unknownTransport) .failureAckTarget
    let f := (f.sendCurrentToWire cfg env).sendToTU cfg env sip
    (f.terminateClientTransaction env).delete
  else if f.self.mState = .calling ∨ f.self.mState = .proceeding then
    let f := ((f.setState .completed).addTimer .timerD cfg.timers.TD).forgeAck sip
    ((f.sendCurrentToWire cfg env).sendToTU cfg env sip).destroyDnsResult
  else if f.self.mState = .completed then f.sendCurrentToWire cfg env
  else f.fault (.assertFailed .failureAckState)

def clientInviteTimeout (cfg : Config) (env : Env) (site : Site) (f : Frame) : Frame :=
  match f.self.mNextTransmission with
  | none => f.fault (.nullDereference site)
  | some sip =>
    let f := f.assertThat (sip.isRequest && decide (sip.method = .invite)) site
    ((f.sendToTU cfg env (timeoutResponse env f.self sip)).terminateClientTransaction env).delete

def clientInviteTimer (cfg : Config) (env : Env) (t : TransactionTimer) (f : Frame) : Frame :=
  match t.type with
  | .timerA =>
    if f.self.mState = .calling ∧ !f.self.mIsAbandoned then
      (f.addTimer .timerA (t.duration * 2)).sendCurrentToWire cfg env
    else f
  | .tcpConnectTimer => f.tcpConnectTimeout cfg env
  | .timerB => if f.self.mState = .calling then f.clientInviteTimeout cfg env .timerB else f
  | .timerD => (f.terminateClientTransaction env).delete
  | .timerCleanUp =>
    if f.self.mState = .proceeding then f.clientInviteTimeout cfg env .timerCleanUp else f
  | _ => f

/-- `CancelClientInviteTransaction`: the CANCEL is sent now, or once a provisional is in. -/
def clientInviteCancel (cfg : Config) (env : Env) (reasons : Option Data) (f : Frame) : Frame :=
  if f.self.mState = .proceeding then f.sendCancel cfg env reasons
  else if f.self.mState = .calling then
    { f with self := { f.self with mIsAbandoned := true, mPendingCancelReasons := reasons } }
  else f

def processClientInvite (cfg : Config) (env : Env) (msg : TransactionMessage) (f : Frame) :
    Frame :=
  match msg with
  | .sip m =>
    if m.isRequest ∧ !m.isExternal then f.clientInviteRequest cfg env m
    else if m.isResponseIn 100 699 ∧ m.isExternal then
      match m.method with
      | .invite =>
        if m.statusCode < 200 then f.clientInviteProvisional cfg env m
        else if m.statusCode < 300 then f.clientInviteSuccess cfg env m
        else f.clientInviteFailure cfg env m
      | .cancel => f.fault (.assertFailed .clientInviteCancel)
      | _ => f
    else f
  | .timer t => f.clientInviteTimer cfg env t
  | .transportFailure _ reason subCode => f.processTransportFailure cfg env reason subCode
  | .tcpConnectState _ state => f.processTcpConnectState cfg state
  | .cancelClientInviteTransaction _ reasons => f.clientInviteCancel cfg env reasons
  | .dnsResultMessage _ _ => f.handleSync cfg env
  | _ => f

/-! ### Stale and stateless -/

def processClientStale (cfg : Config) (env : Env) (msg : TransactionMessage) (f : Frame) : Frame :=
  match msg with
  | .timer t =>
    if t.type = .timerStaleClient then (f.terminateClientTransaction env).delete else f
  | .transportFailure _ reason subCode => f.processTransportFailure cfg env reason subCode
  | .sip m =>
    if m.isResponseIn 200 299 then
      (f.assertThat m.isExternal .clientStaleWire).sendToTU cfg env m
    else f
  | .dnsResultMessage _ _ => f.handleSync cfg env
  | _ => f

def processStateless (cfg : Config) (env : Env) (msg : TransactionMessage) (f : Frame) : Frame :=
  match msg with
  | .sip m =>
    if !m.isExternal then (f.resetNextTransmission (some m)).sendCurrentToWire cfg env
    else f.sendToTU cfg env m
  | .transportFailure _ reason subCode =>
    (f.processTransportFailure cfg env reason subCode).delete
  | .tcpConnectState _ _ => f
  | .timer t =>
    if t.type = .timerStateless then f.delete else f.fault (.assertFailed .statelessTimer)
  | .dnsResultMessage _ _ => f.handleSync cfg env
  | .abandonServerTransaction _ => f
  | _ => f.fault (.assertFailed .statelessMessage)

end Frame

end Resiprocate.Transaction
