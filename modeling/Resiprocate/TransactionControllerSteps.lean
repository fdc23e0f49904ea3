import Resiprocate.TransactionSession

/-! What one step of the controller can do to its maps and its timer queue: a message or a
timer changes the transaction it was matched to, or opens a new one. -/
namespace Resiprocate.Transaction

/-- A stale transaction is the INVITE transaction it was. -/
def Machine.family : Machine → Machine
  | .clientStale => .clientInvite
  | .serverStale => .serverInvite
  | m => m

theorem Machine.isClient_of_family {m m' : Machine} (h : m.family = m'.family) :
    m.isClient = m'.isClient := by
  cases m <;> cases m' <;> simp_all [family, isClient]

/-! ### What identifies a transaction -/

/-- `g` is a later frame of the transaction of `f` and has opened no other. -/
structure Frame.Continues (f g : Frame) : Prop where
  mId : g.self.mId = f.self.mId
  family : g.self.mMachine.family = f.self.mMachine.family
  spawned : g.spawned = f.spawned

namespace Frame
variable (cfg : Config) (env : Env) (f : Frame)

theorem Continues.refl : f.Continues f := ⟨rfl, rfl, rfl⟩

variable {f} in
theorem Continues.trans {g k : Frame} (h : f.Continues g) (h' : g.Continues k) : f.Continues k :=
  ⟨h'.mId.trans h.mId, h'.family.trans h.family, h'.spawned.trans h.spawned⟩

/-- Nothing that identifies the transaction was touched. -/
def Same (g : Frame) : Prop :=
  g.self.mId = f.self.mId ∧ g.self.mMachine = f.self.mMachine ∧ g.spawned = f.spawned

variable {f} in
theorem Same.continues {g : Frame} (h : f.Same g) : f.Continues g :=
  ⟨h.1, congrArg Machine.family h.2.1, h.2.2⟩

variable {f} in
theorem Same.trans {g k : Frame} (h : f.Same g) (h' : g.Same k) : f.Same k :=
  ⟨h'.1.trans h.1, h'.2.1.trans h.2.1, h'.2.2.trans h.2.2⟩

theorem restoreOriginalContactAndVia_same : f.Same f.restoreOriginalContactAndVia := by
  unfold restoreOriginalContactAndVia Same
  repeat' split
  all_goals simp

theorem processNoDnsResults_same : f.Same (f.processNoDnsResults cfg env) := by
  simp only [processNoDnsResults, Same]
  repeat' split
  all_goals simp

theorem failover_same : f.Same (f.failover cfg env) := by
  have h := f.restoreOriginalContactAndVia_same
  simp only [failover]
  split
  · simpa [useTarget, Same] using ((f.assertThat _ _).restoreOriginalContactAndVia_same)
  · exact Same.trans (by simp [Same]) (restoreOriginalContactAndVia_same _)
  · exact Same.trans (by simp [Same]) (processNoDnsResults_same cfg env _)
  · simp [Same]

theorem processTransportFailure_same (reason : FailureReason) (subCode : ℤ) :
    f.Same (f.processTransportFailure cfg env reason subCode) := by
  have hnote : f.Same (f.noteFailure reason subCode) := by
    unfold noteFailure
    split <;> simp [Same]
  refine hnote.trans ?_
  simp only [processTransportFailure]
  generalize f.noteFailure reason subCode = g
  split
  · simp only [assertThat_frame]
    split <;> simp [Same]
  · split
    · exact processNoDnsResults_same cfg env g
    · split
      · refine Same.trans ?_ (failover_same cfg env _)
        unfold revertToCalling
        split <;> simp [Same]
      · exact Same.trans (by simp [Same]) (processNoDnsResults_same cfg env _)

theorem tcpConnectTimeout_same : f.Same (f.tcpConnectTimeout cfg env) := by
  unfold tcpConnectTimeout
  split
  · exact processTransportFailure_same cfg env f _ _
  · simp [Same]

theorem handleSync_same : f.Same (f.handleSync cfg env) := by
  simp only [handleSync]
  repeat' split
  · simp [Same]
  · simp [Same, useTarget]
  · exact Same.trans (by simp [Same]) (processNoDnsResults_same cfg env _)
  all_goals simp [Same]

theorem rewriteRequest_same (uri : Uri) : f.Same (f.rewriteRequest uri) := by
  unfold rewriteRequest
  repeat' split
  all_goals simp [Same]

theorem processClientNonInvite_same (msg : TransactionMessage) :
    f.Same (f.processClientNonInvite cfg env msg) := by
  unfold processClientNonInvite
  split
  case h_1 m =>
    simp only [clientNonInviteRequest, clientNonInviteProvisional, clientNonInviteFinal]
    repeat' split
    all_goals simp [Same, saveOriginalContactAndVia]
  case h_2 t =>
    unfold clientNonInviteTimer
    split
    case h_3 => exact tcpConnectTimeout_same cfg env f
    all_goals
      repeat' split
      all_goals simp [Same]
  case h_3 => exact processTransportFailure_same cfg env f _ _
  case h_4 =>
    simp only [processTcpConnectState]
    repeat' split
    all_goals simp [Same]
  case h_5 => exact handleSync_same cfg env f
  case h_6 => simp [Same]

theorem processClientStale_same (msg : TransactionMessage) :
    f.Same (f.processClientStale cfg env msg) := by
  unfold processClientStale
  repeat' split
  case h_2 => exact processTransportFailure_same cfg env f _ _
  case h_4 => exact handleSync_same cfg env f
  all_goals simp [Same]

theorem processStateless_same (msg : TransactionMessage) :
    f.Same (f.processStateless cfg env msg) := by
  unfold processStateless
  repeat' split
  case h_2 reason subCode =>
    exact (processTransportFailure_same cfg env f reason subCode).trans (by simp [Same])
  case h_5 => exact handleSync_same cfg env f
  all_goals simp [Same]

theorem processServerNonInvite_same (msg : TransactionMessage) :
    f.Same (f.processServerNonInvite cfg env msg) := by
  unfold processServerNonInvite
  split
  case h_1 m =>
    simp only [serverNonInviteRequest, serverNonInviteProvisional, serverNonInviteFinal]
    repeat' split
    all_goals simp [Same]
  case h_2 t =>
    unfold serverNonInviteTimer
    repeat' split
    all_goals simp [Same]
  case h_4 =>
    simp only [serverNonInviteAbandon]
    repeat' split
    all_goals simp [Same]
  case h_5 => exact handleSync_same cfg env f
  all_goals simp [Same]

theorem processServerStale_same (msg : TransactionMessage) :
    f.Same (f.processServerStale cfg env msg) := by
  unfold processServerStale
  repeat' split
  case h_2 => exact processTransportFailure_same cfg env f _ _
  case h_4 => exact handleSync_same cfg env f
  all_goals simp [Same]

/-- An answered INVITE transaction turns stale. -/
theorem processServerInvite_continues (msg : TransactionMessage)
    (hm : f.self.mMachine = .serverInvite) :
    f.Continues (f.processServerInvite cfg env msg) := by
  unfold processServerInvite
  split
  case h_1 m =>
    simp only [serverInviteRetransmission, serverInviteAck, serverInviteProvisional,
      serverInviteSuccess, serverInviteFailure, startResponseTimers]
    repeat' split
    all_goals constructor <;> simp [Machine.family, hm]
  case h_2 t =>
    unfold serverInviteTimer
    repeat' split
    all_goals exact Same.continues (by simp [Same])
  case h_4 =>
    simp only [serverInviteAbandon, startResponseTimers]
    repeat' split
    all_goals exact Same.continues (by simp [Same])
  case h_5 => exact (handleSync_same cfg env f).continues
  all_goals exact Same.continues (by simp [Same])

end Frame

/-! ### CANCEL transactions of the client -/

/-- A CANCEL goes out for the transaction: on the first provisional once the TU has given up,
or at once when the TU gives up after a provisional. -/
def TransactionState.sendsCancel (st : TransactionState) : TransactionMessage → Bool
  | .sip m => decide (st.mMachine = .clientInvite) && st.mNextTransmission.isSome &&
      st.methodMatches m && m.isResponseIn 100 199 && m.isExternal && decide (m.method = .invite) &&
      decide (st.mState = .calling ∨ st.mState = .proceeding) && st.mIsAbandoned
  | .cancelClientInviteTransaction _ _ => decide (st.mMachine = .clientInvite) &&
      st.mNextTransmission.isSome && decide (st.mState = .proceeding)
  | _ => false

/-- `g` carries on the transaction of `f` and may have opened a CANCEL transaction for it. -/
structure Frame.Spawns (f g : Frame) (cancel : Prop) : Prop where
  mId : g.self.mId = f.self.mId
  family : g.self.mMachine.family = f.self.mMachine.family
  spawned : ∀ child out, g.spawned = some (child, out) →
    cancel ∧ child.mMachine = .clientNonInvite ∧ child.mId = f.self.mId ++ cancelToken

namespace Frame
variable (cfg : Config) (env : Env) {f : Frame}

theorem Continues.spawns {g : Frame} (h : f.Continues g) (hf : f.spawned = none) (cancel : Prop) :
    f.Spawns g cancel :=
  ⟨h.mId, h.family, by simp [h.spawned, hf]⟩

theorem makeCancelTransaction_self (cfg : Config) (tr : TransactionState) (machine : Machine)
    (tid : Data) :
    (makeCancelTransaction cfg tr machine tid).self.mId = tid ∧
    (makeCancelTransaction cfg tr machine tid).self.mMachine = machine ∧
    (makeCancelTransaction cfg tr machine tid).spawned = none := by
  simp [makeCancelTransaction, start, TransactionState.create]

theorem newClientCancel_self (cancel : SipMessage) (invite : TransactionState)
    (request : SipMessage) :
    (newClientCancel cfg env cancel invite request).self.mId = invite.mId ++ cancelToken ∧
    (newClientCancel cfg env cancel invite request).self.mMachine = .clientNonInvite := by
  obtain ⟨hid, hm, -⟩ := makeCancelTransaction_self cfg invite .clientNonInvite
    (invite.mId ++ cancelToken)
  obtain ⟨h₁, h₂, -⟩ := processClientNonInvite_same cfg env
    (makeCancelTransaction cfg invite .clientNonInvite (invite.mId ++ cancelToken))
    (.sip (cancel.onBranchOf request))
  exact ⟨h₁.trans hid, h₂.trans hm⟩

theorem handleInternalCancel_spawns (cancel : SipMessage) (hf : f.spawned = none) :
    f.Spawns (f.handleInternalCancel cfg env cancel) (f.self.mNextTransmission.isSome) := by
  unfold handleInternalCancel
  split
  case h_1 => exact Continues.spawns (Same.continues (by simp [Same])) hf _
  case h_2 request hn =>
    refine ⟨by simp, by simp, ?_⟩
    rintro child out h
    simp only [addTimer_frame, Option.some.injEq, Prod.mk.injEq] at h
    obtain ⟨rfl, -⟩ := h
    obtain ⟨hid, hm⟩ := newClientCancel_self cfg env cancel f.self request
    exact ⟨by simp [hn], hm, hid⟩

theorem sendCancel_spawns (reasons : Option Data) (hf : f.spawned = none) :
    f.Spawns (f.sendCancel cfg env reasons) (f.self.mNextTransmission.isSome) := by
  unfold sendCancel
  split
  case h_1 => exact Continues.spawns (Same.continues (by simp [Same])) hf _
  case h_2 => exact handleInternalCancel_spawns cfg env _ hf

theorem Spawns.mono {g : Frame} {p q : Prop} (h : f.Spawns g p) (hpq : p → q) : f.Spawns g q :=
  ⟨h.mId, h.family, fun child out hs => (h.spawned child out hs).imp_left hpq⟩

/-- The transaction goes on as the same one before and after a CANCEL may be sent. -/
theorem Spawns.within {g h k : Frame} {p : Prop} (hfg : f.Same g) (hgh : g.Spawns h p)
    (hhk : h.Same k) : f.Spawns k p := by
  refine ⟨hhk.1.trans (hgh.mId.trans hfg.1), ?_, ?_⟩
  · rw [hhk.2.1, hgh.family, hfg.2.1]
  · intro child out hs
    rw [← hfg.1]
    exact hgh.spawned child out (hhk.2.2 ▸ hs)

theorem clientInviteProvisional_spawns (sip : SipMessage) (hf : f.spawned = none) :
    f.Spawns (f.clientInviteProvisional cfg env sip)
      ((f.self.mState = .calling ∨ f.self.mState = .proceeding) ∧ f.self.mIsAbandoned = true ∧
        f.self.mNextTransmission.isSome) := by
  unfold clientInviteProvisional
  split
  case isFalse => exact Continues.spawns (Continues.refl f) hf _
  case isTrue hs =>
    dsimp only
    split
    case isFalse => exact Continues.spawns (Same.continues (by simp [Same])) hf _
    case isTrue ha =>
      have hcancel := sendCancel_spawns (f := { f.setState .proceeding with
        self := { (f.setState .proceeding).self with mPendingCancelReasons := none } })
        cfg env f.self.mPendingCancelReasons hf
      exact (Spawns.within (by simp [Same]) hcancel (by simp [Same])).mono fun hn => ⟨hs, ha, hn⟩

theorem clientInviteCancel_spawns (reasons : Option Data) (hf : f.spawned = none) :
    f.Spawns (f.clientInviteCancel cfg env reasons)
      (f.self.mState = .proceeding ∧ f.self.mNextTransmission.isSome) := by
  unfold clientInviteCancel
  split
  case isTrue hs => exact (sendCancel_spawns cfg env reasons hf).mono fun hn => ⟨hs, hn⟩
  case isFalse =>
    split <;> exact Continues.spawns (Same.continues (by simp [Same])) hf _

theorem forgeAck_same (f : Frame) (sip : SipMessage) : f.Same (f.forgeAck sip) := by
  unfold forgeAck
  split <;> simp [Same]

theorem clientInviteFailure_same (f : Frame) (sip : SipMessage) :
    f.Same (f.clientInviteFailure cfg env sip) := by
  simp only [clientInviteFailure]
  repeat' split
  · exact (forgeAck_same (f.setAbandoned false) sip).trans (by simp [Same])
  · exact Same.trans (by simp [Same]) ((forgeAck_same (((f.setAbandoned false).setState
      .completed).addTimer .timerD cfg.timers.TD) sip).trans (by simp [Same]))
  all_goals simp [Same]

theorem clientInviteTimer_same (f : Frame) (t : TransactionTimer) :
    f.Same (f.clientInviteTimer cfg env t) := by
  unfold clientInviteTimer
  split
  case h_2 => exact tcpConnectTimeout_same cfg env f
  case h_3 | h_5 =>
    simp only [clientInviteTimeout]
    repeat' split
    all_goals simp [Same]
  all_goals
    repeat' split
    all_goals simp [Same]

/-- The response is a provisional one for an INVITE the TU has given up. -/
theorem processClientInvite_spawns (msg : TransactionMessage) (hf : f.spawned = none)
    (hm : f.self.mMachine = .clientInvite)
    (hmatch : ∀ m, msg = .sip m → f.self.methodMatches m = true) :
    f.Spawns (f.processClientInvite cfg env msg) (f.self.sendsCancel msg = true) := by
  unfold processClientInvite
  split
  case h_1 m =>
    split
    case isTrue =>
      refine Continues.spawns (Same.continues ?_) hf _
      unfold clientInviteRequest
      repeat' split
      all_goals simp [Same, saveOriginalContactAndVia]
    case isFalse =>
      split
      case isFalse => exact Continues.spawns (Continues.refl f) hf _
      case isTrue hresp =>
        split
        case h_1 hmethod =>
          split
          case isTrue hc =>
            refine (clientInviteProvisional_spawns cfg env m hf).mono ?_
            rintro ⟨hs, ha, hn⟩
            have hr : m.isResponseIn 100 199 = true := by
              have hin := hresp.1
              simp only [SipMessage.isResponseIn, Bool.and_eq_true, decide_eq_true_eq] at hin ⊢
              exact ⟨hin.1, hin.2.1, by omega⟩
            simp [TransactionState.sendsCancel, hm, hn, hmatch m rfl, hr, hresp.2, hmethod, hs, ha]
          case isFalse =>
            refine Continues.spawns ?_ hf _
            split
            case isTrue =>
              unfold clientInviteSuccess
              constructor <;> simp [Machine.family, hm]
            case isFalse => exact (clientInviteFailure_same cfg env f m).continues
        case h_2 => exact Continues.spawns (Same.continues (by simp [Same])) hf _
        case h_3 => exact Continues.spawns (Continues.refl f) hf _
  case h_2 t =>
    exact Continues.spawns (clientInviteTimer_same cfg env f t).continues hf _
  case h_3 => exact Continues.spawns (processTransportFailure_same cfg env f _ _).continues hf _
  case h_4 =>
    refine Continues.spawns (Same.continues ?_) hf _
    simp only [processTcpConnectState]
    repeat' split
    all_goals simp [Same]
  case h_5 reasons =>
    refine (clientInviteCancel_spawns cfg env reasons hf).mono ?_
    rintro ⟨hs, hn⟩
    simp [TransactionState.sendsCancel, hm, hs, hn]
  case h_6 => exact Continues.spawns (handleSync_same cfg env f).continues hf _
  case h_7 => exact Continues.spawns (Continues.refl f) hf _

theorem cancelFromTU_spawns (cancel : SipMessage) (hf : f.spawned = none) :
    f.Spawns (f.cancelFromTU cfg env cancel) (f.self.mState ≠ .calling ∧
      f.self.mState ≠ .completed ∧ f.self.mNextTransmission.isSome) := by
  unfold cancelFromTU
  split
  case isTrue => exact Continues.spawns (Same.continues (by simp [Same])) hf _
  case isFalse hcalling =>
    split
    case isTrue => exact Continues.spawns (Continues.refl f) hf _
    case isFalse hcompleted =>
      exact (handleInternalCancel_spawns cfg env cancel hf).mono fun hn =>
        ⟨hcalling, hcompleted, hn⟩

theorem dispatch_spawns (msg : TransactionMessage) (hf : f.spawned = none)
    (hmatch : ∀ m, msg = .sip m → f.self.methodMatches m = true) :
    f.Spawns (f.dispatch cfg env msg) (f.self.sendsCancel msg = true) := by
  unfold dispatch
  split
  case h_1 => exact Continues.spawns (processClientNonInvite_same cfg env f msg).continues hf _
  case h_2 hm => exact processClientInvite_spawns cfg env msg hf hm hmatch
  case h_3 => exact Continues.spawns (processServerNonInvite_same cfg env f msg).continues hf _
  case h_4 hm => exact Continues.spawns (processServerInvite_continues cfg env f msg hm) hf _
  case h_5 => exact Continues.spawns (processStateless_same cfg env f msg).continues hf _
  case h_6 => exact Continues.spawns (processClientStale_same cfg env f msg).continues hf _
  case h_7 => exact Continues.spawns (processServerStale_same cfg env f msg).continues hf _

end Frame

theorem TransactionState.sendsCancel_fixResponse (cfg : Config) (st : TransactionState)
    (m : SipMessage) : st.sendsCancel (.sip (st.fixResponse cfg m)) = st.sendsCancel (.sip m) := by
  obtain ⟨hline, hmethod, hstr, hext⟩ := st.fixResponse_fields cfg m
  have hmatch : st.methodMatches (st.fixResponse cfg m) = st.methodMatches m := by
    unfold methodMatches
    split <;> simp only [hmethod, hstr]
  have hin : (st.fixResponse cfg m).isResponseIn 100 199 = m.isResponseIn 100 199 := by
    have hreq : (st.fixResponse cfg m).isRequest = m.isRequest := by
      rw [SipMessage.isRequest, hline, ← SipMessage.isRequest]
    have hcode : (st.fixResponse cfg m).statusCode = m.statusCode := by
      rw [SipMessage.statusCode, hline, ← SipMessage.statusCode]
    simp only [SipMessage.isResponseIn, SipMessage.isResponse, hreq, hcode]
  simp only [sendsCancel, hmatch, hin, hext, hmethod]

/-- A transaction that receives a message stays the transaction it was. -/
theorem TransactionState.receive_spawns (cfg : Config) (env : Env) (msg : TransactionMessage)
    (st : TransactionState) :
    (Frame.start st).Spawns (st.receive cfg env msg) (st.sendsCancel msg = true) := by
  unfold receive
  split
  case h_1 m =>
    dsimp only
    split
    case isTrue hmatch =>
      have h := Frame.dispatch_spawns (f := (Frame.start st).assertThat
        (decide (st.mMachine ≠ .clientInvite) || (st.fixResponse cfg m).isExternal ||
          !(st.fixResponse cfg m).isRequest || decide ((st.fixResponse cfg m).method ≠ .ack))
        .clientInviteAck) cfg env (.sip (st.fixResponse cfg m)) (by simp [Frame.start]) (by
          rintro _ ⟨⟩
          rw [(Frame.assertThat_frame _ _ _).1]
          exact hmatch.1)
      obtain ⟨hid, hfamily, hspawned⟩ := h
      rw [(Frame.assertThat_frame _ _ _).1] at hid hfamily hspawned
      rw [← st.sendsCancel_fixResponse cfg m]
      exact ⟨hid, hfamily, hspawned⟩
    case isFalse => exact (Frame.Continues.refl _).spawns rfl _
  case h_2 hne => exact Frame.dispatch_spawns cfg env msg rfl fun m hm => absurd hm (hne m)

/-! ### Which transaction a message opens -/

namespace TransactionController

/-- The machine and the id of the transaction opened by a new request from the wire. -/
def opensFromWire (c : TransactionController) (sip : SipMessage) (tid : Data) :
    Option (Machine × Data) :=
  match sip.method with
  | .invite => some (.serverInvite, tid)
  | .cancel =>
    if (c.mServerTransactionMap.find sip.getTransactionId).isSome then some (.serverNonInvite, tid)
    else none
  | .ack => none
  | _ => some (.serverNonInvite, tid)

/-- The same for a new request of the TU. -/
def opensFromTU (c : TransactionController) (sip : SipMessage) (tid : Data) :
    Option (Machine × Data) :=
  match sip.method with
  | .invite => some (.clientInvite, tid)
  | .ack => some (.stateless, tid)
  | .cancel =>
    match c.mClientTransactionMap.find sip.getTransactionId with
    | none => none
    | some st =>
      if st.mState ≠ .calling ∧ st.mState ≠ .completed ∧ st.mNextTransmission.isSome then
        some (.clientNonInvite, st.mId ++ cancelToken)
      else none
  | _ => some (.clientNonInvite, tid)

def opensAsNew (cfg : Config) (env : Env) (c : TransactionController) (sip : SipMessage)
    (tid : Data) : Option (Machine × Data) :=
  if sip.isRequest then
    if sip.isExternal then
      if cfg.haveTransactionUsers ∧ env.selectTransactionUser sip = none then none
      else c.opensFromWire sip tid
    else c.opensFromTU sip tid
  else if cfg.mDiscardStrayResponses then none
  else some (.stateless, decimal c.statelessIdCounter)

def opensDelivered (cfg : Config) (env : Env) (c : TransactionController)
    (msg : TransactionMessage) : Option (Machine × Data) :=
  match (c.map msg.isClientTransaction).find msg.tid, msg with
  | some st, .sip m =>
    if st.isBadAck200 m then c.opensAsNew cfg env m msg.tid
    else if st.sendsCancel msg then some (.clientNonInvite, st.mId ++ cancelToken)
    else none
  | some st, msg =>
    if st.sendsCancel msg then some (.clientNonInvite, st.mId ++ cancelToken) else none
  | none, .sip m => c.opensAsNew cfg env m msg.tid
  | none, _ => none

/-- The machine and the id of the transaction opened by a message. -/
def opens (cfg : Config) (env : Env) (c : TransactionController) (msg : TransactionMessage) :
    Option (Machine × Data) :=
  match msg with
  | .control _ | .badTid => none
  | .sip m =>
    if m.isRequest ∧ m.method ≠ .ack ∧ m.isInvalid then none else c.opensDelivered cfg env msg
  | msg => c.opensDelivered cfg env msg

end TransactionController

/-! ### The maps and the timer queue -/

namespace Emission

def timers : Emission → List TransactionTimer
  | .transaction _ out => out.timers
  | _ => []

/-- A transaction was added to the map of a side under a key. -/
def registers (isClient : Bool) (key : Data) : Emission → Bool
  | .registered isClient' tid => decide (isClient' = isClient ∧ branchKey tid = key)
  | _ => false

end Emission

namespace TransactionController

/-- Every transaction stands in the map of its side under its own id. -/
def Filed (c : TransactionController) : Prop :=
  ∀ side key st, c.map side key = some st → branchKey st.mId = key ∧ st.isClient = side

theorem filed_empty : empty.Filed := by
  intro side key st h
  cases side <;> cases h

theorem store_map (c : TransactionController) (st : TransactionState) (deleted side : Bool)
    (key : Data) : (c.store st deleted).map side key =
      if side = st.isClient ∧ key = branchKey st.mId then (if deleted then none else some st)
      else c.map side key := by
  cases hs : st.isClient <;> cases side <;>
    simp [store, setMap, map, hs, TransactionMap.set, Function.update_apply]

@[simp] theorem store_mTimers (c : TransactionController) (st : TransactionState)
    (deleted : Bool) : (c.store st deleted).mTimers = c.mTimers := by
  cases hs : st.isClient <;> simp [store, setMap, hs]

theorem Filed.store {c : TransactionController} (h : c.Filed) (st : TransactionState)
    (deleted : Bool) : (c.store st deleted).Filed := by
  intro side key st' hst
  rw [store_map] at hst
  split at hst
  case isTrue hown =>
    split at hst
    · cases hst
    · cases hst
      exact ⟨hown.2.symm, hown.1.symm⟩
  case isFalse => exact h side key st' hst

/-- A step that opens at most the given transaction, and otherwise changes transactions it
finds. -/
structure Evolves (c : TransactionController) (opened : Option (Machine × Data))
    (r : TransactionController × List Emission) : Prop where
  timers : r.1.mTimers = c.mTimers ++ r.2.flatMap Emission.timers
  filed : r.1.Filed
  kept : ∀ side key st', r.1.map side key = some st' →
    (r.2.countP (Emission.registers side key) = 0 ∧
      ∃ st, c.map side key = some st ∧ st'.mMachine.family = st.mMachine.family) ∨
    (0 < r.2.countP (Emission.registers side key) ∧
      ∃ m tid, opened = some (m, tid) ∧ branchKey tid = key ∧ m.isClient = side ∧
        st'.mMachine.family = m.family)

variable {c : TransactionController} {opened : Option (Machine × Data)}

/-- A step that leaves the transactions alone. -/
theorem Evolves.quiet (hc : c.Filed) (opened : Option (Machine × Data)) {emitted : List Emission}
    (ht : emitted.flatMap Emission.timers = [])
    (hr : ∀ side key, emitted.countP (Emission.registers side key) = 0) :
    c.Evolves opened (c, emitted) :=
  ⟨by simp [ht], hc, fun side key st h => .inl ⟨hr side key, st, h, rfl⟩⟩

theorem install_evolves (hc : c.Filed) {st : TransactionState} (side : Bool) {key : Data}
    (hst : c.map side key = some st) {f : Frame} {cancel : Prop}
    (hf : (Frame.start st).Spawns f cancel)
    (hopened : cancel → opened = some (.clientNonInvite, st.mId ++ cancelToken)) :
    c.Evolves opened (c.install f) := by
  obtain ⟨hkey, hside⟩ := hc side key st hst
  have hid : f.self.mId = st.mId := hf.mId
  have hclient : f.self.isClient = side := by
    rw [← hside]
    exact Machine.isClient_of_family hf.family
  -- what stands in the maps once the transaction itself is stored
  have hown : ∀ side' key' st', (c.store f.self f.deleted).map side' key' = some st' →
      ∃ st, c.map side' key' = some st ∧ st'.mMachine.family = st.mMachine.family := by
    intro side' key' st' h
    rw [store_map, hclient, hid, hkey] at h
    split at h
    case isTrue heq =>
      split at h
      · cases h
      · cases h
        rw [heq.1, heq.2]
        exact ⟨st, hst, hf.family⟩
    case isFalse => exact ⟨st', h, rfl⟩
  unfold install
  cases hspawned : f.spawned with
  | none =>
    exact ⟨by simp [Emission.timers], hc.store _ _, fun side' key' st' h =>
      .inl ⟨by simp [Emission.registers], hown side' key' st' h⟩⟩
  | some child =>
    obtain ⟨child, out⟩ := child
    obtain ⟨hcancel, hmachine, hchild⟩ := hf.spawned child out hspawned
    have hchildClient : child.isClient = true := by
      simp [TransactionState.isClient, hmachine, Machine.isClient]
    have hfiled : ({ c.store f.self f.deleted with
        mTimers := (c.store f.self f.deleted).mTimers ++ f.out.timers } : TransactionController).Filed :=
      hc.store _ _
    refine ⟨by simp [Emission.timers], hfiled.store child false, fun side' key' st' h => ?_⟩
    replace h : (({ c.store f.self f.deleted with
        mTimers := (c.store f.self f.deleted).mTimers ++ f.out.timers } : TransactionController).store
          child false).map side' key' = some st' := h
    rw [store_map] at h
    split at h
    case isTrue heq =>
      cases h
      refine .inr ⟨by simp [Emission.registers, heq], .clientNonInvite, child.mId, ?_, heq.2.symm,
        ?_, by rw [hmachine]⟩
      · rw [hopened hcancel, hchild]
        rfl
      · rw [heq.1, hchildClient]
        rfl
    case isFalse hne =>
      refine .inl ⟨?_, hown side' key' st' h⟩
      have : ¬ (child.isClient = side' ∧ branchKey child.mId = key') :=
        fun h' => hne ⟨h'.1.symm, h'.2.symm⟩
      simp [Emission.registers, this]

theorem register_evolves (hc : c.Filed) {f : Frame} {machine : Machine} {tid : Data}
    (hid : f.self.mId = tid) (hm : f.self.mMachine.family = machine.family)
    (hs : f.spawned = none) : c.Evolves (some (machine, tid)) (c.register f) := by
  have hside : f.self.isClient = machine.isClient := Machine.isClient_of_family hm
  simp only [register, install, hs]
  refine ⟨by simp [Emission.timers], hc.store _ _, fun side key st' h => ?_⟩
  replace h : (c.store f.self f.deleted).map side key = some st' := h
  rw [store_map] at h
  split at h
  case isTrue heq =>
    split at h
    · cases h
    · cases h
      exact .inr ⟨by simp [Emission.registers, heq], machine, tid, rfl, by rw [heq.2, hid],
        by rw [heq.1, hside], hm⟩
  case isFalse hne =>
    refine .inl ⟨?_, st', h, rfl⟩
    have : ¬ (f.self.isClient = side ∧ branchKey f.self.mId = key) :=
      fun h' => hne ⟨h'.1.symm, h'.2.symm⟩
    simp [Emission.registers, this]

end TransactionController

/-! ### New transactions -/

/-- A frame of a transaction of the given machine and id that has opened no other. -/
structure Frame.Opened (f : Frame) (machine : Machine) (tid : Data) : Prop where
  mId : f.self.mId = tid
  family : f.self.mMachine.family = machine.family
  spawned : f.spawned = none

namespace Frame
variable (cfg : Config) (env : Env) {f : Frame} {machine : Machine} {tid : Data}

theorem Opened.continues {g : Frame} (h : f.Opened machine tid) (hg : f.Continues g) :
    g.Opened machine tid :=
  ⟨hg.mId.trans h.mId, hg.family.trans h.family, hg.spawned.trans h.spawned⟩

theorem sendRequestToTU_continues (sip : SipMessage)
    (hm : f.self.mMethod = .invite → f.self.mMachine = .serverInvite) :
    f.Continues (f.sendRequestToTU cfg env sip) := by
  simp only [sendRequestToTU]
  split
  · exact Same.continues (by simp [Same])
  · have hassert : f.Same (f.assertThat sip.isExternal .sendToTuExternal) := by simp [Same]
    split
    case isTrue hinvite =>
      refine hassert.continues.trans (processServerInvite_continues cfg env _ _ ?_)
      rw [hassert.2.1]
      exact hm (by simpa using hinvite)
    case isFalse => exact hassert.continues.trans (processServerNonInvite_same cfg env _ _).continues

theorem newServerInvite_opened (sip : SipMessage) (tu : Option ℕ) :
    (newServerInvite cfg env sip tid tu).Opened .serverInvite tid := by
  simp only [newServerInvite]
  generalize hst : ({ TransactionState.create .serverInvite .trying tid .invite [] tu with
    mNextTransmission := some (make100 env sip)
    mResponseTarget := responseTarget sip
    mIsReliable := isReliable (responseTarget sip).mTransportType } : TransactionState) = st
  have hid : st.mId = tid ∧ st.mMachine = .serverInvite := by simp [← hst, TransactionState.create]
  have hstart : (start st).Opened .serverInvite tid := ⟨hid.1, congrArg _ hid.2, rfl⟩
  split
  · have hsame : (start st).Same (((start st).sendCurrentToWire cfg env).setState .proceeding) := by
      simp [Same]
    refine (hstart.continues hsame.continues).continues (sendRequestToTU_continues cfg env sip ?_)
    exact fun _ => hsame.2.1.trans hid.2
  · have hsame : (start st).Same ((start st).addTimer .timerTrying cfg.timers.T100) := by
      simp [Same]
    refine (hstart.continues hsame.continues).continues (sendRequestToTU_continues cfg env sip ?_)
    exact fun _ => hsame.2.1.trans hid.2

/-- A transaction for a request other than INVITE, started and handed to the TU. -/
theorem Opened.startedNonInvite (sip : SipMessage) (h : f.Opened .serverNonInvite tid)
    (hm : f.self.mMethod ≠ .invite) :
    ((f.startServerNonInviteTimerTrying cfg env sip).sendRequestToTU cfg env sip).Opened
      .serverNonInvite tid := by
  have hsame : f.Same (f.startServerNonInviteTimerTrying cfg env sip) := by
    simp [startServerNonInviteTimerTrying, Same]
  refine (h.continues hsame.continues).continues (sendRequestToTU_continues cfg env sip ?_)
  exact fun hinvite => absurd (by simpa [startServerNonInviteTimerTrying] using hinvite) hm

theorem newServerCancel_opened (sip : SipMessage) (matchingInvite : TransactionState) :
    (newServerCancel cfg env sip tid matchingInvite).Opened .serverNonInvite tid := by
  obtain ⟨hid, hm, hs⟩ := makeCancelTransaction_self cfg matchingInvite .serverNonInvite tid
  exact Opened.startedNonInvite cfg env sip ⟨hid, congrArg _ hm, hs⟩ (by
    simp [makeCancelTransaction, start, TransactionState.create])

theorem newServerNonInvite_opened {sip : SipMessage} (tu : Option ℕ) (hm : sip.method ≠ .invite) :
    (newServerNonInvite cfg env sip tid tu).Opened .serverNonInvite tid :=
  Opened.startedNonInvite cfg env sip ⟨rfl, rfl, rfl⟩ hm

theorem newClientInvite_opened {sip : SipMessage} (tu : Option ℕ) (hq : sip.isRequest = true) :
    (newClientInvite cfg env sip tid tu).Opened .clientInvite tid := by
  have hstart : (start (.create .clientInvite .calling tid .invite [] tu)).Opened .clientInvite tid :=
    ⟨rfl, rfl, rfl⟩
  refine hstart.continues (Same.continues ?_)
  unfold newClientInvite processClientInvite clientInviteRequest
  have hresp : sip.isResponseIn 100 699 = false := by
    simp [SipMessage.isResponseIn, SipMessage.isResponse, hq]
  simp only [hresp, Bool.false_eq_true, false_and, if_false]
  repeat' split
  all_goals simp [Same, saveOriginalContactAndVia]

theorem newClientNonInvite_opened (sip : SipMessage) (tu : Option ℕ) :
    (newClientNonInvite cfg env sip tid tu).Opened .clientNonInvite tid := by
  have hstart : (start (.create .clientNonInvite .trying tid sip.method sip.methodStr tu)).Opened
    .clientNonInvite tid := ⟨rfl, rfl, rfl⟩
  exact hstart.continues (processClientNonInvite_same cfg env _ _).continues

theorem newStateless_opened (sip : SipMessage) (tu : Option ℕ) :
    (newStateless cfg env sip tid tu).Opened .stateless tid := by
  have hstart : (start (.create .stateless .calling tid sip.method sip.methodStr tu)).Opened
    .stateless tid := ⟨rfl, rfl, rfl⟩
  have hsame := Same.trans (f := start (.create .stateless .calling tid sip.method sip.methodStr tu))
    (g := (start (.create .stateless .calling tid sip.method sip.methodStr tu)).addTimer
      .timerStateless cfg.timers.TS) (by simp [Same]) (processStateless_same cfg env _ (.sip sip))
  exact hstart.continues hsame.continues

end Frame

namespace TransactionController
variable (cfg : Config) (env : Env) {c : TransactionController}

theorem evolves_of_opened (hc : c.Filed) {f : Frame} {machine : Machine} {tid : Data}
    (hf : f.Opened machine tid) : c.Evolves (some (machine, tid)) (c.register f) :=
  register_evolves hc hf.mId hf.family hf.spawned

theorem newFromWire_evolves (hc : c.Filed) (sip : SipMessage) (tid : Data) (tu : Option ℕ) :
    c.Evolves (c.opensFromWire sip tid) (c.newFromWire cfg env sip tid tu) := by
  unfold newFromWire opensFromWire
  cases hmethod : sip.method with
  | invite => exact evolves_of_opened hc (Frame.newServerInvite_opened cfg env sip tu)
  | cancel =>
    cases c.mServerTransactionMap.find sip.getTransactionId with
    | none =>
      refine Evolves.quiet hc _ ?_ ?_
      all_goals
        unfold transmitStateless
        split <;> simp [Emission.timers, Emission.registers]
    | some st => exact evolves_of_opened hc (Frame.newServerCancel_opened cfg env sip st)
  | ack => exact Evolves.quiet hc _ rfl fun _ _ => rfl
  | _ =>
    exact evolves_of_opened hc (Frame.newServerNonInvite_opened cfg env tu (by simp [hmethod]))

theorem newFromTU_evolves (hc : c.Filed) {sip : SipMessage} (hq : sip.isRequest = true)
    (tid : Data) (tu : Option ℕ) :
    c.Evolves (c.opensFromTU sip tid) (c.newFromTU cfg env sip tid tu) := by
  unfold newFromTU opensFromTU
  cases sip.method with
  | invite => exact evolves_of_opened hc (Frame.newClientInvite_opened cfg env tu hq)
  | ack => exact evolves_of_opened hc (Frame.newStateless_opened cfg env sip tu)
  | cancel =>
    cases hfind : c.mClientTransactionMap.find sip.getTransactionId with
    | none => exact Evolves.quiet hc _ rfl fun _ _ => rfl
    | some st =>
      dsimp only
      by_cases hcompleted : st.mState = .completed
      · rw [if_pos hcompleted]
        refine Evolves.quiet hc _ ?_ fun _ _ => rfl
        simp [Emission.timers, Frame.start, Outputs.empty]
      · rw [if_neg hcompleted]
        refine install_evolves hc true hfind
          (Frame.cancelFromTU_spawns cfg env sip rfl) fun hcancel => ?_
        exact if_pos hcancel
  | _ => exact evolves_of_opened hc (Frame.newClientNonInvite_opened cfg env sip tu)

theorem processSipMessageAsNew_evolves (hc : c.Filed) (sip : SipMessage) (tid : Data) :
    c.Evolves (c.opensAsNew cfg env sip tid) (c.processSipMessageAsNew cfg env sip tid) := by
  unfold processSipMessageAsNew opensAsNew
  split
  case isTrue hq =>
    split
    case isTrue =>
      by_cases husers : cfg.haveTransactionUsers
      · rw [if_pos husers]
        cases hselect : env.selectTransactionUser sip with
        | none =>
          refine Evolves.quiet hc _ ?_ ?_
          all_goals
            unfold transmitStateless
            split <;> simp [Emission.timers, Emission.registers]
        | some tu => simpa using newFromWire_evolves cfg env hc sip tid (some tu)
      · simpa [husers] using newFromWire_evolves cfg env hc sip tid none
    case isFalse => exact newFromTU_evolves cfg env hc hq tid sip.transactionUser
  case isFalse =>
    split
    case isTrue => exact Evolves.quiet hc _ rfl fun _ _ => rfl
    case isFalse =>
      have hopened : (newStateless cfg env sip (decimal c.statelessIdCounter)
          (if sip.isExternal then none else sip.transactionUser)).Opened .stateless
            (decimal c.statelessIdCounter) := Frame.newStateless_opened cfg env sip _
      have h := evolves_of_opened (c := { c with
          statelessIdCounter := (c.statelessIdCounter + 1) % 2 ^ 32 }) hc hopened
      exact ⟨h.timers, h.filed, h.kept⟩

theorem deliver_evolves (hc : c.Filed) (msg : TransactionMessage) :
    c.Evolves (c.opensDelivered cfg env msg) (c.deliver cfg env msg) := by
  have hreceive : ∀ st, (c.map msg.isClientTransaction).find msg.tid = some st →
      c.Evolves (if st.sendsCancel msg then some (.clientNonInvite, st.mId ++ cancelToken) else none)
        (c.install (st.receive cfg env msg)) := by
    intro st hst
    exact install_evolves hc _ hst (st.receive_spawns cfg env msg) fun h => if_pos h
  unfold deliver opensDelivered
  cases hfind : (c.map msg.isClientTransaction).find msg.tid with
  | none =>
    cases msg with
    | sip m => exact processSipMessageAsNew_evolves cfg env hc m _
    | _ => exact Evolves.quiet hc _ rfl fun _ _ => rfl
  | some st =>
    cases msg with
    | sip m =>
      dsimp only
      split
      · exact processSipMessageAsNew_evolves cfg env hc m _
      · exact hreceive st hfind
    | _ => exact hreceive st hfind

theorem process_evolves (hc : c.Filed) (msg : TransactionMessage) :
    c.Evolves (c.opens cfg env msg) (c.process cfg env msg) := by
  unfold process opens
  cases msg with
  | control m => exact Evolves.quiet hc _ rfl fun _ _ => rfl
  | badTid => exact Evolves.quiet hc _ rfl fun _ _ => rfl
  | invokeAfterSocketCreationFunc type =>
    obtain ⟨ht, hf, hk⟩ := deliver_evolves cfg env hc (.invokeAfterSocketCreationFunc type)
    refine ⟨by simpa [Emission.timers] using ht, hf, fun side key st' h => ?_⟩
    simpa [Emission.registers] using hk side key st' h
  | sip m =>
    dsimp only
    split
    · refine Evolves.quiet hc _ ?_ ?_
      all_goals
        simp only [handleBadRequest, transmitStateless]
        repeat' split
        all_goals simp [Emission.timers, Emission.registers]
    · exact deliver_evolves cfg env hc (.sip m)
  | _ => exact deliver_evolves cfg env hc _

theorem rewriteRequest_evolves (hc : c.Filed) (tid : Data) (uri : Uri) :
    c.Evolves none (c.rewriteRequest tid uri) := by
  unfold rewriteRequest
  split
  case h_1 st hst =>
    exact install_evolves hc true hst
      (((Frame.rewriteRequest_same _ uri).continues).spawns rfl False) False.elim
  case h_2 => exact Evolves.quiet hc _ rfl fun _ _ => rfl

/-- A timer that is not put off. -/
theorem processTimer_evolves (hc : c.Filed) {t : TransactionTimer}
    (ht : postponed cfg env t = none) :
    ({ c with mTimers := c.mTimers.erase t } : TransactionController).Evolves none
      (c.processTimer cfg env t) := by
  simp only [processTimer, ht]
  split
  case h_1 st hst =>
    have hreceive := st.receive_spawns cfg env (.timer t)
    exact install_evolves (c := { c with mTimers := c.mTimers.erase t }) hc _ hst hreceive nofun
  case h_2 =>
    exact Evolves.quiet (c := { c with mTimers := c.mTimers.erase t }) hc _ rfl fun _ _ => rfl

end TransactionController

end Resiprocate.Transaction
