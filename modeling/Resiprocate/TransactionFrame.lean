import Resiprocate.TransactionController

/-! What each shared operation leaves alone. The lemmas are conjunctions of projections,
one rewrite rule for each part of a frame. -/
namespace Resiprocate.Transaction

/-- The transports over which `processReliability` expects losses. -/
def lossy (type : TransportType) : Bool := decide (type = .udp ∨ type = .dccp)

/-- Leaving a reliable transport for a lossy one starts the retransmission timer. -/
def startedBy (machine : Machine) (wasReliable : Bool) (type : TransportType) : List TimerType :=
  if lossy type && wasReliable then
    match machine with
    | .clientNonInvite => [.timerE1]
    | .clientInvite => [.timerA]
    | _ => []
  else []

namespace Frame

variable (cfg : Config) (env : Env) (f : Frame)

/-! ### Operations that leave the record alone -/

@[simp] theorem fault_frame (x : Fault) :
    (f.fault x).self = f.self ∧ (f.fault x).deleted = f.deleted ∧
    (f.fault x).spawned = f.spawned ∧ (f.fault x).out.timers = f.out.timers ∧
    (f.fault x).out.tu = f.out.tu ∧ (f.fault x).out.wire = f.out.wire ∧
    (f.fault x).out.faults = f.out.faults ++ [x] := by simp [fault]

@[simp] theorem assertThat_frame (b : Bool) (site : Site) :
    (f.assertThat b site).self = f.self ∧ (f.assertThat b site).deleted = f.deleted ∧
    (f.assertThat b site).spawned = f.spawned ∧
    (f.assertThat b site).out.timers = f.out.timers ∧ (f.assertThat b site).out.tu = f.out.tu ∧
    (f.assertThat b site).out.wire = f.out.wire := by
  unfold assertThat
  split <;> simp

theorem assertThat_faults (b : Bool) (site : Site) :
    (f.assertThat b site).out.faults =
      f.out.faults ++ if b then [] else [.assertFailed site] := by
  unfold assertThat
  split <;> simp

@[simp] theorem delete_frame :
    f.delete.self = f.self ∧ f.delete.deleted = true ∧ f.delete.spawned = f.spawned ∧
    f.delete.out = f.out := by simp [delete]

@[simp] theorem addTimer_frame (type : TimerType) (ms : ℕ) :
    (f.addTimer type ms).self = f.self ∧ (f.addTimer type ms).deleted = f.deleted ∧
    (f.addTimer type ms).spawned = f.spawned ∧
    (f.addTimer type ms).out.timers = f.out.timers ++ [⟨type, f.self.mId, ms⟩] ∧
    (f.addTimer type ms).out.tu = f.out.tu ∧ (f.addTimer type ms).out.wire = f.out.wire ∧
    (f.addTimer type ms).out.faults = f.out.faults := by simp [addTimer]

@[simp] theorem dnsCommand_frame (c : DnsCommand) :
    (f.dnsCommand c).self = f.self ∧ (f.dnsCommand c).deleted = f.deleted ∧
    (f.dnsCommand c).spawned = f.spawned ∧ (f.dnsCommand c).out.timers = f.out.timers ∧
    (f.dnsCommand c).out.tu = f.out.tu ∧ (f.dnsCommand c).out.wire = f.out.wire ∧
    (f.dnsCommand c).out.faults = f.out.faults := by simp [dnsCommand]

@[simp] theorem postToTU_frame (m : SipMessage) :
    (f.postToTU m).self = f.self ∧ (f.postToTU m).deleted = f.deleted ∧
    (f.postToTU m).spawned = f.spawned ∧ (f.postToTU m).out.timers = f.out.timers ∧
    (f.postToTU m).out.tu = f.out.tu ++ [{ m with transactionUser := f.self.mTransactionUser }] ∧
    (f.postToTU m).out.wire = f.out.wire ∧
    (f.postToTU m).out.faults = f.out.faults := by simp [postToTU]

@[simp] theorem markDns_frame (m : SipMessage) :
    (f.markDns cfg env m).self = f.self ∧ (f.markDns cfg env m).deleted = f.deleted ∧
    (f.markDns cfg env m).spawned = f.spawned ∧
    (f.markDns cfg env m).out.timers = f.out.timers ∧ (f.markDns cfg env m).out.tu = f.out.tu ∧
    (f.markDns cfg env m).out.wire = f.out.wire ∧
    (f.markDns cfg env m).out.faults = f.out.faults := by
  unfold markDns
  repeat' split
  all_goals simp

@[simp] theorem sendToTU_frame (m : SipMessage) :
    (f.sendToTU cfg env m).self = f.self ∧ (f.sendToTU cfg env m).deleted = f.deleted ∧
    (f.sendToTU cfg env m).spawned = f.spawned ∧
    (f.sendToTU cfg env m).out.timers = f.out.timers ∧
    (f.sendToTU cfg env m).out.wire = f.out.wire := by
  simp only [sendToTU]
  repeat' split
  all_goals simp

/-- Congestion may keep a message from the TU. -/
theorem sendToTU_tu (m : SipMessage) :
    (f.sendToTU cfg env m).out.tu = f.out.tu ∨
    (f.sendToTU cfg env m).out.tu =
      f.out.tu ++ [{ m with transactionUser := f.self.mTransactionUser }] := by
  simp only [sendToTU]
  repeat' split
  all_goals simp

theorem sendToTU_faults (m : SipMessage) :
    (f.sendToTU cfg env m).out.faults = f.out.faults ∨
    (f.sendToTU cfg env m).out.faults = f.out.faults ++ [.assertFailed .sendToTuExternal] := by
  simp only [sendToTU]
  repeat' split
  all_goals simp [assertThat_faults]

/-! ### Operations that set fields of the record -/

@[simp] theorem setState_self (s : State) :
    (f.setState s).self = { f.self with mState := s } := rfl

@[simp] theorem setState_frame (s : State) :
    (f.setState s).deleted = f.deleted ∧ (f.setState s).spawned = f.spawned ∧
    (f.setState s).out = f.out := by simp [setState]

@[simp] theorem resetNextTransmission_self (m : Option SipMessage) :
    (f.resetNextTransmission m).self =
      { f.self with mNextTransmission := m, mMsgToRetransmit := none } := rfl

@[simp] theorem resetNextTransmission_frame (m : Option SipMessage) :
    (f.resetNextTransmission m).deleted = f.deleted ∧
    (f.resetNextTransmission m).spawned = f.spawned ∧
    (f.resetNextTransmission m).out = f.out := by simp [resetNextTransmission]

@[simp] theorem clearMsgToRetransmit_self :
    f.clearMsgToRetransmit.self = { f.self with mMsgToRetransmit := none } := rfl

@[simp] theorem clearMsgToRetransmit_frame :
    f.clearMsgToRetransmit.deleted = f.deleted ∧ f.clearMsgToRetransmit.spawned = f.spawned ∧
    f.clearMsgToRetransmit.out = f.out := by simp [clearMsgToRetransmit]

@[simp] theorem setAbandoned_self (b : Bool) :
    (f.setAbandoned b).self = { f.self with mIsAbandoned := b } := rfl

@[simp] theorem setAbandoned_frame (b : Bool) :
    (f.setAbandoned b).deleted = f.deleted ∧ (f.setAbandoned b).spawned = f.spawned ∧
    (f.setAbandoned b).out = f.out := by simp [setAbandoned]

@[simp] theorem setAckIsValid_self :
    f.setAckIsValid.self = { f.self with mAckIsValid := true } := rfl

@[simp] theorem setAckIsValid_frame :
    f.setAckIsValid.deleted = f.deleted ∧ f.setAckIsValid.spawned = f.spawned ∧
    f.setAckIsValid.out = f.out := by simp [setAckIsValid]

@[simp] theorem saveOriginalContactAndVia_frame (m : SipMessage) :
    (f.saveOriginalContactAndVia m).deleted = f.deleted ∧
    (f.saveOriginalContactAndVia m).spawned = f.spawned ∧
    (f.saveOriginalContactAndVia m).out = f.out := by simp [saveOriginalContactAndVia]

@[simp] theorem destroyDnsResult_self :
    f.destroyDnsResult.self = { f.self with
      mDnsResult := false
      mPendingOperation := if f.self.mDnsResult then .none else f.self.mPendingOperation } := by
  unfold destroyDnsResult
  cases h : f.self.mDnsResult
  · cases hf : f.self
    simp_all
  · simp

@[simp] theorem destroyDnsResult_frame :
    f.destroyDnsResult.deleted = f.deleted ∧ f.destroyDnsResult.spawned = f.spawned ∧
    f.destroyDnsResult.out.timers = f.out.timers ∧ f.destroyDnsResult.out.tu = f.out.tu ∧
    f.destroyDnsResult.out.wire = f.out.wire ∧
    f.destroyDnsResult.out.faults = f.out.faults := by
  unfold destroyDnsResult
  split <;> simp

@[simp] theorem tellTermination_frame (isClient : Bool) :
    (f.tellTermination env isClient).self = { f.self with mState := .terminated } ∧
    (f.tellTermination env isClient).deleted = f.deleted ∧
    (f.tellTermination env isClient).spawned = f.spawned ∧
    (f.tellTermination env isClient).out.timers = f.out.timers ∧
    (f.tellTermination env isClient).out.tu = f.out.tu ∧
    (f.tellTermination env isClient).out.wire = f.out.wire ∧
    (f.tellTermination env isClient).out.faults = f.out.faults := by
  simp only [tellTermination]
  split <;> simp

@[simp] theorem processReliability_self (type : TransportType) :
    (f.processReliability cfg type).self = { f.self with mIsReliable := !lossy type } := by
  unfold processReliability lossy
  by_cases ht : type = .udp ∨ type = .dccp
  · by_cases hr : f.self.mIsReliable
    · simp only [ht, hr, if_true, decide_true, Bool.not_true]
      split <;> simp
    · cases hf : f.self
      simp_all
  · simp [ht]

theorem processReliability_timers (type : TransportType) :
    (f.processReliability cfg type).out.timers = f.out.timers ++
      (startedBy f.self.mMachine f.self.mIsReliable type).map
        fun t => ⟨t, f.self.mId, cfg.timers.T1⟩ := by
  unfold processReliability startedBy lossy
  by_cases ht : type = .udp ∨ type = .dccp
  · by_cases hr : f.self.mIsReliable
    · simp only [ht, hr, if_true, decide_true, Bool.and_self]
      cases hm : f.self.mMachine <;> simp
    · simp [ht, hr]
  · simp [ht]

@[simp] theorem processReliability_frame (type : TransportType) :
    (f.processReliability cfg type).deleted = f.deleted ∧
    (f.processReliability cfg type).spawned = f.spawned ∧
    (f.processReliability cfg type).out.tu = f.out.tu ∧
    (f.processReliability cfg type).out.wire = f.out.wire ∧
    (f.processReliability cfg type).out.faults = f.out.faults := by
  simp only [processReliability]
  repeat' split
  all_goals simp

@[simp] theorem terminateClientTransaction_eq :
    f.terminateClientTransaction env = f.tellTermination env true := rfl

@[simp] theorem terminateServerTransaction_eq :
    f.terminateServerTransaction env = f.tellTermination env false := rfl

/-! ### Sending -/

/-- A transport was found for the message. -/
@[simp] theorem transmit_self (sip : SipMessage) (target : Tuple) :
    (f.transmit env sip target).self = { f.self with
      mNextTransmission :=
        if env.findTransport sip target ∧ (!sip.isRequest ∨ sip.method = .ack) then none
        else f.self.mNextTransmission
      mMsgToRetransmit :=
        if env.findTransport sip target ∧ !f.self.mIsReliable then some ⟨sip, target⟩
        else f.self.mMsgToRetransmit } := by
  obtain ⟨self, deleted, out, spawned⟩ := f
  cases self
  simp only [transmit, onSendSuccess]
  repeat' split
  all_goals simp_all

@[simp] theorem transmit_frame (sip : SipMessage) (target : Tuple) :
    (f.transmit env sip target).deleted = f.deleted ∧
    (f.transmit env sip target).spawned = f.spawned ∧
    (f.transmit env sip target).out.timers = f.out.timers ∧
    (f.transmit env sip target).out.tu = f.out.tu ∧
    (f.transmit env sip target).out.faults = f.out.faults := by
  simp only [transmit, onSendSuccess]
  repeat' split
  all_goals simp

theorem transmit_wire (sip : SipMessage) (target : Tuple) :
    (f.transmit env sip target).out.wire =
      f.out.wire ++ if env.findTransport sip target then [⟨sip, target⟩] else [] := by
  simp only [transmit, onSendSuccess]
  repeat' split
  all_goals simp_all

/-- Sending hands nothing to the TU and neither deletes nor creates a transaction. -/
@[simp] theorem sendCurrentToWire_frame :
    (f.sendCurrentToWire cfg env).deleted = f.deleted ∧
    (f.sendCurrentToWire cfg env).spawned = f.spawned ∧
    (f.sendCurrentToWire cfg env).out.tu = f.out.tu := by
  simp only [sendCurrentToWire, sendFromClient, sendFromServer]
  repeat' split
  all_goals simp

/-- Sending does not touch what identifies the transaction. -/
@[simp] theorem sendCurrentToWire_identity :
    (f.sendCurrentToWire cfg env).self.mId = f.self.mId ∧
    (f.sendCurrentToWire cfg env).self.mMachine = f.self.mMachine ∧
    (f.sendCurrentToWire cfg env).self.mMethod = f.self.mMethod := by
  simp only [sendCurrentToWire, sendFromClient, sendFromServer]
  repeat' split
  all_goals simp

end Frame

/-! ### Responses from the wire -/

theorem TransactionState.fixResponse_fields (cfg : Config) (st : TransactionState)
    (m : SipMessage) :
    (st.fixResponse cfg m).startLine = m.startLine ∧ (st.fixResponse cfg m).method = m.method ∧
    (st.fixResponse cfg m).methodStr = m.methodStr ∧
    (st.fixResponse cfg m).isExternal = m.isExternal := by
  unfold fixResponse
  repeat' split
  all_goals simp_all

/-- Only responses from the wire are corrected. -/
theorem TransactionState.fixResponse_eq (cfg : Config) (st : TransactionState) {m : SipMessage}
    (h : ¬ (m.isExternal ∧ m.isResponse)) : st.fixResponse cfg m = m := by
  unfold fixResponse
  repeat' split
  all_goals simp_all

/-! ### Faults -/

/-- Faults the state machines must never run into: nothing to send, or no message where one
is dereferenced. -/
def Fault.fatal : Fault → Prop
  | .assertFailed site => site = .sendCurrentToWireNothing
  | .nullDereference _ => True

/-- No fatal fault has been recorded. -/
def Frame.sound (f : Frame) : Prop := ∀ x ∈ f.out.faults, ¬ x.fatal

/-- The frame a step starts from. -/
structure Frame.fresh (f : Frame) : Prop where
  timers : f.out.timers = []
  tu : f.out.tu = []
  wire : f.out.wire = []
  deleted : f.deleted = false
  sound : f.sound

namespace Frame
variable (cfg : Config) (env : Env) {f : Frame}

theorem fresh_start (st : TransactionState) : (start st).fresh :=
  ⟨rfl, rfl, rfl, rfl, by simp [Frame.sound, start, Outputs.empty]⟩

theorem sound_congr {g : Frame} (h : g.out.faults = f.out.faults) : g.sound ↔ f.sound := by
  simp [sound, h]

theorem sound.fault (hf : f.sound) {x : Fault} (hx : ¬ x.fatal) : (f.fault x).sound := by
  simp only [sound, fault_frame, List.mem_append, List.mem_singleton]
  rintro y (hy | rfl)
  · exact hf y hy
  · exact hx

theorem sound.assertThat (hf : f.sound) (b : Bool) (site : Site)
    (hs : site ≠ .sendCurrentToWireNothing) : (f.assertThat b site).sound := by
  unfold Frame.assertThat
  split
  · exact hf
  · exact hf.fault hs

theorem sound.sendToTU (hf : f.sound) (m : SipMessage) : (f.sendToTU cfg env m).sound := by
  rcases sendToTU_faults cfg env f m with h | h
  · rwa [sound_congr h]
  · simp only [sound, h, List.mem_append, List.mem_singleton]
    rintro x (hx | rfl)
    · exact hf x hx
    · simp [Fault.fatal]

end Frame

end Resiprocate.Transaction
