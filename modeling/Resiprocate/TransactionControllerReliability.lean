import Resiprocate.TransactionControllerTimers
import Resiprocate.TransactionServerSteps

/-! Server transactions and the transport of their request: whether a transaction knows its
transport for what it is, and whether a retransmitted request can reach the TU twice. -/
namespace Resiprocate.Transaction
open TransitionSystem

/-! ### One step of a server transaction -/

/-- A server transaction never chooses a target and never asks DNS. -/
structure TransactionState.ServerSide (st : TransactionState) : Prop where
  server : st.isClient = false
  target : st.mTarget = .unset
  pending : st.mPendingOperation = .none

/-- What a step of a server transaction keeps: the transaction stays a server transaction of
the same reliability; unless it is reliable, only a timer ends it; and a request from the wire
does not reach the TU again. -/
structure Frame.ServerKeeps (f g : Frame) (msg : TransactionMessage) : Prop where
  side : g.self.ServerSide
  reliable : g.self.mIsReliable = f.self.mIsReliable
  deleted : g.deleted = true → f.deleted = true ∨ f.self.mIsReliable = true ∨
    ∃ t, msg = .timer t ∧ f.self.serverView.expires t.type
  tu : ∀ m, msg = .sip m → m.isRequest = true → m.method ≠ .ack → g.out.tu = f.out.tu

namespace Frame
variable (cfg : Config) (env : Env) {f : Frame}

theorem sendCurrentToWire_server (h : f.self.isClient = false) :
    (f.sendCurrentToWire cfg env).self.mIsReliable = f.self.mIsReliable ∧
    (f.sendCurrentToWire cfg env).self.mTarget = f.self.mTarget ∧
    (f.sendCurrentToWire cfg env).self.mPendingOperation = f.self.mPendingOperation := by
  simp only [sendCurrentToWire, h, sendFromServer, Bool.false_eq_true, if_false]
  repeat' split
  all_goals simp

theorem handleSync_server (h : f.self.mPendingOperation = .none) : f.handleSync cfg env = f := by
  simp [handleSync, h]

/-- `g` is a frame of a server transaction like that of `f`. -/
def SameServer (f g : Frame) : Prop :=
  g.self.isClient = false ∧ g.self.mIsReliable = f.self.mIsReliable ∧
    g.self.mTarget = f.self.mTarget ∧ g.self.mPendingOperation = f.self.mPendingOperation

/-- A step that neither deletes the transaction nor tells the TU. -/
theorem ServerKeeps.quiet {msg : TransactionMessage} {g : Frame} (hf : f.self.ServerSide)
    (hs : f.SameServer g) (hd : g.deleted = f.deleted) (htu : g.out.tu = f.out.tu) :
    f.ServerKeeps g msg where
  side := ⟨hs.1, hs.2.2.1.trans hf.target, hs.2.2.2.trans hf.pending⟩
  reliable := hs.2.1
  deleted h := .inl (hd ▸ h)
  tu _ _ _ _ := htu

/-- A step in which a reliable transaction ends, or a timer ends any. -/
theorem ServerKeeps.ended {msg : TransactionMessage} {g : Frame} (hf : f.self.ServerSide)
    (hs : f.SameServer g)
    (hd : f.self.mIsReliable = true ∨ ∃ t, msg = .timer t ∧ f.self.serverView.expires t.type)
    (htu : g.out.tu = f.out.tu) : f.ServerKeeps g msg where
  side := ⟨hs.1, hs.2.2.1.trans hf.target, hs.2.2.2.trans hf.pending⟩
  reliable := hs.2.1
  deleted _ := .inr hd
  tu _ _ _ _ := htu

theorem ServerKeeps.refl {msg : TransactionMessage} (hf : f.self.ServerSide) :
    f.ServerKeeps f msg :=
  .quiet hf ⟨hf.server, rfl, rfl, rfl⟩ rfl rfl

variable {msg : TransactionMessage} (hf : f.self.ServerSide)
include hf

theorem processServerNonInvite_keeps (hm : f.self.mMachine = .serverNonInvite)
    (hmsg : ∀ tid reason subCode, msg ≠ .transportFailure tid reason subCode) :
    f.ServerKeeps (f.processServerNonInvite cfg env msg) msg := by
  have hc : f.self.isClient = false := hf.server
  unfold processServerNonInvite
  split
  case h_1 m =>
    simp only [serverNonInviteRequest, serverNonInviteProvisional, serverNonInviteFinal]
    repeat' split
    case isFalse.isTrue.isFalse.isTrue hrel =>
      refine .ended hf ?_ (.inl hrel) (by simp)
      simp_all [SameServer, sendCurrentToWire_server, TransactionState.isClient]
    all_goals
      refine .quiet hf ?_ (by simp) (by simp)
      simp_all [SameServer, sendCurrentToWire_server, TransactionState.isClient]
  case h_2 t =>
    unfold serverNonInviteTimer
    split
    case h_1 ht =>
      split
      · refine .ended hf ?_ (.inr ⟨t, rfl, ?_⟩) (by simp)
        · simpa [SameServer, TransactionState.isClient] using hc
        · rw [ht]
          exact ⟨hm, ‹_›⟩
      · exact .refl hf
    case h_2 =>
      split
      · refine .quiet hf ?_ (by simp) (by simp)
        simp_all [SameServer, sendCurrentToWire_server, TransactionState.isClient]
      · exact .refl hf
    case h_3 => exact .refl hf
  case h_3 => exact absurd rfl (hmsg _ _ _)
  case h_4 =>
    simp only [serverNonInviteAbandon]
    repeat' split
    case isTrue.isTrue hrel =>
      refine .ended hf ?_ (.inl (by simpa using hrel)) (by simp)
      simpa [SameServer, TransactionState.isClient] using hc
    all_goals
      refine .quiet hf ?_ (by simp) (by simp)
      simpa [SameServer, TransactionState.isClient] using hc
  case h_5 =>
    rw [handleSync_server cfg env hf.pending]
    exact .refl hf
  case h_6 => exact .refl hf

theorem processServerInvite_keeps (hm : f.self.mMachine = .serverInvite)
    (hmsg : ∀ tid reason subCode, msg ≠ .transportFailure tid reason subCode) :
    f.ServerKeeps (f.processServerInvite cfg env msg) msg := by
  have hc : f.self.isClient = false := hf.server
  unfold processServerInvite
  split
  case h_1 m =>
    simp only [serverInviteRetransmission, serverInviteAck, serverInviteProvisional,
      serverInviteSuccess, serverInviteFailure, startResponseTimers]
    repeat' split
    case h_2.isTrue.isTrue hrel =>
      refine .ended hf ?_ (.inl hrel) (by simp)
      simpa [SameServer, TransactionState.isClient] using hc
    all_goals
      refine .quiet hf ?_ (by simp) (by simp)
      simp_all [SameServer, sendCurrentToWire_server, TransactionState.isClient, Machine.isClient]
  case h_2 t =>
    unfold serverInviteTimer
    repeat' split
    case h_2 ht | h_3 ht =>
      refine .ended hf ?_ (.inr ⟨t, rfl, ?_⟩) (by simp)
      · simpa [SameServer, TransactionState.isClient] using hc
      · rw [ht]
        exact hm
    all_goals
      refine .quiet hf ?_ (by simp) (by simp)
      simp_all [SameServer, sendCurrentToWire_server, TransactionState.isClient]
  case h_3 => exact absurd rfl (hmsg _ _ _)
  case h_4 =>
    simp only [serverInviteAbandon, startResponseTimers]
    repeat' split
    case h_2.isTrue hrel =>
      refine .ended hf ?_ (.inl hrel) (by simp)
      simpa [SameServer, TransactionState.isClient] using hc
    all_goals
      refine .quiet hf ?_ (by simp) (by simp)
      simp_all [SameServer, sendCurrentToWire_server, TransactionState.isClient]
  case h_5 =>
    rw [handleSync_server cfg env hf.pending]
    exact .refl hf
  case h_6 => exact .refl hf

theorem processServerStale_keeps (hm : f.self.mMachine = .serverStale)
    (hmsg : ∀ tid reason subCode, msg ≠ .transportFailure tid reason subCode) :
    f.ServerKeeps (f.processServerStale cfg env msg) msg := by
  have hc : f.self.isClient = false := hf.server
  unfold processServerStale
  split
  case h_1 t =>
    split
    case isTrue ht =>
      refine .ended hf ?_ (.inr ⟨t, rfl, ?_⟩) (by simp)
      · simpa [SameServer, TransactionState.isClient] using hc
      · rw [ht]
        exact hm
    case isFalse => exact .refl hf
  case h_2 => exact absurd rfl (hmsg _ _ _)
  case h_3 m =>
    split
    case isTrue hack =>
      -- only an ACK is passed on
      refine ⟨⟨?_, ?_, ?_⟩, ?_, ?_, ?_⟩
      · simpa using hf.server
      · simpa using hf.target
      · simpa using hf.pending
      · simp
      · intro h
        exact .inl (by simpa using h)
      · rintro _ ⟨⟩ - hne
        exact absurd hack.2 hne
    case isFalse =>
      repeat' split
      all_goals
        refine .quiet hf ?_ (by simp) (by simp)
        simp_all [SameServer, sendCurrentToWire_server, TransactionState.isClient]
  case h_4 =>
    rw [handleSync_server cfg env hf.pending]
    exact .refl hf
  case h_5 => exact .refl hf

theorem dispatch_keeps
    (hmsg : ∀ tid reason subCode, msg ≠ .transportFailure tid reason subCode) :
    f.ServerKeeps (f.dispatch cfg env msg) msg := by
  have hc := hf.server
  unfold dispatch
  split
  case h_3 hm => exact processServerNonInvite_keeps cfg env hf hm hmsg
  case h_4 hm => exact processServerInvite_keeps cfg env hf hm hmsg
  case h_7 hm => exact processServerStale_keeps cfg env hf hm hmsg
  all_goals simp_all [TransactionState.isClient, Machine.isClient]

end Frame

theorem TransactionState.receive_keeps (cfg : Config) (env : Env) {st : TransactionState}
    (hst : st.ServerSide) (msg : TransactionMessage)
    (hmsg : ∀ tid reason subCode, msg ≠ .transportFailure tid reason subCode) :
    (Frame.start st).ServerKeeps (st.receive cfg env msg) msg := by
  unfold receive
  split
  case h_1 m =>
    dsimp only
    split
    case isTrue =>
      obtain ⟨hline, hmethod, -, -⟩ := st.fixResponse_fields cfg m
      generalize hb : (decide (st.mMachine ≠ .clientInvite) || (st.fixResponse cfg m).isExternal ||
        !(st.fixResponse cfg m).isRequest || decide ((st.fixResponse cfg m).method ≠ .ack)) = b
      have hstart : ((Frame.start st).assertThat b .clientInviteAck).self.ServerSide := by
        simpa [Frame.start] using hst
      have h : ((Frame.start st).assertThat b .clientInviteAck).ServerKeeps
          (((Frame.start st).assertThat b .clientInviteAck).dispatch cfg env
            (.sip (st.fixResponse cfg m))) (.sip (st.fixResponse cfg m)) :=
        Frame.dispatch_keeps cfg env hstart (by simp)
      refine ⟨h.side, by simpa using h.reliable, ?_, ?_⟩
      · intro hd
        rcases h.deleted hd with h | h | ⟨t, ht, -⟩
        · exact .inl (by simpa using h)
        · exact .inr (.inl (by simpa using h))
        · cases ht
      · rintro _ ⟨⟩ hq hk
        have hq' : (st.fixResponse cfg m).isRequest = true := by
          rwa [SipMessage.isRequest, hline, ← SipMessage.isRequest]
        simpa using h.tu _ rfl hq' (hmethod ▸ hk)
    case isFalse => exact .refl hst
  case h_2 => exact Frame.dispatch_keeps cfg env hst hmsg

/-- A server transaction opens no CANCEL transaction. -/
theorem TransactionState.receive_spawned (cfg : Config) (env : Env) {st : TransactionState}
    (hst : st.ServerSide) (msg : TransactionMessage) : (st.receive cfg env msg).spawned = none := by
  have hm : st.mMachine ≠ .clientInvite := by
    intro hm
    have := hst.server
    simp [isClient, hm, Machine.isClient] at this
  have hnone : st.sendsCancel msg = false := by
    cases msg <;> simp [sendsCancel, hm]
  cases hs : (st.receive cfg env msg).spawned with
  | none => rfl
  | some child =>
    have h := ((st.receive_spawns cfg env msg).spawned child.1 child.2 hs).1
    simp [hnone] at h

/-! ### New server transactions -/

/-- A new server transaction: it may only be gone already if it counts as reliable. -/
structure Frame.ServerBorn (f : Frame) (b : Bool) : Prop where
  side : f.self.ServerSide
  reliable : f.self.mIsReliable = b
  deleted : f.deleted = true → b = true

/-- What a server transaction takes its transport for: a CANCEL is believed to have come over
a reliable one, as `makeCancelTransaction` looks at the target that no server transaction has. -/
def takenForReliable (request : SipMessage) : Bool :=
  decide (request.method = .cancel) || isReliable request.source.mTransportType

namespace Frame
variable (cfg : Config) (env : Env) {f : Frame} {b : Bool}

theorem ServerBorn.sendRequestToTU (h : f.ServerBorn b) (sip : SipMessage)
    (hm : f.self.mMethod = .invite ∧ f.self.mMachine = .serverInvite ∨
      f.self.mMethod ≠ .invite ∧ f.self.mMachine = .serverNonInvite) :
    (f.sendRequestToTU cfg env sip).ServerBorn b := by
  have hkeeps : ∀ g msg, (f.assertThat sip.isExternal .sendToTuExternal).ServerKeeps g (.sip msg) →
      g.ServerBorn b := by
    intro g msg hg
    refine ⟨hg.side, by simpa [h.reliable] using hg.reliable, fun hd => ?_⟩
    rcases hg.deleted hd with hd | hd | ⟨t, ht, -⟩
    · exact h.deleted (by simpa using hd)
    · simpa [h.reliable] using hd
    · cases ht
  have hside : (f.assertThat sip.isExternal .sendToTuExternal).self.ServerSide := by
    simpa using h.side
  simp only [Frame.sendRequestToTU]
  split
  · exact ⟨by simpa using h.side, by simpa using h.reliable, by simpa using h.deleted⟩
  · simp only [assertThat_frame]
    rcases hm with ⟨hmethod, hmachine⟩ | ⟨hmethod, hmachine⟩
    · rw [if_pos hmethod]
      exact hkeeps _ _ (processServerInvite_keeps cfg env hside (by simpa using hmachine) (by simp))
    · rw [if_neg hmethod]
      exact hkeeps _ _ (processServerNonInvite_keeps cfg env hside (by simpa using hmachine) (by simp))

theorem newServerInvite_born {sip : SipMessage} (tid : Data) (tu : Option ℕ)
    (hm : sip.method = .invite) :
    (newServerInvite cfg env sip tid tu).ServerBorn (takenForReliable sip) := by
  simp only [newServerInvite]
  generalize hst : ({ TransactionState.create .serverInvite .trying tid .invite [] tu with
    mNextTransmission := some (make100 env sip)
    mResponseTarget := responseTarget sip
    mIsReliable := isReliable (responseTarget sip).mTransportType } : TransactionState) = st
  have hside : st.ServerSide := by
    rw [← hst]
    exact ⟨rfl, rfl, rfl⟩
  have hmachine : st.mMethod = .invite ∧ st.mMachine = .serverInvite := by rw [← hst]; exact ⟨rfl, rfl⟩
  have hrel : st.mIsReliable = takenForReliable sip := by
    rw [← hst]
    simp [takenForReliable, hm, responseTarget]
  obtain ⟨hr, ht, hp⟩ := sendCurrentToWire_server cfg env (f := start st) hside.server
  split
  · refine ServerBorn.sendRequestToTU (f := ((start st).sendCurrentToWire cfg env).setState
      .proceeding) cfg env ⟨⟨?_, ht.trans hside.target, hp.trans hside.pending⟩,
        hr.trans hrel, ?_⟩ sip (.inl ?_)
    · simpa [TransactionState.isClient, start] using hside.server
    · simp [start]
    · simpa [start] using hmachine
  · refine ServerBorn.sendRequestToTU cfg env ⟨by simpa [start] using hside,
      by simpa [start] using hrel, by simp [start]⟩ sip (.inl ?_)
    simpa [start] using hmachine

theorem newServerCancel_born {sip : SipMessage} (tid : Data) {invite : TransactionState}
    (hm : sip.method = .cancel) (hi : invite.ServerSide) :
    (newServerCancel cfg env sip tid invite).ServerBorn (takenForReliable sip) := by
  refine ServerBorn.sendRequestToTU cfg env ⟨⟨?_, ?_, ?_⟩, ?_, ?_⟩ sip (.inr ?_)
  all_goals simp [startServerNonInviteTimerTrying, makeCancelTransaction, start,
    TransactionState.create, TransactionState.isClient, Machine.isClient, hi.target, Tuple.unset,
    lossy, takenForReliable, hm]

theorem newServerNonInvite_born {sip : SipMessage} (tid : Data) (tu : Option ℕ)
    (hm : sip.method ≠ .invite ∧ sip.method ≠ .cancel) :
    (newServerNonInvite cfg env sip tid tu).ServerBorn (takenForReliable sip) := by
  refine ServerBorn.sendRequestToTU cfg env ⟨⟨?_, ?_, ?_⟩, ?_, ?_⟩ sip (.inr ?_)
  all_goals simp [startServerNonInviteTimerTrying, start, TransactionState.create,
    TransactionState.isClient, Machine.isClient, takenForReliable, hm, responseTarget]

end Frame

/-! ### The server map -/

/-- A server transaction is opened under the key. -/
def OpensServer (opened : Option (Machine × Data)) (key : Data) : Prop :=
  ∃ p, opened = some p ∧ p.1.isClient = false ∧ branchKey p.2 = key

theorem not_opensServer_none (key : Data) : ¬ OpensServer none key := by
  rintro ⟨p, hp, -⟩
  cases hp

/-- What a step does to the server transaction under a key. -/
inductive ServerChange (opened : Option (Machine × Data)) (msg : TransactionMessage) (key : Data)
    (before after : Option TransactionState) : Prop
  | same (hopened : ¬ OpensServer opened key) (h : after = before)
  | stepped {st : TransactionState} {f : Frame} (hopened : ¬ OpensServer opened key)
      (hst : before = some st) (hkey : msg.isClientTransaction = false ∧ branchKey msg.tid = key)
      (hf : (Frame.start st).ServerKeeps f msg)
      (h : after = if f.deleted then none else some f.self)
  | opened {m : SipMessage} {f : Frame} (hopened : OpensServer opened key) (hm : msg = .sip m)
      (hf : f.ServerBorn (takenForReliable m)) (h : after = if f.deleted then none else some f.self)

namespace TransactionController
variable (cfg : Config) (env : Env) {c : TransactionController}

/-- All transactions in the server map are server transactions. -/
def ServerSided (c : TransactionController) : Prop :=
  ∀ key st, c.map false key = some st → st.ServerSide

theorem install_server (hc : c.Filed) {st : TransactionState} (side : Bool) {key : Data}
    (hst : c.map side key = some st) {f : Frame} {cancel : Prop}
    (hf : (Frame.start st).Spawns f cancel) (key' : Data) :
    (c.install f).1.map false key' =
      if side = false ∧ key' = key then (if f.deleted then none else some f.self)
      else c.map false key' := by
  obtain ⟨hkey, hside⟩ := hc side key st hst
  have hid : f.self.mId = st.mId := hf.mId
  have hclient : f.self.isClient = side := by
    rw [← hside]
    exact Machine.isClient_of_family hf.family
  have hown : (c.store f.self f.deleted).map false key' =
      if side = false ∧ key' = key then (if f.deleted then none else some f.self)
      else c.map false key' := by
    rw [store_map, hclient, hid, hkey]
    simp only [eq_comm]
  unfold install
  cases hspawned : f.spawned with
  | none => exact hown
  | some child =>
    obtain ⟨-, hmachine, -⟩ := hf.spawned child.1 child.2 hspawned
    have hchild : child.1.isClient = true := by
      simp [TransactionState.isClient, hmachine, Machine.isClient]
    have hstore : (({ c.store f.self f.deleted with
        mTimers := (c.store f.self f.deleted).mTimers ++ f.out.timers } : TransactionController).store
          child.1 false).map false key' = (c.store f.self f.deleted).map false key' := by
      rw [store_map, hchild, if_neg (by simp)]
      rfl
    exact hstore.trans hown

theorem install_change (hc : c.Filed) {st : TransactionState} (side : Bool) {key : Data}
    (hst : c.map side key = some st) {f : Frame} {cancel : Prop}
    (hf : (Frame.start st).Spawns f cancel) {opened : Option (Machine × Data)}
    (hopened : ∀ key', ¬ OpensServer opened key') (msg : TransactionMessage)
    (hkeeps : side = false → (msg.isClientTransaction = false ∧ branchKey msg.tid = key) ∧
      (Frame.start st).ServerKeeps f msg) (key' : Data) :
    ServerChange opened msg key' (c.map false key') ((c.install f).1.map false key') := by
  rw [install_server hc side hst hf key']
  split
  case isTrue heq =>
    obtain ⟨rfl, rfl⟩ := heq
    exact .stepped (hopened _) hst (hkeeps rfl).1 (hkeeps rfl).2 rfl
  case isFalse => exact .same (hopened _) rfl

theorem register_server {f : Frame} {machine : Machine} {tid : Data} (hf : f.Opened machine tid)
    (key : Data) : (c.register f).1.map false key =
      if machine.isClient = false ∧ branchKey tid = key then (if f.deleted then none else some f.self)
      else c.map false key := by
  have hside : f.self.isClient = machine.isClient := Machine.isClient_of_family hf.family
  simp only [register, install, hf.spawned]
  refine (store_map c f.self f.deleted false key).trans ?_
  rw [hside, hf.mId]
  simp only [eq_comm]

theorem register_change {f : Frame} {machine : Machine} {tid : Data} {m : SipMessage}
    (hf : f.Opened machine tid)
    (hborn : machine.isClient = false → f.ServerBorn (takenForReliable m)) (key : Data) :
    ServerChange (some (machine, tid)) (.sip m) key (c.map false key)
      ((c.register f).1.map false key) := by
  rw [register_server hf key]
  split
  case isTrue h => exact .opened ⟨_, rfl, h.1, h.2⟩ rfl (hborn h.1) rfl
  case isFalse h =>
    refine .same ?_ rfl
    rintro ⟨_, ⟨⟩, hserver, hkey⟩
    exact h ⟨hserver, hkey⟩

theorem newFromWire_change (hs : c.ServerSided) (sip : SipMessage) (tid : Data) (tu : Option ℕ)
    (key : Data) : ServerChange (c.opensFromWire sip tid) (.sip sip) key (c.map false key)
      ((c.newFromWire cfg env sip tid tu).1.map false key) := by
  unfold newFromWire opensFromWire
  cases hmethod : sip.method with
  | invite =>
    exact register_change (Frame.newServerInvite_opened cfg env sip tu)
      (fun _ => Frame.newServerInvite_born cfg env tid tu hmethod) key
  | cancel =>
    cases hfind : c.mServerTransactionMap.find sip.getTransactionId with
    | none => exact .same (not_opensServer_none key) rfl
    | some st =>
      exact register_change (Frame.newServerCancel_opened cfg env sip st)
        (fun _ => Frame.newServerCancel_born cfg env tid hmethod (hs _ st hfind)) key
  | ack => exact .same (not_opensServer_none key) rfl
  | _ =>
    exact register_change (Frame.newServerNonInvite_opened cfg env tu (by simp [hmethod]))
      (fun _ => Frame.newServerNonInvite_born cfg env tid tu (by simp [hmethod])) key

theorem newFromTU_change (hc : c.Filed) {sip : SipMessage} (hq : sip.isRequest = true)
    (tid : Data) (tu : Option ℕ) (key : Data) :
    ServerChange (c.opensFromTU sip tid) (.sip sip) key (c.map false key)
      ((c.newFromTU cfg env sip tid tu).1.map false key) := by
  unfold newFromTU opensFromTU
  cases sip.method with
  | invite => exact register_change (Frame.newClientInvite_opened cfg env tu hq) nofun key
  | ack => exact register_change (Frame.newStateless_opened cfg env sip tu) nofun key
  | cancel =>
    cases hfind : c.mClientTransactionMap.find sip.getTransactionId with
    | none => exact .same (not_opensServer_none key) rfl
    | some st =>
      have hopened : ∀ key', ¬ OpensServer
          (if st.mState ≠ .calling ∧ st.mState ≠ .completed ∧ st.mNextTransmission.isSome then
            some (Machine.clientNonInvite, st.mId ++ cancelToken) else none) key' := by
        rintro key' ⟨p, hp, hserver, -⟩
        split at hp
        · cases hp
          cases hserver
        · cases hp
      dsimp only
      by_cases hcompleted : st.mState = .completed
      · rw [if_pos hcompleted]
        exact .same (hopened key) rfl
      · rw [if_neg hcompleted]
        exact install_change hc true hfind (Frame.cancelFromTU_spawns cfg env sip rfl)
          hopened _ nofun key
  | _ => exact register_change (Frame.newClientNonInvite_opened cfg env sip tu) nofun key

theorem processSipMessageAsNew_change (hc : c.Filed) (hs : c.ServerSided) (sip : SipMessage)
    (tid key : Data) : ServerChange (c.opensAsNew cfg env sip tid) (.sip sip) key
      (c.map false key) ((c.processSipMessageAsNew cfg env sip tid).1.map false key) := by
  unfold processSipMessageAsNew opensAsNew
  split
  case isTrue hq =>
    split
    case isTrue =>
      by_cases husers : cfg.haveTransactionUsers
      · rw [if_pos husers]
        cases hselect : env.selectTransactionUser sip with
        | none => exact .same (by simp [husers, OpensServer]) rfl
        | some tu => simpa using newFromWire_change cfg env hs sip tid (some tu) key
      · simpa [husers] using newFromWire_change cfg env hs sip tid none key
    case isFalse => exact newFromTU_change cfg env hc hq tid sip.transactionUser key
  case isFalse =>
    split
    case isTrue => exact .same (not_opensServer_none key) rfl
    case isFalse =>
      exact register_change (c := { c with
          statelessIdCounter := (c.statelessIdCounter + 1) % 2 ^ 32 })
        (Frame.newStateless_opened cfg env sip _) nofun key

theorem deliver_change (hc : c.Filed) (hs : c.ServerSided) (msg : TransactionMessage) (key : Data) :
    ServerChange (c.opensDelivered cfg env msg) msg key (c.map false key)
      ((c.deliver cfg env msg).1.map false key) := by
  have hreceive : ∀ st, (c.map msg.isClientTransaction).find msg.tid = some st → ServerChange
      (if st.sendsCancel msg then some (.clientNonInvite, st.mId ++ cancelToken) else none) msg key
        (c.map false key) ((c.install (st.receive cfg env msg)).1.map false key) := by
    intro st hst
    refine install_change hc _ hst (st.receive_spawns cfg env msg) ?_ _ ?_ key
    · rintro key' ⟨p, hp, hserver, -⟩
      split at hp
      · cases hp
        cases hserver
      · cases hp
    · intro hside
      refine ⟨⟨hside, rfl⟩, st.receive_keeps cfg env (hs _ st (hside ▸ hst)) _ ?_⟩
      rintro tid reason subCode rfl
      cases hside
  unfold deliver opensDelivered
  cases hfind : (c.map msg.isClientTransaction).find msg.tid with
  | none =>
    cases msg with
    | sip m => exact processSipMessageAsNew_change cfg env hc hs m _ key
    | _ => exact .same (not_opensServer_none key) rfl
  | some st =>
    cases msg with
    | sip m =>
      dsimp only
      split
      · exact processSipMessageAsNew_change cfg env hc hs m _ key
      · exact hreceive st hfind
    | _ => exact hreceive st hfind

theorem process_change (hc : c.Filed) (hs : c.ServerSided) (msg : TransactionMessage) (key : Data) :
    ServerChange (c.opens cfg env msg) msg key (c.map false key)
      ((c.process cfg env msg).1.map false key) := by
  unfold process opens
  cases msg with
  | control m => exact .same (not_opensServer_none key) rfl
  | badTid => exact .same (not_opensServer_none key) rfl
  | sip m =>
    dsimp only
    split
    · exact .same (not_opensServer_none key) rfl
    · exact deliver_change cfg env hc hs (.sip m) key
  | _ => exact deliver_change cfg env hc hs _ key

theorem processTimer_change (hc : c.Filed) (hs : c.ServerSided) (t : TransactionTimer) (key : Data) :
    ServerChange none (.timer t) key (c.map false key)
      ((c.processTimer cfg env t).1.map false key) := by
  simp only [processTimer]
  split
  case h_1 => exact .same (not_opensServer_none key) rfl
  case h_2 =>
    split
    case h_1 st hst =>
      exact install_change (c := { c with mTimers := c.mTimers.erase t }) hc _ hst
        (st.receive_spawns cfg env (.timer t)) not_opensServer_none (.timer t)
        (fun hside => ⟨⟨hside, rfl⟩, st.receive_keeps cfg env (hs _ st (hside ▸ hst)) _ (by simp)⟩) key
    case h_2 => exact .same (not_opensServer_none key) rfl

theorem rewriteRequest_change (hc : c.Filed) (tid : Data) (uri : Uri) (key : Data)
    (msg : TransactionMessage) :
    ServerChange none msg key (c.map false key) ((c.rewriteRequest tid uri).1.map false key) := by
  unfold rewriteRequest
  split
  case h_1 st hst =>
    exact install_change hc true hst
      (((Frame.rewriteRequest_same _ uri).continues).spawns rfl False) not_opensServer_none msg
        nofun key
  case h_2 => exact .same (not_opensServer_none key) rfl

end TransactionController

/-! ### Runs -/

/-- The request that opened the last server transaction under a key: the transport it arrived
on, and whether a Timer H, I or J of that transaction has fired. -/
structure Origin where
  transport : TransportType
  ended : Bool

/-- The timers that end a server transaction that has sent a final response. -/
def TimerType.endsServer (type : TimerType) : Bool :=
  decide (type ∈ [.timerH, .timerI, .timerJ])

instance (opened : Option (Machine × Data)) (key : Data) : Decidable (OpensServer opened key) :=
  inferInstanceAs (Decidable (∃ p, opened = some p ∧ p.1.isClient = false ∧ branchKey p.2 = key))

namespace Traced

/-- Keeps the origin of the server transaction under `key`. -/
def observeOrigin (cfg : Config) (key : Data) (s : Traced) :
    Env × ControllerEvent → Option Origin → Option Origin
  | (env, .message (.sip m)), o =>
    if OpensServer (s.controller.opens cfg env (.sip m)) key then some ⟨m.source.mTransportType, false⟩
    else o
  | (_, .timer t stamp), o =>
    if t.type.endsServer ∧ branchKey t.transactionId = key ∧ stamp = current s.births t then
      o.map fun q => { q with ended := true }
    else o
  | _, o => o

end Traced

def originOf (cfg : Config) (key : Data) : System (Traced × Option Origin) (Env × ControllerEvent) :=
  (controllers cfg).observe none (Traced.observeOrigin cfg key)

instance (cfg : Config) (key : Data) (p : Traced × Option Origin) (e : Env × ControllerEvent) :
    Decidable ((originOf cfg key).enabled p e) :=
  inferInstanceAs (Decidable ((controllers cfg).enabled p.1 e))

/-- What a step hands to the TU. -/
def Emission.delivered : Emission → List SipMessage
  | .transaction _ out => out.tu
  | .toTU m => [m]
  | _ => []

/-- The server transaction under `key` knows the transport of its request for what it is, and
a request that came over an unreliable one is not handed to the TU again before Timer H, I or J
of its transaction has fired. -/
def KnowsTransport (cfg : Config) (key : Data) (p : Traced × Option Origin) : Prop :=
  (∀ st, p.1.controller.map false key = some st →
    ∃ q, p.2 = some q ∧ st.mIsReliable = isReliable q.transport) ∧
  ∀ q, p.2 = some q → isReliable q.transport = false → q.ended = false →
    ∀ env m, m.isRequest = true → m.isExternal = true → m.method ≠ .ack →
      branchKey (TransactionMessage.sip m).tid = key →
      ∀ x ∈ (p.1.controller.process cfg env (.sip m)).2, x.delivered = []

namespace Traced

instance (v : ServerView) : (type : TimerType) → Decidable (v.expires type)
  | .timerH | .timerI => inferInstanceAs (Decidable (v.machine = .serverInvite))
  | .timerJ => inferInstanceAs (Decidable (v.machine = .serverNonInvite ∧ v.state = .completed))
  | .timerStaleServer => inferInstanceAs (Decidable (v.machine = .serverStale))
  | .timerA | .timerB | .timerC | .timerD | .timerE1 | .timerE2 | .timerF | .timerG | .timerK
  | .timerTrying | .timerStaleClient | .timerStateless | .timerCleanUp | .applicationTimer
  | .tcpConnectTimer => .isFalse id

/-- A CANCEL opens a server transaction and came over an unreliable transport; or an
unreliable server transaction ends by Timer StaleServer, which follows a 2xx to INVITE, or by a
timer of an earlier transaction. -/
def losesRequest (cfg : Config) (s : Traced) : Env × ControllerEvent → Prop
  | (env, .message (.sip m)) => m.method = .cancel ∧ isReliable m.source.mTransportType = false ∧
      ∃ p, s.controller.opens cfg env (.sip m) = some p ∧ p.1.isClient = false
  | (_, .timer t stamp) => ∃ st, s.lookup t = some st ∧ st.mIsReliable = false ∧
      st.serverView.expires t.type ∧ (t.type = .timerStaleServer ∨ stamp ≠ current s.births t)
  | _ => False

instance (cfg : Config) (s : Traced) : (e : Env × ControllerEvent) → Decidable (losesRequest cfg s e)
  | (env, .message (.sip m)) => inferInstanceAs (Decidable (m.method = .cancel ∧
      isReliable m.source.mTransportType = false ∧
        ∃ p, s.controller.opens cfg env (.sip m) = some p ∧ p.1.isClient = false))
  | (_, .timer t stamp) => inferInstanceAs (Decidable (∃ st, s.lookup t = some st ∧
      st.mIsReliable = false ∧ st.serverView.expires t.type ∧
        (t.type = .timerStaleServer ∨ stamp ≠ current s.births t)))
  | (_, .message (.control _)) | (_, .message .badTid) | (_, .message (.timer _))
  | (_, .message (.invokeAfterSocketCreationFunc _)) | (_, .message (.transportFailure _ _ _))
  | (_, .message (.tcpConnectState _ _)) | (_, .message (.abandonServerTransaction _))
  | (_, .message (.cancelClientInviteTransaction _ _)) | (_, .message (.dnsResultMessage _ _))
  | (_, .rewriteRequest _ _) => .isFalse id

end Traced

/-- The invariant behind `KnowsTransport`: as long as the origin has not ended, an unreliable
transaction is there to take the retransmissions. -/
structure OriginKept (key : Data) (p : Traced × Option Origin) : Prop where
  sided : p.1.controller.ServerSided
  arrived : ∀ st, p.1.controller.map false key = some st →
    ∃ q, p.2 = some q ∧ st.mIsReliable = isReliable q.transport
  present : ∀ q, p.2 = some q → isReliable q.transport = false → q.ended = false →
    p.1.controller.map false key ≠ none

/-- A transaction that is there takes the request and keeps it from the TU. -/
theorem OriginKept.knows {cfg : Config} {key : Data} {p : Traced × Option Origin}
    (h : OriginKept key p) : KnowsTransport cfg key p := by
  refine ⟨h.arrived, ?_⟩
  intro q hq hunreliable hended env m hrequest hexternal hack hkey
  have hside : m.isClientTransaction = false := by
    simp [SipMessage.isClientTransaction, hrequest, hexternal, SipMessage.isResponse]
  obtain ⟨st, hst⟩ := Option.ne_none_iff_exists'.1 (h.present q hq hunreliable hended)
  have hserver := h.sided key st hst
  have hfind : (p.1.controller.map (TransactionMessage.sip m).isClientTransaction).find
      (TransactionMessage.sip m).tid = some st := by
    show p.1.controller.map m.isClientTransaction (branchKey (TransactionMessage.sip m).tid) = some st
    rw [hside, hkey]
    exact hst
  simp only [TransactionController.process]
  split
  · simp only [TransactionController.handleBadRequest, TransactionController.transmitStateless]
    repeat' split
    all_goals simp [Emission.delivered]
  · have hgood : st.isBadAck200 m = false := by simp [TransactionState.isBadAck200, hack]
    simp only [TransactionController.deliver, hfind, hgood, TransactionController.install,
      st.receive_spawned cfg env hserver]
    have htu := (st.receive_keeps cfg env hserver (.sip m) (by simp)).tu m rfl hrequest hack
    simpa [Emission.delivered, Frame.start, Outputs.empty] using htu

theorem TransactionController.ServerSided.change {c c' : TransactionController} (hs : c.ServerSided)
    {opened : Option (Machine × Data)} {msg : TransactionMessage}
    (hchange : ∀ key, ServerChange opened msg key (c.map false key) (c'.map false key)) :
    c'.ServerSided := by
  intro key st hst
  cases hchange key with
  | same _ h => exact hs key st (h ▸ hst)
  | stepped _ _ _ hf h =>
    rw [hst] at h
    split at h
    · cases h
    · cases h
      exact hf.side
  | opened _ _ hf h =>
    rw [hst] at h
    split at h
    · cases h
    · cases h
      exact hf.side

/-- A step that opens no server transaction under the key. What ends an unreliable transaction
must end the origin too. -/
theorem OriginKept.stay {key : Data} {p p' : Traced × Option Origin} (h : OriginKept key p)
    (opened : Option (Machine × Data)) (msg : TransactionMessage)
    (hchange : ∀ key, ServerChange opened msg key (p.1.controller.map false key)
      (p'.1.controller.map false key)) (hopened : ¬ OpensServer opened key)
    (horigin : p'.2 = p.2 ∨ p'.2 = p.2.map fun q => { q with ended := true })
    (hend : ∀ t st, msg = .timer t → t.type.isClientTransaction = false →
      branchKey t.transactionId = key → p.1.controller.map false key = some st →
      st.mIsReliable = false → st.serverView.expires t.type →
        p'.2 = p.2.map fun q => { q with ended := true }) : OriginKept key p' := by
  have htransport : ∀ q, p.2 = some q → ∃ q', p'.2 = some q' ∧ q'.transport = q.transport := by
    intro q hq
    rcases horigin with ho | ho <;> simp [ho, hq]
  have hlive : ∀ q', p'.2 = some q' → q'.ended = false → p.2 = some q' := by
    intro q' hq' hended
    rcases horigin with ho | ho
    · rw [← ho, hq']
    · rw [ho] at hq'
      obtain ⟨q, -, rfl⟩ := Option.map_eq_some_iff.1 hq'
      cases hended
  have hsided := h.sided.change hchange
  cases hchange key with
  | opened ho => exact absurd ho hopened
  | same _ hsame =>
    refine ⟨hsided, ?_, ?_⟩
    · intro st hst
      obtain ⟨q, hq, hrel⟩ := h.arrived st (hsame ▸ hst)
      obtain ⟨q', hq', htr⟩ := htransport q hq
      exact ⟨q', hq', htr ▸ hrel⟩
    · intro q' hq' hrel hended
      rw [hsame]
      exact h.present q' (hlive q' hq' hended) hrel hended
  | @stepped st f _ hst hkey hf hafter =>
    obtain ⟨q, hq, hrel⟩ := h.arrived st hst
    obtain ⟨q', hq', htr⟩ := htransport q hq
    refine ⟨hsided, ?_, ?_⟩
    · intro st' hst'
      rw [hst'] at hafter
      split at hafter
      · cases hafter
      · cases hafter
        exact ⟨q', hq', htr ▸ hf.reliable.trans hrel⟩
    · intro q'' hq'' hunreliable hended
      obtain rfl := Option.some.inj (hq'.symm.trans hq'')
      have hstRel : st.mIsReliable = false := hrel.trans (htr ▸ hunreliable)
      rw [hafter]
      split
      case isFalse => simp
      case isTrue hdeleted =>
        rcases hf.deleted hdeleted with hd | hd | ⟨t, ht, hexpires⟩
        · cases hd
        · simp [Frame.start, hstRel] at hd
        · subst ht
          rw [hend t st rfl hkey.1 hkey.2 hst hstRel hexpires, hq] at hq'
          simp only [Option.map_some, Option.some.injEq] at hq'
          rw [← hq'] at hended
          cases hended

/-- A request that opens a server transaction under the key and is taken for what it is. -/
theorem OriginKept.begin {key : Data} {p p' : Traced × Option Origin} (h : OriginKept key p)
    {opened : Option (Machine × Data)} {m : SipMessage}
    (hchange : ∀ key, ServerChange opened (.sip m) key (p.1.controller.map false key)
      (p'.1.controller.map false key)) (hopened : OpensServer opened key)
    (horigin : p'.2 = some ⟨m.source.mTransportType, false⟩)
    (hm : m.method = .cancel → isReliable m.source.mTransportType = true) : OriginKept key p' := by
  have hsided := h.sided.change hchange
  have htaken : takenForReliable m = isReliable m.source.mTransportType := by
    unfold takenForReliable
    by_cases hc : m.method = .cancel
    · simp [hc, hm hc]
    · simp [hc]
  cases hchange key with
  | same ho => exact absurd hopened ho
  | stepped ho => exact absurd hopened ho
  | @opened m' f _ hm' hf hafter =>
    cases hm'
    refine ⟨hsided, ?_, ?_⟩
    · intro st hst
      rw [hst] at hafter
      split at hafter
      · cases hafter
      · cases hafter
        exact ⟨_, horigin, hf.reliable.trans htaken⟩
    · intro q hq hrel _
      rw [horigin] at hq
      cases hq
      rw [hafter]
      split
      case isFalse => simp
      case isTrue hd =>
        rw [← htaken, hf.deleted hd] at hrel
        cases hrel

theorem OriginKept.next {cfg : Config} {key : Data} {p : Traced × Option Origin}
    (h : OriginKept key p) (hfiled : p.1.controller.Filed) {e : Env × ControllerEvent}
    (he : p.1.enabled e) (hok : ¬ Traced.losesRequest cfg p.1 e) :
    OriginKept key ((originOf cfg key).next p e) := by
  obtain ⟨env, ev⟩ := e
  cases ev with
  | rewriteRequest tid uri =>
    refine h.stay none .badTid (fun key =>
      TransactionController.rewriteRequest_change hfiled tid uri key _)
      (not_opensServer_none key) (.inl rfl) ?_
    intro t st ht
    cases ht
  | timer t stamp =>
    have hcontroller : ((originOf cfg key).next p (env, .timer t stamp)).1.controller =
        (p.1.controller.processTimer cfg env t).1 := by
      show (p.1.apply cfg (env, .timer t stamp)).controller = _
      simp only [Traced.apply]
      split <;> rfl
    have horigin : ((originOf cfg key).next p (env, .timer t stamp)).2 =
        if t.type.endsServer ∧ branchKey t.transactionId = key ∧ stamp = Traced.current p.1.births t
        then p.2.map fun q => { q with ended := true } else p.2 := rfl
    refine h.stay none (.timer t) ?_ (not_opensServer_none key) ?_ ?_
    · rw [hcontroller]
      exact TransactionController.processTimer_change cfg env hfiled h.sided t
    · rw [horigin]
      split
      · exact .inr rfl
      · exact .inl rfl
    · rintro _ st ⟨⟩ hside rfl hst hrel hexpires
      have hlookup : p.1.lookup t = some st := by
        rw [Traced.lookup, hside]
        exact hst
      have howned : ¬ (t.type = .timerStaleServer ∨ stamp ≠ Traced.current p.1.births t) :=
        fun hbad => hok ⟨st, hlookup, hrel, hexpires, hbad⟩
      rw [horigin, if_pos]
      rw [not_or, not_ne_iff] at howned
      refine ⟨?_, rfl, howned.2⟩
      cases ht : t.type <;> simp_all [ServerView.expires, TimerType.endsServer]
  | message msg =>
    have hchange := TransactionController.process_change cfg env hfiled h.sided msg
    by_cases hopens : OpensServer (p.1.controller.opens cfg env msg) key
    · cases hchange key with
      | same ho => exact absurd hopens ho
      | stepped ho => exact absurd hopens ho
      | @opened m _ _ hm =>
        cases hm
        refine h.begin hchange hopens (if_pos hopens) fun hcancel => ?_
        obtain ⟨q, hq, hserver, -⟩ := hopens
        by_contra hrel
        exact hok ⟨hcancel, by simpa using hrel, q, hq, hserver⟩
    · refine h.stay _ msg hchange hopens (.inl ?_) ?_
      · cases msg with
        | sip m => exact if_neg hopens
        | _ => rfl
      · rintro t st rfl
        exact absurd he id

/-- In a run without CANCEL requests over unreliable transports, and in which no Timer
StaleServer and no timer of an earlier transaction ends an unreliable one, server transactions
know their transport and no retransmission reaches the TU. -/
theorem server_knowsTransport (cfg : Config) (key : Data) {p : Traced × Option Origin}
    (hr : Reach (originOf cfg key) (fun p e => ¬ Traced.losesRequest cfg p.1 e) p) :
    KnowsTransport cfg key p := by
  have hkept : OriginKept key p := by
    refine hr.invariant ?_ ?_
    · rintro ⟨s, o⟩ ⟨rfl, rfl⟩
      refine ⟨?_, ?_, ?_⟩
      · intro key st hst
        cases hst
      · intro st hst
        cases hst
      · intro q hq
        cases hq
    · intro p e hreach hp he hok
      exact hp.next (controller_stamped hreach.unobserve).filed he hok
  exact hkept.knows

/-- OPTIONS over UDP, answered 200, whose Timer Trying fires late. -/
theorem server_knowsTransport_options :
    KnowsTransport {} (branchKey sampleBranch) ([
      (sampleEnv, .message (.sip (sampleWireRequest .options (sampleTuple .udp 1)))),
      (sampleEnv, .message (.sip (sampleServerResponse .options (sampleTuple .udp 1) 200))),
      (sampleEnv, .timer ⟨.timerTrying, sampleBranch, 3500⟩ 1)].foldl
        (originOf {} (branchKey sampleBranch)).next (Traced.start, none)) :=
  server_knowsTransport {} _ (.run (.observe_init rfl) _ (by decide))

/-- A CANCEL over UDP is answered 200, which deletes its transaction at once; the retransmitted
CANCEL is handed to the TU again. -/
theorem serverCancel_delivered_twice :
    ∃ p, Reach (originOf {} (branchKey (sampleBranch ++ cancelToken))) anyStep p ∧
      ¬ KnowsTransport {} (branchKey (sampleBranch ++ cancelToken)) p := by
  let cancel := sampleWireRequest .cancel (sampleTuple .udp 1)
  refine ⟨_, .run (.observe_init rfl) [
    (sampleEnv, .message (.sip (sampleWireRequest .invite (sampleTuple .udp 1)))),
    (sampleEnv, .message (.sip cancel)),
    (sampleEnv, .message (.sip (sampleServerResponse .cancel (sampleTuple .udp 1) 200)))]
    (by decide), fun h => ?_⟩
  have hagain := h.2 ⟨.udp, false⟩ rfl rfl rfl sampleEnv cancel rfl rfl (by decide) rfl
  revert hagain
  decide

end Resiprocate.Transaction
