import Resiprocate.TransactionSession

/-! Stateless transactions: an ACK of the TU, or a message that belongs to no transaction. -/
namespace Resiprocate.Transaction
open TransitionSystem

/-- The message waits for DNS, and will not be sent before DNS answers. -/
structure TransactionState.Held (st : TransactionState) (flow : ℕ) : Prop where
  next : st.mNextTransmission ≠ none
  target : st.mTarget.mTransportType = .unknownTransport
  dns : st.mDnsResult = true
  flow : flow = 0

/-- What holds of every stateless transaction; `flow` is where its messages go. -/
structure TransactionState.StatelessKept (st : TransactionState) (flow : ℕ) : Prop where
  machine : st.mMachine = .stateless
  state : st.mState = .calling ∧ (st.mPendingOperation = .dns → st.Held flow) ∨
    st.mState = .terminated ∧ st.mPendingOperation = .none ∧ st.Held flow
  destination : ∀ m, st.mNextTransmission = some m → m.destination.mFlowKey = flow

/-- The result of a step that meets no fatal fault and keeps the record in order. -/
structure Frame.StatelessSound (f : Frame) (flow : ℕ) : Prop where
  sound : f.sound
  kept : f.self.StatelessKept flow

namespace Frame
variable (cfg : Config) (env : Env) {f : Frame} {flow : ℕ}

theorem statelessSound_start {st : TransactionState} (h : st.StatelessKept flow) :
    (start st).StatelessSound flow := ⟨(fresh_start st).sound, h⟩

theorem StatelessSound.congr {g : Frame} (h : f.StatelessSound flow) (hself : g.self = f.self)
    (hsound : g.sound) : g.StatelessSound flow := ⟨hsound, hself ▸ h.kept⟩

theorem StatelessSound.sendToTU (h : f.StatelessSound flow) (m : SipMessage) :
    (f.sendToTU cfg env m).StatelessSound flow :=
  h.congr (by simp) (h.sound.sendToTU cfg env m)

theorem StatelessSound.addTimer (h : f.StatelessSound flow) (type : TimerType) (ms : ℕ) :
    (f.addTimer type ms).StatelessSound flow :=
  h.congr (by simp) (by simpa [Frame.sound] using h.sound)

theorem StatelessSound.fault (h : f.StatelessSound flow) {x : Fault} (hx : ¬ x.fatal) :
    (f.fault x).StatelessSound flow := h.congr (by simp) (h.sound.fault hx)

theorem StatelessSound.resetNextTransmission (h : f.StatelessSound flow) {m : SipMessage}
    (hm : m.destination.mFlowKey = flow) :
    (f.resetNextTransmission (some m)).StatelessSound flow := by
  obtain ⟨hsound, hmachine, hstate, -⟩ := h
  have hheld : f.self.Held flow → (f.resetNextTransmission (some m)).self.Held flow :=
    fun h => ⟨by simp, h.target, h.dns, h.flow⟩
  exact ⟨hsound, hmachine, hstate.imp (fun h => ⟨h.1, fun hp => hheld (h.2 hp)⟩)
    (fun h => ⟨h.1, h.2.1, hheld h.2.2⟩), by rintro m' ⟨⟩; exact hm⟩

/-- The message is sent, or waits for DNS. -/
theorem StatelessSound.sendFromClient (h : f.StatelessSound flow) {m : SipMessage}
    (hn : f.self.mNextTransmission = some m) : (f.sendFromClient cfg env m).StatelessSound flow := by
  obtain ⟨hsound, hmachine, hstate, hflow⟩ := h
  have hm := hflow m hn
  -- a message that goes out right away does not wait for DNS
  have hcalling : ¬ f.self.Held flow →
      f.self.mState = .calling ∧ f.self.mPendingOperation ≠ .dns := by
    intro hnot
    rcases hstate with ⟨h₁, h₂⟩ | ⟨-, -, h⟩
    · exact ⟨h₁, fun hp => hnot (h₂ hp)⟩
    · exact absurd h hnot
  unfold Frame.sendFromClient
  by_cases ht : f.self.mTarget.mTransportType = .unknownTransport
  · rw [if_neg (not_not_intro ht)]
    by_cases hk : m.destination.mFlowKey = 0
    · rw [if_neg (not_not_intro hk)]
      by_cases hd : f.self.mDnsResult = true
      · rw [if_pos hd]
        exact ⟨hsound, hmachine, hstate, hflow⟩
      · rw [if_neg hd]
        obtain ⟨hs, -⟩ := hcalling fun h => hd h.dns
        refine ⟨?_, by simpa using hmachine, .inl ⟨by simpa using hs, fun _ => ?_⟩,
          by simpa using hflow⟩
        · exact (hsound.assertThat m.isRequest .dnsRequest (by simp)).assertThat _ .dnsCancel
            (by simp)
        · exact ⟨by simp [hn], by simpa using ht, rfl, hm ▸ hk⟩
    · rw [if_pos hk]
      obtain ⟨hs, hp⟩ := hcalling fun h => hk (hm.trans h.flow)
      have hassert := hsound.assertThat
        (decide (m.destination.mTransportType ≠ .unknownTransport)) .flowDestination (by simp)
      refine ⟨by simpa [Frame.sound] using hassert, by simpa using hmachine,
        .inl ⟨by simpa using hs, fun hp' => absurd (by simpa using hp') hp⟩, fun m' hm' => ?_⟩
      rw [transmit_self] at hm'
      split at hm'
      · cases hm'
      · exact hflow m' (by simpa using hm')
  · rw [if_pos ht]
    obtain ⟨hs, hp⟩ := hcalling fun h => ht h.target
    refine ⟨by simpa [Frame.sound] using hsound, by simpa using hmachine,
      .inl ⟨by simpa using hs, fun hp' => absurd (by simpa using hp') hp⟩, fun m' hm' => ?_⟩
    rw [transmit_self] at hm'
    split at hm'
    · cases hm'
    · exact hflow m' hm'

theorem StatelessSound.sendCurrentToWire (h : f.StatelessSound flow) {m : SipMessage}
    (hn : f.self.mNextTransmission = some m) :
    (f.sendCurrentToWire cfg env).StatelessSound flow := by
  unfold Frame.sendCurrentToWire
  split
  · exact h.congr rfl h.sound
  · simp only [hn]
    rw [if_pos (by simp [TransactionState.isClient, h.kept.machine, Machine.isClient])]
    exact h.sendFromClient cfg env hn

/-- DNS gives up; a message that is no ACK is answered and the transaction stays until its
timer. -/
theorem StatelessSound.noDns (h : f.StatelessSound flow)
    (hp : f.self.mPendingOperation = .none) (hheld : f.self.Held flow) :
    (f.processNoDnsResults cfg env).StatelessSound flow := by
  obtain ⟨hsound, hmachine, hstate, hflow⟩ := h
  unfold processNoDnsResults
  split
  · exact ⟨hsound, hmachine, hstate, hflow⟩
  · split
    · exact ⟨hsound, hmachine, hstate, hflow⟩
    · rename_i sip _ _
      dsimp only
      have hs := hsound.assertThat (!f.self.mDnsResult || decide (env.dnsAvailable = .finished))
        .noDnsFinished (by simp)
      rw [if_pos (by simpa using hmachine)]
      refine ⟨?_, by simpa using hmachine, .inr ⟨by simp, by simpa using hp, ?_⟩,
        by simpa using hflow⟩
      · have hsent := hs.sendToTU cfg env (noDnsResponse cfg env f.self sip)
        simpa [Frame.sound] using hsent
      · exact ⟨by simpa using hheld.next, by simpa using hheld.target, by simpa using hheld.dns,
          hheld.flow⟩

theorem StatelessSound.handleSync (h : f.StatelessSound flow) :
    (f.handleSync cfg env).StatelessSound flow := by
  obtain ⟨hsound, hmachine, hstate, hflow⟩ := h
  unfold Frame.handleSync
  split
  · rename_i hp
    obtain ⟨hs, hheld⟩ : f.self.mState = .calling ∧ f.self.Held flow := by
      rcases hstate with h | h
      · exact ⟨h.1, h.2 hp⟩
      · simp [hp] at h
    have hassert := hsound.assertThat f.self.mDnsResult .handleSyncState (by simp)
    dsimp only
    split
    · -- a target was found
      simp only [assertThat_frame]
      split
      · rename_i hn
        exact absurd hn hheld.next
      · rename_i m hn
        simp only [useTarget]
        refine StatelessSound.sendCurrentToWire cfg env ⟨?_, ?_, .inl ⟨?_, ?_⟩, ?_⟩ (m := m) ?_
        · simpa [Frame.sound] using hassert
        · simpa using hmachine
        · simpa using hs
        · simp
        · simpa using hflow
        · simpa using hn
    · -- there is none
      refine StatelessSound.noDns cfg env ⟨?_, ?_, .inl ⟨?_, by simp⟩, ?_⟩ rfl ?_
      · simpa [Frame.sound] using hassert
      · simpa using hmachine
      · simpa using hs
      · simpa using hflow
      · exact ⟨by simpa using hheld.next, by simpa using hheld.target, by simpa using hheld.dns,
          hheld.flow⟩
    · exact ⟨hassert, by simpa using hmachine, by simpa using hstate, by simpa using hflow⟩
    · exact ⟨hassert.fault (by simp [Fault.fatal]), by simpa using hmachine,
        by simpa using hstate, by simpa using hflow⟩
  · exact ⟨hsound, hmachine, hstate, hflow⟩

theorem processNoDnsResults_sound (hf : f.sound) : (f.processNoDnsResults cfg env).sound := by
  unfold processNoDnsResults
  split
  · exact hf
  · split
    · exact hf
    · rename_i sip _ _
      have hsent := (hf.assertThat (!f.self.mDnsResult || decide (env.dnsAvailable = .finished))
        .noDnsFinished (by simp)).sendToTU cfg env (noDnsResponse cfg env f.self sip)
      dsimp only
      split <;> simpa [Frame.sound] using hsent

/-- A failure of a stateless transaction leads to no other target. -/
theorem processTransportFailure_sound (reason : FailureReason) (subCode : ℤ) (hf : f.sound)
    (hm : f.self.mMachine = .stateless) :
    (f.processTransportFailure cfg env reason subCode).sound := by
  obtain ⟨hs, hm⟩ : (f.noteFailure reason subCode).sound ∧
      (f.noteFailure reason subCode).self.mMachine = .stateless := by
    unfold noteFailure
    split <;> exact ⟨hf, hm⟩
  unfold processTransportFailure
  dsimp only
  generalize f.noteFailure reason subCode = g at hs hm
  split
  · have hassert := hs.assertThat (decide (g.self.mMethod = .cancel)) .failedCancelMethod (by simp)
    split
    · exact hassert.sendToTU cfg env _
    · exact hassert
  · split
    · exact processNoDnsResults_sound cfg env hs
    · rw [if_neg (by simp [TransactionState.shouldFailover, hm])]
      exact processNoDnsResults_sound cfg env hs

/-- `processStateless` of any message; what the TU sends goes where the first message went. -/
theorem StatelessSound.process (h : f.StatelessSound flow) (msg : TransactionMessage)
    (hm : ∀ m, msg = .sip m → m.isExternal = false → m.destination.mFlowKey = flow) :
    (f.processStateless cfg env msg).sound ∧
      ((f.processStateless cfg env msg).deleted = false →
        (f.processStateless cfg env msg).self.StatelessKept flow) := by
  have hkept : ∀ {g : Frame}, g.StatelessSound flow →
      g.sound ∧ (g.deleted = false → g.self.StatelessKept flow) :=
    fun hg => ⟨hg.sound, fun _ => hg.kept⟩
  have hfault : ∀ site, site ≠ .sendCurrentToWireNothing →
      (f.fault (.assertFailed site)).StatelessSound flow := fun site hs => h.fault hs
  cases msg with
  | sip m =>
    simp only [processStateless]
    split
    · rename_i he
      have hdest := hm m rfl (by simpa using he)
      exact hkept ((h.resetNextTransmission hdest).sendCurrentToWire cfg env rfl)
    · exact hkept (h.sendToTU cfg env m)
  | transportFailure tid reason subCode =>
    simp only [processStateless]
    refine ⟨?_, by simp⟩
    have := processTransportFailure_sound cfg env reason subCode h.sound h.kept.machine
    simpa [Frame.sound] using this
  | timer t =>
    simp only [processStateless]
    split
    · refine ⟨?_, by simp⟩
      simpa [Frame.sound] using h.sound
    · exact hkept (hfault _ (by simp))
  | tcpConnectState tid state => exact hkept h
  | dnsResultMessage tid isClient => exact hkept (h.handleSync cfg env)
  | abandonServerTransaction tid => exact hkept h
  | _ => exact hkept (hfault _ (by simp))

end Frame

/-! ### Events -/

namespace TransactionState
variable (cfg : Config) (env : Env) {st : TransactionState} {flow : ℕ}

/-- A step ends without a fatal fault, and a transaction that lives on is in order. -/
def StatelessStep (flow : ℕ) (f : Frame) : Prop :=
  f.sound ∧ (f.deleted = false → f.self.StatelessKept flow)

theorem StatelessKept.receive (h : st.StatelessKept flow) (msg : TransactionMessage)
    (hm : ∀ m, msg = .sip m → m.isExternal = false → m.destination.mFlowKey = flow) :
    StatelessStep flow (st.receive cfg env msg) := by
  have hstart := Frame.statelessSound_start h
  have hdispatch : ∀ (f : Frame) (msg : TransactionMessage), f.StatelessSound flow →
      (∀ m, msg = .sip m → m.isExternal = false → m.destination.mFlowKey = flow) →
      StatelessStep flow (f.dispatch cfg env msg) := by
    intro f msg hf hm
    simp only [Frame.dispatch, hf.kept.machine]
    exact hf.process cfg env msg hm
  cases msg with
  | sip m =>
    simp only [TransactionState.receive]
    split
    · refine hdispatch _ _ (hstart.congr (by simp) (hstart.sound.assertThat _ _ (by simp))) ?_
      rintro m' ⟨⟩ he
      rw [(st.fixResponse_fields cfg m).2.2.2] at he
      rw [st.fixResponse_eq cfg (by simp [he])]
      exact hm m rfl he
    · exact ⟨hstart.sound, fun _ => h⟩
  | _ => exact hdispatch _ _ hstart hm

theorem StatelessKept.cancelFromTU (h : st.StatelessKept flow) (cancel : SipMessage) :
    StatelessStep flow ((Frame.start st).cancelFromTU cfg env cancel) := by
  have hstart := Frame.statelessSound_start h
  unfold Frame.cancelFromTU
  rw [show (Frame.start st).self = st from rfl]
  split
  · exact ⟨hstart.sound, fun _ => ⟨h.machine, h.state.imp (fun h => ⟨h.1, fun hp =>
      ⟨(h.2 hp).next, (h.2 hp).target, (h.2 hp).dns, (h.2 hp).flow⟩⟩)
      fun h => ⟨h.1, h.2.1, ⟨h.2.2.next, h.2.2.target, h.2.2.dns, h.2.2.flow⟩⟩, h.destination⟩⟩
  · split
    · exact ⟨hstart.sound, fun _ => h⟩
    · rename_i hc _
      -- after DNS gave up the message is still there
      have hheld : st.Held flow := by
        rcases h.state with h | h
        · exact absurd h.1 hc
        · exact h.2.2
      unfold Frame.handleInternalCancel
      split
      · rename_i hn
        exact absurd hn hheld.next
      · refine ⟨?_, fun _ => ?_⟩
        · simpa [Frame.sound] using hstart.sound
        · simpa using hstart.kept

theorem StatelessKept.rewriteRequest (h : st.StatelessKept flow) (uri : Uri)
    (hp : st.mPendingOperation = .dns) :
    StatelessStep flow ((Frame.start st).rewriteRequest uri) := by
  have hstart := Frame.statelessSound_start h
  have hheld : st.Held flow := by
    rcases h.state with h | h
    · exact h.2 hp
    · simp [hp] at h
  unfold Frame.rewriteRequest
  split
  · rename_i hn
    exact absurd hn hheld.next
  · rename_i sip hn
    split
    · have := hstart.fault (x := .assertFailed .rewriteRequest) (by simp [Fault.fatal])
      exact ⟨this.sound, fun _ => this.kept⟩
    · split
      · exact ⟨hstart.sound, fun _ => h⟩
      · have := hstart.resetNextTransmission (m := { sip with startLine := .request uri })
          (h.destination sip hn)
        exact ⟨this.sound, fun _ => this.kept⟩

end TransactionState

/-! ### Runs -/

/-- No fatal fault has been recorded in the run so far. -/
def Session.sound (s : Session) : Prop := ∀ x ∈ s.log.faults, ¬ x.fatal

theorem Session.sound_absorb {s : Session} {f : Frame} (hs : s.sound) (hf : f.sound) :
    (s.absorb f).sound := by
  intro x hx
  simp only [absorb, Outputs.append, List.mem_append] at hx
  rcases hx with hx | hx
  · exact hs x hx
  · exact hf x hx

theorem Session.sound_born {f : Frame} (hf : f.sound) : (Session.born f).sound :=
  Session.sound_absorb (by simp [Session.sound, Outputs.empty]) hf

/-- The run has met no fatal fault, and the transaction is in order. -/
def StatelessRun (flow : ℕ) (s : Session) : Prop :=
  s.sound ∧ ∀ st, s.tx = some st → st.StatelessKept flow

theorem StatelessRun.absorb {flow : ℕ} {s : Session} {f : Frame} (hs : s.sound)
    (hf : TransactionState.StatelessStep flow f) : StatelessRun flow (s.absorb f) := by
  refine ⟨Session.sound_absorb hs hf.1, fun st hst => ?_⟩
  simp only [Session.absorb] at hst
  split at hst
  · cases hst
  · rename_i hd
    cases hst
    exact hf.2 (by simpa using hd)

/-- The messages of the TU that reach a stateless transaction go where the first one went. -/
theorem destination_of_event {b : Birth} {s : Session} {st : TransactionState} {env : Env}
    {msg : TransactionMessage} (hm : st.mMachine = .stateless) (ht : st.takes msg)
    (hok : ¬ reusesId b s (env, .message msg)) {m : SipMessage} (hmsg : msg = .sip m)
    (he : m.isExternal = false) : m.destination.mFlowKey = b.request.destination.mFlowKey := by
  subst hmsg
  have hclient : m.isClientTransaction = st.isClient := ht.2.1
  have hq : m.isRequest = true := by
    simpa [SipMessage.isClientTransaction, he, TransactionState.isClient, hm,
      Machine.isClient] using hclient
  by_contra hne
  refine hok ⟨hq, by simp [he], fun ⟨_, hd⟩ => hne ?_⟩
  rw [hd]

theorem StatelessRun.apply (cfg : Config) {b : Birth} {s : Session} {env : Env}
    {ev : SessionEvent} (hr : StatelessRun b.request.destination.mFlowKey s)
    (he : s.enabled (env, ev)) (hok : ¬ reusesId b s (env, ev)) :
    StatelessRun b.request.destination.mFlowKey (s.apply cfg (env, ev)) := by
  obtain ⟨hsound, hkept⟩ := hr
  cases hs : s.tx with
  | none =>
    obtain ⟨htx, hlog⟩ := Session.apply_gone cfg env ev hs
    refine ⟨by rw [Session.sound, hlog]; exact hsound, fun st hst => ?_⟩
    cases htx.symm.trans hst
  | some st =>
    have h := hkept st hs
    cases ev with
    | message msg =>
      obtain ⟨st', hst, ht⟩ := he
      cases hs.symm.trans hst
      simp only [Session.apply, hs]
      exact .absorb hsound (h.receive cfg env msg fun m hmsg hex =>
        destination_of_event h.machine ht hok hmsg hex)
    | timer t =>
      cases hp : TransactionController.postponed cfg env t with
      | some t' =>
        simp only [Session.apply, hp]
        exact ⟨hsound, hkept⟩
      | none =>
        simp only [Session.apply, hp, hs]
        exact .absorb hsound (h.receive cfg env (.timer t) (by simp))
    | cancelFromTU cancel =>
      simp only [Session.apply, hs]
      exact .absorb hsound (h.cancelFromTU cfg env cancel)
    | rewriteRequest uri =>
      obtain ⟨st', hst, -, -, hp⟩ := he
      cases hs.symm.trans hst
      simp only [Session.apply, hs]
      exact .absorb hsound (h.rewriteRequest uri hp)

/-- Every run of a stateless transaction whose id is not used for another request. -/
theorem stateless_run (cfg : Config) (env : Env) (sip : SipMessage) (tid : Data) (tu : Option ℕ)
    {s : Session} (hr : Reach (sessions cfg (.stateless env sip tid tu))
      (fun s e => ¬ reusesId (.stateless env sip tid tu) s e) s) :
    StatelessRun sip.destination.mFlowKey s := by
  refine Reach.invariant (P := StatelessRun sip.destination.mFlowKey) ?_ ?_ hr
  case refine_2 =>
    intro s e _ hp he hok
    exact StatelessRun.apply cfg (b := .stateless env sip tid tu) hp he hok
  rintro s rfl
  have hnew : (Frame.start (.create .stateless .calling tid sip.method sip.methodStr tu)).StatelessSound
      sip.destination.mFlowKey :=
    Frame.statelessSound_start
      ⟨rfl, .inl ⟨rfl, by simp [TransactionState.create]⟩, by simp [TransactionState.create]⟩
  have htimer := hnew.addTimer .timerStateless cfg.timers.TS
  exact .absorb (by simp [Session.sound, Outputs.empty])
    (htimer.process cfg env (.sip sip) fun m hm _ => by cases hm; rfl)

end Resiprocate.Transaction
