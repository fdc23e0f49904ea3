import Resiprocate.TransactionClientRefinement

/-! Runs of a client INVITE or non-INVITE transaction: how it starts, what each event does
to the session, and what every run keeps. -/
namespace Resiprocate.Transaction
open ClientView TransitionSystem

/-! ### Creation -/

/-- A client transaction about to send its request for the first time. -/
def firstView (machine : Machine) (state : State) (method : MethodTypes) (target : Tuple)
    (m : SipMessage) : ClientView :=
  ⟨machine, state, false, !lossy target.mTransportType, some m, none, false, .none, target,
    m.hContact, some m.via, method⟩

/-- How a client transaction starts: the view that sends the request, and the timers armed
before it does. -/
inductive ClientBirth (cfg : Config) : Birth → ClientView → List TimerType → Prop
  | invite (env : Env) (sip : SipMessage) (tid : Data) (tu : Option ℕ) :
      ClientBirth cfg (.clientInvite env sip tid tu)
        (firstView .clientInvite .calling .invite .unset sip) [.timerB]
  | nonInvite (env : Env) (sip : SipMessage) (tid : Data) (tu : Option ℕ) :
      ClientBirth cfg (.clientNonInvite env sip tid tu)
        (firstView .clientNonInvite .trying sip.method .unset sip) [.timerF]
  | cancel (env : Env) (cancel : SipMessage) (invite : TransactionState) (request : SipMessage) :
      ClientBirth cfg (.clientCancel env cancel invite request)
        (firstView .clientNonInvite .trying .cancel invite.mTarget (cancel.onBranchOf request))
        (startedBy .clientNonInvite true invite.mTarget.mTransportType ++ [.timerF])

theorem contact_eq (c : Option Data) : (if c.isSome then c else none) = c := by
  cases c <;> simp

theorem ClientBirth.shows {cfg : Config} {b : Birth} {v : ClientView} {armed : List TimerType}
    (h : ClientBirth cfg b v armed) (hb : b.valid) :
    ∃ armed' v', v.Sent armed' v' ∧
      (b.frame cfg).Shows ⟨armed ++ armed', none, false, true⟩ v' := by
  cases h with
  | invite env sip tid tu =>
    obtain ⟨hq, he, hm⟩ := hb
    have hf := Frame.fresh_start (.create .clientInvite .calling tid .invite [] tu)
    have h := ((hf.shows.resetNextTransmission (some sip)).saveOriginalContactAndVia sip).addTimer
      .timerB cfg.timers.TB
    obtain ⟨armed', v', hs, hsent⟩ := h.sent cfg env rfl rfl (.inl (by
      simp [Frame.saveOriginalContactAndVia]))
    refine ⟨armed', v', ?_, ?_⟩
    · simpa [firstView, contact_eq, Frame.start, TransactionState.create,
        TransactionState.clientView, lossy, Tuple.unset] using hs
    · simpa [Birth.frame, newClientInvite, Frame.processClientInvite, hq, he,
        Frame.clientInviteRequest, hm, Frame.start, TransactionState.create] using hsent
  | nonInvite env sip tid tu =>
    obtain ⟨hq, he, hm⟩ := hb
    have hf := Frame.fresh_start (.create .clientNonInvite .trying tid sip.method sip.methodStr tu)
    have h := ((hf.shows.resetNextTransmission (some sip)).saveOriginalContactAndVia sip).addTimer
      .timerF cfg.timers.TF
    obtain ⟨armed', v', hs, hsent⟩ := h.sent cfg env rfl rfl (.inl (by
      simp [Frame.saveOriginalContactAndVia]))
    refine ⟨armed', v', ?_, ?_⟩
    · simpa [firstView, contact_eq, Frame.start, TransactionState.create,
        TransactionState.clientView, lossy, Tuple.unset] using hs
    · simpa [Birth.frame, newClientNonInvite, Frame.processClientNonInvite, hq, he,
        Frame.clientNonInviteRequest, Frame.start, TransactionState.create] using hsent
  | cancel env cancel invite request =>
    obtain ⟨hq, he, hm⟩ := hb
    have hc : (makeCancelTransaction cfg invite .clientNonInvite (invite.mId ++ cancelToken)).Shows
        ⟨startedBy .clientNonInvite true invite.mTarget.mTransportType, none, false, false⟩
        (makeCancelTransaction cfg invite .clientNonInvite
          (invite.mId ++ cancelToken)).self.clientView := by
      refine ⟨fun _ => rfl, ?_, ?_, ?_, fun _ => ?_, ?_⟩ <;>
        simp [makeCancelTransaction, Frame.processReliability_timers, Frame.start,
          TransactionState.create, Outputs.empty, Frame.sound, Function.comp_def]
    have h := ((hc.resetNextTransmission (some (cancel.onBranchOf
      request))).saveOriginalContactAndVia (cancel.onBranchOf request)).addTimer .timerF
      cfg.timers.TF
    obtain ⟨armed', v', hs, hsent⟩ := h.sent cfg env rfl
      (by simp [makeCancelTransaction, Frame.saveOriginalContactAndVia, Frame.start,
        TransactionState.create, TransactionState.isClient, Machine.isClient])
      (.inl (by simp [Frame.saveOriginalContactAndVia]))
    refine ⟨armed', v', ?_, ?_⟩
    · simpa [firstView, contact_eq, Frame.start, TransactionState.create, makeCancelTransaction,
        TransactionState.clientView] using hs
    · have hq' : (cancel.onBranchOf request).isRequest = true := hq
      have he' : (cancel.onBranchOf request).isExternal = false := by
        simpa [SipMessage.onBranchOf] using he
      simpa [Birth.frame, newClientCancel, Frame.processClientNonInvite, hq', he',
        Frame.clientNonInviteRequest] using hsent

theorem ClientBirth.wellFormed {cfg : Config} {b : Birth} {v : ClientView}
    {armed : List TimerType} (h : ClientBirth cfg b v armed) (hb : b.valid) :
    v.WellFormed ∧ v.unanswered ∧ v.next = some b.request := by
  cases h with
  | invite env sip tid tu =>
    have hu : (firstView .clientInvite .calling .invite .unset sip).unanswered :=
      .inl ⟨rfl, .inl rfl⟩
    exact ⟨.of_unanswered hu (fun _ => rfl) nofun rfl ⟨hb.1, hb.2.2⟩ nofun rfl, hu, rfl⟩
  | nonInvite env sip tid tu =>
    have hu : (firstView .clientNonInvite .trying sip.method .unset sip).unanswered :=
      .inr ⟨rfl, .inl rfl⟩
    exact ⟨.of_unanswered hu nofun (fun _ => ⟨hb.2.2.1, hb.2.2.2.1⟩) rfl ⟨hb.1, rfl⟩ nofun rfl,
      hu, rfl⟩
  | cancel env cancel invite request =>
    have hu : (firstView .clientNonInvite .trying .cancel invite.mTarget
        (cancel.onBranchOf request)).unanswered := .inr ⟨rfl, .inl rfl⟩
    exact ⟨.of_unanswered hu nofun (fun _ => by simp [firstView]) rfl ⟨hb.1, hb.2.2⟩ nofun rfl,
      hu, rfl⟩

/-- Created for a request other than INVITE, CANCEL included. -/
def Birth.isClientNonInvite : Birth → Bool
  | .clientNonInvite _ _ _ _ | .clientCancel _ _ _ _ => true
  | _ => false

theorem Birth.clientNonInvite_birth (cfg : Config) {b : Birth} (h : b.isClientNonInvite) :
    ∃ v armed, ClientBirth cfg b v armed ∧ v.machine = .clientNonInvite ∧ v.state = .trying := by
  cases b with
  | clientNonInvite env sip tid tu => exact ⟨_, _, .nonInvite env sip tid tu, rfl, rfl⟩
  | clientCancel env cancel invite request =>
    exact ⟨_, _, .cancel env cancel invite request, rfl, rfl⟩
  | _ => simp [isClientNonInvite] at h

/-! ### One event -/

/-- A transport failure, or a TCP connection that did not come up in time. -/
def SessionEvent.isFailure (st : TransactionState) : SessionEvent → Bool
  | .message (.transportFailure _ _ _) => true
  | .timer t => decide (t.type = .tcpConnectTimer) && st.mTcpConnectTimerStarted
  | _ => false

theorem clientCause_failure {st : TransactionState} {ev : SessionEvent} :
    clientCause st ev = .failure ↔ ev.isFailure st := by
  cases ev with
  | message msg =>
    cases msg <;> simp [clientCause, SessionEvent.isFailure]
    split <;> simp
  | timer t =>
    simp only [clientCause, Frame.timerCause, SessionEvent.isFailure]
    repeat' split
    all_goals simp_all
  | _ => simp [clientCause, SessionEvent.isFailure]

/-- Every event either puts off a retransmission timer or makes a step of `ClientStep`. -/
theorem Session.apply_client (cfg : Config) {s : Session} {st : TransactionState} {env : Env}
    {ev : SessionEvent} (hs : s.tx = some st) (hv : st.clientView.WellFormed)
    (he : s.enabled (env, ev)) :
    (∃ t t', ev = .timer t ∧ TransactionController.postponed cfg env t = some t' ∧
      s.apply cfg (env, ev) = { s with timers := s.timers.erase t ++ [t'] }) ∨
    ∃ f : Frame, f.Does env st.clientView (clientCause st ev) ∧
      s.apply cfg (env, ev) = (s.pop ev).absorb f := by
  cases ev with
  | message msg =>
    obtain ⟨st', hst, ht⟩ := he
    cases hs.symm.trans hst
    exact .inr ⟨_, st.receive_does cfg env hv ht, by simp [apply, pop, hs]⟩
  | timer t =>
    cases hp : TransactionController.postponed cfg env t with
    | some t' => exact .inl ⟨t, t', rfl, hp, by simp [apply, hp]⟩
    | none => exact .inr ⟨_, st.receive_timer_does cfg env t hv, by simp [apply, pop, hp, hs]⟩
  | cancelFromTU cancel =>
    obtain ⟨st', hst, ht⟩ := he
    cases hs.symm.trans hst
    exact .inr ⟨_, st.cancelFromTU_does cfg env cancel hv ht.2.2.2.2.2, by simp [apply, pop, hs]⟩
  | rewriteRequest uri =>
    obtain ⟨st', hst, -, hd, -⟩ := he
    cases hs.symm.trans hst
    exact .inr ⟨_, Frame.rewriteRequest_does env uri (Frame.fresh_start st) hv hd,
      by simp [apply, pop, hs]⟩

/-- The transaction that lives on after a step. -/
theorem Session.absorb_tx {s : Session} {f : Frame} {x : ClientEffect} {v : ClientView}
    {st : TransactionState} (hf : f.Shows x v) (h : (s.absorb f).tx = some st) :
    x.gone = false ∧ st.clientView = v := by
  simp only [absorb, hf.deleted] at h
  cases hx : x.gone
  · simp only [hx, Bool.false_eq_true, if_false, Option.some.injEq] at h
    exact ⟨rfl, h ▸ hf.view hx⟩
  · simp [hx] at h

/-! ### Runs -/

section Runs

variable {cfg : Config} {b : Birth} {v : ClientView} {armed : List TimerType}
  {ok : Session → Env × SessionEvent → Prop}

/-- Induction over the runs of a client transaction. A property of sessions is kept if it is
kept by timers that are put off or come too late, and by every step of `ClientStep`. -/
theorem client_induction (h : ClientBirth cfg b v armed) (hb : b.valid) {P : Session → Prop}
    (hinit : ∀ f armed' v', v.Sent armed' v' →
      f.Shows ⟨armed ++ armed', none, false, true⟩ v' → P (Session.born f))
    (hpost : ∀ s env t t', P s → t ∈ s.timers →
      TransactionController.postponed cfg env t = some t' →
      P { s with timers := s.timers.erase t ++ [t'] })
    (hgone : ∀ s timers, P s → s.tx = none → P { s with timers := timers })
    (hstep : ∀ s st env ev f x v', P s → s.tx = some st → st.clientView.WellFormed →
      s.enabled (env, ev) → ok s (env, ev) →
      ClientStep env st.clientView (clientCause st ev) x v' → f.Shows x v' →
      P ((s.pop ev).absorb f))
    {s : Session} (hr : Reach (sessions cfg b) ok s) :
    P s ∧ ∀ st, s.tx = some st → st.clientView.WellFormed := by
  induction hr with
  | init hi =>
    obtain ⟨armed', v', hs, hshows⟩ := h.shows hb
    obtain ⟨hw, hu, -⟩ := h.wellFormed hb
    cases hi
    refine ⟨hinit _ _ _ hs hshows, fun st hst => ?_⟩
    rw [(Session.absorb_tx hshows hst).2]
    exact hs.wellFormed hw hu
  | @step s e _ he hok ih =>
    obtain ⟨env, ev⟩ := e
    obtain ⟨hp, hw⟩ := ih
    cases hs : s.tx with
    | none =>
      obtain ⟨htx, hlog⟩ := Session.apply_gone cfg env ev hs
      refine ⟨?_, fun st hst => ?_⟩
      · have heq : s.apply cfg (env, ev) =
            { s with timers := (s.apply cfg (env, ev)).timers } := by
          rw [← hlog, hs, ← htx]
        show P (s.apply cfg (env, ev))
        rw [heq]
        exact hgone s _ hp hs
      · simp [sessions, htx] at hst
    | some st =>
      have hv := hw st hs
      show P (s.apply cfg (env, ev)) ∧ ∀ st', (s.apply cfg (env, ev)).tx = some st' → _
      rcases Session.apply_client cfg hs hv he with ⟨t, t', rfl, ht, heq⟩ | ⟨f, hf, heq⟩
      · rw [heq]
        exact ⟨hpost s env t t' hp he ht, hw⟩
      · obtain ⟨x, v', hx, hshows⟩ := hf
        rw [heq]
        refine ⟨hstep s st env ev f x v' hp hs hv he hok hx hshows, fun st' hst' => ?_⟩
        obtain ⟨hg, hview⟩ := Session.absorb_tx hshows hst'
        rw [hview]
        exact hx.wellFormed hg hv

end Runs

end Resiprocate.Transaction
