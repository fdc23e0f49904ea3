import Resiprocate.TransactionClientTimers
import Resiprocate.TransactionServerRuns
import Resiprocate.TransactionStateless

/-! No run of any transaction comes to `sendCurrentToWire` with nothing to send or
dereferences a message that is not there. -/
namespace Resiprocate.Transaction
open TransitionSystem

/-! ### The stored request -/

/-- The same request up to what a failover and ENUM change: the transport sequence in the branch
and the request URI. -/
def SipMessage.SameRequest (o m : SipMessage) : Prop :=
  ∃ uri seq, m = { o with
    startLine := .request uri, via := { o.via with branchTransportSeq := seq } }

theorem SipMessage.SameRequest.refl {o : SipMessage} (h : o.isRequest = true) :
    o.SameRequest o := by
  cases hl : o.startLine with
  | request uri => exact ⟨uri, o.via.branchTransportSeq, by simp [← hl]⟩
  | response code reason => simp [isRequest, hl] at h

/-- An unanswered client transaction holds its request, and what it needs to send it elsewhere. -/
def ClientView.Original (o : SipMessage) (v : ClientView) : Prop :=
  v.unanswered → (∃ m, v.next = some m ∧ o.SameRequest m) ∧ v.contact = o.hContact ∧
    ∃ seq, v.via = some { o.via with branchTransportSeq := seq }

open ClientView

theorem ClientView.Original.sent {o : SipMessage} {v v' : ClientView} {armed : List TimerType}
    (h : v.Original o) (hs : v.Sent armed v') (hv : v.WellFormed) : v'.Original o := by
  intro hu
  obtain ⟨hm, hstate, -, hcontact, hvia, -⟩ := hs.frame
  have hu' : v.unanswered := by simpa [unanswered, hm, hstate] using hu
  obtain ⟨⟨m, hn, hsame⟩, hc, hw⟩ := h hu'
  refine ⟨⟨m, ?_, hsame⟩, hcontact.trans hc, hvia ▸ hw⟩
  obtain ⟨m', hm', hq, hmethod⟩ := hv.request hu'
  cases hn.symm.trans hm'
  have hack : m.method ≠ .ack := hmethod ▸ hv.not_ack hu'
  cases hs with
  | kept _ hk => exact hk.of_request hn hq hack
  | flow _ _ _ hk => exact hk.of_request hn hq hack
  | resolving => exact hn

/-- Putting the Contact and Via of the TU back gives the same request again. -/
theorem ClientView.Original.restored {o m : SipMessage} {v : ClientView} (h : v.Original o)
    (hu : v.unanswered) (hn : v.next = some m) : (v.reverted.restored m).Original o := by
  intro _
  obtain ⟨⟨m', hm', uri, seq', rfl⟩, hc, seq, hw⟩ := h hu
  cases hn.symm.trans hm'
  have hc : v.reverted.contact = o.hContact := hc
  have hw : v.reverted.via = some { o.via with branchTransportSeq := seq } := hw
  refine ⟨⟨_, rfl, uri, seq + 1, ?_⟩, hc, seq + 1, by simp [ClientView.restored, hw]⟩
  cases ho : o.hContact <;> simp [hc, hw, ho]

theorem ClientStep.original {env : Env} {v v' : ClientView} {e : ClientCause} {x : ClientEffect}
    {o : SipMessage} (h : ClientStep env v e x v') (hx : x.gone = false) (hv : v.WellFormed)
    (ho : v.Original o) (he : ∀ m, e = .request m → m.method = .ack) : v'.Original o := by
  have hclosed : ∀ {w : ClientView}, w.state = .completed → w.Original o :=
    fun hs hu => absurd hs hu.state.1
  cases h with
  | ignored => exact ho
  | connecting => exact ho
  | abandoned => exact ho
  | cancelled => exact ho
  | staleSuccess => exact ho
  | cancelFailed => exact ho
  | resent _ hs => exact ho.sent hs hv
  | inviteProvisional _ hu => exact fun _ => ho hu
  | provisional _ hu => exact fun _ => ho hu
  | inviteSuccess => exact hclosed rfl
  | inviteFailure => exact hclosed rfl
  | inviteFailureAgain _ hs => exact hclosed hs
  | final => exact hclosed rfl
  | requested h hm =>
    -- a non-INVITE transaction is not for ACK
    exact absurd (hm.symm.trans (he _ rfl)) (hv.nonInvite h).2
  | failover hu hd hn hm ha hs =>
    obtain ⟨m, hm', hq⟩ := hv.request hu
    cases hn.symm.trans hm'
    exact Original.sent (v := (v.reverted.restored _).aimed env.dnsNext) (ho.restored hu hn) hs
      (.of_unanswered hu.reverted hv.invite hv.nonInvite rfl hq hv.pending rfl)
  | failoverPending hu hd hn => exact ho.restored hu hn
  | failoverDestroyed hu => exact fun _ => ho hu
  | found hp ha hs =>
    have hu := hv.unanswered_of_dns (hv.pending hp)
    obtain ⟨m, hm, hq⟩ := hv.request hu
    have hnew : { v.aimed env.dnsNext with pending := .none }.Original o := fun _ => ho hu
    exact hnew.sent hs (.of_unanswered hu hv.invite hv.nonInvite hm hq nofun rfl)
  | rewritten hd hn hq =>
    intro hu
    obtain ⟨⟨m, hm, uri, seq, rfl⟩, hc, hw⟩ := ho hu
    cases hn.symm.trans hm
    exact ⟨⟨_, rfl, _, seq, rfl⟩, hc, hw⟩
  | _ => simp at hx

theorem ClientBirth.original {cfg : Config} {b : Birth} {v : ClientView} {armed : List TimerType}
    (h : ClientBirth cfg b v armed) (hb : b.valid) : v.Original b.request := by
  intro _
  obtain ⟨-, -, hn⟩ := h.wellFormed hb
  have hq : b.request.isRequest = true := by
    cases h <;> exact hb.1
  refine ⟨⟨_, hn, .refl hq⟩, ?_⟩
  cases h <;> exact ⟨rfl, _, rfl⟩

/-! ### Runs -/

/-- A client INVITE transaction in Calling or Proceeding, and a non-INVITE one in Trying or
Proceeding, holds its request. -/
def Session.KeepsRequest (s : Session) (o : SipMessage) : Prop :=
  ∀ st ∈ s.tx, st.mMachine = .clientInvite ∧ (st.mState = .calling ∨ st.mState = .proceeding) ∨
    st.mMachine = .clientNonInvite ∧ (st.mState = .trying ∨ st.mState = .proceeding) →
    ∃ m, st.mNextTransmission = some m ∧ o.SameRequest m

theorem ack_of_event {b : Birth} {s : Session} {st : TransactionState} {env : Env}
    {ev : SessionEvent} {m : SipMessage} (hs : s.tx = some st) (hclient : st.isClient = true)
    (he : s.enabled (env, ev)) (hok : ¬ reusesId b s (env, ev))
    (hc : clientCause st ev = .request m) : m.method = .ack := by
  cases ev with
  | message msg =>
    cases msg with
    | sip m' =>
      simp only [clientCause] at hc
      split at hc
      · rename_i hq
        cases hc
        obtain ⟨st', hst, ht⟩ := he
        cases hs.symm.trans hst
        have hinternal : m.isClientTransaction = true := ht.2.1.trans hclient
        have hex : m.isExternal = false := by
          simpa [SipMessage.isClientTransaction, hq, SipMessage.isResponse] using hinternal
        by_contra hne
        exact hok ⟨hq, by simp [hex], fun h => hne h.1⟩
      · cases hc
    | _ => simp [clientCause] at hc
  | timer t =>
    simp only [clientCause, Frame.timerCause] at hc
    repeat' split at hc
    all_goals cases hc
  | _ => simp [clientCause] at hc

theorem client_sound {cfg : Config} {b : Birth} (hb : b.valid) (hc : b.isClient) {s : Session}
    (hr : Reach (sessions cfg b) (fun s e => ¬ reusesId b s e) s) :
    s.sound ∧ s.KeepsRequest b.request := by
  obtain ⟨v, armed, hbirth⟩ := Birth.client_birth cfg hc
  have hinv : s.sound ∧ ∀ st, s.tx = some st → st.clientView.Original b.request := by
    refine (client_induction (P := fun s => s.sound ∧ ∀ st, s.tx = some st →
      st.clientView.Original b.request) hbirth hb ?_ ?_ ?_ ?_ hr).1
    · intro f armed' v' hs hf
      refine ⟨Session.sound_born hf.sound, fun st hst => ?_⟩
      obtain ⟨-, rfl⟩ := Session.absorb_tx hf hst
      exact (hbirth.original hb).sent hs (hbirth.wellFormed hb).1
    · intro s env t t' hp _ _
      exact hp
    · intro s timers hp _
      exact hp
    · intro s st env ev f x v' hp hs hv he hok hstep hf
      refine ⟨Session.sound_absorb (by simpa [Session.sound] using hp.1) hf.sound,
        fun st' hst' => ?_⟩
      obtain ⟨hx, rfl⟩ := Session.absorb_tx hf hst'
      exact hstep.original hx hv (hp.2 st hs) fun m hm => ack_of_event hs hv.isClient he hok hm
  exact ⟨hinv.1, fun st hst hu => (hinv.2 st hst hu).1⟩

theorem server_sound {cfg : Config} {b : Birth} (hb : b.valid) (hc : b.isServer) {s : Session}
    (hr : Reach (sessions cfg b) (fun s e => ¬ reusesId b s e) s) :
    s.sound ∧ s.KeepsRequest b.request := by
  have hinv := server_induction (P := Session.sound) hb hc ?_ ?_ ?_ ?_ ?_ hr
  · refine ⟨hinv.1, fun st hst hu => ?_⟩
    have hclient := st.isClient_of_server (hinv.2 st hst).1
    rcases hu with ⟨hm, -⟩ | ⟨hm, -⟩ <;>
      simp [TransactionState.isClient, hm, Machine.isClient] at hclient
  · intro f x v _ hf
    exact Session.sound_born hf.sound
  · intro f x v m y v' _ _ hf
    exact Session.sound_born hf.sound
  · intro s env t t' hp _ _
    exact hp
  · intro s timers hp _
    exact hp
  · intro s st env ev f x v' hp _ _ _ _ _ hf
    exact Session.sound_absorb (by simpa [Session.sound] using hp) hf.sound

/-- In every run of a transaction whose id is not reused, `sendCurrentToWire` always has
something to send, no missing message is dereferenced, and an unanswered client transaction
holds the request it was created for. -/
theorem transaction_sound (cfg : Config) (b : Birth) (hb : b.valid) {s : Session}
    (hr : Reach (sessions cfg b) (fun s e => ¬ reusesId b s e) s) :
    (∀ x ∈ s.log.faults, ¬ x.fatal) ∧ s.KeepsRequest b.request := by
  cases b with
  | stateless env sip tid tu =>
    obtain ⟨hsound, hkept⟩ := stateless_run cfg env sip tid tu hr
    refine ⟨hsound, fun st hst hu => ?_⟩
    have hm := (hkept st hst).machine
    rcases hu with ⟨h, -⟩ | ⟨h, -⟩ <;> cases hm.symm.trans h
  | clientInvite => exact client_sound hb rfl hr
  | clientNonInvite => exact client_sound hb rfl hr
  | clientCancel => exact client_sound hb rfl hr
  | serverInvite => exact server_sound hb rfl hr
  | serverNonInvite => exact server_sound hb rfl hr
  | serverCancel => exact server_sound hb rfl hr

/-- An INVITE that rings at a UDP target and fails over to a TCP one. -/
theorem transaction_sound_failover :
    ∃ s : Session, s.tx.map (·.mState) = some .calling ∧
      (∀ x ∈ s.log.faults, ¬ x.fatal) ∧ s.KeepsRequest (sampleRequest .invite .unset) := by
  have hr : Reach (sessions {} (sampleClientInvite .unset))
      (fun s e => ¬ reusesId (sampleClientInvite .unset) s e) _ :=
    .run (.init rfl) [(sampleDns .udp, .message (.dnsResultMessage sampleBranch true)),
      (sampleEnv, .message (.sip (sampleResponse .invite 180))),
      (sampleDns .tcp, .message (.transportFailure sampleBranch .failure 0))] (by decide)
  exact ⟨_, by decide, transaction_sound _ _ (by decide) hr⟩

end Resiprocate.Transaction
