import Resiprocate.TransactionClientRuns

/-! The responses a client transaction hands to the TU, over a whole run. -/
namespace Resiprocate.Transaction
open ClientView TransitionSystem

namespace Session

/-- Status codes of what the TU was handed, in order. -/
def handed (s : Session) : List ℕ := s.log.tu.map (·.statusCode)

@[simp] theorem handed_absorb (s : Session) (f : Frame) :
    (s.absorb f).handed = s.handed ++ f.out.tu.map (·.statusCode) := by
  simp [handed, absorb, Outputs.append]

@[simp] theorem handed_pop (s : Session) (ev : SessionEvent) : (s.pop ev).handed = s.handed := by
  simp [handed]

end Session

/-- An ordering requirement on the codes handed to the TU stays met if the one code that may be
added goes after all before it. -/
theorem pairwise_handed {R : ℕ → ℕ → Prop} {codes added : List ℕ} {code : Option ℕ}
    (h : codes.Pairwise R) (hadded : added.Sublist code.toList)
    (hnew : ∀ c, code = some c → ∀ a ∈ codes, R a c) : (codes ++ added).Pairwise R := by
  cases code with
  | none =>
    simp only [Option.toList_none, List.sublist_nil] at hadded
    simpa [hadded] using h
  | some c =>
    simp only [Option.toList_some] at hadded
    rcases List.sublist_singleton.1 hadded with rfl | rfl
    · simpa using h
    · rw [List.pairwise_append]
      exact ⟨h, by simp, by simpa using hnew c rfl⟩

theorem all_handed {P : ℕ → Prop} {codes added : List ℕ} {code : Option ℕ}
    (h : ∀ a ∈ codes, P a) (hadded : added.Sublist code.toList)
    (hnew : ∀ c, code = some c → P c) : ∀ a ∈ codes ++ added, P a := by
  intro a ha
  rcases List.mem_append.1 ha with ha | ha
  · exact h a ha
  · have := hadded.subset ha
    simp only [Option.mem_toList] at this
    exact hnew a this

theorem handed_born {f : Frame} {armed : List TimerType} {v : ClientView}
    (hf : f.Shows ⟨armed, none, false, true⟩ v) : (Session.born f).handed = [] := by
  have hh : f.out.tu = [] := by simpa using hf.handed
  simp [Session.born, hh, Session.handed, Session.absorb, Outputs.append, Outputs.empty]

/-! ### INVITE -/

/-- Nothing follows a response of 300 or more, and only 2xx follow a 2xx. -/
def FinalDiscipline (codes : List ℕ) : Prop :=
  codes.Pairwise fun earlier later =>
    earlier < 300 ∧ (200 ≤ earlier → 200 ≤ later ∧ later < 300)

instance (codes : List ℕ) : Decidable (FinalDiscipline codes) :=
  inferInstanceAs (Decidable (List.Pairwise _ _))

/-- A 2xx response comes in. -/
def SessionEvent.isSuccess : SessionEvent → Bool
  | .message (.sip m) => m.isResponseIn 200 299
  | _ => false

/-- A 2xx reaches an INVITE transaction that already has its failure response. -/
def lateSuccess (s : Session) (e : Env × SessionEvent) : Prop :=
  ∃ st, s.tx = some st ∧ st.mMachine = .clientInvite ∧ st.mState = .completed ∧ e.2.isSuccess

instance (s : Session) (e : Env × SessionEvent) : Decidable (lateSuccess s e) :=
  inferInstanceAs (Decidable (∃ st, s.tx = some st ∧ _))

/-- What the responses handed so far say about the state. -/
structure InviteHanded (s : Session) : Prop where
  discipline : FinalDiscipline s.handed
  machine : ∀ st, s.tx = some st → st.mMachine = .clientInvite ∨ st.mMachine = .clientStale
  provisional : ∀ st, s.tx = some st → st.clientView.unanswered → ∀ a ∈ s.handed, a < 200
  success : ∀ st, s.tx = some st → st.mMachine = .clientStale → ∀ a ∈ s.handed, a < 300

/-- The code a step hands up goes with those before it, and the state it leaves fits them. -/
structure InviteFits (codes : List ℕ) (v : ClientView) (x : ClientEffect) (v' : ClientView) :
    Prop where
  discipline : ∀ c, x.handed = some c → ∀ a ∈ codes, a < 300 ∧ (200 ≤ a → 200 ≤ c ∧ c < 300)
  machine : x.gone = false → v'.machine = .clientInvite ∨ v'.machine = .clientStale
  provisional : x.gone = false → v'.unanswered →
    v.unanswered ∧ ∀ c, x.handed = some c → c < 200
  success : x.gone = false → v'.machine = .clientStale →
    (v.unanswered ∨ v.machine = .clientStale) ∧ ∀ c, x.handed = some c → c < 300

theorem ClientStep.inviteFits {env : Env} {v v' : ClientView} {e : ClientCause}
    {x : ClientEffect} {codes : List ℕ} (h : ClientStep env v e x v') (hv : v.WellFormed)
    (hm : v.machine = .clientInvite ∨ v.machine = .clientStale)
    (hp : v.unanswered → ∀ a ∈ codes, a < 200)
    (hs : v.machine = .clientStale → ∀ a ∈ codes, a < 300)
    (hl : ∀ code, e = .response code → 200 ≤ code → code < 300 →
      ¬ (v.machine = .clientInvite ∧ v.state = .completed)) : InviteFits codes v x v' := by
  have hstates := hv.states
  have hu : v.unanswered → v.machine = .clientInvite ∧ v.state ≠ .completed := by
    intro hu
    exact ⟨hm.resolve_right hu.state.2, hu.state.1⟩
  cases h with
  | ignored => constructor <;> grind
  | connecting => constructor <;> grind
  | abandoned => constructor <;> grind [unanswered]
  | cancelled => constructor <;> grind
  | resent _ hsent =>
    have := hsent.frame
    constructor <;> grind [unanswered]
  | @timedOut type code ht hc =>
    have : v.unanswered := by cases type <;> simp_all [timesOut, unanswered]
    constructor <;> grind
  | expired => constructor <;> grind
  | inviteProvisional => constructor <;> grind [unanswered]
  | inviteSuccess => constructor <;> grind [unanswered, closed]
  | staleSuccess => constructor <;> grind [unanswered]
  | inviteFailureReliable =>
    -- over a reliable transport there is no Completed state
    have := hv.unreliable
    constructor <;> grind [unanswered]
  | inviteFailure => constructor <;> grind [unanswered, closed]
  | inviteFailureAgain => constructor <;> grind [unanswered]
  | provisional h => simp [h] at hm
  | finalReliable h => simp [h] at hm
  | final h => simp [h] at hm
  | requested h => simp [h] at hm
  | cancelFailed hn _ hc hun =>
    -- the stored request is an INVITE and no CANCEL
    obtain ⟨m, hm', -, hmethod⟩ := hv.request hun
    have := hv.invite
    constructor <;> grind
  | noTarget _ hn ha _ =>
    -- in Completed only an ACK is stored, in the stale state nothing
    have := hv.ack
    have := hv.stale
    constructor <;> grind
  | failover _ _ _ _ _ hsent =>
    have := hsent.frame
    constructor <;> grind [unanswered, aimed, restored, reverted]
  | failoverPending => constructor <;> grind [unanswered, restored, reverted]
  | failoverDestroyed => constructor <;> grind [unanswered, reverted]
  | found _ _ hsent =>
    have := hsent.frame
    constructor <;> grind [unanswered, aimed]
  | rewritten => constructor <;> grind [unanswered]

theorem lateSuccess_of_response {s : Session} {st : TransactionState} {env : Env}
    {ev : SessionEvent} {code : ℕ} (hs : s.tx = some st)
    (he : clientCause st ev = .response code) (h₂ : 200 ≤ code) (h₃ : code < 300)
    (hi : st.mMachine = .clientInvite) (hc : st.mState = .completed) : lateSuccess s (env, ev) := by
  cases ev with
  | message msg =>
    cases msg with
    | sip m =>
      simp only [clientCause] at he
      split at he
      · cases he
      · rename_i hq
        cases he
        refine ⟨st, hs, hi, hc, ?_⟩
        simp only [SessionEvent.isSuccess, SipMessage.isResponseIn, SipMessage.isResponse, hq]
        simp only [Bool.not_false, Bool.true_and, decide_eq_true_eq]
        omega
    | _ => simp [clientCause] at he
  | timer t =>
    simp only [clientCause, Frame.timerCause] at he
    repeat' split at he
    all_goals cases he
  | _ => simp [clientCause] at he

/-- In every run of an INVITE transaction in which no 2xx comes after the failure response,
nothing follows a failure response and only 2xx follow a 2xx. -/
theorem clientInvite_finalDiscipline (cfg : Config) (env : Env) (sip : SipMessage) (tid : Data)
    (tu : Option ℕ) (hb : (Birth.clientInvite env sip tid tu).valid) {s : Session}
    (hr : Reach (sessions cfg (.clientInvite env sip tid tu)) (fun s e => ¬ lateSuccess s e) s) :
    FinalDiscipline s.handed := by
  have hinv : InviteHanded s := by
    refine (client_induction (.invite env sip tid tu) hb ?_ ?_ ?_ ?_ hr).1
    · intro f armed v hs hf
      have hhanded := handed_born hf
      refine ⟨by simp [FinalDiscipline, hhanded], ?_, by simp [hhanded], by simp [hhanded]⟩
      intro st hst
      have hview := (Session.absorb_tx hf hst).2
      left
      exact (congrArg ClientView.machine hview).trans hs.frame.1
    · intro s env t t' hp _ _
      exact ⟨hp.discipline, hp.machine, hp.provisional, hp.success⟩
    · intro s timers hp _
      exact ⟨hp.discipline, hp.machine, hp.provisional, hp.success⟩
    · intro s st env ev f x v' hp hs hv _ hok hstep hf
      have hfits := hstep.inviteFits hv (hp.machine st hs) (hp.provisional st hs)
        (hp.success st hs) fun code he h₂ h₃ hc =>
          hok (lateSuccess_of_response hs he h₂ h₃ hc.1 hc.2)
      constructor
      · rw [Session.handed_absorb, Session.handed_pop]
        exact pairwise_handed hp.discipline hf.handed hfits.discipline
      all_goals
        intro st' hst'
        obtain ⟨hx, rfl⟩ := Session.absorb_tx hf hst'
      · exact hfits.machine hx
      · intro hu
        obtain ⟨hu', hc⟩ := hfits.provisional hx hu
        rw [Session.handed_absorb, Session.handed_pop]
        exact all_handed (hp.provisional st hs hu') hf.handed hc
      · intro hm
        obtain ⟨hu, hc⟩ := hfits.success hx hm
        rw [Session.handed_absorb, Session.handed_pop]
        refine all_handed ?_ hf.handed hc
        intro a ha
        rcases hu with hu | hu
        · have := hp.provisional st hs hu a ha
          omega
        · exact hp.success st hs hu a ha
  exact hinv.discipline

/-- An INVITE over UDP that is ringing and then refused. -/
theorem clientInvite_finalDiscipline_refused :
    ∃ s : Session, s.handed = [180, 486] ∧ FinalDiscipline s.handed := by
  have hr : Reach (sessions {} (sampleClientInvite (sampleTuple .udp 7)))
      (fun s e => ¬ lateSuccess s e) _ :=
    .run (.init rfl) [(sampleEnv, .message (.sip (sampleResponse .invite 180))),
      (sampleEnv, .message (.sip (sampleResponse .invite 486)))] (by decide)
  exact ⟨_, by decide, clientInvite_finalDiscipline _ _ _ _ _ (by decide) hr⟩

/-- A 200 that comes after a 486 over UDP is handed to the TU as well. -/
theorem clientInvite_success_after_failure :
    ¬ ∀ s, Reach (sessions {} (sampleClientInvite (sampleTuple .udp 7))) anyStep s →
      FinalDiscipline s.handed := by
  intro h
  have h := h _ (.run (.init rfl) [(sampleEnv, .message (.sip (sampleResponse .invite 486))),
    (sampleEnv, .message (.sip (sampleResponse .invite 200)))] (by decide))
  revert h
  decide

/-! ### Non-INVITE -/

/-- Nothing follows a final response. -/
def AtMostOneFinal (codes : List ℕ) : Prop := codes.Pairwise fun earlier _ => earlier < 200

instance (codes : List ℕ) : Decidable (AtMostOneFinal codes) :=
  inferInstanceAs (Decidable (List.Pairwise _ _))

/-- A failure strikes a CANCEL that has no final response yet, or a request sent again by the
TU after the final response. -/
def unfinishedFailure (s : Session) (e : Env × SessionEvent) : Prop :=
  ∃ st, s.tx = some st ∧ e.2.isFailure st ∧
    (st.failedCancel ∨ st.mState = .completed ∧ st.mNextTransmission ≠ none)

instance (s : Session) (e : Env × SessionEvent) : Decidable (unfinishedFailure s e) :=
  inferInstanceAs (Decidable (∃ st, s.tx = some st ∧ _))

structure NonInviteHanded (s : Session) : Prop where
  discipline : AtMostOneFinal s.handed
  machine : ∀ st, s.tx = some st → st.mMachine = .clientNonInvite
  provisional : ∀ st, s.tx = some st → st.clientView.unanswered → ∀ a ∈ s.handed, a < 200

structure NonInviteFits (codes : List ℕ) (v : ClientView) (x : ClientEffect) (v' : ClientView) :
    Prop where
  discipline : ∀ c, x.handed = some c → ∀ a ∈ codes, a < 200
  machine : x.gone = false → v'.machine = .clientNonInvite
  provisional : x.gone = false → v'.unanswered →
    v.unanswered ∧ ∀ c, x.handed = some c → c < 200

theorem ClientStep.nonInviteFits {env : Env} {v v' : ClientView} {e : ClientCause}
    {x : ClientEffect} {codes : List ℕ} (h : ClientStep env v e x v') (hv : v.WellFormed)
    (hm : v.machine = .clientNonInvite) (hp : v.unanswered → ∀ a ∈ codes, a < 200)
    (hl : e = .failure → (∀ m, v.next = some m → m.isRequest = true → m.method = .cancel →
      v.state = .completed) ∧ (v.state = .completed → v.next = none)) :
    NonInviteFits codes v x v' := by
  have hstates := hv.states
  have hu : v.unanswered → v.state ≠ .completed := fun hu => hu.state.1
  cases h with
  | ignored => constructor <;> grind
  | connecting => constructor <;> grind
  | abandoned => constructor <;> grind [unanswered]
  | cancelled => constructor <;> grind
  | resent _ hsent =>
    have := hsent.frame
    constructor <;> grind [unanswered]
  | @timedOut type code ht hc =>
    have : v.unanswered := by cases type <;> simp_all [timesOut, unanswered]
    constructor <;> grind
  | expired => constructor <;> grind
  | inviteProvisional h => simp [h] at hm
  | inviteSuccess h => simp [h] at hm
  | staleSuccess h => simp [h] at hm
  | inviteFailureReliable h => simp [h] at hm
  | inviteFailure h => simp [h] at hm
  | inviteFailureAgain h => simp [h] at hm
  | provisional => constructor <;> grind [unanswered]
  | finalReliable => constructor <;> grind
  | final => constructor <;> grind [unanswered, closed]
  | requested _ _ _ hsent =>
    have := hsent.frame
    constructor <;> grind [unanswered]
  | cancelFailed => grind
  | noTarget he hn _ _ =>
    -- a DNS result only reaches a transaction that still waits for its final response
    have hd : v.pending = .dns → v.unanswered := fun h => hv.unanswered_of_dns (hv.pending h)
    constructor <;> grind
  | failover _ _ _ _ _ hsent =>
    have := hsent.frame
    constructor <;> grind [unanswered, aimed, restored, reverted]
  | failoverPending => constructor <;> grind [unanswered, restored, reverted]
  | failoverDestroyed => constructor <;> grind [unanswered, reverted]
  | found _ _ hsent =>
    have := hsent.frame
    constructor <;> grind [unanswered, aimed]
  | rewritten => constructor <;> grind [unanswered]

/-- In every run of a non-INVITE transaction in which no failure strikes an unanswered CANCEL
or a request sent again, the TU is handed at most one final response, and nothing after it. -/
theorem clientNonInvite_atMostOneFinal (cfg : Config) (b : Birth) (hb : b.valid)
    (hn : b.isClientNonInvite) {s : Session}
    (hr : Reach (sessions cfg b) (fun s e => ¬ unfinishedFailure s e) s) :
    AtMostOneFinal s.handed := by
  obtain ⟨v, armed, hbirth, hmachine, -⟩ := Birth.clientNonInvite_birth cfg hn
  have hinv : NonInviteHanded s := by
    refine (client_induction hbirth hb ?_ ?_ ?_ ?_ hr).1
    · intro f armed v hs hf
      have hhanded := handed_born hf
      refine ⟨by simp [AtMostOneFinal, hhanded], ?_, by simp [hhanded]⟩
      intro st hst
      have hview := (Session.absorb_tx hf hst).2
      exact (congrArg ClientView.machine hview).trans (hs.frame.1.trans hmachine)
    · intro s env t t' hp _ _
      exact ⟨hp.discipline, hp.machine, hp.provisional⟩
    · intro s timers hp _
      exact ⟨hp.discipline, hp.machine, hp.provisional⟩
    · intro s st env ev f x v' hp hs hv _ hok hstep hf
      have hfits := hstep.nonInviteFits hv (hp.machine st hs) (hp.provisional st hs) ?_
      · constructor
        · rw [Session.handed_absorb, Session.handed_pop]
          exact pairwise_handed hp.discipline hf.handed hfits.discipline
        all_goals
          intro st' hst'
          obtain ⟨hx, rfl⟩ := Session.absorb_tx hf hst'
        · exact hfits.machine hx
        · intro hu
          obtain ⟨hu', hc⟩ := hfits.provisional hx hu
          rw [Session.handed_absorb, Session.handed_pop]
          exact all_handed (hp.provisional st hs hu') hf.handed hc
      · intro he
        have hfail := clientCause_failure.1 he
        constructor
        · intro m hm hq hcancel
          by_contra hc
          exact hok ⟨st, hs, hfail, .inl ((Frame.failedCancel_iff hv).2 ⟨m, hm, hq, hcancel, hc⟩)⟩
        · intro hc
          by_contra hnext
          exact hok ⟨st, hs, hfail, .inr ⟨hc, hnext⟩⟩
  exact hinv.discipline

/-- A CANCEL over UDP that is answered with 200. -/
theorem clientNonInvite_atMostOneFinal_cancel :
    ∃ s : Session, s.handed = [200] ∧ AtMostOneFinal s.handed := by
  have hr : Reach (sessions {} (sampleClientCancel .udp)) (fun s e => ¬ unfinishedFailure s e) _ :=
    .run (.init rfl) [(sampleEnv, .message (.sip (sampleResponse .cancel 200))),
      (sampleEnv, .timer ⟨.timerF, sampleBranch ++ cancelToken, 32000⟩)] (by decide)
  exact ⟨_, by decide, clientNonInvite_atMostOneFinal _ _ (by decide) (by decide) hr⟩

/-- A CANCEL that could not be delivered is answered with 503 and, when Timer F fires, with
408 as well. -/
theorem clientCancel_two_finals :
    ¬ ∀ s, Reach (sessions {} (sampleClientCancel .udp)) anyStep s → AtMostOneFinal s.handed := by
  intro h
  have h := h _ (.run (.init rfl)
    [(sampleEnv, .message (.transportFailure (sampleBranch ++ cancelToken) .failure 0)),
      (sampleEnv, .timer ⟨.timerF, sampleBranch ++ cancelToken, 32000⟩)] (by decide))
  revert h
  decide

end Resiprocate.Transaction
