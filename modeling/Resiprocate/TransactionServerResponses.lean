import Resiprocate.TransactionServerRuns

/-! The responses a server transaction puts on the wire, over a whole run. -/
namespace Resiprocate.Transaction
open ServerView TransitionSystem

namespace Session

/-- What went out on the wire, in order. -/
def answers (s : Session) : List SipMessage := s.log.wire.map (·.data)

theorem answers_absorb {s : Session} {f : Frame} {x : ServerEffect} {v : ServerView}
    (hf : f.ServerShows x v) : (s.absorb f).answers = s.answers ++ x.wire := by
  simp [answers, absorb, Outputs.append, ← hf.wire]

theorem answers_born {f : Frame} {x : ServerEffect} {v : ServerView} (hf : f.ServerShows x v) :
    (Session.born f).answers = x.wire := by
  rw [Session.born, answers_absorb hf]
  rfl

@[simp] theorem answers_pop (s : Session) (ev : SessionEvent) : (s.pop ev).answers = s.answers := by
  simp [answers]

end Session

/-- After a response with this code or a higher one, only the same response follows. -/
def OneAnswer (bound : ℕ) (wire : List SipMessage) : Prop :=
  wire.Pairwise fun earlier later => bound ≤ earlier.statusCode → later = earlier

instance (bound : ℕ) (wire : List SipMessage) : Decidable (OneAnswer bound wire) :=
  inferInstanceAs (Decidable (List.Pairwise _ _))

/-- The final responses that end the answering: of an INVITE those that are no success, of any
other request all. -/
def Birth.finalBound (b : Birth) : ℕ := if b.request.method = .invite then 300 else 200

/-- All that the transaction may still send is `m`. -/
def ServerView.Settled (v : ServerView) (m : SipMessage) : Prop :=
  v.machine = .serverInvite ∧ (v.state = .confirmed ∨
    v.state = .completed ∧ (v.reliable = true ∨ v.retransmit = some m)) ∨
  v.machine = .serverNonInvite ∧ v.state = .completed ∧ v.abandoned = false ∧
    v.retransmit = some m

namespace ServerView

theorem Settled.not_unanswered {v : ServerView} {m : SipMessage} (h : v.Settled m) :
    ¬ v.unanswered := by
  rintro ⟨-, hs | hs⟩ <;> simp [Settled, hs] at h

/-- A stored message that was sent is kept for the next time, unless the transport is
reliable. -/
theorem Sent.storing {v v' : ServerView} {m : SipMessage} {wire : List SipMessage}
    (h : (v.storing m).Sent wire v') :
    wire = [] ∨ wire = [m] ∧ (v'.reliable = true ∨ v'.retransmit = some m) := by
  cases h with
  | resent h => cases h
  | sent _ hn =>
    cases hn
    cases hr : v.reliable <;> simp [ServerView.storing, hr]
  | unsent => exact .inl rfl

theorem Sent.again {v v' : ServerView} {m : SipMessage} {wire : List SipMessage}
    (h : v.Sent wire v') (hm : v.retransmit = some m) : wire = [m] ∧ v' = v := by
  cases h with
  | resent h =>
    cases hm.symm.trans h
    exact ⟨rfl, rfl⟩
  | sent h => cases hm.symm.trans h
  | unsent h => cases hm.symm.trans h

/-- A transaction that has answered only ever sends that answer. -/
theorem Sent.completed {v v' : ServerView} {wire : List SipMessage} (h : v.Sent wire v')
    (hm : v.machine = .serverInvite ∨ v.machine = .serverNonInvite ∧ v.abandoned = false)
    (hs : v.state = .completed) (hr : v.reliable = false) :
    (∀ m, v.Settled m → wire = [m] ∧ v' = v) ∧ ∀ m ∈ wire, v'.Settled m := by
  constructor
  · intro m hsettled
    apply h.again
    rcases hsettled with ⟨-, hc | ⟨-, hrel | hn⟩⟩ | ⟨-, -, -, hn⟩
    · simp [hs] at hc
    · simp [hr] at hrel
    · exact hn
    · exact hn
  · have key : ∀ m, v'.retransmit = some m → v'.Settled m := by
      intro m hn
      obtain ⟨hm', hs', ha', -⟩ := h.frame
      rcases hm with hm | ⟨hm, ha⟩
      · exact .inl ⟨hm'.trans hm, .inr ⟨hs'.trans hs, .inr hn⟩⟩
      · exact .inr ⟨hm'.trans hm, hs'.trans hs, ha'.trans ha, hn⟩
    intro m hmem
    cases h with
    | resent h =>
      simp only [List.mem_singleton] at hmem
      exact key m (hmem ▸ h)
    | sent =>
      simp only [List.mem_singleton] at hmem
      exact key m (by simp [hr, hmem])
    | unsent => simp at hmem

/-- The transaction holds `m`, sent or still to be sent. -/
def holds (v : ServerView) (m : SipMessage) : Prop := v.next = some m ∨ v.retransmit = some m

/-- Sending brings out and keeps only what the transaction holds. -/
theorem Sent.holds {v v' : ServerView} {wire : List SipMessage} (h : v.Sent wire v')
    {m : SipMessage} (hm : m ∈ wire ∨ v'.holds m) : v.holds m := by
  cases h with
  | resent h =>
    rcases hm with hm | hm
    · simp only [List.mem_singleton] at hm
      exact .inr (hm ▸ h)
    · exact hm
  | sent h hn =>
    rcases hm with hm | hm | hm
    · simp only [List.mem_singleton] at hm
      exact .inl (hm ▸ hn)
    · simp at hm
    · simp only [Option.ite_none_left_eq_some, Option.some.injEq] at hm
      exact .inl (hm.2 ▸ hn)
  | unsent =>
    rcases hm with hm | hm
    · simp at hm
    · exact hm

theorem Sent.wire_length {v v' : ServerView} {wire : List SipMessage} (h : v.Sent wire v') :
    wire.length ≤ 1 := by
  cases h <;> simp

end ServerView

/-- What a step must find so that it gives no second answer. -/
def ServerView.answersOnce (v : ServerView) : ServerCause → Prop
  | .request => ¬ (v.machine = .serverInvite ∧ v.abandoned = true ∧
      (v.state = .completed ∨ v.state = .confirmed))
  | .response m => ¬ (v.machine = .serverStale ∧ 300 ≤ m.statusCode)
  | _ => True

/-- What a step adds to the answers given so far. -/
structure AnswerFits (bound : ℕ) (wire : List SipMessage) (x : ServerEffect) (v' : ServerView) :
    Prop where
  same : ∀ m ∈ wire, bound ≤ m.statusCode → ∀ a ∈ x.wire, a = m
  single : x.wire.length ≤ 1
  settled : x.gone = false → ∀ m ∈ wire ++ x.wire, bound ≤ m.statusCode → v'.Settled m

/-- Before the final response only provisional ones are held. -/
def ServerView.Tentative (v : ServerView) : Prop :=
  v.unanswered → ∀ m, v.holds m → m.statusCode < 200

/-- A step that starts from a transaction without a final answer. -/
theorem AnswerFits.of_open {bound : ℕ} {wire : List SipMessage} {x : ServerEffect}
    {v v' : ServerView} (hopen : ∀ m, ¬ v.Settled m)
    (hs : ∀ m ∈ wire, bound ≤ m.statusCode → v.Settled m) (hl : x.wire.length ≤ 1)
    (hnew : x.gone = false → ∀ m ∈ x.wire, bound ≤ m.statusCode → v'.Settled m) :
    AnswerFits bound wire x v' := by
  refine ⟨fun m hm hc => absurd (hs m hm hc) (hopen m), hl, fun hx m hm hc => ?_⟩
  rcases List.mem_append.1 hm with hm | hm
  · exact absurd (hs m hm hc) (hopen m)
  · exact hnew hx m hm hc

/-- A transaction that has answered sends its answer again. -/
theorem AnswerFits.of_completed {bound : ℕ} {wire : List SipMessage} {x : ServerEffect}
    {v v' : ServerView} (hsent : v.Sent x.wire v')
    (hm : v.machine = .serverInvite ∨ v.machine = .serverNonInvite ∧ v.abandoned = false)
    (hc : v.state = .completed) (hr : v.reliable = false)
    (hs : ∀ m ∈ wire, bound ≤ m.statusCode → v.Settled m) : AnswerFits bound wire x v' := by
  obtain ⟨hsame, hnew⟩ := hsent.completed hm hc hr
  refine ⟨fun m hwire hcode a hmem => ?_, hsent.wire_length, fun _ m hwire hcode => ?_⟩
  · have hx := (hsame m (hs m hwire hcode)).1
    simpa [hx] using hmem
  · rcases List.mem_append.1 hwire with hold | hnow
    · obtain ⟨-, rfl⟩ := hsame m (hs m hold hcode)
      exact hs m hold hcode
    · exact hnew m hnow

/-- A final response that was put on the wire settles the transaction. -/
theorem AnswerFits.settles {v v' : ServerView} {m : SipMessage} {wire : List SipMessage}
    (hsent : (v.storing m).Sent wire v') (hm : v.machine = .serverInvite ∨
      v.machine = .serverNonInvite ∧ v.abandoned = false ∧ v.reliable = false)
    (hs : v.state = .completed) : ∀ a ∈ wire, v'.Settled a := by
  intro a ha
  obtain ⟨hm', hs', ha', hr', -⟩ := hsent.frame
  rcases hsent.storing with rfl | ⟨rfl, hk⟩
  · simp at ha
  · simp only [List.mem_singleton] at ha
    subst ha
    rcases hm with hm | ⟨hm, hab, hr⟩
    · exact .inl ⟨hm'.trans hm, .inr ⟨hs'.trans hs, hk⟩⟩
    · refine .inr ⟨hm'.trans hm, hs'.trans hs, ha'.trans hab, hk.resolve_left ?_⟩
      simp [hr', ServerView.storing, hr]

theorem ServerStep.answerFits {bound : ℕ} {wire : List SipMessage} {v v' : ServerView}
    {e : ServerCause} {x : ServerEffect} (h : ServerStep v e x v') (hv : v.WellFormed)
    (hbound : bound = if v.machine = .serverNonInvite then 200 else 300)
    (hs : ∀ m ∈ wire, bound ≤ m.statusCode → v.Settled m) (ht : v.Tentative)
    (honce : v.answersOnce e) : AnswerFits bound wire x v' := by
  have h200 : 200 ≤ bound := by
    rw [hbound]
    split <;> omega
  have hopen : v.unanswered → ∀ m, ¬ v.Settled m := fun hu m hm => hm.not_unanswered hu
  cases h with
  | ignored => exact ⟨by simp, by simp, by simpa using hs⟩
  | answeredAgain hu hstate ha hr hsent =>
    rcases hstate with hp | hc
    · -- a provisional response is sent again
      have hun : v.unanswered := ⟨hu, .inr hp⟩
      refine .of_open (hopen hun) hs hsent.wire_length fun _ m hm hcode => ?_
      have := ht hun m (hsent.holds (.inl hm))
      omega
    · exact .of_completed hsent (hu.imp_right fun h => ⟨h, ha⟩) hc hr hs
  | repeated hm hc hr hsent => exact .of_completed hsent (.inl hm) hc hr hs
  | inviteForged hm ha hr hq hcode hsent =>
    have hun : v.unanswered := by
      refine ⟨.inl hm, ?_⟩
      rcases hv.invite_states hm with h | h
      · exact h
      · exact absurd ⟨hm, ha, h⟩ honce
    exact .of_open (hopen hun) hs hsent.wire_length fun _ m hmem _ =>
      AnswerFits.settles hsent (.inl hm) rfl m hmem
  | nonInviteForged hm ha hstate hr hq hsent =>
    have hnot : ∀ m, ¬ v.Settled m := by simp [Settled, hm, ha]
    exact .of_open hnot hs hsent.wire_length fun _ m hmem _ =>
      AnswerFits.settles hsent (.inr ⟨hm, rfl, hr⟩) (hv.abandoned hm ha) m hmem
  | ackedReliable => exact ⟨by simp, by simp, by simp⟩
  | acked hm => exact ⟨by simp, by simp, fun _ _ _ _ => .inl ⟨hm, .inl rfl⟩⟩
  | provisional hu hq hcode hsent =>
    refine .of_open (hopen hu) hs hsent.wire_length fun _ m hmem hfinal => ?_
    rcases hsent.storing with rfl | ⟨rfl, -⟩
    · simp at hmem
    · simp only [List.mem_singleton] at hmem
      subst hmem
      omega
  | success hu hm hq hcode hsent =>
    refine .of_open (hopen hu) hs hsent.wire_length fun _ m hmem hfinal => ?_
    rcases hsent.storing with rfl | ⟨rfl, -⟩
    · simp at hmem
    · simp only [List.mem_singleton] at hmem
      subst hmem
      simp [hm] at hbound
      omega
  | failure hu hm hq hcode hsent =>
    exact .of_open (hopen hu) hs hsent.wire_length fun _ m hmem _ =>
      AnswerFits.settles hsent (.inl hm) rfl m hmem
  | finalReliable hm hr hq hcode hsent =>
    have hun : v.unanswered := by
      refine ⟨.inr hm, ?_⟩
      simpa [hr] using hv.nonInvite_states hm
    exact .of_open (hopen hun) hs hsent.wire_length (by simp)
  | final hu hm hr hq hcode hsent =>
    have hab : v.abandoned = false := by simpa using hv.abandoned_of_unanswered hu hm
    exact .of_open (hopen hu) hs hsent.wire_length fun _ m hmem _ =>
      AnswerFits.settles hsent (.inr ⟨hm, hab, hr⟩) rfl m hmem
  | staleResponse hm hq hsent =>
    have hnot : ∀ m, ¬ v.Settled m := by simp [Settled, hm]
    refine .of_open hnot hs hsent.wire_length fun _ m hmem hfinal => ?_
    rcases hsent.storing with rfl | ⟨rfl, -⟩
    · simp at hmem
    · simp only [List.mem_singleton] at hmem
      subst hmem
      simp only [hm, reduceCtorEq, if_false] at hbound
      exact absurd ⟨hm, hbound ▸ hfinal⟩ honce
  | tried hm hstate hsent =>
    have hun : v.unanswered := ⟨hm, .inl hstate⟩
    refine .of_open (hopen hun) hs hsent.wire_length fun _ m hmem hfinal => ?_
    have := ht hun m (hsent.holds (.inl hmem))
    omega
  | expired => exact ⟨by simp, by simp, by simp⟩
  | abandonedAnswered hu hm ha hn hq hcode hsent =>
    exact .of_open (hopen hu) hs hsent.wire_length fun _ m hmem _ =>
      AnswerFits.settles hsent (.inl hm) rfl m hmem
  | abandonedReliable => exact ⟨by simp, by simp, by simp⟩
  | abandonedWaiting hu => exact .of_open (hopen hu) hs (by simp) (by simp)
  | abandonedTimed hu => exact .of_open (hopen hu) hs (by simp) (by simp)

/-- Until it answers, a transaction only takes up provisional responses. -/
theorem ServerStep.tentative {v v' : ServerView} {e : ServerCause} {x : ServerEffect}
    (h : ServerStep v e x v') (hx : x.gone = false) (hv : v.WellFormed) (ht : v.Tentative) :
    v'.Tentative := by
  intro hu m hm
  -- a transaction that is Completed or stale has answered
  have hclosed : ∀ {w : ServerView} {wire : List SipMessage}, w.Sent wire v' →
      w.state = .completed ∨ w.machine = .serverStale → m.statusCode < 200 := by
    intro w wire hsent hw
    obtain ⟨hmachine, hstate, -⟩ := hsent.frame
    rw [unanswered, hmachine, hstate] at hu
    rcases hw with hw | hw <;> simp [hw] at hu
  cases h with
  | ignored => exact ht hu m hm
  | answeredAgain _ _ _ _ hsent =>
    obtain ⟨hmachine, hstate, -⟩ := hsent.frame
    exact ht (by simpa [unanswered, hmachine, hstate] using hu) m (hsent.holds (.inr hm))
  | provisional _ _ hcode hsent =>
    have hstored := hsent.holds (.inr hm)
    simp only [ServerView.holds, ServerView.storing, reduceCtorEq, or_false,
      Option.some.injEq] at hstored
    exact hstored ▸ hcode
  | tried hmachine hstate hsent =>
    exact ht ⟨hmachine, .inl hstate⟩ m (hsent.holds (.inr hm))
  | abandonedWaiting hun => exact ht hun m hm
  | inviteForged _ _ _ _ _ hsent => exact hclosed hsent (.inl rfl)
  | nonInviteForged hmachine ha _ _ _ hsent =>
    exact hclosed hsent (.inl (hv.abandoned hmachine ha))
  | acked => simp [unanswered] at hu
  | success _ _ _ _ hsent => exact hclosed hsent (.inr rfl)
  | failure _ _ _ _ hsent => exact hclosed hsent (.inl rfl)
  | final _ _ _ _ _ hsent => exact hclosed hsent (.inl rfl)
  | staleResponse hmachine _ hsent => exact hclosed hsent (.inr hmachine)
  | repeated _ hstate _ hsent => exact hclosed hsent (.inl hstate)
  | abandonedAnswered _ _ _ _ _ _ hsent => exact hclosed hsent (.inl rfl)
  | abandonedTimed => simp [unanswered] at hu
  | _ => simp at hx

/-- An INVITE transaction stays one, or becomes stale. -/
theorem ServerStep.nonInvite_iff {v v' : ServerView} {e : ServerCause} {x : ServerEffect}
    (h : ServerStep v e x v') (hx : x.gone = false) :
    v'.machine = .serverNonInvite ↔ v.machine = .serverNonInvite := by
  cases h with
  | success _ hm _ _ hsent => simp [hsent.frame, ServerView.storing, hm]
  | answeredAgain _ _ _ _ hsent => rw [hsent.frame.1]
  | repeated _ _ _ hsent => rw [hsent.frame.1]
  | inviteForged _ _ _ _ _ hsent => rw [hsent.frame.1]; rfl
  | nonInviteForged _ _ _ _ _ hsent => rw [hsent.frame.1]; rfl
  | provisional _ _ _ hsent => rw [hsent.frame.1]; rfl
  | failure _ _ _ _ hsent => rw [hsent.frame.1]; rfl
  | final _ _ _ _ _ hsent => rw [hsent.frame.1]; rfl
  | staleResponse _ _ hsent => rw [hsent.frame.1]; rfl
  | tried _ _ hsent => rw [hsent.frame.1]
  | abandonedAnswered _ _ _ _ _ _ hsent => rw [hsent.frame.1]; rfl
  | _ => simp_all

/-! ### Runs -/

/-- The request comes again. -/
def SessionEvent.isRetransmission (st : TransactionState) : SessionEvent → Bool
  | .message (.sip m) => st.methodMatches m && m.isRequest && decide (m.method ≠ .ack)
  | _ => false

/-- The TU sends a response of 300 or more. -/
def SessionEvent.isFailureResponse (st : TransactionState) : SessionEvent → Bool
  | .message (.sip m) => st.methodMatches m && m.isResponse && decide (300 ≤ m.statusCode)
  | _ => false

/-- An INVITE that was abandoned and then answered with a failure comes again, or the TU sends
a failure after its 2xx. -/
def answersAgain (s : Session) (e : Env × SessionEvent) : Prop :=
  ∃ st, s.tx = some st ∧
    (st.mMachine = .serverInvite ∧ st.mIsAbandoned ∧
        (st.mState = .completed ∨ st.mState = .confirmed) ∧ e.2.isRetransmission st ∨
      st.mMachine = .serverStale ∧ e.2.isFailureResponse st)

instance (s : Session) (e : Env × SessionEvent) : Decidable (answersAgain s e) :=
  inferInstanceAs (Decidable (∃ st, s.tx = some st ∧ _))

theorem answersOnce_of_event {s : Session} {st : TransactionState} {env : Env}
    {ev : SessionEvent} (hs : s.tx = some st) (hok : ¬ answersAgain s (env, ev)) :
    st.serverView.answersOnce (serverCause st ev) := by
  have hok : ¬ (st.mMachine = .serverInvite ∧ st.mIsAbandoned ∧
        (st.mState = .completed ∨ st.mState = .confirmed) ∧ ev.isRetransmission st ∨
      st.mMachine = .serverStale ∧ ev.isFailureResponse st) := fun h => hok ⟨st, hs, h⟩
  cases ev with
  | message msg =>
    cases msg with
    | sip m =>
      by_cases hm : st.methodMatches m = true
      · simp only [serverCause, hm, if_true, serverSipCause]
        split
        · rename_i hq
          split
          · trivial
          · rintro ⟨h₁, h₂, h₃⟩
            exact hok (.inl ⟨h₁, h₂, h₃, by simp_all [SessionEvent.isRetransmission]⟩)
        · rename_i hq
          rintro ⟨h₁, h₂⟩
          exact hok (.inr ⟨h₁, by
            simp_all [SessionEvent.isFailureResponse, SipMessage.isResponse]⟩)
      · simp [serverCause, hm, answersOnce]
    | _ => trivial
  | _ => trivial

/-- What the answers given so far say about the state. -/
structure ServerView.Answered (bound : ℕ) (wire : List SipMessage) (v : ServerView) : Prop where
  limit : bound = if v.machine = .serverNonInvite then 200 else 300
  settled : ∀ m ∈ wire, bound ≤ m.statusCode → v.Settled m
  tentative : v.Tentative

theorem OneAnswer.append {bound : ℕ} {wire new : List SipMessage} (h : OneAnswer bound wire)
    (hsingle : new.length ≤ 1)
    (hsame : ∀ m ∈ wire, bound ≤ m.statusCode → ∀ a ∈ new, a = m) :
    OneAnswer bound (wire ++ new) := by
  refine List.pairwise_append.2 ⟨h, ?_, fun m hm a ha hc => hsame m hm hc a ha⟩
  cases new with
  | nil => exact .nil
  | cons a rest =>
    have hrest : rest = [] := by simpa using hsingle
    simp [hrest]

/-- The step of the invariant. -/
theorem ServerStep.answered {bound : ℕ} {wire : List SipMessage} {v v' : ServerView}
    {e : ServerCause} {x : ServerEffect} (h : ServerStep v e x v') (hv : v.WellFormed)
    (ha : v.Answered bound wire) (honce : v.answersOnce e) (hone : OneAnswer bound wire) :
    OneAnswer bound (wire ++ x.wire) ∧ (x.gone = false → v'.Answered bound (wire ++ x.wire)) := by
  have hfits := h.answerFits hv ha.limit ha.settled ha.tentative honce
  refine ⟨hone.append hfits.single hfits.same, fun hx => ⟨?_, hfits.settled hx,
    h.tentative hx hv ha.tentative⟩⟩
  rw [ha.limit]
  simp [h.nonInvite_iff hx]

theorem ServerBirth.answered {b : Birth} {x : ServerEffect} {v : ServerView}
    (h : ServerBirth b x v) : v.Answered b.finalBound x.wire ∧ OneAnswer b.finalBound x.wire := by
  have hlow : ∀ m : SipMessage, m.statusCode = 100 → ¬ b.finalBound ≤ m.statusCode := by
    intro m hm
    rw [hm, Birth.finalBound]
    split <;> simp
  refine ⟨⟨?_, fun m hm hc => absurd hc (hlow m (h.wire m hm)), fun _ m hm => ?_⟩, ?_⟩
  · have hm := h.machine
    unfold Birth.finalBound
    rcases h.unanswered.1 with hi | hn
    · simp [hm.1 hi, hi]
    · have : b.request.method ≠ .invite := by
        intro hc
        cases (hm.2 hc).symm.trans hn
      simp [this, hn]
  · rw [h.stored m hm]
    norm_num
  · exact List.Pairwise.imp_of_mem
      (fun hm _ _ hc => absurd hc (hlow _ (h.wire _ hm))) (List.pairwise_of_forall fun _ _ => trivial)

/-- In every run of a server transaction in which no abandoned INVITE that was answered comes
again and no failure follows a 2xx, only the same response follows a final one. -/
theorem server_oneAnswer (cfg : Config) (b : Birth) (hb : b.valid) (hserver : b.isServer)
    {s : Session} (hr : Reach (sessions cfg b) (fun s e => ¬ answersAgain s e) s) :
    OneAnswer b.finalBound s.answers := by
  have hinv : OneAnswer b.finalBound s.answers ∧
      ∀ st, s.tx = some st → st.serverView.Answered b.finalBound s.answers := by
    refine (server_induction (P := fun s => OneAnswer b.finalBound s.answers ∧
      ∀ st, s.tx = some st → st.serverView.Answered b.finalBound s.answers) hb hserver
      ?_ ?_ ?_ ?_ ?_ hr).1
    · intro f x v hbirth hf
      rw [Session.answers_born hf]
      refine ⟨hbirth.answered.2, fun st hst => ?_⟩
      obtain ⟨-, rfl⟩ := Session.absorb_server hf hst
      exact hbirth.answered.1
    · intro f x v m y v' hbirth hy hf
      obtain ⟨ha, hone⟩ := hbirth.answered
      have honce : v.answersOnce (.response m) := by
        rintro ⟨hm, -⟩
        rcases hbirth.unanswered.1 with h | h <;> simp [h] at hm
      obtain ⟨hone', ha'⟩ := hy.answered hbirth.wellFormed ha honce hone
      rw [Session.answers_born hf]
      refine ⟨hone', fun st hst => ?_⟩
      obtain ⟨hx, rfl⟩ := Session.absorb_server hf hst
      exact ha' hx
    · intro s env t t' hp _ _
      exact hp
    · intro s timers hp _
      exact hp
    · intro s st env ev f x v' hp hs hv _ hok hstep hf
      obtain ⟨hone, ha⟩ := hstep.answered hv (hp.2 st hs) (answersOnce_of_event hs hok) hp.1
      rw [Session.answers_absorb hf, Session.answers_pop]
      refine ⟨hone, fun st' hst' => ?_⟩
      obtain ⟨hx, rfl⟩ := Session.absorb_server hf hst'
      exact ha hx
  exact hinv.1

/-- A response of the TU to the request `method`. -/
def sampleAnswer (method : MethodTypes) (code : ℕ) : SipMessage :=
  makeResponse (sampleWireRequest method (sampleTuple .udp 0)) code [116] ""

def sampleServerInvite (type : TransportType) : Birth :=
  .serverInvite sampleEnv (sampleWireRequest .invite (sampleTuple type 0)) sampleBranch none

/-- An INVITE over UDP that rings, is refused, comes again and has its response repeated. -/
theorem server_oneAnswer_refused :
    ∃ s : Session, s.answers.map (·.statusCode) = [180, 486, 486, 486] ∧
      OneAnswer 300 s.answers := by
  have hr : Reach (sessions {} (sampleServerInvite .udp)) (fun s e => ¬ answersAgain s e) _ :=
    .run (.init rfl) [(sampleEnv, .message (.sip (sampleAnswer .invite 180))),
      (sampleEnv, .message (.sip (sampleAnswer .invite 486))),
      (sampleEnv, .message (.sip (sampleWireRequest .invite (sampleTuple .udp 0)))),
      (sampleEnv, .timer ⟨.timerG, sampleBranch, 500⟩)] (by decide)
  exact ⟨_, by decide, server_oneAnswer _ _ (by decide) (by decide) hr⟩

/-- An INVITE that the TU abandoned and then refused is answered 500 when it comes again. -/
theorem serverInvite_second_answer :
    ¬ ∀ s, Reach (sessions {} (sampleServerInvite .udp)) anyStep s → OneAnswer 300 s.answers := by
  intro h
  have h := h _ (.run (.init rfl)
    [(sampleEnv, .message (.sip (sampleAnswer .invite 180))),
      (sampleEnv, .message (.abandonServerTransaction sampleBranch)),
      (sampleEnv, .message (.sip (sampleAnswer .invite 486))),
      (sampleEnv, .message (.sip (sampleWireRequest .invite (sampleTuple .udp 0))))] (by decide))
  revert h
  decide

end Resiprocate.Transaction
