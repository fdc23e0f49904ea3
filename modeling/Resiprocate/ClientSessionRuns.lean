import Resiprocate.ClientTurns

/-! Runs of a caller's session, and what holds in all of its states. -/
namespace Resiprocate.Dum
open TransitionSystem ProgramLogic

/-- What can happen to a caller's session: a message or a timer, the end of a callback, the calls of the
application, and those of the dialog set. -/
inductive ClientEvent (γ : Type*)
  | message (msg : SessionMessage γ)
  | timer (timeout : SessionTimer)
  | clientTimer (timer : ClientTimer)
  | resume
  | provideOffer (offer : γ)
  | requestOffer
  | provideAnswer (answer : γ)
  | reject (code : ℕ)
  | endSession
  | targetRefresh
  | cancel
  | onForkAccepted
  deriving DecidableEq

/-- The responses that make a dialog with a session for the INVITE. -/
def SessionMessage.opens {γ : Type*} (msg : SessionMessage γ) : Bool :=
  msg.method = .invite && 100 < msg.statusCode && msg.statusCode < 700

namespace ClientInviteSession
variable {γ : Type*}

def step [DecidableEq γ] (s : ClientInviteSession γ) : ClientEvent γ → Outcome (ClientInviteSession γ)
  | .message msg => s.dispatch msg
  | .timer timeout => { s with timers := s.timers.erase timeout }.dispatchTimer timeout
  | .clientTimer timer => .ok ({ s with clientTimers := s.clientTimers.erase timer }.dispatchClientTimer timer)
  | .resume => s.resume
  | .provideOffer offer => s.provideOffer offer
  | .requestOffer => s.requestOffer
  | .provideAnswer answer => s.provideAnswer answer
  | .reject code => s.reject code
  | .endSession => s.endSession
  | .targetRefresh => s.targetRefresh
  | .cancel => s.cancel
  | .onForkAccepted => .ok s.onForkAccepted

/-- No handler waits for a callback to return. -/
def idle (s : ClientInviteSession γ) : Bool := s.frames.isEmpty && s.rests.isEmpty

/-- Messages and timers wait until a handler has returned. The two session timers run from a 2xx on. -/
def allowed (s : ClientInviteSession γ) : ClientEvent γ → Bool
  | .message msg => s.idle && msg.routed
  | .timer timeout => s.idle && (timeout ∈ s.timers ||
      (timeout.type = .SessionExpiration || timeout.type = .SessionRefresh))
  | .clientTimer timer => s.idle && timer ∈ s.clientTimers
  | .reject code => 400 ≤ code && code < 700
  | _ => true

/-- A session runs from the dispatch of the response that makes its dialog on. -/
def runs (γ : Type*) [DecidableEq γ] : System (ClientInviteSession γ) (ClientEvent γ) where
  init s := ∃ profile request response, request.method = .invite ∧ response.opens ∧
    (create profile request response).dispatch response = .ok s
  enabled s e := s.allowed e ∧ (s.step e).isOk
  next s e := (s.step e).toOption.getD s

instance [DecidableEq γ] (s : ClientInviteSession γ) (e : ClientEvent γ) : Decidable ((runs γ).enabled s e) :=
  inferInstanceAs (Decidable (_ ∧ _))

lemma step_eq_next [DecidableEq γ] {s : ClientInviteSession γ} {e : ClientEvent γ}
    (h : (runs γ).enabled s e) : s.step e = .ok ((runs γ).next s e) := by
  have hok := h.2
  show s.step e = .ok ((s.step e).toOption.getD s)
  cases hs : s.step e with
  | error f => simp [hs, Except.isOk, Except.toBool] at hok
  | ok s' => rfl

/-! ### Steps -/

variable {s s' : ClientInviteSession γ} {e : ClientEvent γ} {stops starts : Prop}

/-- A request that waits for its callback waits alone. -/
def Parked (s : ClientInviteSession γ) (f : Frame γ) : Prop :=
  f.isAck = false ∧ (f.isGlare → s.frames = [f] ∧ s.rests = [] ∧ s.mState.shared)

/-- What holds in all states of a session. -/
structure Steady (s : ClientInviteSession γ) : Prop where
  caller : s.mState.caller
  waits : s.Waits
  parked : ∀ f ∈ s.frames, s.Parked f

def isCall : ClientEvent γ → Bool
  | .message _ | .timer _ | .clientTimer _ | .resume => false
  | _ => true

/-- The step sends a 2xx to an INVITE. -/
def answersInvite (s : ClientInviteSession γ) : ClientEvent γ → Bool
  | .provideOffer _ => s.mState = .ReceivedReinviteNoOffer
  | .provideAnswer _ => s.mState = .ReceivedReinvite
  | .resume => s.rests.isEmpty && s.mState = .ReceivedReinviteNoOffer && s.frames.head?.any fun
    | .provideProposedOffer => true
    | _ => false
  | _ => false

/-- The step stops the retransmission of a 2xx. -/
def stops200 (s : ClientInviteSession γ) : ClientEvent γ → Bool
  | .message msg => msg.method = .ack
  | .timer timeout => timeout.type = .WaitForAck && timeout.seq = s.mLastRemoteSessionModification.2
  | _ => false

def isRetransmit200 : ClientEvent γ → Bool
  | .timer timeout => timeout.type = .Retransmit200
  | _ => false

/-- What is remembered of the reliable provisionals after the step. -/
def infoAfter (s : ClientInviteSession γ) : ClientEvent γ → RAck
  | .message msg =>
    if msg.isRequest ∧ (msg.method = .info ∨ msg.method = .message) then s.mRelRespInfo else (s.isBadRseq msg).2
  | _ => s.mRelRespInfo

/-- What a step does. -/
structure Step (s : ClientInviteSession γ) (e : ClientEvent γ) (s' : ClientInviteSession γ) : Prop where
  steady : s'.Steady
  info : s'.mRelRespInfo = s.infoAfter e
  retransmission : isRetransmit200 e = false →
    (s'.mCurrentRetransmit200 = s.mCurrentRetransmit200 ∧ s'.mInvite200 = s.mInvite200 ∧
      s'.retransmissions = s.retransmissions) ∨
    (s.stops200 e ∧ s'.mCurrentRetransmit200 = false ∧ s'.mInvite200 = s.mInvite200 ∧
      s'.retransmissions = s.retransmissions) ∨
    (s.answersInvite e ∧ s'.mCurrentRetransmit200 = true ∧ s'.mInvite200.isSome ∧
      ∃ t, s'.retransmissions = t :: s.retransmissions)
  again : isRetransmit200 e → s'.mCurrentRetransmit200 = s.mCurrentRetransmit200 ∧ s'.mInvite200 = s.mInvite200 ∧
    s'.retransmissions.length ≤ s.retransmissions.length ∧
    (s.mCurrentRetransmit200 → s.mInvite200.isSome → s'.retransmissions ≠ [])

lemma call_moves [DecidableEq γ] (hc : isCall e) (hs : s.mState.caller) :
    Yields (s.step e) (s.Moves False (s.answersInvite e) False) := by
  cases e with
  | message msg | timer timeout | clientTimer timer | resume => cases hc
  | provideOffer offer => exact (provideOffer_moves offer hs).weaken fun _ h => h.mono id (by simp [answersInvite]) id
  | requestOffer => exact (requestOffer_moves hs).weaken fun _ h => h.mono id False.elim id
  | provideAnswer answer => exact (provideAnswer_moves answer hs).weaken fun _ h => h.mono id (by simp [answersInvite]) id
  | reject code => exact (reject_moves code hs).weaken fun _ h => h.mono id False.elim id
  | endSession => exact (endSession_moves hs).weaken fun _ h => h.mono id False.elim id
  | targetRefresh => exact (targetRefresh_moves hs).weaken fun _ h => h.mono id False.elim id
  | cancel => exact cancel_moves.weaken fun _ h => h.mono id False.elim id
  | onForkAccepted => exact Yields.ok_iff.mpr ((onForkAccepted_moves hs).mono id False.elim id)

/-- In the states of the base class calls are passed on to it, or do nothing. -/
lemma call_shared [DecidableEq γ] (hc : isCall e) (hs : s.mState.shared) : Yields (s.step e) fun s' =>
    s'.frames = s.frames ∧ s'.rests = s.rests ∧ s'.mState.shared := by
  have hbase {r : Outcome (InviteSession γ)} {starts : Prop}
      (h : Yields r (s.toInviteSession.Turns False starts False)) : Yields (s.inherited r) fun s' =>
      s'.frames = s.frames ∧ s'.rests = s.rests ∧ s'.mState.shared := by
    refine Yields.map_iff.mpr (h.weaken fun b hb => ?_)
    obtain ⟨hframes, hstate⟩ := hb.frames_shared hs
    exact ⟨hframes, rfl, hstate⟩
  cases e with
  | message msg | timer timeout | clientTimer timer | resume => cases hc
  | provideOffer offer =>
    simp only [step, provideOffer]
    split
    case h_12 => exact hbase (InviteSession.provideOffer_turns offer)
    all_goals simp_all [SessionState.shared]
  | requestOffer => exact hbase InviteSession.requestOffer_turns
  | provideAnswer answer =>
    simp only [step, provideAnswer]
    split
    case h_12 => exact hbase (InviteSession.provideAnswer_turns answer)
    all_goals simp_all [SessionState.shared]
  | reject code =>
    simp only [step, reject]
    split
    case h_10 => exact hbase (InviteSession.reject_turns code)
    all_goals simp_all [SessionState.shared]
  | endSession =>
    simp only [step, endSession]
    split
    case h_12 => exact hbase InviteSession.endSession_turns
    all_goals simp_all [SessionState.shared]
  | targetRefresh => exact hbase InviteSession.targetRefresh_turns
  | cancel =>
    simp only [step, cancel]
    split <;> simp_all [SessionState.shared]
  | onForkAccepted =>
    simp only [step, onForkAccepted]
    split <;> simp_all [SessionState.shared]

lemma Moves.steady {p : Prop} (h : s.Moves stops starts p s') (hw : s.Waits) (hp : ∀ f ∈ s'.frames, s'.Parked f) :
    s'.Steady :=
  ⟨h.caller, h.waits hw, hp⟩

lemma call_parked [DecidableEq γ] (hc : isCall e) (hs : s.mState.caller) (hp : ∀ f ∈ s.frames, s.Parked f) :
    Yields (s.step e) fun s' => ∀ f ∈ s'.frames, s'.Parked f := by
  intro s' hstep f hf
  have hsame : s'.frames = s.frames := by simpa using (call_moves hc hs _ hstep).frames
  obtain ⟨hack, hglare⟩ := hp f (hsame ▸ hf)
  refine ⟨hack, fun hg => ?_⟩
  obtain ⟨halone, hrests, hshared⟩ := hglare hg
  obtain ⟨-, hrests', hshared'⟩ := call_shared hc hshared _ hstep
  exact ⟨hsame.trans halone, hrests'.trans hrests, hshared'⟩

/-- A message or a timer is not handled before the handlers have returned. -/
lemma Moves.parked {p : Prop} (h : s.Moves stops starts p s') (hi : s.idle) : ∀ f ∈ s'.frames, s'.Parked f := by
  intro f hf
  simp only [idle, Bool.and_eq_true, List.isEmpty_iff] at hi
  rcases h.frames with hsame | ⟨-, g, hpush, ha, hg⟩
  · simp [hsame, hi.1] at hf
  · obtain rfl : f = g := by simpa [hpush, hi.1] using hf
    rw [hi.1] at hpush
    exact ⟨ha, fun h' => ⟨hpush, (hg h').2.trans hi.2, (hg h').1⟩⟩

lemma isCall_elim (hc : isCall e) : isRetransmit200 e = false ∧ s.infoAfter e = s.mRelRespInfo := by
  cases e <;> first | exact ⟨rfl, rfl⟩ | cases hc

theorem step_call [DecidableEq γ] (hc : isCall e) (hs : s.Steady) : Yields (s.step e) (s.Step e) := by
  intro s' hstep
  have hm := call_moves hc hs.caller s' hstep
  obtain ⟨h200, hinfo⟩ := isCall_elim (s := s) hc
  refine ⟨hm.steady hs.waits (call_parked hc hs.caller hs.parked s' hstep), hm.info.trans hinfo.symm, fun _ => ?_,
    fun h => by simp [h200] at h⟩
  exact hm.retransmission.imp_right (.imp_left fun h => h.1.elim)

lemma badRseq_info (msg : SessionMessage γ) (h : (s.isBadRseq msg).1) : (s.isBadRseq msg).2 = s.mRelRespInfo := by
  unfold isBadRseq at h ⊢
  split at h
  case h_2 => rfl
  case h_1 =>
    split_ifs at h ⊢ <;> simp_all

theorem step_message [DecidableEq γ] (msg : SessionMessage γ) (hs : s.Steady) (hi : s.idle) :
    Yields (s.step (.message msg)) (s.Step (.message msg)) := by
  have hsame (hinfo : s.mRelRespInfo = s.infoAfter (.message msg)) : s.Step (.message msg) s :=
    ⟨hs, hinfo, fun _ => .inl ⟨rfl, rfl, rfl⟩, nofun⟩
  simp only [step, dispatch]
  split
  case isTrue h => exact Yields.ok_iff.mpr (hsame (by simp [infoAfter, h]))
  case isFalse h =>
    have hinfo : s.infoAfter (.message msg) = (s.isBadRseq msg).2 := if_neg h
    split
    case isTrue hbad => exact Yields.ok_iff.mpr (hsame (by rw [hinfo, badRseq_info msg hbad]))
    case isFalse =>
      intro s' hstep
      have hm : Moves (msg.method = .ack) False True { s with mRelRespInfo := (s.isBadRseq msg).2 } s' :=
        dispatchByState_moves (s := { s with mRelRespInfo := (s.isBadRseq msg).2 }) hs.caller s' hstep
      refine ⟨hm.steady hs.waits (hm.parked hi), hm.info.trans hinfo.symm, fun _ => ?_, nofun⟩
      rcases hm.retransmission with h | ⟨h, hrest⟩ | ⟨h, -⟩
      · exact .inl h
      · exact .inr (.inl ⟨by simpa [stops200] using h, hrest⟩)
      · exact h.elim

/-- The timer for the retransmission of a 2xx is handled by the base class. -/
lemma Step.of_again {b : InviteSession γ} {timeout : SessionTimer} (h200 : timeout.type = .Retransmit200) (hs : s.Steady)
    (hi : s.idle) (hw : s.Waits → b.Waits) (hinvite : b.mInvite200 = s.mInvite200)
    (hflag : b.mCurrentRetransmit200 = s.mCurrentRetransmit200) (hstate : b.mState = s.mState)
    (hframes : b.frames = s.frames) (hshort : b.retransmissions.length ≤ s.retransmissions.length)
    (hstill : s.mCurrentRetransmit200 → s.mInvite200.isSome → b.retransmissions ≠ []) :
    s.Step (.timer timeout) { s with toInviteSession := b } := by
  refine ⟨⟨?_, hw hs.waits, fun f hf => ?_⟩, rfl, fun h => ?_, fun _ => ⟨hflag, hinvite, hshort, hstill⟩⟩
  · show b.mState.caller
    rw [hstate]
    exact hs.caller
  · simp only [idle, Bool.and_eq_true, List.isEmpty_iff] at hi
    have hnone : f ∈ ([] : List (Frame γ)) := by rwa [← hi.1, ← hframes]
    cases hnone
  · simp [isRetransmit200, h200] at h

theorem step_timer [DecidableEq γ] (timeout : SessionTimer) (hs : s.Steady) (hi : s.idle)
    (hin : timeout.type = .Retransmit200 → timeout ∈ s.timers) :
    Yields (s.step (.timer timeout)) (s.Step (.timer timeout)) := by
  by_cases h200 : timeout.type = .Retransmit200
  · have hbase : s.step (.timer timeout) = s.inherited
        (InviteSession.dispatchTimer { s.toInviteSession with timers := s.timers.erase timeout } timeout) := by
      have hglare : ¬(timeout.type = .Glare ∧ s.mState = .UAC_SentUpdateEarlyGlare) := by simp [h200]
      simp only [step, dispatchTimer]
      rw [if_neg hglare]
      rfl
    rw [hbase, inherited, Yields.map_iff]
    refine (InviteSession.dispatchTimer_again timeout h200).weaken ?_
    rintro b ⟨hw, hrel, hinvite, hflag, hstate, hframes, hshort, hstill⟩
    exact .of_again h200 hs hi hw hinvite hflag hstate hframes (hshort (hin h200)) hstill
  · intro s' hstep
    have hm := dispatchTimer_moves timeout h200 hs.caller s' hstep
    refine ⟨hm.steady hs.waits (hm.parked hi), hm.info, fun _ => ?_, ?_⟩
    · simpa [stops200, answersInvite] using hm.retransmission
    · simp [isRetransmit200, h200]

theorem step_clientTimer [DecidableEq γ] (timer : ClientTimer) (hs : s.Steady) (hi : s.idle) :
    Yields (s.step (.clientTimer timer)) (s.Step (.clientTimer timer)) := by
  have hm := dispatchClientTimer_moves timer hs.caller
  refine Yields.ok_iff.mpr ⟨hm.steady hs.waits (hm.parked hi), hm.info, fun _ => .inl ?_, nofun⟩
  simpa using hm.retransmission

lemma resumeRest_step {f : ClientFrame γ} {rest : List (ClientFrame γ)} (hs : s.Steady) (hrests : s.rests = f :: rest)
    (h : Moves False False False { s with rests := rest } s') : s.Step .resume s' := by
  have hsame : s'.frames = s.frames := by simpa using h.frames
  refine ⟨h.steady ⟨hs.waits.ack, hs.waits.hangUp, hs.waits.reinvite⟩ fun g hg => ?_, h.info,
    fun _ => .inl (by simpa using h.retransmission), fun h => by cases h⟩
  obtain ⟨hack, hglare⟩ := hs.parked g (hsame ▸ hg)
  exact ⟨hack, fun hg => by simp [hrests] at hglare; simp [hglare] at hg⟩

lemma resumeFrame_step {f : Frame γ} {rest : List (Frame γ)} (hs : s.Steady) (hrests : s.rests = [])
    (hframes : s.frames = f :: rest) (hack : f.isAck = false)
    (h : Moves f.isAck (f = .provideProposedOffer ∧ s.mState = .ReceivedReinviteNoOffer) False
      (s.onBase fun b => { b with frames := rest }) s') : s.Step .resume s' := by
  have hsame : s'.frames = rest := by simpa using h.frames
  refine ⟨h.steady ⟨hs.waits.ack, hs.waits.hangUp, hs.waits.reinvite⟩ fun g hg => ?_, h.info, fun _ => ?_,
    fun h => by cases h⟩
  · rw [hsame] at hg
    obtain ⟨hack, hglare⟩ := hs.parked g (by simp [hframes, hg])
    refine ⟨hack, fun h => ?_⟩
    obtain ⟨-, hrest⟩ := List.cons.inj (hframes.symm.trans (hglare h).1)
    simp [hrest] at hg
  · rcases h.retransmission with h | ⟨h, -⟩ | ⟨⟨rfl, hst⟩, hstart⟩
    · exact .inl h
    · exact absurd (hack.symm.trans h) (by decide)
    · exact .inr (.inr ⟨by simp [answersInvite, hrests, hframes, hst], hstart⟩)

theorem step_resume [DecidableEq γ] (hs : s.Steady) : Yields (s.step .resume) (s.Step .resume) := by
  simp only [step, resume]
  split
  case h_1 f rest hrests =>
    intro s' hstep
    have hm : Moves False False False { s with rests := rest } s' :=
      resumeRest_moves (s := { s with rests := rest }) f hs.caller s' hstep
    exact resumeRest_step hs hrests hm
  case h_2 f rest hrests hframes =>
    obtain ⟨hack, hglare⟩ := hs.parked f (by simp [hframes])
    refine Yields.map_iff.mpr ((InviteSession.resume_turns (b := { s.toInviteSession with frames := rest }) f
      fun h => (hglare h).2.2).weaken fun b hb => ?_)
    have hm : Moves f.isAck (f = .provideProposedOffer ∧ s.mState = .ReceivedReinviteNoOffer) False
        (s.onBase fun b => { b with frames := rest }) { s with toInviteSession := b } :=
      Moves.of_base (s := s.onBase fun b => { b with frames := rest }) hb hs.caller id
    exact resumeFrame_step hs hrests hframes hack hm
  case h_3 => exact Yields.of_error _

theorem step_spec [DecidableEq γ] (hs : s.Steady) (ha : s.allowed e) : Yields (s.step e) (s.Step e) := by
  cases e with
  | message msg =>
    simp only [allowed, Bool.and_eq_true] at ha
    exact step_message msg hs ha.1
  | timer timeout =>
    simp only [allowed, Bool.and_eq_true, Bool.or_eq_true, decide_eq_true_eq] at ha
    refine step_timer timeout hs ha.1 fun h200 => ha.2.resolve_right fun h => ?_
    rcases h with h | h <;> simp [h200] at h
  | clientTimer timer =>
    simp only [allowed, Bool.and_eq_true] at ha
    exact step_clientTimer timer hs ha.1
  | resume => exact step_resume hs
  | _ => exact step_call rfl hs

lemma steady_create (profile : SessionProfile) (request : LocalModification γ) (response : SessionMessage γ) :
    (create profile request response).Steady := by
  refine ⟨rfl, ?_, ?_⟩
  · simp +decide [InviteSession.waits_iff, create]
  · simp [create]

/-- The first response is one that a session without a dialog can get. -/
lemma step_first [DecidableEq γ] {profile : SessionProfile} {request : LocalModification γ} {response : SessionMessage γ} :
    Yields ((create profile request response).dispatch response)
      ((create profile request response).Step (.message response)) :=
  step_message response (steady_create profile request response) rfl

theorem steady_reach [DecidableEq γ] {ok : ClientInviteSession γ → ClientEvent γ → Prop}
    (h : Reach (runs γ) ok s) : s.Steady := by
  refine h.invariant ?_ ?_
  · rintro s ⟨profile, request, response, -, -, hr⟩
    exact (step_first s hr).steady
  · intro s e _ hs he _
    exact (step_spec hs he.1 _ (step_eq_next he)).steady

end ClientInviteSession

/-! ### Concrete runs -/

/-- A response of a peer that knows UPDATE, with this RSeq if it is reliable. -/
def SessionMessage.reply (method : Transaction.MethodTypes) (statusCode sequence : ℕ) (body rSeq : Option ℕ) :
    SessionMessage ℕ :=
  ⟨method, statusCode, sequence, sequence, body, true, rSeq.isSome, rSeq, ⟨0, 0, .unknown⟩, none, some true⟩

/-- The session of an INVITE with this body, after this response. -/
def ClientInviteSession.opened (offer : Option ℕ) (response : SessionMessage ℕ) : ClientInviteSession ℕ :=
  let created := create (.plain .Supported) ⟨.invite, 1, 1, offer⟩ response
  (created.dispatch response).toOption.getD created

lemma ClientInviteSession.reach_opened {offer : Option ℕ} {response : SessionMessage ℕ}
    {ok : ClientInviteSession ℕ → ClientEvent ℕ → Prop} (ho : response.opens)
    (h : ((create (.plain .Supported) ⟨.invite, 1, 1, offer⟩ response).dispatch response).isOk) :
    Reach (runs ℕ) ok (opened offer response) := by
  refine .init ⟨.plain .Supported, ⟨.invite, 1, 1, offer⟩, response, rfl, ho, ?_⟩
  simp only [opened]
  cases hr : (create (.plain .Supported) ⟨.invite, 1, 1, offer⟩ response).dispatch response with
  | error f => simp [hr, Except.isOk, Except.toBool] at h
  | ok s => rfl

end Resiprocate.Dum
