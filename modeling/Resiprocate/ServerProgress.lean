import Resiprocate.ServerTurns

/-! What every step of a callee's session does, and what holds in all of its states. -/
namespace Resiprocate.Dum
open TransitionSystem ProgramLogic

namespace ServerInviteSession
variable {γ : Type*} {s s' : ServerInviteSession γ} {e : ServerEvent γ}
  {stops starts idle : Prop}

def isCall : ServerEvent γ → Bool
  | .message _ | .timer _ | .resume => false
  | _ => true

/-- A call from the callback of a handler that leads back does not leave the state. -/
lemma call_paused [DecidableEq γ] (hc : isCall e) (hs : s.mState.paused) : Yields (s.step e) fun s' =>
    s'.frames = s.frames ∧ s'.mState.paused ∧ s'.mCurrentRetransmit200 = s.mCurrentRetransmit200 := by
  have hstate : s.mState = .UAS_FirstSentAnswerReliable ∨ s.mState = .UAS_SentUpdateGlare ∨ s.mState = .Terminated := by
    cases h : s.mState <;> simp [h, SessionState.paused] at hs ⊢
  cases e with
  | message msg | timer timeout | resume => cases hc
  | provisional code earlyFlag =>
    rcases hstate with h | h | h
    · simp only [step, provisional, h, provisionalOrQueue]
      split
      · exact Yields.ok_iff.mpr ⟨rfl, hs, rfl⟩
      · refine (sendProvisional_turns code earlyFlag).weaken ?_
        rintro s' ⟨ht, hframes, hstate⟩
        have hkept := ht.retransmission
        simp only [false_and, or_false] at hkept
        exact ⟨hframes, hstate ▸ hs, hkept.1⟩
    · simp [step, provisional, h]
    · simp [step, provisional, h]
  | provideOffer offer sendOfferAtAccept =>
    rcases hstate with h | h | h <;> simp +decide [step, provideOffer, InviteSession.provideOffer, h]
  | requestOffer =>
    rcases hstate with h | h | h <;> simp +decide [step, requestOffer, InviteSession.requestOffer, h]
  | provideAnswer answer =>
    rcases hstate with h | h | h <;> simp +decide [step, provideAnswer, InviteSession.provideAnswer, h]
  | accept code => rcases hstate with h | h | h <;> simp +decide [step, accept, h]
  | reject code => rcases hstate with h | h | h <;> simp +decide [step, reject, InviteSession.reject, h]
  | redirect code => rcases hstate with h | h | h <;> simp +decide [step, redirect, h]
  | endSession =>
    rcases hstate with h | h | h <;> simp +decide [step, endSession, reject, InviteSession.endSession, h]
  | targetRefresh =>
    rcases hstate with h | h | h <;>
      simp +decide [step, targetRefresh, InviteSession.targetRefresh, InviteSession.isConnected, h]

/-- In the states of the base class calls are passed on to it. -/
lemma call_shared [DecidableEq γ] (hc : isCall e) (hs : s.mState.shared) : Yields (s.step e) fun s' =>
    s'.frames = s.frames ∧ s'.mState.shared := by
  cases e with
  | message msg | timer timeout | resume => cases hc
  | provisional code earlyFlag =>
    simp only [step, provisional]
    split <;> simp_all [SessionState.shared]
  | provideOffer offer sendOfferAtAccept =>
    have hbase : s.provideOffer offer sendOfferAtAccept = s.inherited (s.toInviteSession.provideOffer offer) := by
      unfold provideOffer
      split <;> simp_all [SessionState.shared]
    simp only [step, hbase, inherited, Yields.map_iff]
    exact (InviteSession.provideOffer_turns offer).weaken fun b hb => hb.frames_shared hs
  | requestOffer =>
    have hbase : s.requestOffer = s.inherited s.toInviteSession.requestOffer := by
      unfold requestOffer
      split <;> simp_all [SessionState.shared]
    simp only [step, hbase, inherited, Yields.map_iff]
    exact InviteSession.requestOffer_turns.weaken fun b hb => hb.frames_shared hs
  | provideAnswer answer =>
    have hbase : s.provideAnswer answer = { s with mAnswerSentReliably := false }.inherited
        (s.toInviteSession.provideAnswer answer) := by
      simp only [provideAnswer]
      split <;> simp_all [SessionState.shared]
    simp only [step, hbase, inherited, Yields.map_iff]
    exact (InviteSession.provideAnswer_turns answer).weaken fun b hb => hb.frames_shared hs
  | accept code =>
    simp only [step, accept]
    split <;> simp_all [SessionState.shared]
  | reject code =>
    have hbase : s.reject code = s.inherited (s.toInviteSession.reject code) := by
      simp only [reject]
      split <;> simp_all [SessionState.shared]
    simp only [step, hbase, inherited, Yields.map_iff]
    exact (InviteSession.reject_turns code).weaken fun b hb => hb.frames_shared hs
  | redirect code =>
    simp only [step, redirect]
    split <;> simp_all [SessionState.shared]
  | endSession =>
    have hbase : s.endSession = s.inherited s.toInviteSession.endSession := by
      unfold endSession
      split <;> simp_all [SessionState.shared]
    simp only [step, hbase, inherited, Yields.map_iff]
    exact InviteSession.endSession_turns.weaken fun b hb => hb.frames_shared hs
  | targetRefresh =>
    simp only [step, targetRefresh, inherited, Yields.map_iff]
    exact InviteSession.targetRefresh_turns.weaken fun b hb => hb.frames_shared hs

/-- A handler that leads back waits alone, in a state that it can lead back from. -/
def Parked (s : ServerInviteSession γ) (f : Frame γ) : Prop :=
  f.isAck = false ∧ (f.returns → s.frames = [f] ∧ s.mState.paused ∧ s.mCurrentRetransmit200 = false) ∧
    (f.isGlare → s.frames = [f] ∧ s.mState.shared)

/-- What holds in all states of a session. -/
structure Steady (s : ServerInviteSession γ) : Prop where
  callee : s.mState.callee
  waits : s.Waits
  early : s.mState.early → s.mCurrentRetransmit200 = false
  parked : ∀ f ∈ s.frames, s.Parked f

/-- The step sends a 2xx to an INVITE. -/
def answersInvite (s : ServerInviteSession γ) : ServerEvent γ → Bool
  | .accept _ => s.acceptsNow
  | .provideOffer _ _ => s.mState = .ReceivedReinviteNoOffer
  | .provideAnswer _ =>
    s.mState = .ReceivedReinvite || (s.mState = .UAS_ReceivedUpdateWaitingAnswer && s.acceptQueued)
  | .message msg => s.acceptsAfterUpdate msg
  | .resume => s.frames.head?.any s.acceptsOnReturn
  | _ => false

/-- The step stops the retransmission of a 2xx. -/
def stops200 (s : ServerInviteSession γ) : ServerEvent γ → Bool
  | .message msg => msg.method = .ack
  | .timer timeout => timeout.type = .WaitForAck && timeout.seq = s.mLastRemoteSessionModification.2
  | _ => false

def isRetransmit200 : ServerEvent γ → Bool
  | .timer timeout => timeout.type = .Retransmit200
  | _ => false

/-- The step makes another reliable provisional of the last one. -/
def resubmitsIn (s : ServerInviteSession γ) : ServerEvent γ → Bool
  | .timer timeout => s.resubmits timeout
  | _ => false

lemma call_turns [DecidableEq γ] (hc : isCall e) :
    Yields (s.step e) (s.Turns False (s.answersInvite e) False) := by
  cases e with
  | message msg | timer timeout | resume => cases hc
  | provisional code earlyFlag =>
    exact (provisional_turns code earlyFlag).weaken fun _ h => h.mono id False.elim id
  | provideOffer offer sendOfferAtAccept =>
    exact (provideOffer_turns offer sendOfferAtAccept).weaken fun _ h => h.mono id (by simp [answersInvite]) id
  | requestOffer => exact requestOffer_turns.weaken fun _ h => h.mono id False.elim id
  | provideAnswer answer => exact (provideAnswer_turns answer).weaken fun _ h => h.mono id (by simp [answersInvite]) id
  | accept code => exact accept_turns code
  | reject code => exact (reject_turns code).weaken fun _ h => h.mono id False.elim id
  | redirect code => exact (redirect_turns code).weaken fun _ h => h.mono id False.elim id
  | endSession => exact endSession_turns.weaken fun _ h => h.mono id False.elim id
  | targetRefresh => exact targetRefresh_turns.weaken fun _ h => h.mono id False.elim id

lemma Moves.steady (h : s.Moves stops starts idle s') (hc : s.mState.callee) (hw : s.Waits)
    (he : s.mState.early → s.mCurrentRetransmit200 = false) (hp : ∀ f ∈ s'.frames, s'.Parked f) : s'.Steady :=
  ⟨h.callee hc, h.waits hw he, h.still_early he, hp⟩

/-- A handler that waits is below nothing but what a call has left. -/
lemma call_parked [DecidableEq γ] (hc : isCall e) (hp : ∀ f ∈ s.frames, s.Parked f) :
    Yields (s.step e) fun s' => ∀ f ∈ s'.frames, s'.Parked f := by
  intro s' hstep f hf
  have hframes := (call_turns hc _ hstep).frames
  by_cases hold : f ∈ s.frames
  · refine ⟨(hp f hold).1, fun hr => ?_, fun hg => ?_⟩
    · obtain ⟨halone, hpaused, hflag⟩ := (hp f hold).2.1 hr
      obtain ⟨hsame, hpaused', hflag'⟩ := call_paused hc hpaused _ hstep
      exact ⟨hsame.trans halone, hpaused', hflag'.trans hflag⟩
    · obtain ⟨halone, hshared⟩ := (hp f hold).2.2 hg
      obtain ⟨hsame, hshared'⟩ := call_shared hc hshared _ hstep
      exact ⟨hsame.trans halone, hshared'⟩
  · rcases hframes with hsame | ⟨g, hpush, ha, hr, hg⟩
    · exact absurd (hsame ▸ hf) hold
    · obtain rfl : f = g := by simpa [hpush, hold] using hf
      exact ⟨ha, fun h => (hr h).1.elim, fun h => (hg h).1.elim⟩

/-- A message or a timer is not handled before the handlers have returned. -/
lemma Moves.parked (h : s.Moves stops starts idle s') (hi : s.frames = [])
    (he : s.mState.early → s.mCurrentRetransmit200 = false) : ∀ f ∈ s'.frames, s'.Parked f := by
  intro f hf
  rcases h.frames with hsame | ⟨g, hpush, ha, hr, hg⟩
  · simp [hsame, hi] at hf
  · obtain rfl : f = g := by simpa [hpush, hi] using hf
    rw [hi] at hpush
    exact ⟨ha, fun h' => ⟨hpush, (hr h').2.1, h.still_early he (hr h').2.2⟩, fun h' => ⟨hpush, (hg h').2⟩⟩

/-- What a step does. -/
structure Step (s : ServerInviteSession γ) (e : ServerEvent γ) (s' : ServerInviteSession γ) : Prop where
  steady : s'.Steady
  numbered : s.resubmitsIn e = false → s.Numbered → s'.Numbered ∧ reliable s.trace <:+ reliable s'.trace
  retransmission : isRetransmit200 e = false →
    (s'.mCurrentRetransmit200 = s.mCurrentRetransmit200 ∧ s'.mInvite200 = s.mInvite200 ∧
      s'.retransmissions = s.retransmissions) ∨
    (s.stops200 e ∧ s'.mCurrentRetransmit200 = false ∧ s'.mInvite200 = s.mInvite200 ∧
      s'.retransmissions = s.retransmissions) ∨
    (s.answersInvite e ∧ s'.mCurrentRetransmit200 = true ∧ s'.mInvite200.isSome ∧
      ∃ t, s'.retransmissions = t :: s.retransmissions)
  again : isRetransmit200 e → s'.mCurrentRetransmit200 = s.mCurrentRetransmit200 ∧ s'.mInvite200 = s.mInvite200 ∧
    s'.retransmissions.length ≤ s.retransmissions.length ∧
    (s.mCurrentRetransmit200 → s.mInvite200.isSome → s'.retransmissions ≠ [])

lemma Turns.step (h : s.Turns (s.stops200 e) (s.answersInvite e) idle s') (hs : s.Steady)
    (hp : ∀ f ∈ s'.frames, s'.Parked f) (he : isRetransmit200 e = false) : s.Step e s' :=
  ⟨h.toMoves.steady hs.callee hs.waits hs.early hp, fun _ hn => ⟨h.numbered hn, h.grows⟩, fun _ => h.retransmission,
    fun h' => by simp [he] at h'⟩

theorem step_call [DecidableEq γ] (hc : isCall e) (hs : s.Steady) : Yields (s.step e) (s.Step e) := by
  intro s' hstep
  refine ((call_turns hc s' hstep).mono False.elim id id).step hs (call_parked hc hs.parked s' hstep) ?_
  cases e <;> first | rfl | cases hc

theorem step_message [DecidableEq γ] (msg : SessionMessage γ) (hs : s.Steady) (hi : s.frames = []) :
    Yields (s.step (.message msg)) (s.Step (.message msg)) := by
  intro s' hstep
  have ht := dispatch_turns hs.callee hs.early s' hstep
  exact (ht.mono (by simp [stops200]) id id).step hs (ht.parked hi hs.early) rfl

/-- The timer for the retransmission of a 2xx is handled by the base class. -/
lemma Step.of_again {b : InviteSession γ} {timeout : SessionTimer} (h200 : timeout.type = .Retransmit200) (hs : s.Steady)
    (hi : s.frames = []) (hw : s.Waits → b.Waits) (hrel : s.Plain → reliable b.trace = reliable s.trace)
    (hinvite : b.mInvite200 = s.mInvite200) (hflag : b.mCurrentRetransmit200 = s.mCurrentRetransmit200)
    (hstate : b.mState = s.mState) (hframes : b.frames = s.frames)
    (hshort : b.retransmissions.length ≤ s.retransmissions.length)
    (hstill : s.mCurrentRetransmit200 → s.mInvite200.isSome → b.retransmissions ≠ []) :
    s.Step (.timer timeout) { s with toInviteSession := b } := by
  refine ⟨⟨?_, hw hs.waits, fun he => ?_, fun f hf => ?_⟩, fun _ hn => ?_, fun h => ?_,
    fun _ => ⟨hflag, hinvite, hshort, hstill⟩⟩
  · show b.mState.callee
    rw [hstate]
    exact hs.callee
  · have he' : s.mState.early := by rwa [← hstate]
    exact hflag.trans (hs.early he')
  · have hnone : f ∈ ([] : List (Frame γ)) := by rwa [← hi, ← hframes]
    cases hnone
  · have hsame : reliable b.trace = reliable s.trace := hrel hn.plain
    exact ⟨hn.of_eq hsame rfl rfl fun hp r hr => hp r (hinvite.symm.trans hr), hsame ▸ List.suffix_rfl⟩
  · simp [isRetransmit200, h200] at h

theorem step_timer [DecidableEq γ] (timeout : SessionTimer) (hs : s.Steady) (hi : s.frames = [])
    (hin : timeout.type = .Retransmit200 → timeout ∈ s.timers) :
    Yields (s.step (.timer timeout)) (s.Step (.timer timeout)) := by
  by_cases h200 : timeout.type = .Retransmit200
  · have hbase : s.step (.timer timeout) = s.inherited
        (InviteSession.dispatchTimer { s.toInviteSession with timers := s.timers.erase timeout } timeout) := by
      simp only [step, dispatchTimer, h200]
      rfl
    rw [hbase, inherited, Yields.map_iff]
    refine (InviteSession.dispatchTimer_again timeout h200).weaken ?_
    rintro b ⟨hw, hrel, hinvite, hflag, hstate, hframes, hshort, hstill⟩
    exact .of_again h200 hs hi hw hrel hinvite hflag hstate hframes (hshort (hin h200)) hstill
  · intro s' hstep
    obtain ⟨hm, ht⟩ := dispatchTimer_turns timeout h200 s' hstep
    refine ⟨hm.steady hs.callee hs.waits hs.early (hm.parked hi hs.early), fun hr hn => ⟨(ht hr).numbered hn, (ht hr).grows⟩,
      fun _ => ?_, ?_⟩
    · simpa [stops200, answersInvite] using hm.retransmission
    · simp [isRetransmit200, h200]

/-- Below the handler on top there is none that leads back. -/
lemma resume_parked {f : Frame γ} {rest : List (Frame γ)} (hs : s.Steady) (hframes : s.frames = f :: rest)
    (h : Moves stops starts False { s with frames := rest } s') : ∀ g ∈ s'.frames, s'.Parked g := by
  intro g hg
  by_cases hold : g ∈ rest
  · obtain ⟨hack, hreturns, hglare⟩ := hs.parked g (by simp [hframes, hold])
    have hnot : s.frames ≠ [g] := by
      intro halone
      obtain ⟨-, rfl⟩ := List.cons.inj (hframes.symm.trans halone)
      simp at hold
    exact ⟨hack, fun hr => absurd (hreturns hr).1 hnot, fun hr => absurd (hglare hr).1 hnot⟩
  · rcases h.frames with hsame | ⟨f', hpush, ha, hr, hgl⟩
    · rw [hsame] at hg
      exact absurd hg hold
    · obtain rfl : g = f' := by simpa [hpush, hold] using hg
      exact ⟨ha, fun h => (hr h).1.elim, fun h => (hgl h).1.elim⟩

theorem step_resume [DecidableEq γ] (hs : s.Steady) : Yields (s.step .resume) (s.Step .resume) := by
  simp only [step, resume]
  split
  case h_1 f rest hframes =>
    obtain ⟨hack, hreturns, hglare⟩ := hs.parked f (by simp [hframes])
    intro s' hstep
    have ht : Turns f.isAck (s.acceptsOnReturn f) False { s with frames := rest } s' :=
      resumeFrame_turns (s := { s with frames := rest }) f (fun h => (hreturns h).2.2) (fun h => (hglare h).2) s' hstep
    refine ⟨ht.toMoves.steady hs.callee ⟨hs.waits.ack, hs.waits.hangUp, hs.waits.reinvite⟩ hs.early
      (resume_parked hs hframes ht.toMoves), fun _ hn => ⟨ht.numbered (hn.of_eq rfl rfl rfl id), ht.grows⟩,
      fun _ => ?_, nofun⟩
    rcases ht.retransmission with h | ⟨h, -⟩ | ⟨h, hstart⟩
    · exact .inl h
    · exact absurd h (by rw [hack]; nofun)
    · refine .inr (.inr ⟨?_, hstart⟩)
      rw [answersInvite, hframes]
      exact h
  case h_2 => exact Yields.of_error _

theorem step_spec [DecidableEq γ] (hs : s.Steady) (ha : s.allowed e) : Yields (s.step e) (s.Step e) := by
  cases e with
  | message msg =>
    simp only [allowed, Bool.and_eq_true, List.isEmpty_iff] at ha
    exact step_message msg hs ha.1
  | timer timeout =>
    simp only [allowed, Bool.and_eq_true, Bool.or_eq_true, List.isEmpty_iff, decide_eq_true_eq] at ha
    refine step_timer timeout hs ha.1 fun h200 => ha.2.resolve_right fun h => ?_
    rcases h.2 with h | h <;> simp [h200] at h
  | resume => exact step_resume hs
  | _ => exact step_call rfl hs

/-! ### Runs -/

lemma dispatchStart_spec (profile : SessionProfile) (request : SessionMessage γ) :
    Yields ((create profile request).dispatchStart request) fun s =>
      s.Steady ∧ s.Numbered ∧ s.mCurrentRetransmit200 = false ∧ s.retransmissions = [] := by
  have hnew {s : ServerInviteSession γ} {offer : Option γ} (hstate : s.mState.early) (hflag : s.mCurrentRetransmit200 = false)
      (hframes : s.frames = [.newSession offer]) (htrace : s.trace = [.callback .onNewSession]) (hm : s.m1xx.rSeq = none)
      (hl : s.mLocalRSeq = 0) (hr : s.mInvite200 = none) (ht : s.timers = []) :
      s.Steady ∧ s.Numbered ∧ s.mCurrentRetransmit200 = false ∧ s.retransmissions = [] := by
    have hc : s.mState.callee ∧ s.mState.awaitsAck = false ∧ s.mState.hangsUp = false ∧ s.mState.reinvites = false := by
      cases h : s.mState <;> simp_all +decide
    refine ⟨⟨hc.1, ?_, fun _ => hflag, ?_⟩, ⟨?_, ?_, ?_, ?_⟩, hflag, ?_⟩
    · simp [InviteSession.waits_iff, hc]
    · simp [hframes, Parked]
    · simp [RSeqOrdered, htrace, reliable]
    · simp [htrace, reliable, hl]
    · simp [hm]
    · simp [InviteSession.Plain, hr]
    · simp [InviteSession.retransmissions, ht]
  simp only [dispatchStart]
  split
  case h_5 => exact Yields.of_error _
  all_goals exact Yields.ok_iff.mpr (hnew rfl rfl rfl rfl rfl rfl rfl rfl)

theorem steady_reach [DecidableEq γ] {ok : ServerInviteSession γ → ServerEvent γ → Prop}
    (h : Reach (runs γ) ok s) : s.Steady := by
  refine invariant (fun profile request _ => ?_) (fun s e hs ha _ => ?_) h
  · exact (dispatchStart_spec profile request).weaken fun _ h => h.1
  · exact (step_spec hs ha).weaken fun _ h => h.steady

end ServerInviteSession

end Resiprocate.Dum
