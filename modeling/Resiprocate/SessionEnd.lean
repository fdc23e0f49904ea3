import Resiprocate.ServerProgress
import Resiprocate.ClientSessionRuns

/-! The end of a session by the application: it ends at once, or with the timer that it still waits for. -/
namespace Resiprocate.Dum
open TransitionSystem ProgramLogic

/-- The states in which a session that has been ended waits. -/
def SessionState.lingers : SessionState → Bool
  | .WaitingToTerminate | .WaitingToHangup | .UAS_WaitingToHangup => true
  | _ => false

namespace InviteSession
variable {γ : Type*} {b b' : InviteSession γ}

/-- The timer sends the BYE and ends the session. -/
def HangsUpAt (b : InviteSession γ) (timeout : SessionTimer) : Prop :=
  dispatchTimer { b with timers := b.timers.erase timeout } timeout =
    .ok { b with timers := b.timers.erase timeout }.stop200.hangUp ∨
  dispatchTimer { b with timers := b.timers.erase timeout } timeout =
    .ok { b with timers := b.timers.erase timeout }.hangUp

/-- Terminated, or waiting with a timer that hangs up. -/
def Ended (b : InviteSession γ) : Prop :=
  b.mState = .Terminated ∨ b.mState.lingers ∧ ∃ timeout ∈ b.timers, b.HangsUpAt timeout

lemma hangsUpAt_waitForAck (hw : b.Waits) (hs : b.mState.hangsUp) :
    ∃ timeout ∈ b.timers, b.HangsUpAt timeout := by
  have hflag := hw.hangUp hs
  have hack : b.mState.awaitsAck := by cases h : b.mState <;> simp_all +decide
  refine ⟨_, hw.ack hack hflag, .inl ?_⟩
  have hstate : b.mState = .WaitingToHangup ∨ b.mState = .UAS_WaitingToHangup := by
    cases h : b.mState <;> simp_all +decide
  rcases hstate with h | h <;> simp [dispatchTimer, waitForAckExpired, hflag, h]

lemma hangsUpAt_staleReInvite (hw : b.Waits) (hs : b.mState = .WaitingToTerminate) :
    ∃ timeout ∈ b.timers, b.HangsUpAt timeout := by
  refine ⟨_, hw.reinvite (by rw [hs]; rfl), .inr ?_⟩
  simp [dispatchTimer, staleReInviteExpired, hs]

/-- What waits for its timer is ended. -/
lemma Waits.ended (hw : b.Waits) (hs : b.mState = .Terminated ∨ b.mState.lingers) : b.Ended := by
  refine hs.imp_right fun hl => ⟨hl, ?_⟩
  have hstate : b.mState = .WaitingToTerminate ∨ b.mState.hangsUp := by
    cases h : b.mState <;> simp_all +decide
  rcases hstate with h | h
  · exact hangsUpAt_staleReInvite hw h
  · exact hangsUpAt_waitForAck hw h

lemma endSession_shared (hs : b.mState.shared) (hn : b.mState ≠ .WaitingToHangup) :
    ∃ b', b.endSession = .ok b' ∧ (b'.mState = .Terminated ∨ b'.mState.lingers) := by
  cases h : b.mState <;> simp_all +decide [endSession]
  all_goals split_ifs <;> simp_all +decide

end InviteSession

namespace ServerInviteSession
variable {γ : Type*} {s : ServerInviteSession γ}

lemma endSession_ok (hc : s.mState.callee) (hn : s.mState ≠ .WaitingToHangup) :
    ∃ s', s.endSession = .ok s' ∧ (s'.mState = .Terminated ∨ s'.mState.lingers) := by
  by_cases hs : s.mState.shared
  · obtain ⟨b, hb, hstate⟩ := InviteSession.endSession_shared hs hn
    have hbase : s.endSession = s.inherited s.toInviteSession.endSession := by
      unfold endSession
      split <;> simp_all [SessionState.shared]
    exact ⟨{ s with toInviteSession := b }, by rw [hbase, hb]; rfl, hstate⟩
  · cases h : s.mState <;> simp_all +decide [endSession, reject]
    all_goals split_ifs <;> simp_all +decide

/-- Ending a session of a callee fails only while it already waits for the ACK of a re-INVITE. -/
theorem endSession_callee [DecidableEq γ] (h : Reach (runs γ) anyStep s) :
    (s.mState ≠ .WaitingToHangup → ∃ s', s.endSession = .ok s' ∧ s'.Ended) ∧
    (s.mState = .WaitingToHangup → s.endSession = .error .assertion) := by
  have hs := steady_reach h
  refine ⟨fun hn => ?_, fun hst => ?_⟩
  · obtain ⟨s', hend, hstate⟩ := endSession_ok hs.callee hn
    have hwaits : s'.Waits := (endSession_turns s' hend).waits hs.waits hs.early
    exact ⟨s', hend, hwaits.ended hstate⟩
  · simp [endSession, InviteSession.endSession, hst, Except.map]

/-- The session waits for the ACK of its 200. -/
theorem endSession_accepted :
    let accepted := [.resume, .provideAnswer 2, .accept 200].foldl (runs ℕ).next (started .Never (some 1))
    ∃ s', accepted.endSession = .ok s' ∧ s'.Ended :=
  (endSession_callee (reach_started.run [.resume, .provideAnswer 2, .accept 200] (by decide))).1 (by decide)

end ServerInviteSession

namespace ClientInviteSession
variable {γ : Type*} {s : ClientInviteSession γ}

/-- The states that the caller's `end` has no case for. -/
def endAsserts : SessionState → Bool
  | .UAC_Start | .UAC_SentUpdateEarlyGlare | .WaitingToHangup => true
  | _ => false

lemma endSession_ok (hc : s.mState.caller) (hn : endAsserts s.mState = false) :
    ∃ s', s.endSession = .ok s' ∧ (s'.mState = .Terminated ∨ s'.mState.lingers) := by
  by_cases hs : s.mState.shared
  · obtain ⟨b, hb, hstate⟩ := InviteSession.endSession_shared hs (by rintro h; simp [h, endAsserts] at hn)
    by_cases ht : s.mState = .Terminated
    · exact ⟨s, by simp [endSession, ht], .inl ht⟩
    · have hbase : s.endSession = s.inherited s.toInviteSession.endSession := by
        simp only [endSession]
        split <;> simp_all [SessionState.shared]
      exact ⟨{ s with toInviteSession := b }, by rw [hbase, hb]; rfl, hstate⟩
  · cases h : s.mState <;> simp_all +decide [endSession]

/-- Ending a session of a caller fails before the first response, while an early UPDATE waits to be sent again, and
while the session already waits for the ACK of a re-INVITE. -/
theorem endSession_caller [DecidableEq γ] (h : Reach (runs γ) anyStep s) :
    (endAsserts s.mState = false → ∃ s', s.endSession = .ok s' ∧ s'.Ended) ∧
    (endAsserts s.mState → s.endSession = .error .assertion) := by
  have hs := steady_reach h
  refine ⟨fun hn => ?_, fun hst => ?_⟩
  · obtain ⟨s', hend, hstate⟩ := endSession_ok hs.caller hn
    have hwaits : s'.Waits := (endSession_moves hs.caller s' hend).waits hs.waits
    exact ⟨s', hend, hwaits.ended hstate⟩
  · cases h : s.mState <;> simp_all [endAsserts]
    all_goals simp [endSession, InviteSession.endSession, h, Except.map]

/-- An UPDATE in an early dialog. -/
theorem endSession_early :
    let early := [.resume, .resume, .resume, .provideOffer 3].foldl (runs ℕ).next
      (opened (some 1) (.reply .invite 183 1 (some 2) (some 1)))
    ∃ s', early.endSession = .ok s' ∧ s'.Ended :=
  (endSession_caller ((reach_opened rfl rfl).run [.resume, .resume, .resume, .provideOffer 3] (by decide))).1 (by decide)

end ClientInviteSession

end Resiprocate.Dum
