import Resiprocate.ServerProgress
import Resiprocate.ClientSessionRuns

/-! The retransmission of a 2xx: one flag and one response serve all INVITEs of a session, and the timers of
one 2xx take up another one that is sent while they are pending. -/
namespace Resiprocate.Dum
open TransitionSystem ProgramLogic

namespace InviteSession
variable {γ : Type*} {b b' : InviteSession γ} {stops starts : Prop}

/-- There is one timer for the retransmission at most, and one as long as that goes on. -/
structure Chained (b : InviteSession γ) : Prop where
  single : b.retransmissions.length ≤ 1
  alive : b.mCurrentRetransmit200 → b.mInvite200.isSome ∧ b.retransmissions ≠ []

/-- The 2xx is not sent again any more. -/
def StopsResending (b b' : InviteSession γ) : Prop :=
  b.mCurrentRetransmit200 ∧ ¬(b'.mCurrentRetransmit200 ∧ b'.mInvite200 = b.mInvite200)

/-- A 2xx that is sent when no timer is pending starts a chain of its own. -/
lemma Chained.step (h : b.Chained) (hs : starts → b.retransmissions = [])
    (hr : (b'.mCurrentRetransmit200 = b.mCurrentRetransmit200 ∧ b'.mInvite200 = b.mInvite200 ∧
        b'.retransmissions = b.retransmissions) ∨
      (stops ∧ b'.mCurrentRetransmit200 = false ∧ b'.mInvite200 = b.mInvite200 ∧
        b'.retransmissions = b.retransmissions) ∨
      (starts ∧ b'.mCurrentRetransmit200 = true ∧ b'.mInvite200.isSome ∧
        ∃ t, b'.retransmissions = t :: b.retransmissions)) :
    b'.Chained ∧ (b.StopsResending b' → stops) := by
  rcases hr with ⟨hflag, hinvite, hpending⟩ | ⟨hstops, hflag, hinvite, hpending⟩ | ⟨hstarts, hflag, hsome, t, hpending⟩
  · refine ⟨⟨by rw [hpending]; exact h.single, ?_⟩, fun hstop => absurd ⟨?_, hinvite⟩ hstop.2⟩
    · rw [hflag, hinvite, hpending]
      exact h.alive
    · rw [hflag]
      exact hstop.1
  · exact ⟨⟨by rw [hpending]; exact h.single, by simp [hflag]⟩, fun _ => hstops⟩
  · have hnone := hs hstarts
    refine ⟨⟨by simp [hpending, hnone], fun _ => ⟨hsome, by simp [hpending]⟩⟩, fun hstop => ?_⟩
    exact absurd hnone (h.alive hstop.1).2

/-- The timer goes on with its chain. -/
lemma Chained.again (h : b.Chained) (hflag : b'.mCurrentRetransmit200 = b.mCurrentRetransmit200)
    (hinvite : b'.mInvite200 = b.mInvite200) (hshort : b'.retransmissions.length ≤ b.retransmissions.length)
    (hstill : b.mCurrentRetransmit200 → b.mInvite200.isSome → b'.retransmissions ≠ []) :
    b'.Chained ∧ ¬b.StopsResending b' := by
  refine ⟨⟨hshort.trans h.single, fun hf => ?_⟩, fun hstop => hstop.2 ⟨hflag ▸ hstop.1, hinvite⟩⟩
  rw [hflag] at hf
  exact ⟨hinvite ▸ (h.alive hf).1, hstill hf (h.alive hf).1⟩

end InviteSession

namespace ServerInviteSession
variable {γ : Type*} {s s' : ServerInviteSession γ} {e : ServerEvent γ}

/-- No 2xx is sent while there is a timer for the last one. -/
def OneAtATime (s : ServerInviteSession γ) (e : ServerEvent γ) : Prop :=
  s.answersInvite e → s.retransmissions = []

lemma Step.chained (h : s.Step e s') (hc : s.Chained) (ho : s.OneAtATime e) :
    s'.Chained ∧ (s.StopsResending s'.toInviteSession → s.stops200 e) := by
  cases h200 : isRetransmit200 e with
  | false => exact hc.step ho (h.retransmission h200)
  | true =>
    obtain ⟨hflag, hinvite, hshort, hstill⟩ := h.again h200
    exact (hc.again hflag hinvite hshort hstill).imp_right fun hn hstop => absurd hstop hn

instance [DecidableEq γ] (s : ServerInviteSession γ) (e : ServerEvent γ) : Decidable (s.OneAtATime e) :=
  inferInstanceAs (Decidable (_ → _))

end ServerInviteSession

namespace ClientInviteSession
variable {γ : Type*} {s s' : ClientInviteSession γ} {e : ClientEvent γ}

/-- No 2xx is sent while there is a timer for the last one. -/
def OneAtATime (s : ClientInviteSession γ) (e : ClientEvent γ) : Prop :=
  s.answersInvite e → s.retransmissions = []

lemma Step.chained (h : s.Step e s') (hc : s.Chained) (ho : s.OneAtATime e) :
    s'.Chained ∧ (s.StopsResending s'.toInviteSession → s.stops200 e) := by
  cases h200 : isRetransmit200 e with
  | false => exact hc.step ho (h.retransmission h200)
  | true =>
    obtain ⟨hflag, hinvite, hshort, hstill⟩ := h.again h200
    exact (hc.again hflag hinvite hshort hstill).imp_right fun hn hstop => absurd hstop hn

lemma chained_create (profile : SessionProfile) (request : LocalModification γ) (response : SessionMessage γ) :
    (create profile request response).Chained := by
  refine ⟨?_, ?_⟩ <;> simp [create, InviteSession.retransmissions]

instance [DecidableEq γ] (s : ClientInviteSession γ) (e : ClientEvent γ) : Decidable (s.OneAtATime e) :=
  inferInstanceAs (Decidable (_ → _))

end ClientInviteSession

end Resiprocate.Dum
