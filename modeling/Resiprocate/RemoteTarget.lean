import Mathlib.Logic.Function.Basic
import Resiprocate.TransactionTypes
import Resiprocate.TransitionSystem

/-! The remote target of a `Dialog`. The Contact of a target-refresh request is put aside in a
single slot, with the request's CSeq number, and taken up when a success response with that
number is sent. -/
namespace Resiprocate.Dum
open TransitionSystem
open Transaction (MethodTypes)

/-- What a `Dialog` reads of a message for its remote target. `ν` is the type of contacts; a
message without a status code is a request. -/
structure DialogMessage (ν : Type*) where
  method : MethodTypes
  statusCode : Option ℕ
  sequence : ℕ
  contact : Option ν

namespace DialogMessage
variable {ν : Type*}

/-- INVITE, UPDATE and SUBSCRIBE; a NOTIFY is left to the client subscriptions. -/
def refreshesTarget (msg : DialogMessage ν) : Bool :=
  msg.method = .invite || msg.method = .update || msg.method = .subscribe

def isRefreshRequest (msg : DialogMessage ν) : Bool :=
  msg.statusCode.isNone && msg.refreshesTarget && msg.contact.isSome

def isFinal (msg : DialogMessage ν) : Bool := msg.statusCode.any fun code => 2 ≤ code / 100

def isSuccess (msg : DialogMessage ν) : Bool := msg.statusCode.any fun code => code / 100 = 2

/-- A 2xx response to a target-refresh request, with a Contact. -/
def isRefreshResponse (msg : DialogMessage ν) : Bool :=
  msg.isSuccess && msg.refreshesTarget && msg.contact.isSome

/-- A response has the CSeq header of its request. -/
def Answers (response request : DialogMessage ν) : Prop :=
  request.sequence = response.sequence ∧ request.method = response.method

instance (response request : DialogMessage ν) : Decidable (response.Answers request) :=
  inferInstanceAs (Decidable (_ ∧ _))

lemma isFinal_of_isSuccess {msg : DialogMessage ν} (h : msg.isSuccess = true) :
    msg.isFinal = true := by
  unfold isSuccess at h
  unfold isFinal
  cases hcode : msg.statusCode with
  | none => simp [hcode] at h
  | some code =>
    simp only [hcode, Option.any_some, decide_eq_true_eq] at h ⊢
    omega

end DialogMessage

/-- The remote target of a `Dialog`, the slot for the next one, and the largest CSeq number of the
NOTIFYs of each of its client subscriptions. -/
structure DialogTarget (ν : Type*) where
  mRemoteTarget : ν
  mPendingRemoteTarget : ν
  mPendingRemoteTargetCSeq : ℕ
  mLargestNotifyCSeq : ℕ → ℕ

namespace DialogTarget
variable {ν : Type*} [BEq ν] [Inhabited ν]

/-- What the constructor leaves: an empty `NameAddr` is pending, with number 0. -/
def create (contact : ν) : DialogTarget ν := ⟨contact, default, 0, fun _ => 0⟩

def handleTargetRefresh (d : DialogTarget ν) (msg : DialogMessage ν) : DialogTarget ν :=
  match msg.contact with
  | none => d
  | some contact =>
    if msg.refreshesTarget then
      if msg.statusCode.isNone then
        -- pend the change until the application answers with success
        if d.mRemoteTarget == contact then d
        else { d with
          mPendingRemoteTarget := contact
          mPendingRemoteTargetCSeq := msg.sequence }
      else if msg.isSuccess then { d with mRemoteTarget := contact }
      else d
    else d

/-- Called by `Dialog::send` for every message. -/
def handlePendingTargetRefresh (d : DialogTarget ν) (msg : DialogMessage ν) : DialogTarget ν :=
  if msg.isFinal ∧ d.mPendingRemoteTargetCSeq = msg.sequence then
    { d with
      mRemoteTarget := if msg.isSuccess then d.mPendingRemoteTarget else d.mRemoteTarget
      mPendingRemoteTargetCSeq := 0
      mPendingRemoteTarget := default }
  else d

/-- The part of `ClientSubscription::dispatch` that is about the order of NOTIFYs. -/
def handleNotify (d : DialogTarget ν) (subscription : ℕ) (msg : DialogMessage ν) :
    DialogTarget ν :=
  if msg.sequence < d.mLargestNotifyCSeq subscription then d
  else { d with
    mLargestNotifyCSeq := Function.update d.mLargestNotifyCSeq subscription msg.sequence
    mRemoteTarget := msg.contact.getD d.mRemoteTarget }

end DialogTarget

/-- A message that is dispatched to the dialog, one that it sends, and a NOTIFY that a client
subscription of the dialog takes. -/
inductive DialogEvent (ν : Type*)
  | dispatch (msg : DialogMessage ν)
  | send (msg : DialogMessage ν)
  | notify (subscription : ℕ) (msg : DialogMessage ν)

/-- A target-refresh request that has no final response yet, and whether its Contact was another
one than the remote target when it arrived. -/
structure WaitingRequest (ν : Type*) where
  request : DialogMessage ν
  putAside : Bool

variable {ν : Type*} [BEq ν] [Inhabited ν]

def dialogTargets : System (DialogTarget ν) (DialogEvent ν) where
  init d := ∃ contact, d = .create contact
  enabled _ _ := True
  next d e := match e with
    | .dispatch msg => d.handleTargetRefresh msg
    | .send msg => d.handlePendingTargetRefresh msg
    | .notify subscription msg => d.handleNotify subscription msg

/-- What the run so far leaves to be answered. -/
def updateWaiting (d : DialogTarget ν) (e : DialogEvent ν) (waiting : List (WaitingRequest ν)) :
    List (WaitingRequest ν) :=
  match e with
  | .dispatch msg =>
    if msg.isRefreshRequest then
      waiting ++ [⟨msg, !msg.contact.any fun contact => d.mRemoteTarget == contact⟩]
    else waiting
  | .send msg =>
    if msg.isFinal then waiting.filter fun w => ¬msg.Answers w.request else waiting
  | .notify _ _ => waiting

/-- A dialog together with the requests that wait for their final response. -/
abbrev TargetRun (ν : Type*) := DialogTarget ν × List (WaitingRequest ν)

def targetRuns : System (TargetRun ν) (DialogEvent ν) :=
  dialogTargets.observe [] updateWaiting

/-- The step sends success for a waiting request with this Contact, or takes it from such a
response. -/
def AcceptedContact (p : TargetRun ν) (e : DialogEvent ν) (contact : ν) : Prop :=
  match e with
  | .dispatch msg => msg.isRefreshResponse ∧ msg.contact = some contact
  | .send msg => msg.isSuccess ∧
      ∃ w ∈ p.2, msg.Answers w.request ∧ w.request.contact = some contact
  | .notify _ _ => False

/-- The step is a NOTIFY with this Contact that is not out of order. -/
def NotifiedContact (p : TargetRun ν) (e : DialogEvent ν) (contact : ν) : Prop :=
  match e with
  | .notify subscription msg =>
    p.1.mLargestNotifyCSeq subscription ≤ msg.sequence ∧ msg.contact = some contact
  | _ => False

/-- Whenever the step sends success for a request, the target afterwards is its Contact. -/
def TakesUp (p : TargetRun ν) (e : DialogEvent ν) (target : ν) : Prop :=
  ∀ contact, (∃ msg, e = .send msg) → AcceptedContact p e contact →
    target = contact ∨ (target == contact) = true

/-- What keeps the single slot from being mixed up. While a target-refresh request waits for its
final response, no other one arrives and no final response of another method goes out with its
number, the 200 to its CANCEL for one; the target is not moved otherwise unless the Contact of
the request was put aside; and no success is sent with the number 0, which marks the empty slot,
unless for a request whose Contact was put aside. -/
def Unmixed (p : TargetRun ν) (e : DialogEvent ν) : Prop :=
  match e with
  | .dispatch msg =>
    (msg.isRefreshRequest → p.2 = []) ∧ (msg.isRefreshResponse → ∀ w ∈ p.2, w.putAside)
  | .send msg => msg.isFinal →
    (∀ w ∈ p.2, w.request.sequence = msg.sequence → w.request.method = msg.method) ∧
    (msg.isSuccess → msg.sequence = 0 → ∃ w ∈ p.2, w.putAside ∧ msg.Answers w.request)
  | .notify subscription msg =>
    p.1.mLargestNotifyCSeq subscription ≤ msg.sequence → ∀ w ∈ p.2, w.putAside

/-- The slot belongs to the request that waits: it holds the Contact of that request, or is empty
because this Contact is the target already. -/
structure SlotHeld (p : TargetRun ν) : Prop where
  single : p.2.length ≤ 1
  filled : p.1.mPendingRemoteTargetCSeq ≠ 0 → ∃ w ∈ p.2, w.putAside
  aside : ∀ w ∈ p.2, w.putAside →
    w.request.sequence = p.1.mPendingRemoteTargetCSeq ∧
      w.request.contact = some p.1.mPendingRemoteTarget
  current : ∀ w ∈ p.2, ¬w.putAside →
    ∃ contact, w.request.contact = some contact ∧ (p.1.mRemoteTarget == contact) = true

section Refresh
omit [Inhabited ν]
variable {d : DialogTarget ν} {msg : DialogMessage ν}

lemma handleTargetRefresh_request (h : msg.isRefreshRequest = true) :
    ∃ contact, msg.contact = some contact ∧
      d.handleTargetRefresh msg = if d.mRemoteTarget == contact then d
        else { d with
          mPendingRemoteTarget := contact
          mPendingRemoteTargetCSeq := msg.sequence } := by
  simp only [DialogMessage.isRefreshRequest, Bool.and_eq_true, Option.isSome_iff_exists] at h
  obtain ⟨⟨hrequest, hmethod⟩, contact, hcontact⟩ := h
  exact ⟨contact, hcontact, by simp [DialogTarget.handleTargetRefresh, hcontact, hmethod, hrequest]⟩

lemma handleTargetRefresh_response (h : msg.isRefreshResponse = true) :
    ∃ contact, msg.contact = some contact ∧
      d.handleTargetRefresh msg = { d with mRemoteTarget := contact } := by
  simp only [DialogMessage.isRefreshResponse, Bool.and_eq_true, Option.isSome_iff_exists] at h
  obtain ⟨⟨hsuccess, hmethod⟩, contact, hcontact⟩ := h
  have hresponse : msg.statusCode.isNone = false := by
    cases hcode : msg.statusCode with
    | none => simp [DialogMessage.isSuccess, hcode] at hsuccess
    | some code => rfl
  exact ⟨contact, hcontact,
    by simp [DialogTarget.handleTargetRefresh, hcontact, hmethod, hresponse, hsuccess]⟩

lemma handleTargetRefresh_other (hrequest : msg.isRefreshRequest = false)
    (hresponse : msg.isRefreshResponse = false) : d.handleTargetRefresh msg = d := by
  unfold DialogTarget.handleTargetRefresh
  cases hcontact : msg.contact with
  | none => rfl
  | some contact =>
    simp only [DialogMessage.isRefreshRequest, DialogMessage.isRefreshResponse, hcontact,
      Option.isSome_some, Bool.and_true] at hrequest hresponse
    cases hmethod : msg.refreshesTarget with
    | false => simp
    | true =>
      rw [hmethod, Bool.and_true] at hrequest hresponse
      simp only [hrequest, hresponse, Bool.false_eq_true, if_false, if_true]

end Refresh

namespace SlotHeld
variable {p : TargetRun ν} {msg : DialogMessage ν}

omit [Inhabited ν] in
lemma eq_of_mem (h : SlotHeld p) {w v : WaitingRequest ν} (hw : w ∈ p.2) (hv : v ∈ p.2) :
    w = v := by
  rcases Nat.le_one_iff_eq_zero_or_eq_one.mp h.single with hnil | hone
  · rw [List.length_eq_zero_iff.mp hnil] at hw
    cases hw
  · obtain ⟨a, ha⟩ := List.length_eq_one_iff.mp hone
    rw [ha, List.mem_singleton] at hw hv
    rw [hw, hv]

omit [Inhabited ν] in
/-- Nothing waits for the old target to stay. -/
lemma retarget (h : SlotHeld p) (haside : ∀ w ∈ p.2, w.putAside) {d : DialogTarget ν}
    (hpending : d.mPendingRemoteTarget = p.1.mPendingRemoteTarget)
    (hsequence : d.mPendingRemoteTargetCSeq = p.1.mPendingRemoteTargetCSeq) :
    SlotHeld (d, p.2) where
  single := h.single
  filled hne := h.filled (by rwa [← hsequence])
  aside w hw hput := by simpa only [hpending, hsequence] using h.aside w hw hput
  current w hw hput := absurd (haside w hw) hput

omit [Inhabited ν] in
lemma empty_of_nil (h : SlotHeld p) (hnil : p.2 = []) : p.1.mPendingRemoteTargetCSeq = 0 := by
  by_contra hne
  obtain ⟨w, hw, -⟩ := h.filled hne
  simp [hnil] at hw

lemma dispatch (h : SlotHeld p) (hu : Unmixed p (.dispatch msg)) :
    SlotHeld (targetRuns.next p (.dispatch msg)) := by
  change SlotHeld (p.1.handleTargetRefresh msg, updateWaiting p.1 (.dispatch msg) p.2)
  cases hrequest : msg.isRefreshRequest with
  | true =>
    have hnil := hu.1 hrequest
    obtain ⟨contact, hcontact, heq⟩ := handleTargetRefresh_request (d := p.1) hrequest
    rw [heq]
    simp only [updateWaiting, hrequest, hnil, hcontact, if_true, List.nil_append, Option.any_some]
    cases hsame : p.1.mRemoteTarget == contact with
    | true =>
      refine ⟨by simp, fun hne => absurd (h.empty_of_nil hnil) hne, by simp, ?_⟩
      intro w hw _
      rw [List.mem_singleton.mp hw]
      exact ⟨contact, hcontact, hsame⟩
    | false => exact ⟨by simp, by simp, by simp [hcontact], by simp⟩
  | false =>
    simp only [updateWaiting, hrequest, Bool.false_eq_true, if_false]
    cases hresponse : msg.isRefreshResponse with
    | true =>
      obtain ⟨contact, -, heq⟩ := handleTargetRefresh_response (d := p.1) hresponse
      rw [heq]
      exact h.retarget (hu.2 hresponse) rfl rfl
    | false =>
      rw [handleTargetRefresh_other hrequest hresponse]
      exact h

lemma notify (h : SlotHeld p) {subscription : ℕ} (hu : Unmixed p (.notify subscription msg)) :
    SlotHeld (targetRuns.next p (.notify subscription msg)) := by
  change SlotHeld (p.1.handleNotify subscription msg, p.2)
  unfold DialogTarget.handleNotify
  split
  · exact h
  · exact h.retarget (hu (by omega)) rfl rfl

/-- A final response with the number of the slot answers the request that waits, if one does. -/
lemma send (h : SlotHeld p) (hu : Unmixed p (.send msg)) :
    SlotHeld (targetRuns.next p (.send msg)) := by
  change SlotHeld (p.1.handlePendingTargetRefresh msg, updateWaiting p.1 (.send msg) p.2)
  cases hfinal : msg.isFinal with
  | false =>
    simp only [DialogTarget.handlePendingTargetRefresh, updateWaiting, hfinal, Bool.false_eq_true,
      false_and, if_false]
    exact h
  | true =>
    have hsub : ∀ w ∈ updateWaiting p.1 (.send msg) p.2, w ∈ p.2 ∧ ¬msg.Answers w.request := by
      intro w hw
      simpa [updateWaiting, hfinal] using hw
    have hsingle : (updateWaiting p.1 (.send msg) p.2).length ≤ 1 := by
      simp only [updateWaiting, hfinal, if_true]
      exact (List.length_filter_le _ _).trans h.single
    by_cases hslot : p.1.mPendingRemoteTargetCSeq = msg.sequence
    · -- the slot is emptied: a request whose Contact is in it is answered now
      have heq : p.1.handlePendingTargetRefresh msg = { p.1 with
          mRemoteTarget := if msg.isSuccess then p.1.mPendingRemoteTarget else p.1.mRemoteTarget
          mPendingRemoteTargetCSeq := 0
          mPendingRemoteTarget := default } := by
        rw [DialogTarget.handlePendingTargetRefresh, if_pos ⟨hfinal, hslot⟩]
      rw [heq]
      have hlate : ∀ w ∈ updateWaiting p.1 (.send msg) p.2, ¬w.putAside := by
        intro w hw hput
        obtain ⟨hw, hnot⟩ := hsub w hw
        have hsequence := ((h.aside w hw hput).1).trans hslot
        exact hnot ⟨hsequence, (hu hfinal).1 w hw hsequence⟩
      refine ⟨hsingle, fun hne => absurd rfl hne, fun w hw hput => absurd hput (hlate w hw), ?_⟩
      intro w hw hput
      obtain ⟨hw, hnot⟩ := hsub w hw
      cases hsuccess : msg.isSuccess with
      | false => exact h.current w hw hput
      | true =>
        -- some request was in the slot, and it is the one that waits
        have hin : ∃ v ∈ p.2, v.putAside := by
          by_cases hzero : p.1.mPendingRemoteTargetCSeq = 0
          · obtain ⟨v, hv, hput', -⟩ := (hu hfinal).2 hsuccess (hslot.symm.trans hzero)
            exact ⟨v, hv, hput'⟩
          · exact h.filled hzero
        obtain ⟨v, hv, hput'⟩ := hin
        exact absurd (h.eq_of_mem hw hv ▸ hput') hput
    · rw [DialogTarget.handlePendingTargetRefresh, if_neg fun hand => hslot hand.2]
      refine ⟨hsingle, fun hne => ?_, fun w hw hput => h.aside w (hsub w hw).1 hput,
        fun w hw hput => h.current w (hsub w hw).1 hput⟩
      obtain ⟨w, hw, hput⟩ := h.filled hne
      refine ⟨w, ?_, hput⟩
      have hnot : ¬msg.Answers w.request := fun hans =>
        hslot ((h.aside w hw hput).1.symm.trans hans.1)
      simp [updateWaiting, hfinal, hw, hnot]

lemma step (h : SlotHeld p) {e : DialogEvent ν} (hu : Unmixed p e) :
    SlotHeld (targetRuns.next p e) := by
  cases e with
  | dispatch msg => exact h.dispatch hu
  | send msg => exact h.send hu
  | notify subscription msg => exact h.notify hu

/-- The answered request has its Contact taken up. -/
lemma send_takesUp (h : SlotHeld p) (hu : Unmixed p (.send msg)) (hsuccess : msg.isSuccess = true)
    {w : WaitingRequest ν} (hw : w ∈ p.2) (hans : msg.Answers w.request) {contact : ν}
    (hcontact : w.request.contact = some contact) :
    (p.1.handlePendingTargetRefresh msg).mRemoteTarget = contact ∨
      ((p.1.handlePendingTargetRefresh msg).mRemoteTarget == contact) = true := by
  have hfinal := DialogMessage.isFinal_of_isSuccess hsuccess
  by_cases hslot : p.1.mPendingRemoteTargetCSeq = msg.sequence
  · left
    have hput : w.putAside := by
      by_cases hzero : p.1.mPendingRemoteTargetCSeq = 0
      · obtain ⟨v, hv, hput, -⟩ := (hu hfinal).2 hsuccess (hslot.symm.trans hzero)
        rwa [h.eq_of_mem hw hv]
      · obtain ⟨v, hv, hput⟩ := h.filled hzero
        rwa [h.eq_of_mem hw hv]
    have hpending := (h.aside w hw hput).2
    rw [hcontact, Option.some.injEq] at hpending
    rw [DialogTarget.handlePendingTargetRefresh, if_pos ⟨hfinal, hslot⟩]
    simp [hsuccess, hpending]
  · right
    have hput : ¬w.putAside := fun hput =>
      hslot ((h.aside w hw hput).1.symm.trans hans.1)
    obtain ⟨contact', hcontact', hsame⟩ := h.current w hw hput
    rw [hcontact, Option.some.injEq] at hcontact'
    rwa [DialogTarget.handlePendingTargetRefresh, if_neg fun hand => hslot hand.2, hcontact']

/-- A sent response moves the target only to the Contact of the request it answers. -/
lemma send_changes (h : SlotHeld p) (hu : Unmixed p (.send msg)) :
    (p.1.handlePendingTargetRefresh msg).mRemoteTarget = p.1.mRemoteTarget ∨
      AcceptedContact p (.send msg) (p.1.handlePendingTargetRefresh msg).mRemoteTarget := by
  unfold DialogTarget.handlePendingTargetRefresh
  by_cases hand : msg.isFinal = true ∧ p.1.mPendingRemoteTargetCSeq = msg.sequence
  · rw [if_pos hand]
    obtain ⟨hfinal, hslot⟩ := hand
    cases hsuccess : msg.isSuccess with
    | false => exact Or.inl rfl
    | true =>
      right
      by_cases hzero : p.1.mPendingRemoteTargetCSeq = 0
      · obtain ⟨w, hw, hput, hans⟩ := (hu hfinal).2 hsuccess (hslot.symm.trans hzero)
        exact ⟨hsuccess, w, hw, hans, (h.aside w hw hput).2⟩
      · obtain ⟨w, hw, hput⟩ := h.filled hzero
        have hsequence := (h.aside w hw hput).1.trans hslot
        exact ⟨hsuccess, w, hw, ⟨hsequence, (hu hfinal).1 w hw hsequence⟩, (h.aside w hw hput).2⟩
  · rw [if_neg hand]
    exact Or.inl rfl

end SlotHeld

/-- What the remote target may become in a step, and must become. -/
def TargetLaw (p : TargetRun ν) (e : DialogEvent ν) : Prop :=
  let target := (targetRuns.next p e).1.mRemoteTarget
  (target = p.1.mRemoteTarget ∨ AcceptedContact p e target ∨ NotifiedContact p e target) ∧
    TakesUp p e target

omit [BEq ν] [Inhabited ν] in
lemma handleNotify_changes (d : DialogTarget ν) (waiting : List (WaitingRequest ν))
    (subscription : ℕ) (msg : DialogMessage ν) :
    (d.handleNotify subscription msg).mRemoteTarget = d.mRemoteTarget ∨
      NotifiedContact (d, waiting) (.notify subscription msg)
        (d.handleNotify subscription msg).mRemoteTarget := by
  unfold DialogTarget.handleNotify
  by_cases horder : msg.sequence < d.mLargestNotifyCSeq subscription
  · rw [if_pos horder]
    exact Or.inl rfl
  · rw [if_neg horder]
    cases hcontact : msg.contact with
    | none => exact Or.inl rfl
    | some contact => exact Or.inr ⟨not_lt.mp horder, hcontact⟩

theorem remote_target {p : TargetRun ν} (hp : Reach targetRuns Unmixed p) {e : DialogEvent ν}
    (hu : Unmixed p e) : TargetLaw p e := by
  have hheld : SlotHeld p := by
    refine Reach.invariant (P := SlotHeld) ?_ ?_ hp
    · rintro ⟨d, waiting⟩ ⟨⟨contact, rfl⟩, rfl⟩
      exact ⟨by simp, fun hne => absurd rfl hne, by simp, by simp⟩
    · exact fun _ _ _ hheld _ hu => hheld.step hu
  cases e with
  | dispatch msg =>
    refine ⟨?_, fun contact hsend => by simp at hsend⟩
    change (p.1.handleTargetRefresh msg).mRemoteTarget = _ ∨ _
    cases hrequest : msg.isRefreshRequest with
    | true =>
      obtain ⟨contact, -, heq⟩ := handleTargetRefresh_request (d := p.1) hrequest
      left
      rw [heq]
      split <;> rfl
    | false =>
      cases hresponse : msg.isRefreshResponse with
      | true =>
        obtain ⟨contact, hcontact, heq⟩ := handleTargetRefresh_response (d := p.1) hresponse
        right
        left
        change AcceptedContact p _ (p.1.handleTargetRefresh msg).mRemoteTarget
        rw [heq]
        exact ⟨hresponse, hcontact⟩
      | false =>
        left
        rw [handleTargetRefresh_other hrequest hresponse]
  | send msg =>
    constructor
    · rcases hheld.send_changes hu with hsame | haccepted
      · exact Or.inl hsame
      · exact Or.inr (Or.inl haccepted)
    · rintro contact - ⟨hsuccess, w, hw, hans, hcontact⟩
      exact hheld.send_takesUp hu hsuccess hw hans hcontact
  | notify subscription msg =>
    refine ⟨?_, fun contact hsend => by simp at hsend⟩
    change (p.1.handleNotify subscription msg).mRemoteTarget = _ ∨ _
    exact (handleNotify_changes p.1 p.2 subscription msg).imp_right fun hnotified => Or.inr hnotified

/-- A re-INVITE with another Contact is accepted. -/
def reinvite : DialogMessage ℕ := ⟨.invite, none, 2, some 7⟩

/-- The dialog just after that re-INVITE. -/
def reinvited : TargetRun ℕ := targetRuns.next (DialogTarget.create 1, []) (.dispatch reinvite)

lemma reach_reinvited {ok : TargetRun ℕ → DialogEvent ℕ → Prop}
    (hok : ok (DialogTarget.create 1, []) (.dispatch reinvite)) : Reach targetRuns ok reinvited :=
  .step (.init ⟨⟨1, rfl⟩, rfl⟩) trivial hok

theorem remote_target_reinvite : TargetLaw reinvited (.send ⟨.invite, some 200, 2, none⟩) :=
  remote_target (reach_reinvited ⟨fun _ => rfl, fun h => absurd h (by decide)⟩)
    fun _ => ⟨by decide, fun _ h => absurd h (by decide)⟩

/-- A NOTIFY moves the target as well. Without one, the 200 to the CANCEL of a re-INVITE takes up
the Contact of the re-INVITE, which is not accepted. -/
theorem not_remote_target :
    ¬(∀ (p : TargetRun ℕ) (e : DialogEvent ℕ), Reach targetRuns anyStep p →
      let target := (targetRuns.next p e).1.mRemoteTarget
      (target = p.1.mRemoteTarget ∨ AcceptedContact p e target) ∧ TakesUp p e target) ∧
    ¬(∀ (p : TargetRun ℕ) (msg : DialogMessage ℕ),
      Reach targetRuns (fun _ e => ∀ i notify, e ≠ .notify i notify) p →
      let target := (targetRuns.next p (.send msg)).1.mRemoteTarget
      target = p.1.mRemoteTarget ∨ AcceptedContact p (.send msg) target) := by
  constructor
  · intro h
    have hnotify := (h (DialogTarget.create 1, []) (.notify 0 ⟨.notify, none, 5, some 7⟩)
      (.init ⟨⟨1, rfl⟩, rfl⟩)).1
    rcases hnotify with hsame | haccepted
    · exact absurd hsame (by decide)
    · exact haccepted
  · intro h
    have hcancel := h reinvited ⟨.cancel, some 200, 2, none⟩ (reach_reinvited (by simp))
    rcases hcancel with hsame | ⟨-, w, hw, ⟨-, hmethod⟩, -⟩
    · exact absurd hsame (by decide)
    · have honly : w = ⟨reinvite, true⟩ := List.mem_singleton.mp hw
      rw [honly] at hmethod
      exact absurd hmethod (by decide)

end Resiprocate.Dum
