import Mathlib
import Resiprocate.TargetLifeCycle

/-! Runs of a response context: any operations on its targets, in any order. -/
namespace Resiprocate.Repro
open TransitionSystem (System Reach)

theorem Stage.Leads.absent_iff {st st' : Stage} (h : st.Leads st') :
    st = .absent ↔ st' = .absent := by
  cases h <;> simp

theorem Stage.Leads.terminated {st : Stage} (h : Stage.terminated.Leads st) : st = .terminated := by
  cases h
  rfl

namespace Context
variable {υ : Type*} {s : Context υ} {tid : Data}

/-- What the processors and the request context do with the targets of a response context. -/
inductive Operation (υ : Type*)
  | call (c : Call υ)
  | terminateClientTransaction (tid : Data)
  | removeClientTransaction (tid : Data)
  | processCancel
  | processResponse (msg : SipResponse υ)
  | processTimerC (tid : Data) (serial : ℕ)
  | forwardBestResponse

/-- The targets that are offered. -/
def Operation.targets : Operation υ → List (Target υ)
  | .call (.addTarget target _ _) => [target]
  | .call (.addTargetBatch targets _) => targets
  | _ => []

/-- What has happened to the targets: the ids that have been offered, those of the targets that the
context has taken over and not removed, and those of the targets that have ended. -/
structure History where
  offered : List Data
  held : List Data
  ended : List Data

section Run
variable [BEq υ]

def operate (s : Context υ) : Operation υ → Context υ
  | .call c => (s.call c).1
  | .terminateClientTransaction tid => s.terminateClientTransaction tid
  | .removeClientTransaction tid => s.removeClientTransaction tid
  | .processCancel => s.processCancel
  | .processResponse msg => s.processResponse msg
  | .processTimerC tid serial => (s.processTimerC tid serial).1
  | .forwardBestResponse => s.forwardBestResponse

/-- The ids of the targets that an operation takes over. -/
def taken (s : Context υ) (o : Operation υ) : List Data :=
  match o with
  | .call c => acquired o.targets (s.call c).2
  | _ => []

def record (s : Context υ) (o : Operation υ) (h : History) : History where
  offered := h.offered ++ o.targets.map (·.tid)
  held :=
    match o with
    | .removeClientTransaction tid => h.held.filter (· ≠ tid)
    | _ => h.held ++ s.taken o
  ended := h.ended ++ (s.operate o).terminatedTransactionMap.keys

/-- Runs of one response context, in any order of operations. -/
def lifeCycle (method : Method) (tid branch : Data) : System (Context υ) (Operation υ) where
  init s := s = .new method tid branch
  enabled _ _ := True
  next := operate

instance (method : Method) (tid branch : Data) (s : Context υ) (o : Operation υ) :
    Decidable ((lifeCycle method tid branch).enabled s o) := isTrue trivial

omit [BEq υ] in
/-- The transaction ids that the targets draw at random are all different. -/
def Fresh (p : Context υ × History) (o : Operation υ) : Prop :=
  (o.targets.map (·.tid)).Nodup ∧ ∀ t ∈ o.targets, t.tid ∉ p.2.offered

instance (p : Context υ × History) (o : Operation υ) : Decidable (Fresh p o) :=
  inferInstanceAs (Decidable (_ ∧ _))

theorem grown_call (c : Call υ) (hdistinct : ((Operation.call c).targets.map (·.tid)).Nodup) :
    Grown (s.taken (.call c)) s (s.call c).1 := by
  have hnone : (Operation.call c).targets = [] → s.taken (.call c) = [] := by
    intro hnil
    simp [taken, acquired, hnil]
  cases c with
  | addTarget target beginImmediately checkDuplicates =>
    exact grown_addition (addTarget_addition target beginImmediately checkDuplicates s)
  | addTargetBatch targets highPriority => exact grown_addTargetBatch targets highPriority hdistinct
  | beginClientTransactions =>
    rw [hnone rfl]
    refine (moved_beginCandidates _ _ _ (fun p hp => ?_) s.candidates_distinct).grown
    exact Std.TreeMap.mem_toList_iff_getElem?_eq_some.1 hp
  | beginClientTransaction tid =>
    rw [hnone rfl]
    refine Moved.grown ?_
    change Moved s (s.beginClientTransactionOf tid).1
    unfold beginClientTransactionOf
    split
    · exact .refl s
    · next target ht => exact moved_attempt (beginCandidate_attempt tid target s) ht
  | cancelActiveClientTransactions =>
    rw [hnone rfl]
    exact (moved_cancelActiveClientTransactions s).grown
  | cancelAllClientTransactions =>
    rw [hnone rfl]
    exact (moved_cancelAllClientTransactions s).grown
  | clearCandidateTransactions =>
    rw [hnone rfl]
    exact (moved_clear s).grown
  | cancelClientTransaction tid =>
    rw [hnone rfl]
    exact (moved_cancelClientTransactionOf tid s).grown
  | sendResponse msg =>
    rw [hnone rfl]
    exact (moved_sendResponse msg s).grown

end Run

/-- The maps of a context and what is known of its targets agree. -/
structure Life (p : Context υ × History) : Prop where
  placed : p.1.Placed
  held : ∀ tid, tid ∈ p.2.held ↔ ¬ p.1.Holds tid .absent
  offered : ∀ tid, ¬ p.1.Holds tid .absent → tid ∈ p.2.offered
  ended : ∀ tid ∈ p.2.ended, tid ∈ p.2.offered ∧
    (p.1.Holds tid .absent ∨ p.1.Holds tid .terminated)

theorem ended_keys (hs : s.Placed) (h : tid ∈ s.terminatedTransactionMap.keys) :
    s.Holds tid .terminated := by
  rw [Std.TreeMap.mem_keys] at h
  obtain ⟨st, hst⟩ := hs tid
  obtain rfl := hst.terminated_of (Std.TreeMap.getElem?_eq_some_getElem h)
  exact hst

/-- An operation that takes targets over and moves the others on. -/
theorem Life.grown {h : History} {s' : Context υ} {new offered : List Data} (hl : Life (s, h))
    (hg : Grown new s s') (hnew : ∀ tid ∈ new, tid ∉ h.offered ∧ tid ∈ h.offered ++ offered) :
    Life (s', ⟨h.offered ++ offered, h.held ++ new,
      h.ended ++ s'.terminatedTransactionMap.keys⟩) := by
  have habsent : ∀ tid ∈ new, s.Holds tid .absent := by
    intro tid htid
    by_contra hnot
    exact (hnew tid htid).1 (hl.offered tid hnot)
  have hcame : ∀ tid ∈ new, ∃ st, s'.Holds tid st ∧ st ≠ .absent := by
    intro tid htid
    rcases (hg hl.placed habsent tid).1 htid with hst | hst
    · exact ⟨_, hst, by simp⟩
    · exact ⟨_, hst, by simp⟩
  have hstayed : ∀ tid, tid ∉ new → ∀ st, s.Holds tid st →
      ∃ st', s'.Holds tid st' ∧ st.Leads st' := fun tid => (hg hl.placed habsent tid).2
  have hplaced : s'.Placed := by
    intro tid
    by_cases htid : tid ∈ new
    · obtain ⟨st, hst, -⟩ := hcame tid htid
      exact ⟨st, hst⟩
    · obtain ⟨st, hst⟩ := hl.placed tid
      obtain ⟨st', hst', -⟩ := hstayed tid htid st hst
      exact ⟨st', hst'⟩
  have hheld : ∀ tid, ¬ s'.Holds tid .absent ↔ tid ∈ new ∨ ¬ s.Holds tid .absent := by
    intro tid
    by_cases htid : tid ∈ new
    · obtain ⟨st, hst, hne⟩ := hcame tid htid
      exact ⟨fun _ => .inl htid, fun _ ha => hne (hst.unique ha)⟩
    · obtain ⟨st, hst⟩ := hl.placed tid
      obtain ⟨st', hst', hleads⟩ := hstayed tid htid st hst
      have hiff := hleads.absent_iff
      constructor
      · exact fun hnot => .inr fun ha => hnot (hiff.1 (hst.unique ha) ▸ hst')
      · rintro (hmem | hnot)
        · exact absurd hmem htid
        · exact fun ha => hnot (hiff.2 (hst'.unique ha) ▸ hst)
  have hoffered : ∀ tid, ¬ s'.Holds tid .absent → tid ∈ h.offered ++ offered := by
    intro tid hnot
    rcases (hheld tid).1 hnot with hmem | hold
    · exact (hnew tid hmem).2
    · exact List.mem_append_left _ (hl.offered tid hold)
  refine ⟨hplaced, fun tid => ?_, hoffered, fun tid htid => ?_⟩
  · rw [hheld, List.mem_append, hl.held tid, or_comm]
  · rcases List.mem_append.1 htid with hold | hkey
    · obtain ⟨hmem, hstage⟩ := hl.ended tid hold
      have hnot : tid ∉ new := fun hin => (hnew tid hin).1 hmem
      refine ⟨List.mem_append_left _ hmem, ?_⟩
      rcases hstage with ha | hterm
      · obtain ⟨st', hst', hleads⟩ := hstayed tid hnot _ ha
        obtain rfl := hleads.absent_iff.1 rfl
        exact .inl hst'
      · obtain ⟨st', hst', hleads⟩ := hstayed tid hnot _ hterm
        obtain rfl := hleads.terminated
        exact .inr hst'
    · have hterm := ended_keys hplaced hkey
      refine ⟨hoffered tid fun ha => ?_, .inr hterm⟩
      cases hterm.unique ha

section Removal

/-- A target is removed from whichever map it is in. -/
theorem slots_removeClientTransaction (hs : s.Placed) (tid tid' : Data) :
    (s.removeClientTransaction tid).slots tid' =
      if tid = tid' then (none, none, none) else s.slots tid' := by
  by_cases hne : tid = tid'
  · subst hne
    rw [if_pos rfl]
    obtain ⟨st, hst⟩ := hs tid
    unfold removeClientTransaction
    simp only [Std.TreeMap.mem_iff_isSome_getElem?]
    unfold Holds slots at hst
    unfold slots
    cases st with
    | absent =>
      simp only [Slots.At, Prod.mk.injEq] at hst
      simp [hst]
    | candidate =>
      obtain ⟨t, ht, -⟩ := hst
      simp only [Prod.mk.injEq] at ht
      simp [ht]
    | active =>
      obtain ⟨t, ht, -⟩ := hst
      simp only [Prod.mk.injEq] at ht
      simp [ht]
    | terminated =>
      obtain ⟨t, ht, -⟩ := hst
      simp only [Prod.mk.injEq] at ht
      simp [ht]
  · rw [if_neg hne]
    unfold removeClientTransaction slots
    repeat' split
    all_goals simp [lookup_erase, hne]

theorem Life.removed {h : History} (hl : Life (s, h)) (tid : Data) :
    Life (s.removeClientTransaction tid, ⟨h.offered ++ [], h.held.filter (· ≠ tid),
      h.ended ++ (s.removeClientTransaction tid).terminatedTransactionMap.keys⟩) := by
  have hslots := slots_removeClientTransaction hl.placed tid
  have hgone : (s.removeClientTransaction tid).Holds tid .absent := by
    change (s.removeClientTransaction tid).slots tid = _
    rw [hslots, if_pos rfl]
  have hrest : ∀ tid', tid' ≠ tid → ∀ st,
      (s.removeClientTransaction tid).Holds tid' st ↔ s.Holds tid' st := by
    intro tid' hne st
    unfold Holds
    rw [hslots, if_neg hne.symm]
  have hplaced : (s.removeClientTransaction tid).Placed := by
    intro tid'
    by_cases hne : tid' = tid
    · exact ⟨.absent, hne ▸ hgone⟩
    · obtain ⟨st, hst⟩ := hl.placed tid'
      exact ⟨st, (hrest tid' hne st).2 hst⟩
  have hheld : ∀ tid', ¬ (s.removeClientTransaction tid).Holds tid' .absent ↔
      ¬ s.Holds tid' .absent ∧ tid' ≠ tid := by
    intro tid'
    by_cases hne : tid' = tid
    · subst hne
      exact ⟨fun hnot => absurd hgone hnot, fun hnot => absurd rfl hnot.2⟩
    · rw [hrest tid' hne]
      exact ⟨fun hnot => ⟨hnot, hne⟩, And.left⟩
  refine ⟨hplaced, fun tid' => ?_, fun tid' hnot => ?_, fun tid' htid' => ?_⟩
  · rw [hheld, List.mem_filter, hl.held]
    simp
  · rw [List.append_nil]
    exact hl.offered tid' ((hheld tid').1 hnot).1
  · rw [List.append_nil]
    rcases List.mem_append.1 htid' with hold | hkey
    · obtain ⟨hmem, hstage⟩ := hl.ended tid' hold
      by_cases hne : tid' = tid
      · exact ⟨hmem, .inl (hne ▸ hgone)⟩
      · exact ⟨hmem, hstage.imp (hrest tid' hne _).2 (hrest tid' hne _).2⟩
    · have hterm := ended_keys hplaced hkey
      have hnot : ¬ (s.removeClientTransaction tid).Holds tid' .absent := fun ha => by
        cases hterm.unique ha
      exact ⟨hl.offered tid' ((hheld tid').1 hnot).1, .inr hterm⟩

end Removal

section Step
variable [BEq υ] {o : Operation υ} {h : History}

theorem moved_processTimerC (tid : Data) (serial : ℕ) (s : Context υ) :
    Moved s (s.processTimerC tid serial).1 := by
  rcases processTimerC_state tid serial s with heq | heq
  · rw [heq]
    exact moved_cancelClientTransactionOf tid s
  · rw [heq]
    exact .refl s

theorem moved_processCancel (s : Context υ) : Moved s s.processCancel := by
  have hok := moved_sendResponse (.make s.originalTid .cancel 200) s
  have hall := hok.trans (moved_cancelAllClientTransactions _)
  unfold processCancel
  dsimp only
  split
  · exact hok
  · split
    · exact hall
    · exact hall.trans (moved_sendResponse _ _)

theorem grown_operate (hfresh : (o.targets.map (·.tid)).Nodup)
    (ho : ∀ tid, o ≠ .removeClientTransaction tid) : Grown (s.taken o) s (s.operate o) := by
  cases o with
  | call c => exact grown_call c hfresh
  | terminateClientTransaction tid => exact (moved_terminateClientTransaction tid s).grown
  | removeClientTransaction tid => exact absurd rfl (ho tid)
  | processCancel => exact (moved_processCancel s).grown
  | processResponse msg =>
    exact ((moved_rule s).processResponse (.refl s) fun _ _ _ _ => trivial).grown
  | processTimerC tid serial => exact (moved_processTimerC tid serial s).grown
  | forwardBestResponse => exact (moved_forwardBestResponse s).grown

/-- The main step: every operation keeps the maps and the history in agreement. -/
theorem Life.step (hl : Life (s, h)) (hfresh : Fresh (s, h) o) :
    Life (s.operate o, s.record o h) := by
  have htaken : ∀ tid ∈ s.taken o, tid ∉ h.offered ∧
      tid ∈ h.offered ++ o.targets.map (·.tid) := by
    intro tid htid
    have hmem : tid ∈ o.targets.map (·.tid) := by
      unfold taken acquired at htid
      split at htid
      · split at htid
        · obtain ⟨t, ht, rfl⟩ := List.mem_map.1 htid
          exact List.mem_map_of_mem (List.mem_filter.1 ht).1
        · cases htid
      · cases htid
    obtain ⟨t, ht, rfl⟩ := List.mem_map.1 hmem
    exact ⟨hfresh.2 t ht, List.mem_append_right _ hmem⟩
  by_cases ho : ∃ tid, o = .removeClientTransaction tid
  · obtain ⟨tid, rfl⟩ := ho
    exact hl.removed tid
  · rw [not_exists] at ho
    have hgrown := hl.grown (grown_operate hfresh.1 ho) htaken
    have hrecord : s.record o h = ⟨h.offered ++ o.targets.map (·.tid), h.held ++ s.taken o,
        h.ended ++ (s.operate o).terminatedTransactionMap.keys⟩ := by
      cases o with
      | removeClientTransaction tid => exact absurd rfl (ho tid)
      | _ => rfl
    rwa [hrecord]

end Step

section Assertions

/-- `getTarget` finds a target in the status that it asserts. -/
theorem Placed.getTarget (hs : s.Placed) {t : Target υ} {ok : Bool}
    (h : s.getTarget tid = some (t, ok)) : ok = true := by
  obtain ⟨st, hst⟩ := hs tid
  unfold Holds slots at hst
  unfold Context.getTarget at h
  cases st with
  | absent =>
    simp only [Slots.At, Prod.mk.injEq] at hst
    simp [hst] at h
  | candidate =>
    obtain ⟨t', hslots, -, hstatus⟩ := hst
    simp only [Prod.mk.injEq] at hslots
    simp only [hslots, hstatus, Option.some.injEq, Prod.mk.injEq] at h
    exact h.2.symm
  | active =>
    obtain ⟨t', hslots, -, hstatus⟩ := hst
    simp only [Prod.mk.injEq] at hslots
    simp only [hslots, Option.some.injEq, Prod.mk.injEq] at h
    rw [← h.2]
    rcases hstatus with hstatus | hstatus <;> simp [hstatus]
  | terminated =>
    obtain ⟨t', hslots, -, hstatus⟩ := hst
    simp only [Prod.mk.injEq] at hslots
    simp only [hslots, hstatus, Option.map_some, Option.some.injEq, Prod.mk.injEq] at h
    exact h.2.symm

theorem failures_cancelOut (t : Target υ) : t.cancelOut.countP Output.failed = 0 := by
  unfold Target.cancelOut
  split <;> rfl

theorem failures_cancelOuts (m : TransactionMap υ) :
    (cancelOuts m).countP Output.failed = 0 := by
  rw [cancelOuts, List.countP_flatMap]
  simp [Function.comp_def, failures_cancelOut]

theorem failures_cancelActive : s.cancelActive.failures = s.failures := by
  simp [failures, cancelActive, failures_cancelOuts]

theorem failures_clear : s.clearCandidateTransactions.failures = s.failures := by
  simp [failures, clearCandidateTransactions, failures_cancelOuts]

theorem failures_attempt {target : Target υ} {s' : Context υ} {r : CallResult}
    (h : Attempt tid target s s' r) (hstatus : target.status = .candidate) :
    s'.failures = s.failures := by
  cases h with
  | ended => rfl
  | raised _ => rfl
  | began s' _ hb => exact hb.failures hstatus

theorem failures_addition {target : Target υ} {s' : Context υ} {r : CallResult}
    (h : Addition target s s' r) : s'.failures = s.failures := by
  cases h with
  | refused => rfl
  | raised _ => rfl
  | began s' _ hstatus hb => exact hb.failures hstatus
  | queued _ _ _ => rfl

theorem Placed.candidate_status (hs : s.Placed) {t : Target υ}
    (ht : s.candidateTransactionMap[tid]? = some t) : t.status = .candidate := by
  obtain ⟨st, hst⟩ := hs tid
  exact (hst.candidate_of ht).2.2.2

/-- No call fails the assertion that a target to be started is a candidate. -/
theorem Placed.failures_call [BEq υ] (hs : s.Placed) (c : Call υ) :
    (s.call c).1.failures = s.failures := by
  cases c with
  | addTarget target beginImmediately checkDuplicates =>
    exact failures_addition (addTarget_addition target beginImmediately checkDuplicates s)
  | addTargetBatch targets highPriority =>
    change (s.addTargetBatch targets highPriority).1.failures = _
    unfold addTargetBatch
    split <;> rfl
  | beginClientTransactions =>
    refine beginCandidates_induction (P := fun s' => s'.failures = s.failures) _ _ _ rfl
      fun p hp s₁ s₂ r hs₁ ha => ?_
    have hcand := Std.TreeMap.mem_toList_iff_getElem?_eq_some.1 hp
    exact (failures_attempt ha (hs.candidate_status hcand)).trans hs₁
  | beginClientTransaction tid =>
    change (s.beginClientTransactionOf tid).1.failures = _
    unfold beginClientTransactionOf
    split
    · rfl
    · next target ht =>
      exact failures_attempt (beginCandidate_attempt tid target s) (hs.candidate_status ht)
  | cancelActiveClientTransactions =>
    change s.cancelActiveClientTransactions.failures = _
    unfold cancelActiveClientTransactions
    repeat' split
    · rfl
    · rfl
    · exact failures_cancelActive
  | cancelAllClientTransactions =>
    change s.cancelAllClientTransactions.failures = _
    unfold cancelAllClientTransactions
    repeat' split
    · rfl
    · exact failures_clear.trans failures_cancelActive
    · exact failures_clear
  | clearCandidateTransactions => exact failures_clear
  | cancelClientTransaction tid =>
    change (s.cancelClientTransactionOf tid).failures = _
    unfold cancelClientTransactionOf
    repeat' split
    · simp [failures, failures_cancelOut]
    · simp [failures, failures_cancelOut]
    · rfl
  | sendResponse msg =>
    change (s.sendResponse msg).failures = _
    unfold sendResponse
    split <;> simp [failures, Output.failed]

end Assertions

section Main
variable [BEq υ]

/-- After a final response no operation starts a transaction. -/
theorem starts_operate (hfinal : s.haveSentFinalResponse = true) (o : Operation υ) :
    (s.operate o).starts = s.starts := by
  have hcalm : Calm False s.starts s := .sent hfinal
  have hrule := Calm.rule (υ := υ) False s.starts
  cases o with
  | call c => exact (call_final c hfinal).starts
  | terminateClientTransaction tid => exact starts_terminateClientTransaction tid
  | removeClientTransaction tid => exact starts_removeClientTransaction tid
  | processCancel => exact Calm.processCancel.starts
  | processResponse msg => exact (hrule.processResponse hcalm fun _ _ _ _ => trivial).starts
  | processTimerC tid serial => exact (hrule.processTimerC hcalm tid serial).starts
  | forwardBestResponse => exact starts_forwardBestResponse

/-- In every run, with the targets' ids all different: a target that has been taken over and not
removed is in one map, under its own id and with the status of that map; none that has ended is
active again; the assertions of `getTarget` and of `beginClientTransaction` hold; and after a final
response no transaction starts. -/
theorem target_life_cycle {method : Method} {tid branch : Data} {p : Context υ × History}
    (h : Reach ((lifeCycle method tid branch).observe ⟨[], [], []⟩ record) Fresh p) :
    (∀ tid, (tid ∈ p.2.held → p.1.Holds tid .candidate ∨ p.1.Holds tid .active ∨
        p.1.Holds tid .terminated) ∧ (tid ∉ p.2.held → p.1.Holds tid .absent)) ∧
    (∀ tid ∈ p.2.ended, tid ∉ p.1.activeTransactionMap) ∧
    (∀ tid t ok, p.1.getTarget tid = some (t, ok) → ok = true) ∧
    (∀ c, (p.1.call c).1.failures = p.1.failures) ∧
    (p.1.haveSentFinalResponse = true → ∀ o, (p.1.operate o).starts = p.1.starts) := by
  have hlife : Life p := by
    refine h.invariant ?_ fun p o _ hp _ hfresh => hp.step hfresh
    rintro ⟨s, g⟩ ⟨rfl, rfl⟩
    have habsent : ∀ a, (new method tid branch : Context υ).Holds a .absent := fun a => by
      simp [Holds, Slots.At, slots, new]
    exact ⟨fun a => ⟨_, habsent a⟩, fun a => ⟨fun hmem => (by cases hmem),
      fun hnot => absurd (habsent a) hnot⟩, fun a hnot => absurd (habsent a) hnot,
      fun a hmem => by cases hmem⟩
  refine ⟨fun a => ⟨fun hmem => ?_, fun hnot => ?_⟩, fun a hmem hactive => ?_,
    fun a t ok => hlife.placed.getTarget, hlife.placed.failures_call, starts_operate⟩
  · obtain ⟨st, hst⟩ := hlife.placed a
    have hsome := (hlife.held a).1 hmem
    cases st with
    | absent => exact absurd hst hsome
    | candidate => exact .inl hst
    | active => exact .inr (.inl hst)
    | terminated => exact .inr (.inr hst)
  · by_contra habsent
    exact hnot ((hlife.held a).2 habsent)
  · obtain ⟨st, hst⟩ := hlife.placed a
    obtain ⟨rfl, -⟩ := hst.active_of (Std.TreeMap.getElem?_eq_some_getElem hactive)
    rcases (hlife.ended a hmem).2 with hother | hother
    · cases hst.unique hother
    · cases hst.unique hother

end Main

section Example

/-- Two targets are tried, and the first is refused. -/
def refusedFirst : List (Operation ℕ) :=
  [.call (.addTarget (branchTo 1) false true), .call (.addTarget (branchTo 2) true true),
    .call .beginClientTransactions, .processResponse (failureOn 1 486 [98])]

def refusedFirstRun : Context ℕ × History :=
  refusedFirst.foldl ((lifeCycle .invite [105] [98]).observe ⟨[], [], []⟩ record).next
    (.new .invite [105] [98], ⟨[], [], []⟩)

end Example

theorem target_life_cycle_refused :
    [1] ∈ refusedFirstRun.2.ended ∧ [1] ∉ refusedFirstRun.1.activeTransactionMap := by
  have hmem : [1] ∈ refusedFirstRun.2.ended := by decide
  have hreach : Reach ((lifeCycle .invite [105] [98]).observe ⟨[], [], []⟩ record) Fresh
      refusedFirstRun := Reach.run (.observe_init rfl) refusedFirst (by decide)
  exact ⟨hmem, (target_life_cycle hreach).2.1 _ hmem⟩

end Context
end Resiprocate.Repro
