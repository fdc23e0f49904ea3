import Mathlib
import Resiprocate.RequestContextCore

/-! What the calls of a processor do to the targets: active branches stay, and none starts after a
final response or without a candidate. -/
namespace Resiprocate.Repro

/-- The call offers targets. -/
def Call.adds {υ : Type*} : Call υ → Bool
  | .addTarget target .. => target.status == .candidate
  | .addTargetBatch targets _ => targets.any (·.status == .candidate)
  | _ => false

/-- The call starts candidates. -/
def Call.begins {υ : Type*} : Call υ → Bool
  | .beginClientTransactions | .beginClientTransaction _ => true
  | _ => false

/-- A failed assertion. -/
def Output.failed {υ : Type*} : Output υ → Bool
  | .assertFailed => true
  | _ => false

namespace Context
variable {υ : Type*} {tid : Data}

/-- How many assertions have failed. -/
def failures (s : Context υ) : ℕ := s.out.countP Output.failed

section Maps
variable {s : Context υ}

@[simp] theorem mem_cancelActive :
    tid ∈ s.cancelActive.activeTransactionMap ↔ tid ∈ s.activeTransactionMap :=
  Std.TreeMap.mem_map

@[simp] theorem mem_cancelActiveClientTransactions :
    tid ∈ s.cancelActiveClientTransactions.activeTransactionMap ↔ tid ∈ s.activeTransactionMap := by
  unfold cancelActiveClientTransactions
  repeat' split
  all_goals simp

@[simp] theorem mem_cancelAllClientTransactions :
    tid ∈ s.cancelAllClientTransactions.activeTransactionMap ↔ tid ∈ s.activeTransactionMap := by
  unfold cancelAllClientTransactions
  repeat' split
  · rfl
  · exact mem_cancelActive
  · rfl

@[simp] theorem mem_cancelClientTransactionOf (tid' : Data) :
    tid ∈ (s.cancelClientTransactionOf tid').activeTransactionMap ↔
      tid ∈ s.activeTransactionMap := by
  unfold cancelClientTransactionOf
  split
  · next h _ =>
    have hmem : tid' ∈ s.activeTransactionMap := by
      rw [Std.TreeMap.mem_iff_isSome_getElem?, h]
      rfl
    simp only [Std.TreeMap.mem_insert, Std.LawfulEqCmp.compare_eq_iff_eq]
    constructor
    · rintro (rfl | h)
      · exact hmem
      · exact h
    · exact .inr
  · split <;> rfl

theorem mem_terminateClientTransaction {tid' : Data} (hne : tid ≠ tid') :
    tid ∈ (s.terminateClientTransaction tid').activeTransactionMap ↔
      tid ∈ s.activeTransactionMap := by
  unfold terminateClientTransaction
  split
  · simp [Std.TreeMap.mem_erase, hne.symm]
  · split <;> rfl

theorem hasActiveTransactions_iff :
    s.hasActiveTransactions = true ↔ ∃ tid, tid ∈ s.activeTransactionMap := by
  simp [hasActiveTransactions, Std.TreeMap.isEmpty_eq_false_iff_exists_mem]

@[simp] theorem starts_cancelActive : s.cancelActive.starts = s.starts := by
  simp [starts, cancelActive]

@[simp] theorem starts_clearCandidateTransactions :
    s.clearCandidateTransactions.starts = s.starts := by
  simp [starts, clearCandidateTransactions]

@[simp] theorem starts_cancelActiveClientTransactions :
    s.cancelActiveClientTransactions.starts = s.starts := by
  unfold cancelActiveClientTransactions
  repeat' split
  all_goals simp

@[simp] theorem starts_cancelAllClientTransactions :
    s.cancelAllClientTransactions.starts = s.starts := by
  unfold cancelAllClientTransactions
  repeat' split
  all_goals simp

@[simp] theorem starts_cancelClientTransactionOf (tid' : Data) :
    (s.cancelClientTransactionOf tid').starts = s.starts := by
  unfold cancelClientTransactionOf
  repeat' split
  all_goals simp [starts]

@[simp] theorem starts_terminateClientTransaction (tid' : Data) :
    (s.terminateClientTransaction tid').starts = s.starts := by
  unfold terminateClientTransaction
  repeat' split
  all_goals rfl

@[simp] theorem starts_sendResponse (msg : SipResponse υ) :
    (s.sendResponse msg).starts = s.starts := by
  unfold sendResponse
  split <;> simp [starts, Output.start]

@[simp] theorem starts_startTimerC (tid' : Data) : (s.startTimerC tid').starts = s.starts := by
  unfold startTimerC updateTimerC
  split <;> simp [starts, Output.start]

end Maps

/-- The candidates, the active and the terminated targets. -/
def maps (s : Context υ) : TransactionMap υ × TransactionMap υ × TransactionMap υ :=
  (s.candidateTransactionMap, s.activeTransactionMap, s.terminatedTransactionMap)

section Begin
variable (s : Context υ) (target : Target υ)

@[simp] theorem maps_assertCandidate : (s.assertCandidate target).maps = s.maps := by
  unfold assertCandidate
  split <;> rfl

@[simp] theorem starts_assertCandidate : (s.assertCandidate target).starts = s.starts := by
  unfold assertCandidate
  split
  · rfl
  · simp [starts, Output.start]

@[simp] theorem maps_startTimerC : (s.startTimerC tid).maps = s.maps := by
  unfold startTimerC
  split <;> rfl

@[simp] theorem maps_sendRequest : (s.sendRequest tid).maps = s.maps := by
  unfold sendRequest
  split <;> rfl

@[simp] theorem starts_sendRequest : (s.sendRequest tid).starts = s.starts ++ [tid] := by
  unfold sendRequest
  split <;> simp [starts, List.filterMap_cons, Output.start]

/-- What starting a transaction changes: neither the core nor a map. -/
structure Began (target : Target υ) (s s' : Context υ) : Prop where
  core : s'.core = s.core
  candidates : s'.candidateTransactionMap = s.candidateTransactionMap
  active : s'.activeTransactionMap = s.activeTransactionMap
  terminated : s'.terminatedTransactionMap = s.terminatedTransactionMap
  starts : s'.starts = s.starts ++ [target.tid]
  failures : target.status = .candidate → s'.failures = s.failures

variable {s target}

theorem failures_startTimerC : (s.startTimerC tid).failures = s.failures := by
  unfold startTimerC
  split <;> simp [failures, updateTimerC, Output.failed]

theorem failures_sendRequest : (s.sendRequest tid).failures = s.failures := by
  unfold sendRequest
  split <;> simp [failures, Output.failed]

theorem began {s' : Context υ} (h : s.beginClientTransaction target = some s') :
    Began target s s' := by
  have hcore := core_beginClientTransaction h
  unfold beginClientTransaction at h
  split at h
  · obtain rfl := Option.some.inj h
    have hmaps : ((((s.assertCandidate target).startTimerC target.tid).sendRequest
        target.tid)).maps = s.maps := by simp
    refine ⟨hcore, congrArg Prod.fst hmaps, congrArg (fun p => p.2.1) hmaps,
      congrArg (fun p => p.2.2) hmaps, by simp, fun hstatus => ?_⟩
    rw [failures_sendRequest, failures_startTimerC, assertCandidate, if_pos hstatus]
  · cases h

end Begin

section Duplicates
variable [BEq υ]

/-- How an attempt to start a candidate ends. -/
inductive Attempt (tid : Data) (target : Target υ) (s : Context υ) :
    Context υ → CallResult → Prop
  /-- a duplicate, or too late -/
  | ended : Attempt tid target s
      { s with
        terminatedTransactionMap :=
          s.terminatedTransactionMap.insert target.tid { target with status := .terminated }
        candidateTransactionMap := s.candidateTransactionMap.erase tid } (.returned false)
  | raised : s.haveSentFinalResponse = false →
      Attempt tid target s { s with targetList := s.targetList ++ [target.record] } .raised
  | began (s' : Context υ) : s.haveSentFinalResponse = false →
      Began target { s with targetList := s.targetList ++ [target.record] } s' →
      Attempt tid target s
        { s' with
          activeTransactionMap :=
            s'.activeTransactionMap.insert target.tid { target with status := .started }
          candidateTransactionMap := s'.candidateTransactionMap.erase tid } (.returned true)

theorem beginCandidate_attempt (tid : Data) (target : Target υ) (s : Context υ) :
    Attempt tid target s (s.beginCandidate tid target).1 (s.beginCandidate tid target).2 := by
  unfold beginCandidate
  split
  · exact .ended
  · next h =>
    have hfinal : s.haveSentFinalResponse = false := by
      simp only [Bool.or_eq_true, not_or, Bool.not_eq_true] at h
      exact h.2
    dsimp only
    split
    · exact .raised hfinal
    · next s' hbegin => exact .began s' hfinal (Context.began hbegin)

/-- A property of contexts that every attempt to start a candidate keeps is kept by the calls that
start candidates. -/
theorem beginCandidates_induction {P : Context υ → Prop} (l : List (Data × Target υ))
    (result : Bool) (s : Context υ) (h : P s)
    (hstep : ∀ p ∈ l, ∀ s s' r, P s → Attempt p.1 p.2 s s' r → P s') :
    P (s.beginCandidates l result).1 := by
  induction l generalizing result s with
  | nil => exact h
  | cons p rest ih =>
    have hp := hstep p (by simp) s _ _ h (beginCandidate_attempt p.1 p.2 s)
    unfold beginCandidates
    split
    · next heq => rwa [heq] at hp
    · next heq =>
      rw [heq] at hp
      exact ih _ _ hp fun q hq => hstep q (by simp [hq])

/-- How `addTarget` ends. -/
inductive Addition (target : Target υ) (s : Context υ) : Context υ → CallResult → Prop
  | refused : Addition target s s (.returned false)
  | raised : s.haveSentFinalResponse = false →
      Addition target s { s with targetList := s.targetList ++ [target.record] } .raised
  | began (s' : Context υ) : s.haveSentFinalResponse = false → target.status = .candidate →
      Began target { s with targetList := s.targetList ++ [target.record] } s' →
      Addition target s
        { s' with activeTransactionMap :=
          s'.activeTransactionMap.insert target.tid { target with status := .started } }
        (.returned true)
  | queued (queues : List (List Data)) : s.haveSentFinalResponse = false →
      target.status = .candidate →
      Addition target s
        { s with
          transactionQueueCollection := queues
          candidateTransactionMap := s.candidateTransactionMap.insert target.tid target }
        (.returned true)

theorem addTarget_addition (target : Target υ) (beginImmediately checkDuplicates : Bool)
    (s : Context υ) :
    Addition target s (s.addTarget target beginImmediately checkDuplicates).1
      (s.addTarget target beginImmediately checkDuplicates).2 := by
  unfold addTarget
  split
  · exact .refused
  · next hfinal =>
    rw [Bool.not_eq_true] at hfinal
    split
    · exact .refused
    · next hstatus =>
      rw [not_not] at hstatus
      split
      · split
        · exact .refused
        · dsimp only
          split
          · exact .raised hfinal
          · next s' hbegin => exact .began s' hfinal hstatus (Context.began hbegin)
      · exact .queued _ hfinal hstatus

omit [BEq υ] in
theorem mem_attempt {target : Target υ} {tid tid' : Data} {s s' : Context υ} {r : CallResult}
    (h : Attempt tid target s s' r) (hmem : tid' ∈ s.activeTransactionMap) :
    tid' ∈ s'.activeTransactionMap := by
  cases h with
  | ended => exact hmem
  | raised _ => exact hmem
  | began s' _ hb =>
    rw [← hb.active] at hmem
    exact Std.TreeMap.mem_insert.2 (.inr hmem)

omit [BEq υ] in
theorem mem_addition {target : Target υ} {tid : Data} {s s' : Context υ} {r : CallResult}
    (h : Addition target s s' r) (hmem : tid ∈ s.activeTransactionMap) :
    tid ∈ s'.activeTransactionMap := by
  cases h with
  | refused => exact hmem
  | raised _ => exact hmem
  | began s' _ _ hb =>
    rw [← hb.active] at hmem
    exact Std.TreeMap.mem_insert.2 (.inr hmem)
  | queued _ _ _ => exact hmem

/-- A call leaves no active branch out. -/
theorem mem_call {s : Context υ} (c : Call υ) (hmem : tid ∈ s.activeTransactionMap) :
    tid ∈ (s.call c).1.activeTransactionMap := by
  cases c with
  | addTarget target beginImmediately checkDuplicates =>
    exact mem_addition (addTarget_addition target beginImmediately checkDuplicates s) hmem
  | addTargetBatch targets highPriority =>
    change tid ∈ (s.addTargetBatch targets highPriority).1.activeTransactionMap
    unfold addTargetBatch
    split <;> exact hmem
  | beginClientTransactions =>
    exact beginCandidates_induction _ _ s hmem fun p _ s s' r h ha => mem_attempt ha h
  | beginClientTransaction tid' =>
    change tid ∈ (s.beginClientTransactionOf tid').1.activeTransactionMap
    unfold beginClientTransactionOf
    split
    · exact hmem
    · exact mem_attempt (beginCandidate_attempt _ _ _) hmem
  | cancelActiveClientTransactions => exact mem_cancelActiveClientTransactions.2 hmem
  | cancelAllClientTransactions => exact mem_cancelAllClientTransactions.2 hmem
  | clearCandidateTransactions => exact hmem
  | cancelClientTransaction tid' => exact (mem_cancelClientTransactionOf tid').2 hmem
  | sendResponse msg =>
    change tid ∈ (s.sendResponse msg).activeTransactionMap
    unfold sendResponse
    split <;> exact hmem

/-- An exception comes from composing a request, which is not done after a final response. -/
theorem beginCandidates_raised (l : List (Data × Target υ)) (result : Bool) (s : Context υ)
    (h : (s.beginCandidates l result).2 = .raised) : s.haveSentFinalResponse = false := by
  induction l generalizing result s with
  | nil => cases h
  | cons p rest ih =>
    have hattempt := beginCandidate_attempt p.1 p.2 s
    have hcore := core_beginCandidate p.1 p.2 s
    unfold beginCandidates at h
    split at h
    · next heq =>
      rw [heq] at hattempt
      cases hattempt with
      | raised hfinal => exact hfinal
    · next heq =>
      rw [heq] at hcore
      rw [← ih _ _ h]
      exact (congrArg Core.haveSentFinalResponse hcore).symm

theorem call_raised {s : Context υ} {c : Call υ} (h : (s.call c).2 = .raised) :
    s.haveSentFinalResponse = false := by
  cases c with
  | addTarget target beginImmediately checkDuplicates =>
    have hadd := addTarget_addition target beginImmediately checkDuplicates s
    change (s.addTarget target beginImmediately checkDuplicates).2 = .raised at h
    rw [h] at hadd
    generalize (s.addTarget target beginImmediately checkDuplicates).1 = s' at hadd
    cases hadd with
    | raised hfinal => exact hfinal
  | addTargetBatch targets highPriority =>
    change (s.addTargetBatch targets highPriority).2 = .raised at h
    unfold addTargetBatch at h
    split at h <;> cases h
  | beginClientTransactions => exact beginCandidates_raised _ _ _ h
  | beginClientTransaction tid =>
    change (s.beginClientTransactionOf tid).2 = .raised at h
    unfold beginClientTransactionOf at h
    split at h
    · cases h
    · next target _ =>
      have hattempt := beginCandidate_attempt tid target s
      rw [h] at hattempt
      generalize (s.beginCandidate tid target).1 = s' at hattempt
      cases hattempt with
      | raised hfinal => exact hfinal
  | cancelActiveClientTransactions => cases h
  | cancelAllClientTransactions => cases h
  | clearCandidateTransactions => cases h
  | cancelClientTransaction tid => cases h
  | sendResponse msg => cases h

/-- No transaction has started and no branch has come or gone. -/
structure Unmoved (s s' : Context υ) : Prop where
  starts : s'.starts = s.starts
  active : ∀ tid, tid ∈ s'.activeTransactionMap ↔ tid ∈ s.activeTransactionMap

omit [BEq υ] in
theorem Unmoved.refl (s : Context υ) : Unmoved s s := ⟨rfl, fun _ => Iff.rfl⟩

omit [BEq υ] in
theorem Unmoved.trans {s₁ s₂ s₃ : Context υ} (h : Unmoved s₁ s₂) (h' : Unmoved s₂ s₃) :
    Unmoved s₁ s₃ :=
  ⟨h'.starts.trans h.starts, fun tid => (h'.active tid).trans (h.active tid)⟩

omit [BEq υ] in
theorem attempt_final {target : Target υ} {s s' : Context υ} {r : CallResult}
    (h : Attempt tid target s s' r) (hfinal : s.haveSentFinalResponse = true) :
    Unmoved s s' ∧ s'.haveSentFinalResponse = true := by
  cases h with
  | ended => exact ⟨⟨rfl, fun _ => Iff.rfl⟩, hfinal⟩
  | raised h => simp [hfinal] at h
  | began _ h _ => simp [hfinal] at h

omit [BEq υ] in
theorem addition_final {target : Target υ} {s s' : Context υ} {r : CallResult}
    (h : Addition target s s' r) (hfinal : s.haveSentFinalResponse = true) : Unmoved s s' := by
  cases h with
  | refused => exact .refl s
  | raised h => simp [hfinal] at h
  | began _ h _ _ => simp [hfinal] at h
  | queued _ h _ => simp [hfinal] at h

omit [BEq υ] in
theorem unmoved_sendResponse (msg : SipResponse υ) (s : Context υ) :
    Unmoved s (s.sendResponse msg) := by
  refine ⟨starts_sendResponse msg, fun tid => ?_⟩
  unfold sendResponse
  split <;> rfl

/-- After a final response no call starts a transaction. -/
theorem call_final {s : Context υ} (c : Call υ) (hfinal : s.haveSentFinalResponse = true) :
    Unmoved s (s.call c).1 := by
  cases c with
  | addTarget target beginImmediately checkDuplicates =>
    exact addition_final (addTarget_addition target beginImmediately checkDuplicates s) hfinal
  | addTargetBatch targets highPriority =>
    change Unmoved s (s.addTargetBatch targets highPriority).1
    rw [addTargetBatch, if_pos (by simp [hfinal])]
    exact .refl s
  | beginClientTransactions =>
    exact (beginCandidates_induction
      (P := fun s' => Unmoved s s' ∧ s'.haveSentFinalResponse = true) _ _ s ⟨.refl s, hfinal⟩
      fun p _ s₁ s₂ r h ha =>
        have hstep := attempt_final ha h.2
        ⟨h.1.trans hstep.1, hstep.2⟩).1
  | beginClientTransaction tid =>
    change Unmoved s (s.beginClientTransactionOf tid).1
    unfold beginClientTransactionOf
    split
    · exact .refl s
    · exact (attempt_final (beginCandidate_attempt _ _ _) hfinal).1
  | cancelActiveClientTransactions => exact ⟨by simp [call], fun _ => by simp [call]⟩
  | cancelAllClientTransactions => exact ⟨by simp [call], fun _ => by simp [call]⟩
  | clearCandidateTransactions => exact ⟨by simp [call], fun _ => Iff.rfl⟩
  | cancelClientTransaction tid => exact ⟨by simp [call], fun _ => by simp [call]⟩
  | sendResponse msg => exact unmoved_sendResponse msg s

omit [BEq υ] in
theorem candidates_cancelAll {s : Context υ} :
    s.cancelAllClientTransactions.candidateTransactionMap.isEmpty = true := by
  unfold cancelAllClientTransactions
  split
  · next h => exact (Bool.and_eq_true_iff.1 h).2
  · split <;> exact Std.TreeMap.isEmpty_emptyc

omit [BEq υ] in
theorem candidates_cancelOf {s : Context υ} (tid : Data)
    (h : s.candidateTransactionMap.isEmpty = true) :
    (s.cancelClientTransactionOf tid).candidateTransactionMap.isEmpty = true := by
  have hnone : s.candidateTransactionMap[tid]? = none := by
    rw [getElem?_eq_none_iff]
    exact Std.TreeMap.isEmpty_iff_forall_not_mem.1 h tid
  unfold cancelClientTransactionOf
  split
  · exact h
  · rw [hnone]
    exact h

omit [BEq υ] in
theorem candidates_sendResponse {s : Context υ} (msg : SipResponse υ) :
    (s.sendResponse msg).candidateTransactionMap = s.candidateTransactionMap := by
  unfold sendResponse
  split <;> rfl

/-- A call that offers no target starts no transaction, unless it starts a candidate. -/
theorem call_quiet {s : Context υ} {c : Call υ} (hadds : c.adds = false)
    (hquiet : c.begins = false ∨ s.candidateTransactionMap.isEmpty = true) :
    Unmoved s (s.call c).1 ∧ (s.call c).2 ≠ .raised ∧
      (s.candidateTransactionMap.isEmpty = true →
        (s.call c).1.candidateTransactionMap.isEmpty = true) := by
  have hnone : s.candidateTransactionMap.isEmpty = true →
      ∀ tid : Data, s.candidateTransactionMap[tid]? = none := fun hempty tid => by
    rw [getElem?_eq_none_iff]
    exact Std.TreeMap.isEmpty_iff_forall_not_mem.1 hempty tid
  cases c with
  | addTarget target beginImmediately checkDuplicates =>
    have hrefused : s.addTarget target beginImmediately checkDuplicates = (s, .returned false) := by
      have hstatus : target.status ≠ .candidate := by simpa [Call.adds] using hadds
      simp [addTarget, hstatus]
    simp only [call, hrefused]
    exact ⟨.refl s, by simp, id⟩
  | addTargetBatch targets highPriority =>
    have hgood : targets.filter (fun t => t.status == .candidate) = [] := by
      simpa [Call.adds, List.filter_eq_nil_iff] using hadds
    simp only [call, addTargetBatch, hgood]
    split
    · exact ⟨.refl s, by simp, id⟩
    · exact ⟨⟨rfl, fun _ => Iff.rfl⟩, by simp, id⟩
  | beginClientTransactions =>
    obtain hbegins | hempty := hquiet
    · cases hbegins
    have hnil : s.candidateTransactionMap.toList = [] := by
      rw [← List.isEmpty_iff, Std.TreeMap.isEmpty_toList]
      exact hempty
    simp only [call, beginClientTransactions, hnil, beginCandidates]
    exact ⟨.refl s, by simp, id⟩
  | beginClientTransaction tid =>
    obtain hbegins | hempty := hquiet
    · cases hbegins
    simp only [call, beginClientTransactionOf, hnone hempty]
    exact ⟨.refl s, by simp, id⟩
  | cancelActiveClientTransactions =>
    refine ⟨⟨by simp [call], fun _ => by simp [call]⟩, by simp [call], fun hempty => ?_⟩
    change s.cancelActiveClientTransactions.candidateTransactionMap.isEmpty = true
    unfold cancelActiveClientTransactions
    repeat' split
    all_goals exact hempty
  | cancelAllClientTransactions =>
    exact ⟨⟨by simp [call], fun _ => by simp [call]⟩, by simp [call], fun _ => candidates_cancelAll⟩
  | clearCandidateTransactions =>
    exact ⟨⟨by simp [call], fun _ => Iff.rfl⟩, by simp [call],
      fun _ => Std.TreeMap.isEmpty_emptyc⟩
  | cancelClientTransaction tid =>
    exact ⟨⟨by simp [call], fun _ => by simp [call]⟩, by simp [call], candidates_cancelOf tid⟩
  | sendResponse msg =>
    refine ⟨unmoved_sendResponse msg s, by simp [call], fun hempty => ?_⟩
    change (s.sendResponse msg).candidateTransactionMap.isEmpty = true
    rwa [candidates_sendResponse]

end Duplicates
end Context
end Resiprocate.Repro
