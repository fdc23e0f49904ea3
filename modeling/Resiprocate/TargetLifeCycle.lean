import Mathlib
import Resiprocate.NoNewBranch

/-! The life of a target: a candidate becomes active or ends, an active target ends, and one that
has ended stays so. The three maps of a context are compared with this cycle, one transaction id at
a time. -/
namespace Resiprocate.Repro

/-- Where a target is in its life. -/
inductive Stage
  | absent
  | candidate
  | active
  | terminated
  deriving DecidableEq

/-- The stages that the operations on existing targets lead to. -/
inductive Stage.Leads : Stage → Stage → Prop
  | refl (st : Stage) : Leads st st
  | begin : Leads candidate active
  | withdraw : Leads candidate terminated
  | finish : Leads active terminated

theorem Stage.Leads.trans {a b c : Stage} (h : a.Leads b) (h' : b.Leads c) : a.Leads c := by
  cases h with
  | refl => exact h'
  | begin =>
    cases h' with
    | refl => exact .begin
    | finish => exact .withdraw
  | withdraw =>
    cases h' with
    | refl => exact .withdraw
  | finish =>
    cases h' with
    | refl => exact .finish

/-- What the candidate, the active and the terminated map have under one transaction id. -/
abbrev Slots (υ : Type*) := Option (Target υ) × Option (Target υ) × Option (Target υ)

/-- The slots of a target in a given stage: it is in the map of that stage only, under its own
transaction id and with the status of that map. -/
def Slots.At {υ : Type*} (tid : Data) : Stage → Slots υ → Prop
  | .absent, slots => slots = (none, none, none)
  | .candidate, slots =>
    ∃ t, slots = (some t, none, none) ∧ t.tid = tid ∧ t.status = .candidate
  | .active, slots =>
    ∃ t, slots = (none, some t, none) ∧ t.tid = tid ∧
      (t.status = .started ∨ t.status = .cancelled)
  | .terminated, slots =>
    ∃ t, slots = (none, none, some t) ∧ t.tid = tid ∧ t.status = .terminated

/-- The stage that the slots show. -/
def Slots.stage {υ : Type*} : Slots υ → Stage
  | (some _, _, _) => .candidate
  | (none, some _, _) => .active
  | (none, none, some _) => .terminated
  | (none, none, none) => .absent

theorem Slots.At.stage_eq {υ : Type*} {tid : Data} {st : Stage} {slots : Slots υ}
    (h : Slots.At tid st slots) : st = slots.stage := by
  cases st with
  | absent =>
    obtain rfl := h
    rfl
  | candidate =>
    obtain ⟨t, rfl, -⟩ := h
    rfl
  | active =>
    obtain ⟨t, rfl, -⟩ := h
    rfl
  | terminated =>
    obtain ⟨t, rfl, -⟩ := h
    rfl

section Lookup
variable {υ : Type*} (m : TransactionMap υ) (k a : Data) (t : Target υ)

theorem lookup_insert : (m.insert k t)[a]? = if k = a then some t else m[a]? := by
  rw [Std.TreeMap.getElem?_insert]
  simp only [Std.LawfulEqCmp.compare_eq_iff_eq]

theorem lookup_erase : (m.erase k)[a]? = if k = a then none else m[a]? := by
  rw [Std.TreeMap.getElem?_erase]
  simp only [Std.LawfulEqCmp.compare_eq_iff_eq]

end Lookup

namespace Context
variable {υ : Type*} {s : Context υ} {tid : Data}

def slots (s : Context υ) (tid : Data) : Slots υ :=
  (s.candidateTransactionMap[tid]?, s.activeTransactionMap[tid]?, s.terminatedTransactionMap[tid]?)

/-- The target `tid` is in a stage. -/
def Holds (s : Context υ) (tid : Data) (st : Stage) : Prop := Slots.At tid st (s.slots tid)

/-- Every target is in exactly one stage. -/
def Placed (s : Context υ) : Prop := ∀ tid, ∃ st, s.Holds tid st

/-- Every target has stayed in its stage or gone on to a later one. -/
def Moved (s s' : Context υ) : Prop :=
  s.Placed → ∀ tid st, s.Holds tid st → ∃ st', s'.Holds tid st' ∧ st.Leads st'

theorem Moved.placed {s s' : Context υ} (h : Moved s s') (hs : s.Placed) : s'.Placed := by
  intro tid
  obtain ⟨st, hst⟩ := hs tid
  obtain ⟨st', hst', -⟩ := h hs tid st hst
  exact ⟨st', hst'⟩

theorem Moved.trans {s₁ s₂ s₃ : Context υ} (h : Moved s₁ s₂) (h' : Moved s₂ s₃) :
    Moved s₁ s₃ := by
  intro hs tid st hst
  obtain ⟨st₂, hst₂, hleads⟩ := h hs tid st hst
  obtain ⟨st₃, hst₃, hleads'⟩ := h' (h.placed hs) tid st₂ hst₂
  exact ⟨st₃, hst₃, hleads.trans hleads'⟩

theorem Moved.of_slots {s s' : Context υ} (h : s'.slots = s.slots) : Moved s s' := by
  intro _ tid st hst
  refine ⟨st, ?_, .refl st⟩
  unfold Holds
  rwa [h]

theorem Moved.of_maps {s s' : Context υ} (h : s'.maps = s.maps) : Moved s s' := by
  simp only [maps, Prod.mk.injEq] at h
  refine .of_slots (funext fun tid => ?_)
  unfold slots
  rw [h.1, h.2.1, h.2.2]

/-- One target moves. -/
theorem Moved.of_one {s s' : Context υ} (tid' : Data)
    (hone : ∀ st, s.Holds tid' st → ∃ st', s'.Holds tid' st' ∧ st.Leads st')
    (hrest : ∀ tid, tid' ≠ tid → s'.slots tid = s.slots tid) : Moved s s' := by
  intro _ tid st hst
  by_cases htid : tid' = tid
  · subst htid
    exact hone st hst
  · refine ⟨st, ?_, .refl st⟩
    unfold Holds
    rwa [hrest tid htid]

/-- The stage of a target that is found in a map. -/
theorem Holds.candidate_of {st : Stage} {t : Target υ} (h : s.Holds tid st)
    (ht : s.candidateTransactionMap[tid]? = some t) :
    st = .candidate ∧ s.slots tid = (some t, none, none) ∧ t.tid = tid ∧ t.status = .candidate := by
  unfold Holds slots at h
  unfold slots
  cases st <;> simp_all [Slots.At]

theorem Holds.terminated_of {st : Stage} {t : Target υ} (h : s.Holds tid st)
    (ht : s.terminatedTransactionMap[tid]? = some t) : st = .terminated := by
  unfold Holds slots at h
  cases st <;> simp_all [Slots.At]

/-- A target is in one stage only. -/
theorem Holds.unique {st st' : Stage} (h : s.Holds tid st) (h' : s.Holds tid st') : st = st' :=
  (Slots.At.stage_eq h).trans (Slots.At.stage_eq h').symm

theorem Holds.active_of {st : Stage} {t : Target υ} (h : s.Holds tid st)
    (ht : s.activeTransactionMap[tid]? = some t) :
    st = .active ∧ s.slots tid = (none, some t, none) ∧ t.tid = tid ∧
      (t.status = .started ∨ t.status = .cancelled) := by
  unfold Holds slots at h
  unfold slots
  cases st <;> simp_all [Slots.At]

section Targets

/-- A candidate ends. -/
theorem moved_withdraw {s' : Context υ} {t : Target υ} (t' : Target υ)
    (ht : s.candidateTransactionMap[tid]? = some t) (htid : t'.tid = t.tid)
    (hstatus : t'.status = .terminated)
    (hcand : s'.candidateTransactionMap = s.candidateTransactionMap.erase tid)
    (hactive : s'.activeTransactionMap = s.activeTransactionMap)
    (hterm : s'.terminatedTransactionMap = s.terminatedTransactionMap.insert tid t') :
    Moved s s' := by
  refine .of_one tid (fun st hst => ?_) fun tid' hne => ?_
  · obtain ⟨rfl, hslots, hkey, -⟩ := hst.candidate_of ht
    refine ⟨.terminated, ⟨t', ?_, htid.trans hkey, hstatus⟩, .withdraw⟩
    simp only [slots, Prod.mk.injEq] at hslots
    simp [slots, hcand, hactive, hterm, hslots.2.1]
  · simp [slots, hcand, hactive, hterm, lookup_erase, lookup_insert, hne]

/-- An active target ends. -/
theorem moved_finish {s' : Context υ} {t : Target υ} (t' : Target υ)
    (ht : s.activeTransactionMap[tid]? = some t) (htid : t'.tid = t.tid)
    (hstatus : t'.status = .terminated)
    (hcand : s'.candidateTransactionMap = s.candidateTransactionMap)
    (hactive : s'.activeTransactionMap = s.activeTransactionMap.erase tid)
    (hterm : s'.terminatedTransactionMap = s.terminatedTransactionMap.insert tid t') :
    Moved s s' := by
  refine .of_one tid (fun st hst => ?_) fun tid' hne => ?_
  · obtain ⟨rfl, hslots, hkey, -⟩ := hst.active_of ht
    refine ⟨.terminated, ⟨t', ?_, htid.trans hkey, hstatus⟩, .finish⟩
    simp only [slots, Prod.mk.injEq] at hslots
    simp [slots, hcand, hactive, hterm, hslots.1]
  · simp [slots, hcand, hactive, hterm, lookup_erase, lookup_insert, hne]

/-- A candidate becomes active. -/
theorem moved_begin {s' : Context υ} {t : Target υ}
    (ht : s.candidateTransactionMap[tid]? = some t)
    (hcand : s'.candidateTransactionMap = s.candidateTransactionMap.erase tid)
    (hactive : s'.activeTransactionMap =
      s.activeTransactionMap.insert tid { t with status := .started })
    (hterm : s'.terminatedTransactionMap = s.terminatedTransactionMap) : Moved s s' := by
  refine .of_one tid (fun st hst => ?_) fun tid' hne => ?_
  · obtain ⟨rfl, hslots, hkey, -⟩ := hst.candidate_of ht
    refine ⟨.active, ⟨{ t with status := .started }, ?_, hkey, .inl rfl⟩, .begin⟩
    simp only [slots, Prod.mk.injEq] at hslots
    simp [slots, hcand, hactive, hterm, hslots.2.2]
  · simp [slots, hcand, hactive, hterm, lookup_erase, lookup_insert, hne]

theorem cancel_active {t : Target υ} (h : t.status = .started ∨ t.status = .cancelled) :
    t.cancel.tid = t.tid ∧ t.cancel.status = .cancelled := by
  unfold Target.cancel
  rcases h with h | h <;> simp [h]

theorem cancel_candidate {t : Target υ} (h : t.status = .candidate) :
    t.cancel.tid = t.tid ∧ t.cancel.status = .terminated := by
  unfold Target.cancel
  simp [h]

theorem moved_cancelActive (s : Context υ) : Moved s s.cancelActive := by
  intro _ tid st hst
  refine ⟨st, ?_, .refl st⟩
  unfold Holds slots at hst ⊢
  unfold cancelActive
  simp only [Std.TreeMap.getElem?_map]
  cases st with
  | active =>
    obtain ⟨t, hslots, hkey, hstatus⟩ := hst
    simp only [Prod.mk.injEq] at hslots
    obtain ⟨htid, hcancelled⟩ := cancel_active hstatus
    exact ⟨t.cancel, by simp [hslots], htid.trans hkey, .inr hcancelled⟩
  | absent => simp_all [Slots.At]
  | candidate => simp_all [Slots.At]
  | terminated => simp_all [Slots.At]

section Fold
variable {f : Target υ → Target υ} {l : List (Data × Target υ)} {m : TransactionMap υ}

/-- A loop that inserts targets under their own ids leaves the other ids alone. -/
theorem lookup_foldl_of_not {a : Data} (hl : ∀ p ∈ l, p.2.tid = p.1) (ha : ∀ p ∈ l, p.1 ≠ a) :
    (l.foldl (fun m p => m.insert p.2.tid (f p.2)) m)[a]? = m[a]? := by
  induction l generalizing m with
  | nil => rfl
  | cons p rest ih =>
    have hp : ¬ p.2.tid = a := fun h => ha p (by simp) ((hl p (by simp)).symm.trans h)
    rw [List.foldl_cons, ih (fun q hq => hl q (by simp [hq])) fun q hq => ha q (by simp [hq]),
      lookup_insert, if_neg hp]

theorem lookup_foldl_of_mem {p : Data × Target υ} (hl : ∀ q ∈ l, q.2.tid = q.1)
    (hdistinct : l.Pairwise fun q r => q.1 ≠ r.1) (hp : p ∈ l) :
    (l.foldl (fun m p => m.insert p.2.tid (f p.2)) m)[p.1]? = some (f p.2) := by
  induction l generalizing m with
  | nil => cases hp
  | cons q rest ih =>
    obtain ⟨hq, hrest⟩ := List.pairwise_cons.1 hdistinct
    have hkeys : ∀ r ∈ rest, r.2.tid = r.1 := fun r hr => hl r (by simp [hr])
    rw [List.foldl_cons]
    rcases List.mem_cons.1 hp with rfl | hmem
    · rw [lookup_foldl_of_not hkeys fun r hr heq => hq r hr heq.symm, lookup_insert,
        if_pos (hl p (by simp))]
    · exact ih hkeys hrest hmem

end Fold

theorem candidates_distinct (s : Context υ) :
    s.candidateTransactionMap.toList.Pairwise fun p q => p.1 ≠ q.1 := by
  refine Std.TreeMap.distinct_keys_toList.imp fun h heq => h ?_
  rw [heq]
  exact Std.ReflCmp.compare_self

/-- The withdrawal of all candidates. -/
theorem moved_clear (s : Context υ) : Moved s s.clearCandidateTransactions := by
  intro hs tid st hst
  have hkeys : ∀ p ∈ s.candidateTransactionMap.toList, p.2.tid = p.1 := by
    intro p hp
    obtain ⟨st', hst'⟩ := hs p.1
    exact (hst'.candidate_of (Std.TreeMap.mem_toList_iff_getElem?_eq_some.1 hp)).2.2.1
  have hcand : (s.clearCandidateTransactions.candidateTransactionMap)[tid]? = none :=
    Std.TreeMap.getElem?_emptyc
  by_cases hmem : ∃ t, s.candidateTransactionMap[tid]? = some t
  · obtain ⟨t, ht⟩ := hmem
    obtain ⟨rfl, hslots, hkey, hstatus⟩ := hst.candidate_of ht
    obtain ⟨htid, hterm⟩ := cancel_candidate hstatus
    have hlookup := lookup_foldl_of_mem (f := Target.cancel) (m := s.terminatedTransactionMap)
      hkeys s.candidates_distinct (Std.TreeMap.mem_toList_iff_getElem?_eq_some.2 ht)
    simp only [slots, Prod.mk.injEq] at hslots
    exact ⟨.terminated, ⟨t.cancel, Prod.ext hcand (Prod.ext hslots.2.1 hlookup),
      htid.trans hkey, hterm⟩, .withdraw⟩
  · have hnone : s.candidateTransactionMap[tid]? = none := by
      rw [Option.eq_none_iff_forall_ne_some]
      exact fun t ht => hmem ⟨t, ht⟩
    have hlookup := lookup_foldl_of_not (f := Target.cancel) (m := s.terminatedTransactionMap)
      (a := tid) hkeys fun p hp heq => hmem ⟨p.2, by
        rw [← heq]
        exact Std.TreeMap.mem_toList_iff_getElem?_eq_some.1 hp⟩
    refine ⟨st, ?_, .refl st⟩
    unfold Holds
    rwa [show s.clearCandidateTransactions.slots tid = s.slots tid from
      Prod.ext (hcand.trans hnone.symm) (Prod.ext rfl hlookup)]

end Targets

section Operations

theorem Moved.refl (s : Context υ) : Moved s s := .of_slots rfl

theorem moved_cancelActiveClientTransactions (s : Context υ) :
    Moved s s.cancelActiveClientTransactions := by
  unfold cancelActiveClientTransactions
  repeat' split
  · exact .refl s
  · exact .refl s
  · exact moved_cancelActive s

theorem moved_cancelAllClientTransactions (s : Context υ) :
    Moved s s.cancelAllClientTransactions := by
  unfold cancelAllClientTransactions
  repeat' split
  · exact .refl s
  · exact (moved_cancelActive s).trans (moved_clear _)
  · exact moved_clear s

theorem moved_cancelClientTransactionOf (tid : Data) (s : Context υ) :
    Moved s (s.cancelClientTransactionOf tid) := by
  unfold cancelClientTransactionOf
  split
  · next t ht _ =>
    refine .of_one tid (fun st hst => ?_) fun tid' hne => ?_
    · obtain ⟨rfl, hslots, hkey, hstatus⟩ := hst.active_of ht
      obtain ⟨htid, hcancelled⟩ := cancel_active hstatus
      refine ⟨.active, ⟨t.cancel, ?_, htid.trans hkey, .inr hcancelled⟩, .refl _⟩
      simp only [slots, Prod.mk.injEq] at hslots
      simp [slots, hslots.1, hslots.2.2]
    · simp [slots, lookup_insert, hne]
  · split
    · next t ht =>
      intro hs
      obtain ⟨st, hst⟩ := hs tid
      obtain ⟨-, -, -, hstatus⟩ := hst.candidate_of ht
      obtain ⟨htid, hterm⟩ := cancel_candidate hstatus
      exact moved_withdraw t.cancel ht htid hterm rfl rfl rfl hs
    · exact .refl s

theorem moved_terminateClientTransaction (tid : Data) (s : Context υ) :
    Moved s (s.terminateClientTransaction tid) := by
  unfold terminateClientTransaction
  split
  · next t ht => exact moved_finish { t with status := .terminated } ht rfl rfl rfl rfl rfl
  · split
    · next t ht =>
      exact moved_withdraw { t with status := .terminated } ht rfl rfl rfl rfl rfl
    · exact .refl s

/-- An attempt to start a candidate. -/
theorem moved_attempt {target : Target υ} {s' : Context υ} {r : CallResult}
    (h : Attempt tid target s s' r) (ht : s.candidateTransactionMap[tid]? = some target) :
    Moved s s' := by
  intro hs
  obtain ⟨st, hst⟩ := hs tid
  obtain ⟨-, -, hkey, -⟩ := hst.candidate_of ht
  cases h with
  | ended =>
    exact moved_withdraw { target with status := .terminated } ht rfl rfl rfl rfl
      (by rw [hkey]) hs
  | raised _ => exact Moved.of_maps rfl hs
  | began s' _ hb =>
    exact moved_begin ht (by rw [hb.candidates]) (by rw [hb.active, hkey]) hb.terminated hs

theorem moved_sendResponse (msg : SipResponse υ) (s : Context υ) : Moved s (s.sendResponse msg) := by
  unfold sendResponse
  split <;> exact .of_maps rfl

theorem moved_withdrawTargets (s : Context υ) : Moved s s.withdrawTargets := by
  unfold withdrawTargets
  split
  · exact (moved_clear s).trans (moved_cancelActiveClientTransactions _)
  · exact moved_clear s

theorem moved_forwardBestResponse (s : Context υ) : Moved s s.forwardBestResponse := by
  have hsoft : Moved s s.withdrawTargets.softenBest :=
    (moved_withdrawTargets s).trans (.of_maps rfl)
  unfold forwardBestResponse
  dsimp only
  split
  · exact hsoft.trans (.of_maps rfl)
  · exact hsoft.trans (moved_sendResponse _ _)

theorem moved_keep (msg : SipResponse υ) (s : Context υ) : Moved s (s.keep msg) := by
  unfold keep
  split
  · unfold keepGlobal
    split
    · have hset : Moved s { s with bestResponse := msg, bestPriority := 0, bestIsResponse := true } :=
        .of_maps rfl
      dsimp only
      split
      · exact hset.trans (moved_cancelAllClientTransactions _)
      · exact hset
    · exact .refl s
  · unfold keepBest
    dsimp only
    repeat' split
    all_goals exact .of_maps rfl

theorem moved_processSuccess (msg : SipResponse υ) (s : Context υ) :
    Moved s (s.processSuccess msg) := by
  have hterm := moved_terminateClientTransaction msg.tid s
  have hanswer : ∀ s' : Context υ, Moved s s' → Moved s ({ s' with
      haveSentFinalResponse := true
      bestResponse := { s'.bestResponse with statusCode := msg.statusCode }
      bestIsResponse := true } : Context υ) := fun _ h => h.trans (.of_maps rfl)
  unfold processSuccess
  dsimp only
  split
  · exact (hanswer _ (hterm.trans (moved_cancelAllClientTransactions _))).trans
      (moved_sendResponse _ _)
  · split
    · exact hterm
    · exact (hanswer _ (hterm.trans (moved_clear _))).trans (moved_sendResponse _ _)

/-- Dealing with a response moves targets on in their life only. -/
theorem moved_rule (s₀ : Context υ) : AnswerRule (Moved s₀) fun _ => True where
  send s msg h := h.trans (moved_sendResponse msg s)
  forward s h := h.trans (moved_forwardBestResponse s)
  success s msg _ _ h := h.trans (moved_processSuccess msg s)
  keep s msg _ h := h.trans (moved_keep msg s)
  terminate s tid h := h.trans (moved_terminateClientTransaction tid s)
  timer s tid h := h.trans (.of_maps (by simp))
  note s o _ h := h.trans (.of_maps rfl)

end Operations

section Additions

/-- The targets `new` have come, and the others have stayed or gone on. -/
def Grown (new : List Data) (s s' : Context υ) : Prop :=
  s.Placed → (∀ tid ∈ new, s.Holds tid .absent) → ∀ tid,
    (tid ∈ new → s'.Holds tid .candidate ∨ s'.Holds tid .active) ∧
    (tid ∉ new → ∀ st, s.Holds tid st → ∃ st', s'.Holds tid st' ∧ st.Leads st')

theorem Moved.grown {s s' : Context υ} (h : Moved s s') : Grown [] s s' :=
  fun hs _ tid => ⟨fun hmem => (by cases hmem), fun _ => h hs tid⟩

/-- One target is taken over, as a candidate or already started. -/
theorem grown_one {s' : Context υ} {t : Target υ} {st : Stage}
    (hst : st = .candidate ∨ st = .active)
    (hnew : s.Holds t.tid .absent → s'.Holds t.tid st)
    (hrest : ∀ tid, t.tid ≠ tid → s'.slots tid = s.slots tid) : Grown [t.tid] s s' := by
  intro _ habsent tid
  refine ⟨fun hmem => ?_, fun hmem st' hst' => ⟨st', ?_, .refl st'⟩⟩
  · obtain rfl := List.mem_singleton.1 hmem
    have hplaced := hnew (habsent _ (by simp))
    rcases hst with rfl | rfl
    · exact .inl hplaced
    · exact .inr hplaced
  · unfold Holds
    rwa [hrest tid fun heq => hmem (by simp [heq])]

/-- The ids of the targets that a call takes over. -/
def acquired (targets : List (Target υ)) (r : CallResult) : List Data :=
  if r = .returned true then (targets.filter fun t => t.status == .candidate).map (·.tid) else []

theorem grown_addition {target : Target υ} {s' : Context υ} {r : CallResult}
    (h : Addition target s s' r) : Grown (acquired [target] r) s s' := by
  cases h with
  | refused => exact (Moved.refl s).grown
  | raised _ => exact (Moved.of_maps rfl).grown
  | began s' _ hstatus hb =>
    have hacquired : acquired [target] (.returned true) = [target.tid] := by
      simp [acquired, hstatus]
    rw [hacquired]
    refine grown_one (.inr rfl) (fun habsent => ?_) fun tid hne => ?_
    · refine ⟨{ target with status := .started }, ?_, rfl, .inl rfl⟩
      simp only [Holds, Slots.At, slots, Prod.mk.injEq] at habsent
      simp [slots, hb.active, hb.candidates, hb.terminated, habsent.1, habsent.2.2]
    · simp [slots, hb.active, hb.candidates, hb.terminated, lookup_insert, hne]
  | queued _ _ hstatus =>
    have hacquired : acquired [target] (.returned true) = [target.tid] := by
      simp [acquired, hstatus]
    rw [hacquired]
    refine grown_one (.inl rfl) (fun habsent => ?_) fun tid hne => ?_
    · refine ⟨target, ?_, rfl, hstatus⟩
      simp only [Holds, Slots.At, slots, Prod.mk.injEq] at habsent
      simp [slots, habsent.2.1, habsent.2.2]
    · simp [slots, lookup_insert, hne]

/-- Candidates under different ids are taken over, one after the other. -/
theorem grown_inserted {s' : Context υ} {l : List (Data × Target υ)}
    (hkeys : ∀ p ∈ l, p.2.tid = p.1) (hdistinct : l.Pairwise fun p q => p.1 ≠ q.1)
    (hstatus : ∀ p ∈ l, p.2.status = .candidate)
    (hcand : s'.candidateTransactionMap =
      l.foldl (fun m p => m.insert p.2.tid (id p.2)) s.candidateTransactionMap)
    (hactive : s'.activeTransactionMap = s.activeTransactionMap)
    (hterm : s'.terminatedTransactionMap = s.terminatedTransactionMap) :
    Grown (l.map (·.1)) s s' := by
  intro _ habsent tid
  refine ⟨fun hmem => .inl ?_, fun hmem st hst => ⟨st, ?_, .refl st⟩⟩
  · obtain ⟨p, hp, rfl⟩ := List.mem_map.1 hmem
    have hnone := habsent p.1 hmem
    simp only [Holds, Slots.At, slots, Prod.mk.injEq] at hnone
    have hlookup := lookup_foldl_of_mem (f := id) (m := s.candidateTransactionMap) hkeys hdistinct hp
    rw [← hcand] at hlookup
    refine ⟨p.2, ?_, hkeys p hp, hstatus p hp⟩
    simp [slots, hactive, hterm, hlookup, hnone.2.1, hnone.2.2]
  · have hlookup := lookup_foldl_of_not (f := id) (m := s.candidateTransactionMap) (a := tid) hkeys
      fun p hp heq => hmem (List.mem_map.2 ⟨p, hp, heq⟩)
    rw [← hcand] at hlookup
    have hslots : s'.slots tid = s.slots tid := by
      simp [slots, hactive, hterm, hlookup]
    unfold Holds
    rwa [hslots]

theorem grown_addTargetBatch (targets : List (Target υ)) (highPriority : Bool)
    (hdistinct : (targets.map (·.tid)).Nodup) :
    Grown (acquired targets (s.addTargetBatch targets highPriority).2) s
      (s.addTargetBatch targets highPriority).1 := by
  by_cases hrefused : (s.haveSentFinalResponse || targets.isEmpty) = true
  · have hcall : s.addTargetBatch targets highPriority = (s, .returned false) := by
      rw [addTargetBatch, if_pos hrefused]
    rw [hcall]
    exact (Moved.refl s).grown
  have hgood : ((targets.filter fun t => t.status == .candidate).map (·.tid)).Nodup :=
    hdistinct.sublist (List.filter_sublist.map _)
  have hacquired : acquired targets (s.addTargetBatch targets highPriority).2 =
      ((targets.filter fun t => t.status == .candidate).map fun t => (t.tid, t)).map (·.1) := by
    rw [addTargetBatch, if_neg hrefused]
    simp [acquired]
  rw [hacquired]
  refine grown_inserted ?_ (List.pairwise_map.2 (List.pairwise_map.1 hgood)) ?_ ?_ ?_ ?_
  · intro p hp
    obtain ⟨t, -, rfl⟩ := List.mem_map.1 hp
    rfl
  · intro p hp
    obtain ⟨t, ht, rfl⟩ := List.mem_map.1 hp
    simpa using (List.mem_filter.1 ht).2
  · rw [addTargetBatch, if_neg hrefused, List.foldl_map]
    rfl
  · rw [addTargetBatch, if_neg hrefused]
  · rw [addTargetBatch, if_neg hrefused]

end Additions

section Calls
variable [BEq υ]

omit [BEq υ] in
/-- An attempt to start one candidate leaves the others where they are. -/
theorem candidate_attempt {target : Target υ} {s' : Context υ} {r : CallResult} {tid' : Data}
    (h : Attempt tid target s s' r) (hne : tid ≠ tid') :
    s'.candidateTransactionMap[tid']? = s.candidateTransactionMap[tid']? := by
  cases h with
  | ended => rw [lookup_erase, if_neg hne]
  | raised _ => rfl
  | began s' _ hb => rw [lookup_erase, if_neg hne, hb.candidates]

theorem moved_beginCandidates (l : List (Data × Target υ)) (result : Bool) (s : Context υ)
    (hl : ∀ p ∈ l, s.candidateTransactionMap[p.1]? = some p.2)
    (hdistinct : l.Pairwise fun p q => p.1 ≠ q.1) : Moved s (s.beginCandidates l result).1 := by
  induction l generalizing result s with
  | nil => exact .refl s
  | cons p rest ih =>
    obtain ⟨hp, hrest⟩ := List.pairwise_cons.1 hdistinct
    have hattempt := beginCandidate_attempt p.1 p.2 s
    have hmoved := moved_attempt hattempt (hl p (by simp))
    unfold beginCandidates
    split
    · next heq => rwa [heq] at hmoved
    · next s' began heq =>
      rw [heq] at hattempt hmoved
      refine hmoved.trans (ih _ s' (fun q hq => ?_) hrest)
      rw [candidate_attempt hattempt (hp q hq)]
      exact hl q (by simp [hq])

end Calls

end Context
end Resiprocate.Repro
