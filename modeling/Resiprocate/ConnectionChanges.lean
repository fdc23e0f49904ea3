import Resiprocate.ConnectionGc

/-! Connections are used again, change their list, and are new: the lists stay in order. -/
namespace Resiprocate.Connections
open ConnectionManager
variable {τ : Type} {cfg : ManagerConfig} {c c' : ConnectionManager τ}
  {p q now : ℕ} {conn conn' : Connection τ}

/-! ### A connection changes, or its place in the lists -/

/-- A connection in memory and both lists are others. -/
def relisted (c : ConnectionManager τ) (p : ℕ) (conn : Connection τ) (lru flow : List ℕ) :
    ConnectionManager τ :=
  { c.write p conn with mLRUHead := lru, mFlowTimerLRUHead := flow }

variable {lru flow : List ℕ}

theorem has_relisted (hp : c.Has p conn) (hperm : (lru ++ flow).Perm c.managed)
    {conn'' : Connection τ} :
    (relisted c p conn' lru flow).Has q conn'' ↔ q = p ∧ conn'' = conn' ∨ q ≠ p ∧ c.Has q conn'' := by
  have hmem : q ∈ (relisted c p conn' lru flow).managed ↔ q ∈ c.managed := hperm.mem_iff
  unfold Has
  rw [hmem]
  by_cases hq : q = p
  · simp [relisted, write, hq, hp.1, eq_comm]
  · simp [relisted, write, hq]

theorem coherent_relisted (h : c.Coherent) (hp : c.Has p conn) (hwho : conn'.mWho = conn.mWho)
    (hkey : conn'.mFlowKey = conn.mFlowKey) (hperm : (lru ++ flow).Perm c.managed)
    (hothers : ∀ q, q ≠ p → (q ∈ flow ↔ q ∈ c.mFlowTimerLRUHead))
    (hflag : p ∈ flow ↔ conn'.mFlowTimerEnabled = true) :
    (relisted c p conn' lru flow).Coherent := by
  -- what holds of a connection and its place holds of the changed one
  have hexists {P : Connection τ → Prop} (q : ℕ) (hP : P conn' ↔ P conn) :
      (∃ k, (relisted c p conn' lru flow).Has q k ∧ P k) ↔ ∃ k, c.Has q k ∧ P k := by
    simp only [has_relisted hp hperm]
    by_cases hq : q = p
    · simp only [hq, true_and, not_true_eq_false, false_and, or_false, exists_eq_left, ne_eq]
      refine hP.trans ⟨fun hconn => ⟨conn, hp, hconn⟩, fun ⟨k, hk, hPk⟩ => ?_⟩
      rwa [hk.eq hp] at hPk
    · simp [hq]
  refine ⟨hperm.nodup_iff.mpr h.nodup, fun q hq => ?_, fun q hq => ?_, fun q k hk => ?_,
    fun who q => ?_, fun key q => ?_, fun q k hk => ?_⟩
  · by_cases hqp : q = p
    · exact ⟨conn', by simp [relisted, write, hqp]⟩
    · simpa [relisted, write, hqp] using h.live q (hperm.mem_iff.mp hq)
  · have hqp : q ≠ p := by
      rintro rfl
      have hnone := h.allocated q hq
      rw [hp.2] at hnone
      cases hnone
    simpa [relisted, write, hqp] using h.allocated q hq
  · rcases (has_relisted hp hperm).mp hk with ⟨rfl, rfl⟩ | ⟨hne, hk⟩
    · exact hflag
    · exact (hothers q hne).trans (h.flow q k hk)
  · exact (h.addr who q).trans (hexists q (by rw [hwho])).symm
  · exact (h.id key q).trans (hexists q (by rw [hkey])).symm
  · rcases (has_relisted hp hperm).mp hk with ⟨rfl, rfl⟩ | ⟨hne, hk⟩
    · exact hkey ▸ h.nonzero q conn hp
    · exact h.nonzero q k hk

/-- The order of a list without the connection is the same. -/
theorem pairwise_relisted {l : List ℕ} (hl : l.Pairwise c.NotLater) (hp : p ∉ l) :
    l.Pairwise (c.write p conn').NotLater := by
  refine hl.imp_of_mem fun {a b} ha hb hle k k' hk hk' => ?_
  have hne {a : ℕ} (ha : a ∈ l) : a ≠ p := fun heq => hp (heq ▸ ha)
  simp only [write, Function.update_of_ne (hne ha)] at hk
  simp only [write, Function.update_of_ne (hne hb)] at hk'
  exact hle k k' hk hk'

/-- A connection at the end of a list is the last in order, if it was used no earlier. -/
theorem pairwise_relisted_append {l : List ℕ} (hl : l.Pairwise c.NotLater) (hp : p ∉ l)
    (hlast : ∀ q ∈ l, ∀ k, c.memory q = some k → k.mLastUsed ≤ conn'.mLastUsed) :
    (l ++ [p]).Pairwise (c.write p conn').NotLater := by
  refine List.pairwise_append.mpr ⟨pairwise_relisted hl hp, List.pairwise_singleton _ _, ?_⟩
  intro q hq r hr k k' hk hk'
  rw [List.mem_singleton.mp hr] at hk'
  have hne : q ≠ p := fun heq => hp (heq ▸ hq)
  simp only [write, Function.update_of_ne hne] at hk
  simp only [write, Function.update_self] at hk'
  rw [← Option.some_injective _ hk']
  exact hlast q hq k hk

theorem touch_spec (h : c.Coherent) (hordered : c.Ordered now) (hp : c.Has p conn) :
    ∃ c', c.touch now p = .ok c' ∧ c'.Coherent ∧ c'.Ordered now := by
  obtain ⟨hlru, hflow, hapart⟩ := List.nodup_append.mp h.nodup
  have hback {l : List ℕ} (hmem : p ∈ l) : (l.erase p ++ [p]).Perm l :=
    (List.perm_append_singleton p _).trans (List.perm_cons_erase hmem).symm
  have hlast : ∀ l : List ℕ, (∀ q ∈ l, q ∈ c.managed) → ∀ q ∈ l, ∀ k, c.memory q = some k →
      k.mLastUsed ≤ now := fun l hl q hq k hk => hordered.past q k ⟨hl q hq, hk⟩
  have hnot {l : List ℕ} (hl : l.Nodup) : p ∉ l.erase p := fun hmem => (hl.mem_erase_iff.mp hmem).1 rfl
  have hpast {lru flow : List ℕ} (hperm : (lru ++ flow).Perm c.managed) (q : ℕ) (k : Connection τ)
      (hk : (relisted c p { conn with mLastUsed := now } lru flow).Has q k) : k.mLastUsed ≤ now := by
    rcases (has_relisted hp hperm).mp hk with ⟨-, rfl⟩ | ⟨-, hk⟩
    · exact le_rfl
    · exact hordered.past q k hk
  unfold touch
  simp only [deref_has hp, bind, Except.bind]
  split_ifs with hflag
  · have hmem : p ∈ c.mFlowTimerLRUHead := (h.flow p conn hp).mpr hflag
    have hperm : (c.mLRUHead ++ (c.mFlowTimerLRUHead.erase p ++ [p])).Perm c.managed :=
      (hback hmem).append_left _
    refine ⟨_, rfl, coherent_relisted h hp rfl rfl hperm (fun q hq => ?_) ?_, ?_, ?_, hpast hperm⟩
    · exact (hback hmem).mem_iff
    · simpa using hflag
    · exact pairwise_relisted hordered.lru fun hmem' => hapart p hmem' p hmem rfl
    · refine pairwise_relisted_append (hordered.flow.sublist List.erase_sublist) (hnot hflow) ?_
      exact hlast _ fun q hq => List.mem_append_right _ (List.mem_of_mem_erase hq)
  · have hmem : p ∈ c.mLRUHead :=
      (List.mem_append.mp hp.1).resolve_right fun hmem => hflag ((h.flow p conn hp).mp hmem)
    have hperm : (c.mLRUHead.erase p ++ [p] ++ c.mFlowTimerLRUHead).Perm c.managed :=
      (hback hmem).append_right _
    refine ⟨_, rfl, coherent_relisted h hp rfl rfl hperm (fun q hq => .rfl) (h.flow p conn hp), ?_, ?_,
      hpast hperm⟩
    · refine pairwise_relisted_append (hordered.lru.sublist List.erase_sublist) (hnot hlru) ?_
      exact hlast _ fun q hq => List.mem_append_left _ (List.mem_of_mem_erase hq)
    · exact pairwise_relisted hordered.flow fun hmem' => hapart p hmem p hmem' rfl

/-- A flow timer is enabled only for a connection that was used no earlier than the others that
have one. -/
def UsedLast (c : ConnectionManager τ) (p : ℕ) : Prop :=
  ∀ conn, c.Has p conn → conn.mFlowTimerEnabled = false →
    ∀ q conn', c.Has q conn' → conn'.mFlowTimerEnabled = true → conn'.mLastUsed ≤ conn.mLastUsed

theorem enableFlowTimer_coherent (h : c.Coherent) (hp : c.Has p conn) :
    ∃ c', c.enableFlowTimer p = .ok c' ∧ c'.Coherent ∧
      (c.Ordered now → UsedLast c p → c'.Ordered now) := by
  obtain ⟨hlru, hflow, hapart⟩ := List.nodup_append.mp h.nodup
  unfold enableFlowTimer
  simp only [deref_has hp, bind, Except.bind]
  split_ifs with hflag
  · exact ⟨c, rfl, h, fun hordered _ => hordered⟩
  · have hnot : p ∉ c.mFlowTimerLRUHead := fun hmem => hflag ((h.flow p conn hp).mp hmem)
    have hmem : p ∈ c.mLRUHead := (List.mem_append.mp hp.1).resolve_right hnot
    have hperm : (c.mLRUHead.erase p ++ (c.mFlowTimerLRUHead ++ [p])).Perm c.managed := by
      calc c.mLRUHead.erase p ++ (c.mFlowTimerLRUHead ++ [p])
        _ |>.Perm (c.mLRUHead.erase p ++ (p :: c.mFlowTimerLRUHead)) :=
          (List.perm_append_singleton p _).append_left _
        _ |>.Perm (p :: (c.mLRUHead.erase p ++ c.mFlowTimerLRUHead)) := List.perm_middle
        _ |>.Perm c.managed := (List.perm_cons_erase hmem).symm.append_right c.mFlowTimerLRUHead
    refine ⟨_, rfl, coherent_relisted h hp rfl rfl hperm (fun q hq => ?_) ?_, fun hordered hused =>
      ⟨?_, ?_, fun q k hk => ?_⟩⟩
    · exact List.mem_append.trans ((or_congr_right List.mem_singleton).trans (or_iff_left hq))
    · simp
    · exact pairwise_relisted (hordered.lru.sublist List.erase_sublist) fun hmem' =>
        (hlru.mem_erase_iff.mp hmem').1 rfl
    · refine pairwise_relisted_append hordered.flow hnot fun q hq k hk => ?_
      have hhas : c.Has q k := ⟨List.mem_append_right _ hq, hk⟩
      exact hused conn hp (Bool.not_eq_true _ ▸ hflag) q k hhas ((h.flow q k hhas).mp hq)
    · rcases (has_relisted hp hperm).mp hk with ⟨-, rfl⟩ | ⟨-, hk⟩
      · exact hordered.past p conn hp
      · exact hordered.past q k hk

/-! ### New connections -/

/-- The manager with a new connection. -/
def created [DecidableEq τ] (c : ConnectionManager τ) (conn : Connection τ) : ConnectionManager τ :=
  { c with
    memory := Function.update c.memory c.allocated (some conn)
    allocated := c.allocated + 1
    mAddrMap := Function.update c.mAddrMap conn.mWho (some c.allocated)
    mIdMap := Function.update c.mIdMap conn.mFlowKey (some c.allocated)
    mLRUHead := c.mLRUHead ++ [c.allocated] }

/-- The manager with a connection in memory alone. -/
def allocate (c : ConnectionManager τ) (conn : Connection τ) : ConnectionManager τ :=
  { c.write c.allocated conn with allocated := c.allocated + 1 }

theorem new_notMem (h : c.Coherent) : c.allocated ∉ c.managed := by
  intro hmem
  obtain ⟨conn, -, hconn⟩ := h.has hmem
  rw [h.allocated _ le_rfl] at hconn
  cases hconn

theorem has_allocate (h : c.Coherent) : (allocate c conn').Has q conn ↔ c.Has q conn := by
  refine and_congr_right fun hmem => ?_
  have hq : q ≠ c.allocated := fun heq => new_notMem h (heq ▸ hmem)
  simp [allocate, write, hq]

theorem coherent_allocate (h : c.Coherent) : (allocate c conn').Coherent where
  nodup := h.nodup
  live q hq := (h.has hq).imp fun conn hconn => ((has_allocate h).mpr hconn).2
  allocated q hq := by
    have hlt : c.allocated < q := hq
    simpa [allocate, write, hlt.ne'] using h.allocated q hlt.le
  flow q conn hq := h.flow q conn ((has_allocate h).mp hq)
  addr who q := by
    simp only [has_allocate h]
    exact h.addr who q
  id key q := by
    simp only [has_allocate h]
    exact h.id key q
  nonzero q conn hq := h.nonzero q conn ((has_allocate h).mp hq)

theorem ordered_allocate (h : c.Coherent) (hordered : c.Ordered now) :
    (allocate c conn').Ordered now := by
  have hcloses : c.Closes (allocate c conn') [] :=
    ⟨coherent_allocate h, fun q k => by simp [has_allocate h], .refl _, .refl _⟩
  exact hcloses.ordered hordered

variable [DecidableEq τ]

theorem has_created (h : c.Coherent) :
    (created c conn').Has q conn ↔ q = c.allocated ∧ conn = conn' ∨ c.Has q conn := by
  have hnew := new_notMem h
  have hmem : q ∈ (created c conn').managed ↔ q = c.allocated ∨ q ∈ c.managed := by
    simp only [managed, created, List.mem_append, List.mem_singleton]
    tauto
  unfold Has
  rw [hmem]
  by_cases hq : q = c.allocated
  · simp [created, hq, hnew, eq_comm]
  · simp [created, hq]

theorem coherent_created (h : c.Coherent) (hwho : c.mAddrMap conn'.mWho = none)
    (hkey : c.mIdMap conn'.mFlowKey = none) (hnonzero : conn'.mFlowKey ≠ 0)
    (hflag : conn'.mFlowTimerEnabled = false) : (created c conn').Coherent where
  nodup := by
    have hperm : (created c conn').managed.Perm (c.allocated :: c.managed) := by
      show (c.mLRUHead ++ [c.allocated] ++ c.mFlowTimerLRUHead).Perm _
      rw [List.append_assoc]
      exact List.perm_middle
    exact hperm.nodup_iff.mpr (List.nodup_cons.mpr ⟨new_notMem h, h.nodup⟩)
  live q hq := by
    by_cases hne : q = c.allocated
    · exact ⟨conn', by simp [created, hne]⟩
    · have hmem : q ∈ c.managed := by
        simpa only [managed, created, List.mem_append, List.mem_singleton, hne, or_false] using hq
      simpa [created, hne] using h.live q hmem
  allocated q hq := by
    have hlt : c.allocated < q := hq
    simpa [created, hlt.ne'] using h.allocated q hlt.le
  flow q conn hq := by
    rcases (has_created h).mp hq with ⟨rfl, rfl⟩ | hq
    · rw [hflag]
      exact iff_of_false (fun hmem => new_notMem h (List.mem_append_right _ hmem)) Bool.false_ne_true
    · exact h.flow q conn hq
  addr who q := by
    simp only [has_created h]
    by_cases heq : who = conn'.mWho
    · subst heq
      simp only [created, Function.update_self, Option.some.injEq]
      refine ⟨fun hq => ⟨conn', .inl ⟨hq.symm, rfl⟩, rfl⟩, ?_⟩
      rintro ⟨conn, ⟨rfl, -⟩ | hq, hconn⟩
      · rfl
      · rw [(h.addr _ q).mpr ⟨conn, hq, hconn⟩] at hwho
        cases hwho
    · simp only [created, Function.update_of_ne heq, h.addr]
      refine exists_congr fun conn => ⟨fun hq => ⟨.inr hq.1, hq.2⟩, ?_⟩
      rintro ⟨⟨-, rfl⟩ | hq, hconn⟩
      · exact absurd hconn.symm heq
      · exact ⟨hq, hconn⟩
  id key q := by
    simp only [has_created h]
    by_cases heq : key = conn'.mFlowKey
    · subst heq
      simp only [created, Function.update_self, Option.some.injEq]
      refine ⟨fun hq => ⟨conn', .inl ⟨hq.symm, rfl⟩, rfl⟩, ?_⟩
      rintro ⟨conn, ⟨rfl, -⟩ | hq, hconn⟩
      · rfl
      · rw [(h.id _ q).mpr ⟨conn, hq, hconn⟩] at hkey
        cases hkey
    · simp only [created, Function.update_of_ne heq, h.id]
      refine exists_congr fun conn => ⟨fun hq => ⟨.inr hq.1, hq.2⟩, ?_⟩
      rintro ⟨⟨-, rfl⟩ | hq, hconn⟩
      · exact absurd hconn.symm heq
      · exact ⟨hq, hconn⟩
  nonzero q conn hq := by
    rcases (has_created h).mp hq with ⟨rfl, rfl⟩ | hq
    · exact hnonzero
    · exact h.nonzero q conn hq

theorem ordered_created (h : c.Coherent) (hordered : c.Ordered now) (hlast : conn'.mLastUsed = now) :
    (created c conn').Ordered now := by
  have hnew := new_notMem h
  have hlru : c.allocated ∉ c.mLRUHead := fun hmem => hnew (List.mem_append_left _ hmem)
  refine ⟨pairwise_relisted_append hordered.lru hlru fun q hq k hk => ?_,
    pairwise_relisted hordered.flow fun hmem => hnew (List.mem_append_right _ hmem), fun q k hk => ?_⟩
  · exact hlast ▸ hordered.past q k ⟨List.mem_append_left _ hq, hk⟩
  · rcases (has_created h).mp hk with ⟨-, rfl⟩ | hk
    · exact hlast.le
    · exact hordered.past q k hk

end Resiprocate.Connections
