import Resiprocate.ConnectionLists

/-! Which connections the two collectors of a connection manager close. -/
namespace Resiprocate.Connections
open ConnectionManager
variable {τ : Type} [DecidableEq τ] {cfg : ManagerConfig} {c c' : ConnectionManager τ}
  {p q now : ℕ} {conn : Connection τ}

/-! ### Connections that are idle too long -/

/-- A loop over a list closes only connections that were last used before the threshold, and all of
them when the list is in order. -/
structure Collected (threshold maxToRemove : ℕ) (l : List ℕ) (c c' : ConnectionManager τ)
    (closed : List ℕ) : Prop where
  closes : c.Closes c' closed
  old : ∀ p ∈ closed, p ∈ l ∧ ∀ conn, c.Has p conn → conn.mLastUsed < threshold
  all : maxToRemove = 0 → l.Pairwise c.NotLater → ∀ p ∈ l, ∀ conn, c.Has p conn →
    conn.mLastUsed < threshold → p ∈ closed

omit [DecidableEq τ] in
theorem Collected.none {threshold maxToRemove : ℕ} {l : List ℕ} (h : c.Coherent)
    (hkept : maxToRemove = 0 → l.Pairwise c.NotLater → ∀ p ∈ l, ∀ conn, c.Has p conn →
      threshold ≤ conn.mLastUsed) : Collected threshold maxToRemove l c c [] where
  closes := .refl h
  old _ hp := absurd hp List.not_mem_nil
  all h0 hl p hp conn hconn hlt := absurd hlt (not_lt.mpr (hkept h0 hl p hp conn hconn))

theorem Collected.cons {threshold maxToRemove : ℕ} {l closed : List ℕ} (h : c.Coherent)
    (hp : c.Has p conn) (hlt : conn.mLastUsed < threshold) (hl : ∀ q ∈ l, q ∈ c.managed ∧ q ≠ p)
    (hrest : Collected threshold maxToRemove l (c.without p conn) c' closed) :
    Collected threshold maxToRemove (p :: l) c c' (p :: closed) where
  closes := (h.delete hp).2.trans hrest.closes
  old q hq := by
    rcases List.mem_cons.mp hq with rfl | hq
    · exact ⟨List.mem_cons_self, fun conn' hconn' => hconn'.eq hp ▸ hlt⟩
    · obtain ⟨hmem, hold⟩ := hrest.old q hq
      exact ⟨List.mem_cons_of_mem p hmem, fun conn' hconn' =>
        hold conn' (h.has_without.mpr ⟨hconn', (hl q hmem).2⟩)⟩
  all h0 hordered q hq conn' hconn' hlt' := by
    rcases List.mem_cons.mp hq with rfl | hq
    · exact List.mem_cons_self
    · have hwithout := (h.delete hp).2.pairwise (List.pairwise_cons.mp hordered).2 fun r hr =>
        h.mem_without.mpr ⟨(hl r hr).2, (hl r hr).1⟩
      exact List.mem_cons_of_mem p (hrest.all h0 hwithout q hq conn'
        (h.has_without.mpr ⟨hconn', (hl q hq).2⟩) hlt')

theorem collect_spec (threshold maxToRemove : ℕ) (l : List ℕ) (numRemoved : ℕ) (h : c.Coherent)
    (hnodup : l.Nodup) (hmanaged : ∀ p ∈ l, p ∈ c.managed) :
    ∃ closed c', collect threshold maxToRemove l numRemoved c = .ok (numRemoved + closed.length, c') ∧
      Collected threshold maxToRemove l c c' closed := by
  induction l generalizing c numRemoved with
  | nil => exact ⟨[], c, rfl, .none h (by simp)⟩
  | cons p rest ih =>
    obtain ⟨hnot, hnodup⟩ := List.nodup_cons.mp hnodup
    obtain ⟨conn, hp⟩ := h.has (hmanaged p List.mem_cons_self)
    unfold collect
    split_ifs with hmax
    · simp only [deref_has hp, bind, Except.bind]
      rcases Nat.lt_or_ge conn.mLastUsed threshold with hlt | hge
      · have hrest : ∀ q ∈ rest, q ∈ c.managed ∧ q ≠ p := fun q hq =>
          ⟨hmanaged q (List.mem_cons_of_mem p hq), fun heq => hnot (heq ▸ hq)⟩
        obtain ⟨closed, c', hcollect, hcollected⟩ := ih (numRemoved + 1) (h.without hp) hnodup
          fun q hq => h.mem_without.mpr ⟨(hrest q hq).2, (hrest q hq).1⟩
        refine ⟨p :: closed, c', ?_, .cons h hp hlt hrest hcollected⟩
        rw [if_pos hlt, (h.delete hp).1, List.length_cons]
        simp only [hcollect]
        rw [Nat.add_assoc, Nat.add_comm 1]
      · rw [if_neg (not_lt.mpr hge)]
        refine ⟨[], c, rfl, .none h fun _ hl q hq conn' hconn' => ?_⟩
        rcases List.mem_cons.mp hq with rfl | hq
        · rwa [hconn'.eq hp]
        · exact hge.trans ((List.pairwise_cons.mp hl).1 q hq conn conn' hp.2 hconn'.2)
    · exact ⟨[], c, rfl, .none h fun h0 => absurd (.inl h0) hmax⟩

/-- The threshold of the list that a connection is in. -/
def gcThreshold (cfg : ManagerConfig) (relThreshold : ℕ) (conn : Connection τ) : ℕ :=
  if conn.mFlowTimerEnabled then cfg.flowTimerThreshold else relThreshold

theorem gc_spec (cfg : ManagerConfig) (now curTimeMs relThreshold maxToRemove : ℕ) (h : c.Coherent) :
    ∃ closed c', c.gc cfg curTimeMs relThreshold maxToRemove = .ok (closed.length, c') ∧
      c.Closes c' closed ∧
      (∀ p ∈ closed, ∃ conn, c.Has p conn ∧
        conn.mLastUsed < sub64 curTimeMs (gcThreshold cfg relThreshold conn)) ∧
      (maxToRemove = 0 → c.Ordered now → ∀ p conn, c.Has p conn →
        conn.mLastUsed < sub64 curTimeMs (gcThreshold cfg relThreshold conn) → p ∈ closed) := by
  obtain ⟨hlru, hflow, hapart⟩ := List.nodup_append.mp h.nodup
  obtain ⟨closed, c₁, hcollect, hcollected⟩ := collect_spec (sub64 curTimeMs relThreshold) maxToRemove
    c.mLRUHead 0 h hlru fun p hp => List.mem_append_left _ hp
  have h₁ := hcollected.closes.coherent
  obtain ⟨closed₂, c₂, hcollect₂, hcollected₂⟩ :=
    collect_spec (sub64 curTimeMs cfg.flowTimerThreshold) maxToRemove c₁.mFlowTimerLRUHead
      (0 + closed.length) h₁ (List.nodup_append.mp h₁.nodup).2.1 fun p hp => List.mem_append_right _ hp
  have hplain {p : ℕ} {conn : Connection τ} (hp : c.Has p conn) :
      p ∈ c.mLRUHead ↔ conn.mFlowTimerEnabled = false := by
    rw [← Bool.not_eq_true, ← h.flow p conn hp]
    refine ⟨fun hmem hmem' => hapart p hmem p hmem' rfl, fun hmem => ?_⟩
    exact (List.mem_append.mp hp.1).resolve_right hmem
  refine ⟨closed ++ closed₂, c₂, ?_, hcollected.closes.trans hcollected₂.closes, ?_, ?_⟩
  · simp only [gc, bind, Except.bind, hcollect, hcollect₂]
    rw [List.length_append, Nat.zero_add]
  · intro p hp
    rcases List.mem_append.mp hp with hp | hp
    · obtain ⟨hmem, hold⟩ := hcollected.old p hp
      obtain ⟨conn, hconn⟩ := h.has (List.mem_append_left _ hmem)
      refine ⟨conn, hconn, ?_⟩
      rw [gcThreshold, (hplain hconn).mp hmem]
      exact hold conn hconn
    · obtain ⟨hmem, hold⟩ := hcollected₂.old p hp
      obtain ⟨conn, hconn⟩ := h₁.has (List.mem_append_right _ hmem)
      refine ⟨conn, ((hcollected.closes.has p conn).mp hconn).1, ?_⟩
      rw [gcThreshold, (h₁.flow p conn hconn).mp hmem]
      exact hold conn hconn
  · intro h0 hordered p conn hp hlt
    rw [List.mem_append]
    cases hflag : conn.mFlowTimerEnabled with
    | false =>
      rw [gcThreshold, hflag] at hlt
      exact .inl (hcollected.all h0 hordered.lru p ((hplain hp).mpr hflag) conn hp hlt)
    | true =>
      rw [gcThreshold, hflag] at hlt
      refine or_iff_not_imp_left.mpr fun hnot => ?_
      have hp₁ := (hcollected.closes.has p conn).mpr ⟨hp, hnot⟩
      exact hcollected₂.all h0 (hcollected.closes.ordered hordered).flow p
        ((h₁.flow p conn hp₁).mpr hflag) conn hp₁ hlt

/-- A connection was idle longer than a time that has passed. -/
theorem lt_sub64 {lastUsed rel : ℕ} (hnow : now < 2 ^ 64) (hrel : rel ≤ now) :
    lastUsed < sub64 now rel ↔ rel < now - lastUsed := by
  unfold sub64
  omega

/-! ### The connections that were used least recently -/

/-- As many connections as are wanted are closed, the least recently used ones. -/
structure Oldest (now target : ℕ) (c c' : ConnectionManager τ) (closed : List ℕ) : Prop where
  closes : c.Closes c' closed
  nodup : closed.Nodup
  subset : ∀ p ∈ closed, p ∈ c.managed
  length : closed.length = min target c.managed.length
  oldest : c.Ordered now → ∀ p ∈ closed, ∀ q ∈ c.managed, q ∉ closed → c.NotLater p q

theorem Oldest.cons {target : ℕ} {closed : List ℕ} (h : c.Coherent) (hp : c.Has p conn)
    (hfirst : c.Ordered now → ∀ q ∈ c.managed, c.NotLater p q)
    (hrest : Oldest now target (c.without p conn) c' closed) :
    Oldest now (target + 1) c c' (p :: closed) where
  closes := (h.delete hp).2.trans hrest.closes
  nodup := List.nodup_cons.mpr
    ⟨fun hmem => (h.mem_without.mp (hrest.subset p hmem)).1 rfl, hrest.nodup⟩
  subset q hq := by
    rcases List.mem_cons.mp hq with rfl | hq
    · exact hp.1
    · exact (h.mem_without.mp (hrest.subset q hq)).2
  length := by
    have hperm : (p :: (c.without p conn).managed).Perm c.managed := by
      refine (List.perm_ext_iff_of_nodup (List.nodup_cons.mpr ⟨fun hmem => ?_, (h.without hp).nodup⟩)
        h.nodup).mpr fun q => ?_
      · exact (h.mem_without.mp hmem).1 rfl
      · rw [List.mem_cons, h.mem_without]
        refine ⟨fun hq => hq.elim (fun heq => heq ▸ hp.1) And.right, fun hq => ?_⟩
        exact (em (q = p)).imp_right fun hne => ⟨hne, hq⟩
    rw [List.length_cons, hrest.length, ← hperm.length_eq, List.length_cons]
    omega
  oldest hordered q hq r hr hnot := by
    rw [List.mem_cons, not_or] at hnot
    rcases List.mem_cons.mp hq with rfl | hq
    · exact hfirst hordered r hr
    · have hclosed := (h.delete hp).2
      intro conn₁ conn₂ hconn₁ hconn₂
      obtain ⟨hne, hmem⟩ := h.mem_without.mp (hrest.subset q hq)
      exact hrest.oldest (hclosed.ordered hordered) q hq r (h.mem_without.mpr ⟨hnot.1, hr⟩) hnot.2
        conn₁ conn₂ (h.has_without.mpr ⟨⟨hmem, hconn₁⟩, hne⟩).2
        (h.has_without.mpr ⟨⟨hr, hconn₂⟩, hnot.1⟩).2

theorem gcWithTarget_spec (now target : ℕ) (h : c.Coherent) :
    ∃ closed c', c.gcWithTarget target = .ok (target - closed.length, c') ∧
      Oldest now target c c' closed := by
  unfold gcWithTarget
  induction target generalizing c with
  | zero =>
    exact ⟨[], c, by unfold gcWithTargetLoop; rfl, .refl h, .nil, by simp, by simp, by simp⟩
  | succ target ih =>
    -- the connection that comes first is closed
    have hstep {p : ℕ} {conn : Connection τ} {rest rest₂ : List ℕ} (hp : c.Has p conn)
        (hlru : c.mLRUHead.erase p = rest) (hflow : c.mFlowTimerLRUHead.erase p = rest₂)
        (hfirst : c.Ordered now → ∀ q ∈ c.managed, c.NotLater p q) :
        ∃ closed c', (c.delete p).bind (gcWithTargetLoop target rest rest₂) =
          .ok (target + 1 - closed.length, c') ∧ Oldest now (target + 1) c c' closed := by
      obtain ⟨closed, c', hloop, holdest⟩ := ih (h.without hp)
      refine ⟨p :: closed, c', ?_, .cons h hp hfirst holdest⟩
      rw [(h.delete hp).1, List.length_cons, Nat.add_sub_add_right, ← hloop, ← hlru, ← hflow]
      rfl
    have herase {p : ℕ} {l l₂ : List ℕ} (hlists : c.managed = l ++ l₂) :
        (p ∈ l → l₂.erase p = l₂) ∧ (p ∈ l₂ → l.erase p = l) := by
      have hapart := (List.nodup_append.mp (hlists ▸ h.nodup)).2.2
      exact ⟨fun hp => List.erase_of_not_mem fun hp' => hapart p hp p hp' rfl,
        fun hp => List.erase_of_not_mem fun hp' => hapart p hp' p hp rfl⟩
    have hmanaged : c.managed = c.mLRUHead ++ c.mFlowTimerLRUHead := rfl
    cases hlru : c.mLRUHead with
    | nil =>
      rw [hlru] at hmanaged
      cases hflow : c.mFlowTimerLRUHead with
      | nil =>
        rw [hflow] at hmanaged
        refine ⟨[], c, by unfold gcWithTargetLoop; rfl, .refl h, .nil, by simp, ?_, by simp⟩
        rw [hmanaged]
        rfl
      | cons i₂ rest₂ =>
        rw [hflow] at hmanaged
        obtain ⟨conn, hp⟩ := h.has (p := i₂) (by simp [hmanaged])
        unfold gcWithTargetLoop
        refine hstep hp (by rw [hlru]; rfl) (by rw [hflow, List.erase_cons_head]) fun hordered q hq => ?_
        exact notLater_of_mem_cons (hflow ▸ hordered.flow) (by simpa [hmanaged] using hq)
    | cons i rest =>
      rw [hlru] at hmanaged
      obtain ⟨conn, hp⟩ := h.has (p := i) (by simp [hmanaged])
      cases hflow : c.mFlowTimerLRUHead with
      | nil =>
        rw [hflow] at hmanaged
        unfold gcWithTargetLoop
        refine hstep hp (by rw [hlru, List.erase_cons_head]) (by rw [hflow]; rfl) fun hordered q hq => ?_
        exact notLater_of_mem_cons (hlru ▸ hordered.lru) (by simpa [hmanaged] using hq)
      | cons i₂ rest₂ =>
        rw [hflow] at hmanaged
        obtain ⟨conn₂, hp₂⟩ := h.has (p := i₂) (by simp [hmanaged])
        unfold gcWithTargetLoop
        simp only [deref_has hp, deref_has hp₂, bind, Except.bind]
        have hfirst (hordered : c.Ordered now) {q : ℕ} (hq : q ∈ c.managed) :
            c.NotLater i q ∨ c.NotLater i₂ q := by
          rw [hmanaged, List.mem_append] at hq
          exact hq.imp (notLater_of_mem_cons (hlru ▸ hordered.lru))
            (notLater_of_mem_cons (hflow ▸ hordered.flow))
        split_ifs with hlt
        · refine hstep hp (by rw [hlru, List.erase_cons_head])
            (by rw [hflow]; exact (herase hmanaged).1 List.mem_cons_self) fun hordered q hq => ?_
          refine (hfirst hordered hq).elim id fun hle conn' conn'' hconn' hconn'' => ?_
          rw [← Option.some_injective _ (hp.2.symm.trans hconn')]
          exact hlt.le.trans (hle conn₂ conn'' hp₂.2 hconn'')
        · refine hstep hp₂ (by rw [hlru]; exact (herase hmanaged).2 List.mem_cons_self)
            (by rw [hflow, List.erase_cons_head]) fun hordered q hq => ?_
          refine (hfirst hordered hq).elim (fun hle conn' conn'' hconn' hconn'' => ?_) id
          rw [← Option.some_injective _ (hp₂.2.symm.trans hconn')]
          exact (not_lt.mp hlt).trans (hle conn conn'' hp.2 hconn'')

end Resiprocate.Connections
