import Resiprocate.ConnectionManager

/-! The maps and the lists of a connection manager have the same connections. -/
namespace Resiprocate.Connections
variable {τ : Type} {cfg : ManagerConfig}

namespace ConnectionManager

/-- The connections in the two lists. -/
def managed (c : ConnectionManager τ) : List ℕ := c.mLRUHead ++ c.mFlowTimerLRUHead

def Has (c : ConnectionManager τ) (p : ℕ) (conn : Connection τ) : Prop :=
  p ∈ c.managed ∧ c.memory p = some conn

theorem Has.eq {c : ConnectionManager τ} {p : ℕ} {conn conn' : Connection τ} (h : c.Has p conn)
    (h' : c.Has p conn') : conn = conn' := Option.some_injective _ (h.2.symm.trans h'.2)

/-- The connections of the maps are those in the lists, each in one list and under its own tuple
and its own flow key. -/
structure Coherent (c : ConnectionManager τ) : Prop where
  nodup : c.managed.Nodup
  live : ∀ p ∈ c.managed, ∃ conn, c.memory p = some conn
  allocated : ∀ p, c.allocated ≤ p → c.memory p = none
  flow : ∀ p conn, c.Has p conn → (p ∈ c.mFlowTimerLRUHead ↔ conn.mFlowTimerEnabled = true)
  addr : ∀ who p, c.mAddrMap who = some p ↔ ∃ conn, c.Has p conn ∧ conn.mWho = who
  id : ∀ key p, c.mIdMap key = some p ↔ ∃ conn, c.Has p conn ∧ conn.mFlowKey = key
  nonzero : ∀ p conn, c.Has p conn → conn.mFlowKey ≠ 0

/-- The first was last used no later than the second. -/
def NotLater (c : ConnectionManager τ) (p q : ℕ) : Prop :=
  ∀ conn conn', c.memory p = some conn → c.memory q = some conn' → conn.mLastUsed ≤ conn'.mLastUsed

/-- Both lists are in order, and no connection was used later than now. -/
structure Ordered (now : ℕ) (c : ConnectionManager τ) : Prop where
  lru : c.mLRUHead.Pairwise c.NotLater
  flow : c.mFlowTimerLRUHead.Pairwise c.NotLater
  past : ∀ p conn, c.Has p conn → conn.mLastUsed ≤ now

variable {c c' c'' : ConnectionManager τ} {p q now : ℕ} {conn : Connection τ}

theorem deref_has (h : c.Has p conn) : c.deref p = .ok conn := by
  simp only [deref, h.2]

theorem Coherent.has (h : c.Coherent) (hp : p ∈ c.managed) : ∃ conn, c.Has p conn :=
  (h.live p hp).imp fun _ hconn => ⟨hp, hconn⟩

theorem Coherent.addr_eq (h : c.Coherent) {conn' : Connection τ} (hp : c.Has p conn)
    (hq : c.Has q conn') (heq : conn.mWho = conn'.mWho) : p = q :=
  Option.some_injective _ (((h.addr _ p).mpr ⟨conn, hp, heq⟩).symm.trans ((h.addr _ q).mpr ⟨conn', hq, rfl⟩))

theorem Coherent.id_eq (h : c.Coherent) {conn' : Connection τ} (hp : c.Has p conn)
    (hq : c.Has q conn') (heq : conn.mFlowKey = conn'.mFlowKey) : p = q :=
  Option.some_injective _ (((h.id _ p).mpr ⟨conn, hp, heq⟩).symm.trans ((h.id _ q).mpr ⟨conn', hq, rfl⟩))

theorem coherent_empty : (empty : ConnectionManager τ).Coherent where
  nodup := .nil
  live _ hp := absurd hp List.not_mem_nil
  allocated _ _ := rfl
  flow _ _ h := absurd h.1 List.not_mem_nil
  addr _ _ := ⟨fun h => (Option.some_ne_none _ h.symm).elim, fun ⟨_, h, _⟩ => absurd h.1 List.not_mem_nil⟩
  id _ _ := ⟨fun h => (Option.some_ne_none _ h.symm).elim, fun ⟨_, h, _⟩ => absurd h.1 List.not_mem_nil⟩
  nonzero _ _ h := absurd h.1 List.not_mem_nil

theorem ordered_empty (now : ℕ) : (empty : ConnectionManager τ).Ordered now where
  lru := .nil
  flow := .nil
  past _ _ h := absurd h.1 List.not_mem_nil

theorem Ordered.later (h : c.Ordered now) {later : ℕ} (hle : now ≤ later) : c.Ordered later :=
  { h with past := fun p conn hhas => (h.past p conn hhas).trans hle }

theorem notLater_of_mem_cons {l : List ℕ} (h : (p :: l).Pairwise c.NotLater) (hq : q ∈ p :: l) :
    c.NotLater p q := by
  rcases List.mem_cons.mp hq with rfl | hq
  · intro conn conn' hconn hconn'
    rw [Option.some_injective _ (hconn.symm.trans hconn')]
  · exact (List.pairwise_cons.mp h).1 q hq

/-! ### Connections are closed -/

/-- Some of the connections are closed, and the others stay as they are. -/
structure Closes (c c' : ConnectionManager τ) (closed : List ℕ) : Prop where
  coherent : c'.Coherent
  has : ∀ q conn, c'.Has q conn ↔ c.Has q conn ∧ q ∉ closed
  lru : c'.mLRUHead.Sublist c.mLRUHead
  flow : c'.mFlowTimerLRUHead.Sublist c.mFlowTimerLRUHead

theorem Closes.refl (h : c.Coherent) : c.Closes c [] :=
  ⟨h, fun q conn => by simp, .refl _, .refl _⟩

theorem Closes.trans {closed closed' : List ℕ} (h : c.Closes c' closed)
    (h' : c'.Closes c'' closed') : c.Closes c'' (closed ++ closed') where
  coherent := h'.coherent
  has q conn := by
    rw [h'.has, h.has, List.mem_append, not_or, and_assoc]
  lru := h'.lru.trans h.lru
  flow := h'.flow.trans h.flow

theorem Closes.memory {closed : List ℕ} (h : c.Closes c' closed) (hp : p ∈ c'.managed)
    (hconn : c'.memory p = some conn) : c.memory p = some conn := ((h.has p conn).mp ⟨hp, hconn⟩).1.2

theorem Closes.pairwise {closed l : List ℕ} (h : c.Closes c' closed) (hl : l.Pairwise c.NotLater)
    (hmanaged : ∀ p ∈ l, p ∈ c'.managed) : l.Pairwise c'.NotLater := by
  refine hl.imp_of_mem fun hp hq hle conn conn' hconn hconn' => ?_
  exact hle conn conn' (h.memory (hmanaged _ hp) hconn) (h.memory (hmanaged _ hq) hconn')

theorem Closes.ordered {closed : List ℕ} (h : c.Closes c' closed) (hordered : c.Ordered now) :
    c'.Ordered now where
  lru := h.pairwise (hordered.lru.sublist h.lru) fun _ hp => List.mem_append_left _ hp
  flow := h.pairwise (hordered.flow.sublist h.flow) fun _ hp => List.mem_append_right _ hp
  past p conn hp := hordered.past p conn ((h.has p conn).mp hp).1

variable [DecidableEq τ]

/-- The manager without a connection. -/
def without (c : ConnectionManager τ) (p : ℕ) (conn : Connection τ) : ConnectionManager τ :=
  { c with
    memory := Function.update c.memory p none
    mIdMap := Function.update c.mIdMap conn.mFlowKey none
    mAddrMap := Function.update c.mAddrMap conn.mWho none
    mLRUHead := c.mLRUHead.erase p
    mFlowTimerLRUHead := c.mFlowTimerLRUHead.erase p }

theorem Coherent.mem_without (h : c.Coherent) :
    q ∈ (c.without p conn).managed ↔ q ≠ p ∧ q ∈ c.managed := by
  obtain ⟨hlru, hflow, -⟩ := List.nodup_append.mp h.nodup
  simp only [managed, without, List.mem_append, hlru.mem_erase_iff, hflow.mem_erase_iff]
  tauto

theorem Coherent.has_without (h : c.Coherent) {conn' : Connection τ} :
    (c.without p conn).Has q conn' ↔ c.Has q conn' ∧ q ≠ p := by
  unfold Has
  rw [h.mem_without]
  by_cases hq : q = p
  · simp [hq]
  · simp [without, hq]

theorem Coherent.without (h : c.Coherent) (hp : c.Has p conn) : (c.without p conn).Coherent where
  nodup := by
    obtain ⟨hlru, hflow, hapart⟩ := List.nodup_append.mp h.nodup
    refine List.nodup_append.mpr ⟨hlru.erase p, hflow.erase p, fun a ha b hb => ?_⟩
    exact hapart a (List.mem_of_mem_erase ha) b (List.mem_of_mem_erase hb)
  live q hq := by
    obtain ⟨hne, hmem⟩ := h.mem_without.mp hq
    obtain ⟨conn', hconn'⟩ := h.has hmem
    exact ⟨conn', (h.has_without.mpr ⟨hconn', hne⟩).2⟩
  allocated q hq := by
    by_cases hne : q = p
    · simp [ConnectionManager.without, hne]
    · simpa [ConnectionManager.without, hne] using h.allocated q hq
  flow q conn' hq := by
    obtain ⟨hq, hne⟩ := h.has_without.mp hq
    rw [← h.flow q conn' hq]
    exact List.mem_erase_of_ne hne
  addr who q := by
    simp only [h.has_without]
    by_cases hwho : who = conn.mWho
    · simp only [ConnectionManager.without, hwho, Function.update_self, reduceCtorEq, false_iff,
        not_exists, not_and]
      exact fun conn' ⟨hq, hne⟩ heq => hne (h.addr_eq hq hp heq)
    · simp only [ConnectionManager.without, ne_eq, hwho, not_false_eq_true, Function.update_of_ne]
      rw [h.addr]
      refine exists_congr fun conn' => ⟨fun ⟨hq, heq⟩ => ⟨⟨hq, ?_⟩, heq⟩, fun ⟨hq, heq⟩ => ⟨hq.1, heq⟩⟩
      rintro rfl
      exact hwho (by rw [← heq, hq.eq hp])
  id key q := by
    simp only [h.has_without]
    by_cases hkey : key = conn.mFlowKey
    · simp only [ConnectionManager.without, hkey, Function.update_self, reduceCtorEq, false_iff,
        not_exists, not_and]
      exact fun conn' ⟨hq, hne⟩ heq => hne (h.id_eq hq hp heq)
    · simp only [ConnectionManager.without, ne_eq, hkey, not_false_eq_true, Function.update_of_ne]
      rw [h.id]
      refine exists_congr fun conn' => ⟨fun ⟨hq, heq⟩ => ⟨⟨hq, ?_⟩, heq⟩, fun ⟨hq, heq⟩ => ⟨hq.1, heq⟩⟩
      rintro rfl
      exact hkey (by rw [← heq, hq.eq hp])
  nonzero q conn' hq := h.nonzero q conn' (h.has_without.mp hq).1

/-- `delete` closes the connection. -/
theorem Coherent.delete (h : c.Coherent) (hp : c.Has p conn) :
    c.delete p = .ok (c.without p conn) ∧ c.Closes (c.without p conn) [p] := by
  constructor
  · simp only [ConnectionManager.delete, deref_has hp, bind, Except.bind, h.nonzero p conn hp, ne_eq,
      not_false_eq_true, if_true]
    rfl
  · exact ⟨h.without hp, fun q conn' => by rw [h.has_without, List.mem_singleton],
      List.erase_sublist, List.erase_sublist⟩

end ConnectionManager

end Resiprocate.Connections
