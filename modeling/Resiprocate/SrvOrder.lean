import Mathlib
import Resiprocate.SrvSelection

/-! The order in which repeated calls return the SRV records. The records are sorted by NAPTR
preference, transport and priority, but a draw looks at the transport and the priority only. -/
namespace Resiprocate.Dns
open WeightedDraw

/-- Records are grouped by preference, then by transport, then by priority. -/
def SRV.group (a : SRV) : ℕ ×ₗ ℕ ×ₗ ℕ :=
  toLex (a.naptrpref, toLex (a.transport.toNat, a.priority))

/-- One call: the records that were there, the random number and the record returned. -/
structure Draw where
  left : List SRV
  random : ℕ
  srv : SRV

/-- The record is chosen by cumulative weight among the records left of its group. -/
def Draw.ByWeight (d : Draw) : Prop :=
  ∃ i, (d.left.filter fun a => a.group = d.srv.group)[i]? = some d.srv ∧
    Chosen SRV.weight (d.left.filter fun a => a.group = d.srv.group) d.random i

namespace SrvSelection

/-- `n` calls; `none` is a failed assertion. -/
def retrieveAll : ℕ → (ℕ → ℕ) → SrvSelection → Option (List Draw)
  | 0, _, _ => some []
  | n + 1, randoms, s =>
    match s.retrieveSRV (randoms 0) with
    | none => none
    | some (srv, s') =>
      (retrieveAll n (fun k => randoms (k + 1)) s').map (⟨s.mSRVResults, randoms 0, srv⟩ :: ·)

/-- As many calls as there are records fail no assertion and return each record once, the groups
one after the other and the records of a group by weight. -/
def InOrder (s : SrvSelection) (randoms : ℕ → ℕ) : Prop :=
  ∃ draws, retrieveAll s.mSRVResults.length randoms s = some draws ∧
    (draws.map Draw.srv).Perm s.mSRVResults ∧
    (draws.map Draw.srv).Pairwise (fun a b => a.group ≤ b.group) ∧
    ∀ d ∈ draws, d.ByWeight

end SrvSelection

/-- In every stretch of neighbours of one transport and one priority, a record that has a weight is
of the least NAPTR preference. -/
def Apart (l : List SRV) : Prop :=
  ∀ stretch, stretch <:+: l → (∀ a ∈ stretch, ∀ b ∈ stretch, SRV.sameRun a b) →
    ∀ a ∈ stretch, 0 < a.weight → ∀ b ∈ stretch, a.naptrpref ≤ b.naptrpref

section Groups
variable {a b : SRV} {l : List SRV}

theorem SRV.group_le_iff : a.group ≤ b.group ↔ a.naptrpref < b.naptrpref ∨
    a.naptrpref = b.naptrpref ∧ (a.transport.toNat < b.transport.toNat ∨
      a.transport.toNat = b.transport.toNat ∧ a.priority ≤ b.priority) := by
  simp [SRV.group, Prod.Lex.toLex_le_toLex]

theorem SRV.group_eq_iff : a.group = b.group ↔ a.naptrpref = b.naptrpref ∧
    a.transport = b.transport ∧ a.priority = b.priority := by
  simp [SRV.group, TransportType.toNat_inj]

theorem SRV.group_le_of_not_lt (h : b.lt a = false) : a.group ≤ b.group := by
  have ht := @TransportType.toNat_inj a.transport b.transport
  rw [SRV.group_le_iff]
  unfold SRV.lt at h
  split_ifs at h <;> grind

/-- Records of one run differ in their preference only. -/
theorem SRV.group_eq_of_sameRun (h : SRV.sameRun a b) (hpref : a.naptrpref = b.naptrpref) :
    a.group = b.group := by
  obtain ⟨hp, ht⟩ := SRV.sameRun_iff.mp h
  exact SRV.group_eq_iff.mpr ⟨hpref, ht.symm, hp.symm⟩

theorem SRV.naptrpref_le (h : a.group ≤ b.group) : a.naptrpref ≤ b.naptrpref := by
  rw [SRV.group_le_iff] at h
  omega

abbrev Grouped (l : List SRV) : Prop := l.Pairwise fun a b => a.group ≤ b.group

theorem grouped_of_sorted (h : l.Pairwise fun a b => b.lt a = false) : Grouped l :=
  h.imp SRV.group_le_of_not_lt

end Groups

section Apart
variable {l l' : List SRV} {a b : SRV}

theorem Apart.mono (h : Apart l) (hl : l' <:+: l) : Apart l' :=
  fun stretch hs => h stretch (hs.trans hl)

theorem apart_nil : Apart [] := by
  intro stretch hs hsame a ha
  rw [List.infix_nil.mp hs] at ha
  cases ha

/-- A stretch does not go beyond a run. -/
theorem stretch_cases {run after stretch : List SRV}
    (hrun : ∀ a ∈ run, ∀ b ∈ after.head?, SRV.sameRun a b = false)
    (hs : stretch <:+: run ++ after) (hsame : ∀ a ∈ stretch, ∀ b ∈ stretch, SRV.sameRun a b) :
    stretch ⊆ run ∨ stretch <:+: after := by
  obtain ⟨before, rest, heq⟩ := hs
  rcases List.append_eq_append_iff.mp heq with ⟨c, hc, -⟩ | ⟨c, hc, hafter⟩
  · left
    rw [hc]
    intro a ha
    simp [ha]
  · rcases List.append_eq_append_iff.mp hc with ⟨d, hd, hstretch⟩ | ⟨d, -, hd⟩
    · cases d with
      | nil =>
        right
        rw [hafter, hstretch]
        exact ⟨[], rest, by simp⟩
      | cons x d =>
        cases c with
        | nil =>
          left
          rw [hstretch, hd]
          intro a ha
          simp only [List.append_nil] at ha
          simp [ha]
        | cons y c =>
          have hx : x ∈ stretch := by simp [hstretch]
          have hy : y ∈ stretch := by simp [hstretch]
          have hother := hrun x (by simp [hd]) y (by simp [hafter])
          rw [hsame x hx y hy] at hother
          cases hother
    · right
      rw [hafter, hd]
      exact ⟨d, rest, rfl⟩

/-- The records of the run that have a weight are of its least preference. -/
def RunApart (run : List SRV) : Prop :=
  ∀ a ∈ run, 0 < a.weight → ∀ b ∈ run, a.naptrpref ≤ b.naptrpref

theorem apart_append {run after : List SRV}
    (hrun : ∀ a ∈ run, ∀ b ∈ after.head?, SRV.sameRun a b = false) (hapart : RunApart run)
    (hafter : Apart after) : Apart (run ++ after) := by
  intro stretch hs hsame a ha hw b hb
  rcases stretch_cases hrun hs hsame with hsub | hpart
  · exact hapart a (hsub ha) hw b (hsub hb)
  · exact hafter stretch hpart hsame a ha hw b hb

theorem Apart.headRun (h : Apart l) : RunApart (headRun l) := by
  apply h
  · exact (headRun_isFront l).isInfix
  · intro a ha b hb
    exact sameRun_of_mem_headRun ha hb

theorem Apart.afterRun (h : Apart l) : Apart (afterRun l) :=
  h.mono ⟨Dns.headRun l, [], by rw [List.append_nil, headRun_append_afterRun]⟩

theorem Apart.eraseIdx (h : Apart l) {i : ℕ} (hi : i < (Dns.headRun l).length) :
    Apart (l.eraseIdx i) := by
  rw [eraseIdx_eq_append hi]
  apply apart_append
  · intro a ha b hb
    exact head_afterRun (List.mem_of_mem_eraseIdx ha) hb
  · intro a ha hw b hb
    exact h.headRun a (List.mem_of_mem_eraseIdx ha) hw b (List.mem_of_mem_eraseIdx hb)
  · exact h.afterRun

end Apart

section Draws
variable {l : List SRV} {g : ℕ ×ₗ ℕ ×ₗ ℕ} {random i : ℕ}

/-- The records of the least group come first. -/
theorem filter_append_of_least (h : Grouped l) (hg : ∀ b ∈ l, g ≤ b.group) :
    (l.filter fun a => a.group = g) ++ (l.filter fun a => ¬ a.group = g) = l := by
  induction l with
  | nil => rfl
  | cons a l ih =>
    obtain ⟨hle, hrest⟩ := List.pairwise_cons.mp h
    have hg' : ∀ b ∈ l, g ≤ b.group := fun b hb => hg b (List.mem_cons_of_mem a hb)
    by_cases ha : a.group = g
    · simpa [ha] using ih hrest hg'
    · have hlt : g < a.group := lt_of_le_of_ne (hg a List.mem_cons_self) (Ne.symm ha)
      have hall : ∀ b ∈ a :: l, ¬ b.group = g := by
        intro b hb
        rcases List.mem_cons.mp hb with rfl | hb
        · exact ha
        · exact (hlt.trans_le (hle b hb)).ne'
      have hnone : (a :: l).filter (fun b => b.group = g) = [] :=
        List.filter_eq_nil_iff.mpr fun b hb => by simpa using hall b hb
      have hevery : (a :: l).filter (fun b => ¬ b.group = g) = a :: l :=
        List.filter_eq_self.mpr fun b hb => by simpa using hall b hb
      rw [hnone, hevery, List.nil_append]

/-- A record that is drawn is of the least preference of its run. -/
theorem naptrpref_le_of_chosen {run : List SRV} (hgrouped : Grouped run) (hapart : RunApart run)
    (hi : i < run.length) (h : Chosen SRV.weight run random i) {b : SRV} (hb : b ∈ run) :
    run[i].naptrpref ≤ b.naptrpref := by
  obtain ⟨-, h⟩ := h
  split_ifs at h with hzero
  · subst h
    cases run with
    | nil => cases hb
    | cons a rest =>
      rcases List.mem_cons.mp hb with rfl | hb
      · exact le_rfl
      · exact SRV.naptrpref_le ((List.pairwise_cons.mp hgrouped).1 b hb)
  · have hstep : total SRV.weight (run.take (i + 1)) =
        total SRV.weight (run.take i) + run[i].weight := by
      rw [List.take_add_one, List.getElem?_eq_getElem hi, total_append]
      rfl
    exact hapart _ (List.getElem_mem hi) (by omega) b hb

/-- Beyond the run of a record of the least group every group is greater. -/
theorem group_lt_of_mem_afterRun (hgrouped : Grouped l) {y b : SRV} (hy : y ∈ headRun l)
    (hb : b ∈ afterRun l) : y.group < b.group := by
  have hall : Grouped (headRun l ++ afterRun l) := by rwa [headRun_append_afterRun]
  obtain ⟨-, hafter, hcross⟩ := List.pairwise_append.mp hall
  cases hcons : afterRun l with
  | nil =>
    rw [hcons] at hb
    cases hb
  | cons c rest =>
    have hc : y.group ≠ c.group := by
      intro heq
      obtain ⟨-, ht, hp⟩ := SRV.group_eq_iff.mp heq
      have hother := head_afterRun hy (b := c) (by simp [hcons])
      rw [SRV.sameRun_iff.mpr ⟨hp.symm, ht.symm⟩] at hother
      cases hother
    have hlt : y.group < c.group := lt_of_le_of_ne (hcross y hy c (hcons ▸ List.mem_cons_self)) hc
    rw [hcons] at hb hafter
    rcases List.mem_cons.mp hb with rfl | hb
    · exact hlt
    · exact hlt.trans_le ((List.pairwise_cons.mp hafter).1 b hb)

/-- The records of the least group are in the first run. -/
theorem filter_headRun (hgrouped : Grouped l) {y : SRV} (hy : y ∈ headRun l) :
    (l.filter fun a => a.group = y.group) = (headRun l).filter fun a => a.group = y.group := by
  have hnone : (afterRun l).filter (fun a => a.group = y.group) = [] :=
    List.filter_eq_nil_iff.mpr fun b hb => by
      simpa using (group_lt_of_mem_afterRun hgrouped hy hb).ne'
  conv_lhs => rw [← headRun_append_afterRun l]
  rw [List.filter_append, hnone, List.append_nil]

/-- A draw from the first run is a draw by weight from the least group. -/
theorem draw_of_chosen (hgrouped : Grouped l) (hapart : Apart l)
    (h : Chosen SRV.weight (headRun l) random i) (hi : i < l.length) :
    (Draw.mk l random l[i]).ByWeight ∧ ∀ b ∈ l, l[i].group ≤ b.group := by
  have hinside : i < (headRun l).length := h.1
  have hget : (headRun l)[i] = l[i] := (headRun_isFront l).getElem hinside
  have hgrouped' : Grouped (headRun l) := hgrouped.sublist (headRun_isFront l).sublist
  have hpref := fun b => naptrpref_le_of_chosen hgrouped' hapart.headRun hinside h (b := b)
  have hmem := List.getElem_mem hinside
  generalize hy : l[i] = y at hget ⊢
  rw [hget] at hpref hmem
  have hrun : ∀ b ∈ headRun l, y.group ≤ b.group := by
    intro b hb
    obtain ⟨hp, ht⟩ := SRV.sameRun_iff.mp (sameRun_of_mem_headRun hmem hb)
    rw [SRV.group_le_iff, hp, ht]
    rcases (hpref b hb).lt_or_eq with hlt | heq
    · exact .inl hlt
    · exact .inr ⟨heq, .inr ⟨rfl, le_rfl⟩⟩
  have hsplit := filter_append_of_least hgrouped' hrun
  have hzero : total SRV.weight ((headRun l).filter fun a => ¬ a.group = y.group) = 0 := by
    rw [total_eq_zero]
    intro b hb
    obtain ⟨hb, hne⟩ := List.mem_filter.mp hb
    by_contra hw
    have hle := hapart.headRun b hb (Nat.pos_of_ne_zero hw) y hmem
    have heq := SRV.group_eq_of_sameRun (sameRun_of_mem_headRun hb hmem)
      (le_antisymm hle (hpref b hb))
    simp [heq] at hne
  have hsome : ((headRun l).filter fun a => a.group = y.group) ≠ [] := by
    apply List.ne_nil_of_mem (a := y)
    simp [hmem]
  have hchosen : Chosen SRV.weight ((headRun l).filter fun a => a.group = y.group) random i := by
    apply Chosen.of_append hsome hzero
    rwa [hsplit]
  constructor
  · refine ⟨i, ?_, ?_⟩
    · rw [filter_headRun hgrouped hmem, List.getElem?_eq_getElem hchosen.1]
      exact congrArg some ((List.IsPrefix.getElem ⟨_, hsplit⟩ hchosen.1).trans hget)
    · rwa [filter_headRun hgrouped hmem]
  · intro b hb
    rw [← headRun_append_afterRun l, List.mem_append] at hb
    rcases hb with hb | hb
    · exact hrun b hb
    · exact (group_lt_of_mem_afterRun hgrouped hmem hb).le

end Draws

namespace SrvSelection
variable {s : SrvSelection} {randoms : ℕ → ℕ}

theorem retrieveAll_succ {n : ℕ} {srv : SRV} {s' : SrvSelection}
    (h : s.retrieveSRV (randoms 0) = some (srv, s')) :
    retrieveAll (n + 1) randoms s =
      (retrieveAll n (fun k => randoms (k + 1)) s').map (⟨s.mSRVResults, randoms 0, srv⟩ :: ·) := by
  rw [retrieveAll, h]

theorem inOrder_of_apart (h : Ready s) (hgrouped : Grouped s.mSRVResults)
    (hapart : Apart s.mSRVResults) (randoms : ℕ → ℕ) : s.InOrder randoms := by
  generalize hn : s.mSRVResults.length = n
  induction n generalizing s randoms with
  | zero =>
    have hnil := List.length_eq_zero_iff.mp hn
    exact ⟨[], by rw [hnil]; rfl, by simp [hnil], by simp, by simp⟩
  | succ n ih =>
    have hne : s.mSRVResults ≠ [] := by
      rw [← List.length_pos_iff]
      omega
    obtain ⟨i, hi, carried, hchosen, hcall, hready⟩ := retrieveSRV_spec h hne (randoms 0)
    have hsub : (s.mSRVResults.eraseIdx i).Sublist s.mSRVResults := List.eraseIdx_sublist _ _
    obtain ⟨draws, hall, hperm, hgroups, hdraws⟩ := ih hready
      (hgrouped.sublist hsub) (hapart.eraseIdx hchosen.1) (fun k => randoms (k + 1))
      (by simp only [List.length_eraseIdx_of_lt hi, hn, Nat.add_sub_cancel])
    obtain ⟨hweight, hleast⟩ := draw_of_chosen hgrouped hapart hchosen hi
    refine ⟨⟨s.mSRVResults, randoms 0, s.mSRVResults[i]⟩ :: draws, ?_, ?_, ?_, ?_⟩
    · rw [hn, retrieveAll_succ hcall]
      simp only [List.length_eraseIdx_of_lt hi, hn, Nat.add_sub_cancel] at hall
      rw [hall]
      rfl
    · exact (hperm.cons _).trans (List.getElem_cons_eraseIdx_perm hi)
    · rw [List.map_cons, List.pairwise_cons]
      refine ⟨?_, hgroups⟩
      intro b hb
      exact hleast b (hsub.subset (hperm.subset hb))
    · intro d hd
      rcases List.mem_cons.mp hd with rfl | hd
      · exact hweight
      · exact hdraws d hd

/-- What is in order goes on in order after the first call. -/
theorem InOrder.tail (randoms : ℕ → ℕ) {i : ℕ} {carried : ℤ} (hi : i < s.mSRVResults.length)
    (hcall : s.retrieveSRV (randoms 0) = some (s.mSRVResults[i],
      { s with mSRVResults := s.mSRVResults.eraseIdx i, mCumulativeWeight := carried }))
    (h : s.InOrder randoms) :
    (∀ b ∈ s.mSRVResults.eraseIdx i, s.mSRVResults[i].group ≤ b.group) ∧
      InOrder { s with mSRVResults := s.mSRVResults.eraseIdx i, mCumulativeWeight := carried }
        (fun k => randoms (k + 1)) := by
  obtain ⟨draws, hall, hperm, hgroups, hdraws⟩ := h
  obtain ⟨n, hn⟩ : ∃ n, s.mSRVResults.length = n + 1 := ⟨s.mSRVResults.length - 1, by omega⟩
  rw [hn, retrieveAll_succ hcall] at hall
  obtain ⟨rest, hrest, rfl⟩ := Option.map_eq_some_iff.mp hall
  have hperm' : (rest.map Draw.srv).Perm (s.mSRVResults.eraseIdx i) := by
    have hcons := hperm.trans (List.getElem_cons_eraseIdx_perm hi).symm
    exact (List.perm_cons _).mp hcons
  rw [List.map_cons, List.pairwise_cons] at hgroups
  constructor
  · intro b hb
    exact hgroups.1 b (hperm'.symm.subset hb)
  · refine ⟨rest, ?_, hperm', hgroups.2, fun d hd => hdraws d (List.mem_cons_of_mem _ hd)⟩
    simpa only [List.length_eraseIdx_of_lt hi, hn, Nat.add_sub_cancel] using hrest

/-- A record of a later preference that has a weight can be drawn before the others of its run. -/
theorem runApart_of_inOrder (h : Ready s) (hgrouped : Grouped s.mSRVResults)
    (hall : ∀ randoms, s.InOrder randoms) : RunApart (headRun s.mSRVResults) := by
  intro a ha hw b hb
  by_contra hpref
  have hfront := headRun_isFront s.mSRVResults
  have hne : s.mSRVResults ≠ [] := List.ne_nil_of_mem (hfront.subset ha)
  have hpos : 0 < total SRV.weight (headRun s.mSRVResults) := by
    by_contra hzero
    have := total_eq_zero.mp (Nat.eq_zero_of_not_pos hzero) a ha
    omega
  obtain ⟨i, hi, carried, hchosen, hcall, -⟩ :=
    retrieveSRV_spec h hne (total SRV.weight (headRun s.mSRVResults) - 1)
  obtain ⟨j, hj, rfl⟩ := List.getElem_of_mem ha
  have hinside : i < (headRun s.mSRVResults).length := hchosen.1
  have hji : j ≤ i := hchosen.last hpos hj hw
  have hgrouped' : Grouped (headRun s.mSRVResults) := hgrouped.sublist hfront.sublist
  have hlater : (headRun s.mSRVResults)[j].naptrpref ≤ (headRun s.mSRVResults)[i].naptrpref := by
    rcases hji.lt_or_eq with hlt | rfl
    · exact SRV.naptrpref_le (List.pairwise_iff_getElem.mp hgrouped' j i hj hinside hlt)
    · exact le_rfl
  rw [hfront.getElem hinside] at hlater
  have hother : b ∈ s.mSRVResults.eraseIdx i := by
    have hmem := (List.getElem_cons_eraseIdx_perm hi).symm.subset (hfront.subset hb)
    rcases List.mem_cons.mp hmem with rfl | hmem
    · exact absurd hlater hpref
    · exact hmem
  have hfirst := (InOrder.tail (fun _ => _) hi hcall (hall _)).1 b hother
  exact hpref (hlater.trans (SRV.naptrpref_le hfirst))

theorem apart_of_inOrder (h : Ready s) (hgrouped : Grouped s.mSRVResults)
    (hall : ∀ randoms, s.InOrder randoms) : Apart s.mSRVResults := by
  generalize hn : s.mSRVResults.length = n
  induction n generalizing s with
  | zero =>
    rw [List.length_eq_zero_iff.mp hn]
    exact apart_nil
  | succ n ih =>
    have hne : s.mSRVResults ≠ [] := by
      rw [← List.length_pos_iff]
      omega
    obtain ⟨i, hi, carried, hchosen, hcall, hready⟩ := retrieveSRV_spec h hne 0
    have hrest : Apart (s.mSRVResults.eraseIdx i) := by
      apply ih hready (hgrouped.sublist (List.eraseIdx_sublist _ _))
      · intro randoms
        exact (InOrder.tail (fun k => if k = 0 then 0 else randoms (k - 1)) hi hcall
          (hall _)).2
      · simp only [List.length_eraseIdx_of_lt hi, hn, Nat.add_sub_cancel]
    rw [eraseIdx_eq_append hchosen.1] at hrest
    rw [← headRun_append_afterRun s.mSRVResults]
    apply apart_append
    · intro a ha b hb
      exact head_afterRun ha hb
    · exact runApart_of_inOrder h hgrouped hall
    · exact hrest.mono (List.suffix_append _ _).isInfix

/-- The state in which `onDnsResult` leaves a sorted list. -/
def start (chosen : Bool) (transport : TransportType) (l : List SRV) : SrvSelection :=
  ⟨0, chosen, transport, 0, l⟩

def udpRecord (naptrpref weight port : ℕ) : SRV := ⟨[], naptrpref, .udp, 0, weight, port, []⟩

/-- Two NAPTR records of different preference whose SRV records agree in the rest. -/
def twoPreferences : List SRV := [udpRecord 1 0 5060, udpRecord 2 1 5062]

end SrvSelection

end Resiprocate.Dns
