import Mathlib
import Resiprocate.WeightedDraw

/-! The selection of SRV records: `retrieveSRV` takes one record out of the sorted list. It draws
among the first records of one transport and one priority, and carries the weight that is left of
them to the next call. -/
namespace Resiprocate.Dns
open WeightedDraw

abbrev Data := List UInt8

inductive TransportType
  | unknown | tls | tcp | udp | sctp | dccp | dtls | ws | wss
  deriving DecidableEq, Repr

/-- The order of the enumeration. -/
def TransportType.toNat : TransportType → ℕ
  | .unknown => 0
  | .tls => 1
  | .tcp => 2
  | .udp => 3
  | .sctp => 4
  | .dccp => 5
  | .dtls => 6
  | .ws => 7
  | .wss => 8

theorem TransportType.toNat_inj {t t' : TransportType} : t.toNat = t'.toNat ↔ t = t' := by
  cases t <;> cases t' <;> decide

structure SRV where
  key : Data
  naptrpref : ℕ
  transport : TransportType
  priority : ℕ
  weight : ℕ
  port : ℕ
  target : Data
  deriving DecidableEq

namespace SRV

/-- `operator<`. -/
def lt (a b : SRV) : Bool :=
  if a.naptrpref < b.naptrpref then true
  else if a.naptrpref = b.naptrpref then
    if a.transport.toNat < b.transport.toNat then true
    else if a.transport = b.transport then
      if a.priority < b.priority then true
      else if a.priority = b.priority then
        if a.weight < b.weight then true
        else if a.weight = b.weight then a.target < b.target
        else false
      else false
    else false
  else false

/-- The records that `retrieveSRV` takes together. -/
def sameRun (a b : SRV) : Bool := b.priority == a.priority && b.transport == a.transport

end SRV

/-- What `retrieveSRV` reads and writes of a `DnsResult`. -/
structure SrvSelection where
  mSRVCount : ℤ
  mHaveChosenTransport : Bool
  mTransport : TransportType
  mCumulativeWeight : ℤ
  mSRVResults : List SRV

/-- The loop that looks for the selected record: the record and the others. -/
def selectSRV (selected : ℤ) : ℤ → List SRV → Option (SRV × List SRV)
  | _, [] => none
  | cumulativeWeight, i :: rest =>
    let cumulativeWeight := cumulativeWeight + i.weight
    if selected < cumulativeWeight then some (i, rest)
    else (selectSRV selected cumulativeWeight rest).map fun r => (r.1, i :: r.2)

namespace SrvSelection

/-- `none` is a failed assertion. -/
def retrieveSRV (s : SrvSelection) (random : ℕ) : Option (SRV × SrvSelection) :=
  match s.mSRVResults with
  | [] => none
  | srv :: _ =>
    if s.mSRVCount ≠ 0 then none
    else
      let transport := if s.mHaveChosenTransport then s.mTransport else srv.transport
      if s.mHaveChosenTransport ∧ srv.transport ≠ transport then none
      else
        let cumulativeWeight : ℤ :=
          if s.mCumulativeWeight = 0 then
            total SRV.weight (s.mSRVResults.takeWhile fun i =>
              i.priority == srv.priority && i.transport == transport)
          else s.mCumulativeWeight
        let selected : ℤ := if cumulativeWeight ≠ 0 then (random : ℤ).tmod cumulativeWeight else -1
        match selectSRV selected 0 s.mSRVResults with
        | none => none
        | some (next, rest) =>
          let cumulativeWeight := cumulativeWeight - next.weight
          some (next, { s with
            mSRVResults := rest
            mCumulativeWeight := match rest with
              | [] => cumulativeWeight
              | head :: _ =>
                if srv.priority ≠ head.priority ∨ transport ≠ head.transport then 0
                else cumulativeWeight })

end SrvSelection

/-! ### One call -/

section Loop
variable {selected : ℤ} {acc : ℤ} {l : List SRV}

theorem selectSRV_neg (h : l ≠ []) : selectSRV (-1) 0 l = some (l.head h, l.tail) := by
  cases l with
  | nil => exact absurd rfl h
  | cons i rest =>
    have hlt : (-1 : ℤ) < 0 + i.weight := by omega
    simp only [selectSRV, List.head_cons, List.tail_cons]
    rw [if_pos hlt]

theorem selectSRV_spec (hlow : acc ≤ selected) (hhigh : selected < acc + total SRV.weight l) :
    ∃ i, ∃ h : i < l.length, selectSRV selected acc l = some (l[i], l.eraseIdx i) ∧
      acc + total SRV.weight (l.take i) ≤ selected ∧
      selected < acc + total SRV.weight (l.take (i + 1)) := by
  induction l generalizing acc with
  | nil => simp only [total_nil, Nat.cast_zero] at hhigh; omega
  | cons a l ih =>
    simp only [total_cons, Nat.cast_add] at hhigh
    by_cases hsel : selected < acc + a.weight
    · exact ⟨0, by simp, by simp [selectSRV, hsel], by simpa using hlow, by simpa using hsel⟩
    · have hlow' : acc + a.weight ≤ selected := by omega
      obtain ⟨i, hi, heq, hl, hh⟩ := ih hlow' (by omega)
      refine ⟨i + 1, by simpa using hi, by simp [selectSRV, hsel, heq], ?_, ?_⟩
      · simp only [List.take_succ_cons, total_cons, Nat.cast_add]
        omega
      · simp only [List.take_succ_cons, total_cons, Nat.cast_add]
        omega

end Loop

/-- The first records of one transport and one priority. -/
def headRun : List SRV → List SRV
  | [] => []
  | srv :: rest => (srv :: rest).takeWhile (SRV.sameRun srv)

def afterRun : List SRV → List SRV
  | [] => []
  | srv :: rest => (srv :: rest).dropWhile (SRV.sameRun srv)

section Runs
variable {l run after : List SRV} {a b : SRV}

theorem SRV.sameRun_iff : SRV.sameRun a b = true ↔ b.priority = a.priority ∧ b.transport = a.transport := by
  simp [SRV.sameRun]

theorem headRun_append_afterRun (l : List SRV) : headRun l ++ afterRun l = l := by
  cases l with
  | nil => rfl
  | cons srv rest => exact List.takeWhile_append_dropWhile

theorem headRun_isFront (l : List SRV) : headRun l <+: l := ⟨afterRun l, headRun_append_afterRun l⟩

theorem headRun_ne_nil (h : l ≠ []) : headRun l ≠ [] := by
  cases l with
  | nil => exact absurd rfl h
  | cons srv rest => simp [headRun, SRV.sameRun]

theorem sameRun_of_mem_headRun (ha : a ∈ headRun l) (hb : b ∈ headRun l) : SRV.sameRun a b := by
  cases l with
  | nil => cases ha
  | cons srv rest =>
    have h1 := SRV.sameRun_iff.mp (List.mem_takeWhile_imp ha)
    have h2 := SRV.sameRun_iff.mp (List.mem_takeWhile_imp hb)
    exact SRV.sameRun_iff.mpr ⟨h2.1.trans h1.1.symm, h2.2.trans h1.2.symm⟩

theorem head_afterRun (ha : a ∈ headRun l) (hb : b ∈ (afterRun l).head?) : SRV.sameRun a b = false := by
  cases l with
  | nil => cases ha
  | cons srv rest =>
    have h1 := SRV.sameRun_iff.mp (List.mem_takeWhile_imp ha)
    have h2 : SRV.sameRun srv b = false := by
      have hhead := List.head?_dropWhile_not (SRV.sameRun srv) (srv :: rest)
      rw [afterRun] at hb
      rw [Option.mem_def.mp hb] at hhead
      exact hhead
    rw [Bool.eq_false_iff] at h2 ⊢
    intro h
    apply h2
    rw [SRV.sameRun_iff] at h ⊢
    exact ⟨h.1.trans h1.1, h.2.trans h1.2⟩

/-- Records of one transport and one priority in front of others are the first run. -/
theorem headRun_append (hrun : run ≠ []) (hsame : ∀ a ∈ run, ∀ b ∈ run, SRV.sameRun a b)
    (hafter : ∀ a ∈ run, ∀ b ∈ after.head?, SRV.sameRun a b = false) :
    headRun (run ++ after) = run ∧ afterRun (run ++ after) = after := by
  obtain ⟨srv, rest, rfl⟩ := List.exists_cons_of_ne_nil hrun
  have hall : ∀ b ∈ srv :: rest, SRV.sameRun srv b := hsame srv List.mem_cons_self
  cases after with
  | nil =>
    simp only [List.append_nil]
    exact ⟨List.takeWhile_eq_self_iff.mpr hall, List.dropWhile_eq_nil_iff.mpr hall⟩
  | cons b after =>
    have hb : SRV.sameRun srv b = false := hafter srv List.mem_cons_self b rfl
    constructor
    · change ((srv :: rest) ++ b :: after).takeWhile _ = _
      rw [List.takeWhile_append_of_pos hall, List.takeWhile_cons_of_neg (by simp [hb]),
        List.append_nil]
    · change ((srv :: rest) ++ b :: after).dropWhile _ = _
      rw [List.dropWhile_append_of_pos hall, List.dropWhile_cons_of_neg (by simp [hb])]

/-- The first run without one of its records, if it had others. -/
theorem headRun_eraseIdx {i : ℕ} (hi : i < (headRun l).length)
    (hne : (headRun l).eraseIdx i ≠ []) :
    headRun (l.eraseIdx i) = (headRun l).eraseIdx i ∧ afterRun (l.eraseIdx i) = afterRun l := by
  have hl : l.eraseIdx i = (headRun l).eraseIdx i ++ afterRun l := by
    conv_lhs => rw [← headRun_append_afterRun l]
    exact List.eraseIdx_append_of_lt_length hi _
  rw [hl]
  apply headRun_append hne
  · intro a ha b hb
    exact sameRun_of_mem_headRun (List.mem_of_mem_eraseIdx ha) (List.mem_of_mem_eraseIdx hb)
  · intro a ha b hb
    exact head_afterRun (List.mem_of_mem_eraseIdx ha) hb

theorem eraseIdx_eq_append {i : ℕ} (hi : i < (headRun l).length) :
    l.eraseIdx i = (headRun l).eraseIdx i ++ afterRun l := by
  conv_lhs => rw [← headRun_append_afterRun l]
  exact List.eraseIdx_append_of_lt_length hi _

end Runs

namespace SrvSelection
variable {s : SrvSelection}

/-- The state between two calls: no query is out, a transport that has been chosen is that of all
records, and the weight that is carried is that of the first run. -/
structure Ready (s : SrvSelection) : Prop where
  count : s.mSRVCount = 0
  transport : s.mHaveChosenTransport = true → ∀ a ∈ s.mSRVResults, a.transport = s.mTransport
  carried : s.mCumulativeWeight = 0 ∨ s.mCumulativeWeight = total SRV.weight (headRun s.mSRVResults)

/-- The weight below which a number is drawn is that of the first run. -/
theorem Ready.weight (h : Ready s) {srv : SRV} {rest : List SRV}
    (hl : s.mSRVResults = srv :: rest) {transport : TransportType}
    (ht : transport = srv.transport) :
    (if s.mCumulativeWeight = 0 then
        ((total SRV.weight (s.mSRVResults.takeWhile fun i =>
          i.priority == srv.priority && i.transport == transport) : ℕ) : ℤ)
      else s.mCumulativeWeight) = total SRV.weight (headRun s.mSRVResults) := by
  split_ifs with hzero
  · rw [hl, ht]
    rfl
  · exact h.carried.resolve_left hzero

/-- The loop stops inside of the first run, at the record that the number chooses. -/
theorem selectSRV_headRun {l : List SRV} (hne : l ≠ []) (random : ℕ) {W : ℤ}
    (hW : W = total SRV.weight (headRun l)) :
    ∃ i, ∃ h : i < l.length, Chosen SRV.weight (headRun l) random i ∧
      selectSRV (if W ≠ 0 then (random : ℤ).tmod W else -1) 0 l = some (l[i], l.eraseIdx i) := by
  have hpos : 0 < l.length := List.length_pos_iff.mpr hne
  have hsplit := headRun_append_afterRun l
  by_cases hzero : total SRV.weight (headRun l) = 0
  · have hrun : 0 < (headRun l).length := List.length_pos_iff.mpr (headRun_ne_nil hne)
    refine ⟨0, hpos, ⟨hrun, by rw [if_pos hzero]⟩, ?_⟩
    rw [hW, hzero, if_neg (by simp), selectSRV_neg hne]
    simp [List.head_eq_getElem, List.eraseIdx_zero]
  · have hmod : random % total SRV.weight (headRun l) < total SRV.weight (headRun l) :=
      Nat.mod_lt _ (by omega)
    have htmod : (random : ℤ).tmod (total SRV.weight (headRun l)) =
        ((random % total SRV.weight (headRun l) : ℕ) : ℤ) := by
      rw [Int.tmod_eq_emod_of_nonneg (by omega)]
      exact (Int.natCast_mod _ _).symm
    have htotal : total SRV.weight l =
        total SRV.weight (headRun l) + total SRV.weight (afterRun l) := by
      rw [← total_append, hsplit]
    have hdrawn : (0 : ℤ) ≤ ((random % total SRV.weight (headRun l) : ℕ) : ℤ) := by omega
    have hbelow : ((random % total SRV.weight (headRun l) : ℕ) : ℤ) <
        0 + (total SRV.weight l : ℕ) := by omega
    obtain ⟨i, hi, heq, hlow, hhigh⟩ := selectSRV_spec hdrawn hbelow
    have htake (j : ℕ) (hj : (headRun l).length ≤ j) :
        total SRV.weight (headRun l) ≤ total SRV.weight (l.take j) := by
      have hmono : total SRV.weight (l.take (headRun l).length) ≤ total SRV.weight (l.take j) :=
        total_take_mono l hj
      rwa [← List.prefix_iff_eq_take.mp (headRun_isFront l)] at hmono
    have hinside : i < (headRun l).length := by
      by_contra hge
      have := htake i (by omega)
      omega
    have hfront (j : ℕ) (hj : j ≤ (headRun l).length) : l.take j = (headRun l).take j := by
      obtain ⟨after, hafter⟩ := headRun_isFront l
      conv_lhs => rw [← hafter]
      exact List.take_append_of_le_length hj
    rw [hfront i (by omega)] at hlow
    rw [hfront (i + 1) (by omega)] at hhigh
    refine ⟨i, hi, ⟨hinside, ?_⟩, ?_⟩
    · rw [if_neg hzero]
      omega
    · rw [hW, if_pos (by exact_mod_cast hzero), htmod, heq]

/-- What is carried to the next call is the weight of the other records of the run. -/
theorem carried_eq {l : List SRV} {i w : ℕ} {srv : SRV} (hi : i < (headRun l).length)
    (hmem : srv ∈ headRun l) (hw : total SRV.weight ((headRun l).eraseIdx i) + w =
      total SRV.weight (headRun l)) :
    (match l.eraseIdx i with
      | [] => (total SRV.weight (headRun l) : ℤ) - w
      | head :: _ =>
        if srv.priority ≠ head.priority ∨ srv.transport ≠ head.transport then 0
        else (total SRV.weight (headRun l) : ℤ) - w) =
      (total SRV.weight ((headRun l).eraseIdx i) : ℤ) := by
  have hsplit := eraseIdx_eq_append hi
  cases hrun : (headRun l).eraseIdx i with
  | nil =>
    rw [hrun, total_nil] at hw
    rw [hsplit, hrun, List.nil_append, total_nil]
    cases hafter : afterRun l with
    | nil => simp only; omega
    | cons head after =>
      have hother : SRV.sameRun srv head = false := head_afterRun hmem (by simp [hafter])
      have hne : srv.priority ≠ head.priority ∨ srv.transport ≠ head.transport := by
        rw [← not_and_or]
        intro ⟨hp, ht⟩
        rw [SRV.sameRun_iff.mpr ⟨hp.symm, ht.symm⟩] at hother
        cases hother
      exact if_pos hne
  | cons head run =>
    have hhead : head ∈ headRun l := List.mem_of_mem_eraseIdx (hrun ▸ List.mem_cons_self)
    obtain ⟨hp, ht⟩ := SRV.sameRun_iff.mp (sameRun_of_mem_headRun hmem hhead)
    rw [hsplit, hrun, List.cons_append]
    rw [hrun] at hw
    simp only [hp, ht, ne_eq, not_true_eq_false, or_self, if_false]
    omega

/-- A call draws from the first run by weight and leaves the other records. -/
theorem retrieveSRV_spec (h : Ready s) (hne : s.mSRVResults ≠ []) (random : ℕ) :
    ∃ i, ∃ hi : i < s.mSRVResults.length, ∃ carried,
      Chosen SRV.weight (headRun s.mSRVResults) random i ∧
      s.retrieveSRV random = some (s.mSRVResults[i],
        { s with mSRVResults := s.mSRVResults.eraseIdx i, mCumulativeWeight := carried }) ∧
      Ready { s with mSRVResults := s.mSRVResults.eraseIdx i, mCumulativeWeight := carried } := by
  obtain ⟨srv, rest, hl⟩ := List.exists_cons_of_ne_nil hne
  have htransport : (if s.mHaveChosenTransport then s.mTransport else srv.transport) =
      srv.transport := by
    split_ifs with hchosen
    · exact (h.transport hchosen srv (hl ▸ List.mem_cons_self)).symm
    · rfl
  have hweight := h.weight hl htransport
  obtain ⟨i, hi, hchosen, hselect⟩ := selectSRV_headRun hne random hweight
  have hinside : i < (headRun s.mSRVResults).length := hchosen.1
  have hget : (headRun s.mSRVResults)[i] = s.mSRVResults[i] := (headRun_isFront _).getElem hinside
  have herase : total SRV.weight ((headRun s.mSRVResults).eraseIdx i) +
      (headRun s.mSRVResults)[i].weight = total SRV.weight (headRun s.mSRVResults) :=
    total_eraseIdx hinside
  rw [hget] at herase
  have hmem : srv ∈ headRun s.mSRVResults := by simp [hl, headRun, SRV.sameRun]
  refine ⟨i, hi, total SRV.weight ((headRun s.mSRVResults).eraseIdx i), hchosen, ?_, h.count, ?_, ?_⟩
  · have hassert : ¬ (s.mHaveChosenTransport = true ∧ srv.transport ≠
        if s.mHaveChosenTransport then s.mTransport else srv.transport) := by simp [htransport]
    unfold retrieveSRV
    split
    next hnil => exact absurd hnil hne
    next srv' rest' hl' =>
      obtain ⟨rfl, rfl⟩ := List.cons_eq_cons.mp (hl.symm.trans hl')
      have hcount : ¬ s.mSRVCount ≠ 0 := not_not_intro h.count
      simp only [if_neg hcount, if_neg hassert, hselect]
      rw [hweight, htransport, carried_eq hinside hmem herase]
  · intro hset a ha
    exact h.transport hset a (List.mem_of_mem_eraseIdx ha)
  · by_cases hlast : (headRun s.mSRVResults).eraseIdx i = []
    · left
      simp [hlast]
    · right
      simp only
      rw [(headRun_eraseIdx hinside hlast).1]

end SrvSelection

end Resiprocate.Dns
