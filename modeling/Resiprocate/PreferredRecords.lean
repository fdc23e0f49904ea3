import Resiprocate.RRVip

/-! What a look-up returns after any others. The ranks of the records are known from how long ago each was
preferred. -/
namespace Resiprocate.Dns
open TransitionSystem Rutil

namespace Ranked
variable {ρ : Type} {A : Ranked ρ} {first records : List ρ} {past : List ℕ} {j : ℕ}

/-! ### The least rank -/

theorem foldl_least (rs : List ρ) (x : ℤ) :
    (∀ r ∈ rs, rs.foldl (fun min r => if A.rank r < min then A.rank r else min) x ≤ A.rank r) ∧
      rs.foldl (fun min r => if A.rank r < min then A.rank r else min) x ≤ x ∧
      (rs.foldl (fun min r => if A.rank r < min then A.rank r else min) x = x ∨
        ∃ r ∈ rs, rs.foldl (fun min r => if A.rank r < min then A.rank r else min) x = A.rank r) := by
  induction rs generalizing x with
  | nil => simp
  | cons r rs ih =>
    obtain ⟨hall, hle, hfrom⟩ := ih (if A.rank r < x then A.rank r else x)
    have hr : (if A.rank r < x then A.rank r else x) ≤ A.rank r := by split_ifs <;> omega
    have hx : (if A.rank r < x then A.rank r else x) ≤ x := by split_ifs <;> omega
    simp only [List.foldl_cons]
    refine ⟨?_, hle.trans hx, ?_⟩
    · intro q hq
      rcases List.mem_cons.mp hq with rfl | hq
      · exact hle.trans hr
      · exact hall q hq
    · rcases hfrom with heq | ⟨q, hq, heq⟩
      · rw [heq]
        split_ifs
        · exact .inr ⟨r, List.mem_cons_self, rfl⟩
        · exact .inl rfl
      · exact .inr ⟨q, List.mem_cons_of_mem _ hq, heq⟩

theorem rankAt_of_lt (h : j < records.length) : A.rankAt records j = A.rank records[j] := by
  simp [rankAt, h]

theorem least_le (h : j < records.length) : A.least records ≤ A.rankAt records j := by
  rw [rankAt_of_lt h]
  cases records with
  | nil => nomatch h
  | cons r rs => exact (foldl_least (r :: rs) _).1 _ (List.getElem_mem h)

theorem exists_least (h : records ≠ []) : ∃ i < records.length, A.rankAt records i = A.least records := by
  cases records with
  | nil => exact absurd rfl h
  | cons r rs =>
    have hmem : ∃ q ∈ r :: rs, A.least (r :: rs) = A.rank q := by
      rcases (foldl_least (A := A) (r :: rs) (A.rank r)).2.2 with heq | hq
      · exact ⟨r, List.mem_cons_self, heq⟩
      · exact hq
    obtain ⟨q, hq, heq⟩ := hmem
    obtain ⟨i, hi, rfl⟩ := List.getElem_of_mem hq
    exact ⟨i, hi, by rw [rankAt_of_lt hi, heq]⟩

theorem least_eq {x : ℤ} (hx : ∃ i < records.length, A.rankAt records i = x)
    (hle : ∀ i < records.length, x ≤ A.rankAt records i) : A.least records = x := by
  obtain ⟨i, hi, rfl⟩ := hx
  have hne : records ≠ [] := by
    rintro rfl
    cases hi
  obtain ⟨k, hk, hleast⟩ := exists_least (A := A) hne
  exact le_antisymm (least_le hi) (hleast ▸ hle k hk)

/-! ### The ranks after some look-ups -/

/-- A record is ahead of all that were preferred before it, and of all that never were. -/
def shown (A : Ranked ρ) (first : List ρ) (past : List ℕ) (j : ℕ) : ℤ :=
  if j ∈ past then A.least first + past.idxOf j else A.rankAt first j + past.length

def laidOut (A : Ranked ρ) (first : List ρ) (past : List ℕ) : List ρ :=
  first.mapIdx fun j r => A.setRank r (A.shown first past j)

theorem length_laidOut : (A.laidOut first past).length = first.length := List.length_mapIdx

theorem lt_length_laidOut (h : j < first.length) : j < (A.laidOut first past).length := h.trans_eq length_laidOut.symm

theorem rankAt_laidOut (h : j < first.length) : A.rankAt (A.laidOut first past) j = A.shown first past j := by
  rw [rankAt_of_lt (lt_length_laidOut h)]
  simp [laidOut, A.rank_set]

theorem laidOut_nil : A.laidOut first [] = first := by
  refine List.ext_getElem length_laidOut fun j hj hj' => ?_
  simp [laidOut, shown, rankAt_of_lt hj', A.set_rank]

/-- Nothing but the ranks changes. -/
theorem map_laidOut {β : Type} {f : ρ → β} (hf : ∀ r x, f (A.setRank r x) = f r) :
    (A.laidOut first past).map f = first.map f := by
  refine List.ext_getElem (by simp [length_laidOut]) fun j hj hj' => ?_
  simp [laidOut, hf]

theorem findIdx_laidOut (value : Bytes) :
    (A.laidOut first past).findIdx? (A.isSameValue · value) = first.findIdx? (A.isSameValue · value) := by
  have h : (A.laidOut first past).map (A.isSameValue · value) = first.map (A.isSameValue · value) :=
    map_laidOut fun r x => A.isSameValue_set r x value
  have hfind (l : List ρ) :
      l.findIdx? (A.isSameValue · value) = (l.map (A.isSameValue · value)).findIdx? id := by
    simp [List.findIdx?_map]
  rw [hfind, h, ← hfind]

theorem least_le_shown (h : j < first.length) : A.least first ≤ A.shown first past j := by
  have hle := least_le (A := A) h
  simp only [shown]
  split_ifs <;> omega

theorem least_laidOut (hpast : ∀ i ∈ past, i < first.length) :
    A.least (A.laidOut first past) = A.least first := by
  cases past with
  | nil => rw [laidOut_nil]
  | cons i past =>
    have hi := hpast i List.mem_cons_self
    refine least_eq ⟨i, lt_length_laidOut hi, ?_⟩ fun j hj => ?_
    · simp [rankAt_laidOut hi, shown]
    · rw [length_laidOut] at hj
      rw [rankAt_laidOut hj]
      exact least_le_shown hj

theorem shown_cons_self (i : ℕ) : A.shown first (i :: past) i = A.least first := by simp [shown]

theorem shown_cons_of_ne {i : ℕ} (hne : j ≠ i) : A.shown first (i :: past) j = A.shown first past j + 1 := by
  simp only [shown, List.mem_cons, hne, false_or, List.length_cons]
  rw [List.idxOf_cons_ne _ hne.symm]
  split_ifs <;> push_cast <;> omega

/-! ### One look-up -/

theorem increment_of_ne {x : ℤ} (h : x ≠ 2147483647) : increment x = x + 1 := if_neg h

/-- The ranks that the transform of a vip leaves. -/
theorem rankAt_adjusted {vip : ℕ} (hj : j < first.length) (hpast : ∀ i ∈ past, i < first.length) :
    A.rankAt (((A.laidOut first past).map fun r => A.setRank r (increment (A.rank r))).modify vip
      (A.setRank · (A.least (A.laidOut first past)))) j =
      if j = vip then A.least first else increment (A.shown first past j) := by
  rw [rankAt_of_lt (by simpa [length_laidOut] using hj), least_laidOut hpast, List.getElem_modify]
  split_ifs with hvip hvip'
  · exact A.rank_set _ _
  · exact absurd hvip.symm hvip'
  · rename_i h
    exact absurd h.symm hvip
  · simp [laidOut, A.rank_set]

/-- A look-up puts its vip before all the others. -/
theorem adjusted_laidOut {vip : ℕ} (hpast : ∀ i ∈ past, i < first.length)
    (hrange : A.InRange (A.laidOut first past) vip) :
    ((A.laidOut first past).map fun r => A.setRank r (increment (A.rank r))).modify vip
      (A.setRank · (A.least (A.laidOut first past))) = A.laidOut first (vip :: past) := by
  rw [least_laidOut hpast]
  refine List.ext_getElem (by simp [length_laidOut]) fun j hj hj' => ?_
  have hlt : j < first.length := by simpa [length_laidOut] using hj
  rw [List.getElem_modify]
  split_ifs with hvip
  · subst hvip
    simp [laidOut, A.set_set, shown_cons_self]
  · have hne : A.shown first past j ≠ 2147483647 := by
      rw [← rankAt_laidOut hlt]
      exact hrange j (lt_length_laidOut hlt) (Ne.symm hvip)
    simp [laidOut, A.set_set, A.rank_set, increment_of_ne hne, shown_cons_of_ne (Ne.symm hvip)]

/-- Two records are shown in the order of when they were preferred, and otherwise as they were cached. -/
theorem shown_le_iff {k : ℕ} (hj : j < first.length) (hk : k < first.length) :
    (A.shown first past j ≤ A.shown first past k) ↔ past.idxOf j < past.idxOf k ∨
      past.idxOf j = past.idxOf k ∧ A.rankAt first j ≤ A.rankAt first k := by
  have hleast := least_le (A := A) hj
  have hleast' := least_le (A := A) hk
  simp only [shown]
  by_cases hjp : j ∈ past
  · have hlt := List.idxOf_lt_length_of_mem hjp
    by_cases hkp : k ∈ past
    · rw [if_pos hjp, if_pos hkp]
      by_cases heq : past.idxOf j = past.idxOf k
      · obtain rfl := (List.idxOf_inj hjp).mp heq
        simp
      · omega
    · rw [if_pos hjp, if_neg hkp, List.idxOf_eq_length hkp]
      omega
  · rw [if_neg hjp, List.idxOf_eq_length hjp]
    by_cases hkp : k ∈ past
    · have hlt := List.idxOf_lt_length_of_mem hkp
      rw [if_pos hkp]
      omega
    · rw [if_neg hkp, List.idxOf_eq_length hkp]
      omega

/-- The order is as it was first cached if and only if no record is ahead of one that was before it. -/
theorem shown_order_iff {P : ℕ → Prop} :
    (∀ j < first.length, P j → ∀ k < first.length, P k →
      (A.shown first past j ≤ A.shown first past k ↔ A.rankAt first j ≤ A.rankAt first k)) ↔
    ∀ j < first.length, ∀ k < first.length, P j → P k →
      past.idxOf j < past.idxOf k → A.rankAt first j < A.rankAt first k := by
  constructor
  · intro h j hj k hk hpj hpk hlt
    have hback := h k hk hpk j hj hpj
    rw [shown_le_iff hk hj] at hback
    by_contra hge
    have := hback.mpr (not_lt.mp hge)
    omega
  · intro h j hj hpj k hk hpk
    rw [shown_le_iff hj hk]
    constructor
    · rintro (hlt | ⟨-, hle⟩)
      · exact (h j hj k hk hpj hpk hlt).le
      · exact hle
    · intro hle
      rcases lt_trichotomy (past.idxOf j) (past.idxOf k) with hlt | heq | hgt
      · exact .inl hlt
      · exact .inr ⟨heq, hle⟩
      · exact absurd (h k hk j hj hpk hpj hgt) (not_lt.mpr hle)

/-- Nothing has changed if and only if no record was preferred, or all were from the last to the first. -/
theorem laidOut_eq_iff : A.laidOut first past = first ↔ A.Unseen first past none := by
  have hiff : A.laidOut first past = first ↔ ∀ j < first.length, A.shown first past j = A.rankAt first j := by
    constructor
    · intro h j hj
      rw [← rankAt_laidOut hj, h]
    · intro h
      refine List.ext_getElem length_laidOut fun j hj hj' => ?_
      simp [laidOut, h j hj', rankAt_of_lt hj', A.set_rank]
  rw [hiff]
  constructor
  · intro h
    by_cases hpast : past = []
    · exact .inl hpast
    · refine .inr fun j hj => ?_
      have hj' := h j hj
      have hpos := List.length_pos_of_ne_nil hpast
      simp only [shown] at hj'
      split_ifs at hj' with hmem
      · exact ⟨hmem, hj'.symm⟩
      · omega
  · rintro (rfl | h) j hj
    · simp [shown]
    · obtain ⟨hmem, heq⟩ := h j hj
      rw [shown, if_pos hmem, heq]


/-- What a transform leaves is as it should be exactly if no order is lost. -/
theorem served_adjusted_iff {vip : ℕ} (hvip : vip < first.length) (hpast : ∀ i ∈ past, i < first.length)
    (hleast : 0 ≤ A.least first) :
    A.Served first (((A.laidOut first past).map fun r => A.setRank r (increment (A.rank r))).modify vip
      (A.setRank · (A.least (A.laidOut first past)))) (some vip) ↔
      A.InRange (A.laidOut first past) vip ∧ A.Unseen first past (some vip) := by
  by_cases hrange : A.InRange (A.laidOut first past) vip
  · rw [adjusted_laidOut hpast hrange, iff_true_intro hrange, true_and]
    refine Iff.trans ?_ (shown_order_iff (P := fun j => j ≠ vip))
    have hshown {j : ℕ} (hj : j < first.length) (hne : j ≠ vip) :
        A.rankAt (A.laidOut first (vip :: past)) j = A.shown first past j + 1 := by
      rw [rankAt_laidOut hj, shown_cons_of_ne hne]
    constructor
    · rintro ⟨-, h⟩ j hj hne k hk hne'
      have hle := (h j hj hne).2 k hk hne'
      rwa [hshown hj hne, hshown hk hne', add_le_add_iff_right] at hle
    · intro h
      refine ⟨map_laidOut fun r x => A.set_set r x 0, fun j hj hne => ⟨?_, fun k hk hne' => ?_⟩⟩
      · rw [hshown hj hne, rankAt_laidOut hvip, shown_cons_self]
        exact Int.lt_add_one_of_le (least_le_shown hj)
      · rw [hshown hj hne, hshown hk hne', add_le_add_iff_right]
        exact h j hj hne k hk hne'
  · refine iff_of_false ?_ fun h => hrange h.1
    rintro ⟨-, h⟩
    obtain ⟨j, hj, hne, hmax⟩ : ∃ j < first.length, j ≠ vip ∧ A.shown first past j = 2147483647 := by
      simp only [InRange, length_laidOut, not_forall, not_not] at hrange
      obtain ⟨j, hj, hne, hmax⟩ := hrange
      exact ⟨j, hj, hne, by rw [← rankAt_laidOut hj, hmax]⟩
    -- the record goes round to the least `int`
    have hlt := (h j hj hne).1
    rw [rankAt_adjusted hvip hpast, rankAt_adjusted hj hpast, if_pos rfl, if_neg hne, hmax] at hlt
    have hleast : increment 2147483647 = -2147483648 := rfl
    omega

end Ranked

/-! ### A run of look-ups -/

namespace Vipped
open Ranked
variable {ρ : Type} {A : Ranked ρ} {target : Bytes} {rrType : ℕ} {first : List ρ}

/-- A look-up changes no rank out of the range of an `int`. -/
def Fits (A : Ranked ρ) (target : Bytes) (rrType : ℕ) (p : Vipped ρ × List ℕ) (e : VipCall) : Prop :=
  e = .lookUp → ∀ vip, p.1.preferred A target rrType = some vip → A.InRange p.1.records vip

theorem lookUp_records (A : Ranked ρ) (target : Bytes) (rrType : ℕ) (s : Vipped ρ) : (s.next A target rrType .lookUp).records =
    match s.preferred A target rrType with
    | none => s.records
    | some vip => (s.records.map fun r => A.setRank r (increment (A.rank r))).modify vip
      (A.setRank · (A.least s.records)) := by
  cases hrecords : s.records with
  | nil => cases h : s.vips.mTransforms (target, rrType) <;> simp [next, RRVip.go, preferred, hrecords, h]
  | cons r rs =>
    cases h : s.vips.mTransforms (target, rrType) with
    | none => simp [next, RRVip.go, RRVip.transform, preferred, hrecords, h]
    | some mVip =>
      cases hfind : (r :: rs).findIdx? (A.isSameValue · mVip) <;>
        simp [next, RRVip.go, RRVip.transform, Ranked.transform, preferred, hrecords, h, hfind]

/-- The records are laid out by what was preferred, and every index that was preferred is one of theirs. -/
structure LaidOut (A : Ranked ρ) (first : List ρ) (p : Vipped ρ × List ℕ) : Prop where
  records : p.1.records = A.laidOut first p.2
  past : ∀ i ∈ p.2, i < first.length

theorem LaidOut.preferred_lt {p : Vipped ρ × List ℕ} (h : LaidOut A first p) {vip : ℕ}
    (hvip : p.1.preferred A target rrType = some vip) : vip < first.length := by
  obtain ⟨mVip, -, hfind⟩ := Option.bind_eq_some_iff.mp hvip
  rw [h.records, findIdx_laidOut] at hfind
  exact (List.findIdx?_eq_some_iff_getElem.mp hfind).1

theorem LaidOut.next {p : Vipped ρ × List ℕ} (h : LaidOut A first p) {e : VipCall}
    (hfits : Fits A target rrType p e) :
    LaidOut A first (p.1.next A target rrType e, p.1.remember A target rrType e p.2) := by
  cases e with
  | vip => exact ⟨h.records, h.past⟩
  | removeVip => exact ⟨h.records, h.past⟩
  | lookUp =>
    cases hvip : p.1.preferred A target rrType with
    | none =>
      have hrecords := lookUp_records A target rrType p.1
      rw [hvip] at hrecords
      exact ⟨by simpa [remember, hvip] using hrecords.trans h.records, by simpa [remember, hvip] using h.past⟩
    | some vip =>
      have hrange := hfits rfl vip hvip
      have hrecords := lookUp_records A target rrType p.1
      rw [hvip, h.records] at hrecords
      rw [h.records] at hrange
      simp only [adjusted_laidOut h.past hrange] at hrecords
      refine ⟨by simpa [remember, hvip] using hrecords, fun i hi => ?_⟩
      simp only [remember, hvip, Option.toList_some, List.singleton_append, List.mem_cons] at hi
      rcases hi with rfl | hi
      · exact h.preferred_lt hvip
      · exact h.past i hi

theorem laidOut_of_reach {p : Vipped ρ × List ℕ}
    (h : Reach (remembered A target rrType first) (Fits A target rrType) p) : LaidOut A first p := by
  refine h.invariant (P := LaidOut A first) (fun p hp => ?_) fun p e _ hs _ hfits => hs.next hfits
  obtain ⟨s, past⟩ := p
  obtain ⟨hrecords, rfl⟩ := hp
  exact ⟨(show s.records = first from hrecords).trans laidOut_nil.symm, nofun⟩

/-- After any look-ups that stay in the range of an `int`, a look-up returns what it should exactly if it
stays in the range and the earlier ones do not show. -/
theorem lookUp_served_iff (A : Ranked ρ) (target : Bytes) (rrType : ℕ) {first : List ρ}
    (hcached : ∀ r ∈ first, 0 ≤ A.rank r) {p : Vipped ρ × List ℕ}
    (h : Reach (remembered A target rrType first) (Fits A target rrType) p) :
    A.Served first ((remembered A target rrType first).next p .lookUp).1.records
        (p.1.preferred A target rrType) ↔
      Fits A target rrType p .lookUp ∧ A.Unseen first p.2 (p.1.preferred A target rrType) := by
  have hlaid := laidOut_of_reach h
  have hrecords := lookUp_records A target rrType p.1
  have hnext : ((remembered A target rrType first).next p .lookUp).1.records =
    (p.1.next A target rrType .lookUp).records := rfl
  rw [hnext, hrecords]
  cases hvip : p.1.preferred A target rrType with
  | none =>
    have hfits : Fits A target rrType p .lookUp := by simp [Fits, hvip]
    rw [iff_true_intro hfits, true_and, hlaid.records]
    exact laidOut_eq_iff
  | some vip =>
    have hlt := hlaid.preferred_lt hvip
    have hleast : 0 ≤ A.least first := by
      obtain ⟨i, hi, heq⟩ := exists_least (A := A) (List.ne_nil_of_length_pos (by omega : 0 < first.length))
      rw [← heq, rankAt_of_lt hi]
      exact hcached _ (List.getElem_mem hi)
    have hfits : Fits A target rrType p .lookUp ↔ A.InRange (A.laidOut first p.2) vip := by
      simp [Fits, hvip, hlaid.records]
    rw [hfits, hlaid.records]
    exact served_adjusted_iff hlt hlaid.past hleast

/-! ### Two servers -/

def server (name : String) (priority : ℤ) : DnsSrvRecord :=
  ⟨priority, 0, 5060, literal name, literal "_sip._udp.example.com"⟩

/-- The second server is preferred, and the records are looked up. -/
def preferSecond : List VipCall :=
  [.vip (literal "example.com") T_SRV (literal "b:5060"), .lookUp]

def servers : List DnsSrvRecord := [server "a" 10, server "b" 20]

def startServers : Vipped DnsSrvRecord × List ℕ := (⟨⟨fun _ => none⟩, servers⟩, [])

/-- The records are looked up once. -/
theorem lookUp_served_first :
    srvRecords.Served servers ((remembered srvRecords (literal "example.com") T_SRV servers).next
      ((remembered srvRecords (literal "example.com") T_SRV servers).next startServers
        (.vip (literal "example.com") T_SRV (literal "b:5060"))) .lookUp).1.records (some 1) := by
  have hreach : Reach (remembered srvRecords (literal "example.com") T_SRV servers)
      (Fits srvRecords (literal "example.com") T_SRV)
      ((remembered srvRecords (literal "example.com") T_SRV servers).next startServers
        (.vip (literal "example.com") T_SRV (literal "b:5060"))) := by
    refine .step (.init ⟨rfl, rfl⟩) ?_ nofun
    rintro _ _ _ ⟨⟩
    decide
  refine (lookUp_served_iff srvRecords (literal "example.com") T_SRV (by decide) hreach).mpr ⟨?_, ?_⟩
  · rintro - _ ⟨⟩
    decide
  · intro j _ k _ _ _ hlt
    exact absurd hlt (lt_irrefl 0)

/-- After the vip is removed, the priorities are not those that were cached. -/
theorem not_lookUp_served : ∃ p,
    Reach (remembered srvRecords (literal "example.com") T_SRV servers) anyStep p ∧
    p.1.preferred srvRecords (literal "example.com") T_SRV = none ∧
    ((remembered srvRecords (literal "example.com") T_SRV servers).next p .lookUp).1.records =
      [server "a" 11, server "b" 10] ∧ [server "a" 11, server "b" 10] ≠ servers := by
  have hstart : Reach (remembered srvRecords (literal "example.com") T_SRV servers) anyStep startServers :=
    .init ⟨rfl, rfl⟩
  refine ⟨_, hstart.run (preferSecond ++ [.removeVip (literal "example.com") T_SRV]) ?_, by decide, by decide, by decide⟩
  refine ⟨⟨?_, trivial⟩, ⟨nofun, trivial⟩, ⟨nofun, trivial⟩, trivial⟩
  rintro _ _ _ ⟨⟩
  decide

end Vipped

end Resiprocate.Dns
