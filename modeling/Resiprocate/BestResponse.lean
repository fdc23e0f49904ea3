import Mathlib
import Resiprocate.RequestContextCalls

/-! Which response of a forked request is forwarded: the first 6xx, else one of least priority,
with the challenges of every 401 and 407. -/
namespace Resiprocate.Repro

/-- A final response that is not a success. -/
def SipResponse.isFailure {υ : Type*} (r : SipResponse υ) : Bool :=
  300 ≤ r.statusCode && r.statusCode ≤ 699

/-- A 401 or 407. -/
def SipResponse.challenges {υ : Type*} (r : SipResponse υ) : Bool :=
  r.statusCode == 401 || r.statusCode == 407

/-- The priority of a response, 0 for every 6xx. -/
def rank {υ : Type*} (r : SipResponse υ) : ℤ :=
  if r.isGlobal then 0 else getPriority r.statusCode

/-- The least rank; a context starts with 50. -/
def leastRank {υ : Type*} (rs : List (SipResponse υ)) : ℤ := (rs.map rank).foldl min 50

/-- What the choice among `rs` is to be. -/
structure Picked {υ : Type*} (rs : List (SipResponse υ)) (best : SipResponse υ) : Prop where
  firstGlobal : ∀ r, rs.find? SipResponse.isGlobal = some r → best = r
  least : rs.find? SipResponse.isGlobal = none →
    ∀ r ∈ rs, getPriority best.statusCode ≤ getPriority r.statusCode
  attained : rs.find? SipResponse.isGlobal = none →
    ∃ r ∈ rs, getPriority best.statusCode = getPriority r.statusCode
  challenges : best.challenges → ∀ r ∈ rs, r.challenges →
    r.wwwAuthenticates ⊆ best.wwwAuthenticates ∧ r.proxyAuthenticates ⊆ best.proxyAuthenticates

section Priority

theorem getPriority_pos {code : ℤ} (h : 300 ≤ code) : 1 ≤ getPriority code := by
  unfold getPriority
  repeat' split
  all_goals omega

theorem getPriority_le (code : ℤ) : getPriority code ≤ 49 := by
  unfold getPriority
  repeat' split
  all_goals omega

theorem getPriority_redirect {code : ℤ} (h : code / 100 = 3) : getPriority code = 5 := by
  unfold getPriority
  rw [if_pos (by omega)]

theorem getPriority_eq_four {code : ℤ} : getPriority code = 4 ↔ code = 401 ∨ code = 407 := by
  constructor
  · intro h
    unfold getPriority at h
    repeat' split at h
    all_goals omega
  · rintro (rfl | rfl) <;> rfl

theorem getPriority_eq_five {code : ℤ} (h : getPriority code = 5) : code ≤ 399 := by
  unfold getPriority at h
  repeat' split at h
  all_goals omega

variable {υ : Type*} {r : SipResponse υ}

theorem isFailure_iff : r.isFailure = true ↔ 300 ≤ r.statusCode ∧ r.statusCode ≤ 699 := by
  simp [SipResponse.isFailure]

theorem isGlobal_iff : r.isGlobal = true ↔ r.statusCode / 100 = 6 := by
  simp [SipResponse.isGlobal]

theorem challenges_iff : r.challenges = true ↔ r.statusCode = 401 ∨ r.statusCode = 407 := by
  simp [SipResponse.challenges]

theorem rank_global (h : r.isGlobal = true) : rank r = 0 := if_pos h

theorem rank_local (h : r.isGlobal = false) : rank r = getPriority r.statusCode := by
  simp [rank, h]

theorem rank_pos (hf : r.isFailure = true) (h : r.isGlobal = false) : 1 ≤ rank r := by
  rw [rank_local h]
  exact getPriority_pos (isFailure_iff.1 hf).1

theorem rank_le (r : SipResponse υ) : rank r ≤ 49 := by
  unfold rank
  split
  · omega
  · exact getPriority_le _

theorem rank_eq_four : rank r = 4 ↔ r.challenges = true := by
  rw [challenges_iff]
  unfold rank
  split
  · next h =>
    rw [isGlobal_iff] at h
    omega
  · exact getPriority_eq_four

theorem leastRank_concat (rs : List (SipResponse υ)) (r : SipResponse υ) :
    leastRank (rs ++ [r]) = min (leastRank rs) (rank r) := by
  simp [leastRank]

theorem leastRank_le {rs : List (SipResponse υ)} (h : r ∈ rs) : leastRank rs ≤ rank r := by
  induction rs using List.reverseRecOn with
  | nil => simp at h
  | append_singleton rs x ih =>
    rw [leastRank_concat]
    rcases List.mem_append.1 h with hr | hx
    · have := ih hr
      omega
    · obtain rfl := List.mem_singleton.1 hx
      omega

theorem leastRank_attained {rs : List (SipResponse υ)} (h : rs ≠ []) :
    ∃ r ∈ rs, rank r = leastRank rs := by
  induction rs using List.reverseRecOn with
  | nil => exact absurd rfl h
  | append_singleton rs x ih =>
    rw [leastRank_concat]
    by_cases hx : rank x ≤ leastRank rs
    · exact ⟨x, by simp, by omega⟩
    · have hne : rs ≠ [] := by
        rintro rfl
        exact hx ((rank_le x).trans (by simp [leastRank]))
      obtain ⟨r, hr, hrank⟩ := ih hne
      exact ⟨r, by simp [hr], by omega⟩

/-- The order in which responses come does not matter to the least rank. -/
theorem leastRank_perm {rs rs' : List (SipResponse υ)} (h : rs.Perm rs') :
    leastRank rs = leastRank rs' :=
  (h.map rank).foldl_eq 50

end Priority

namespace Core
variable {υ : Type*} {seen : List (SipResponse υ)} {c : Core υ} {r : SipResponse υ}

/-- The kept response is the one to pick among those seen so far. -/
structure Kept (seen : List (SipResponse υ)) (c : Core υ) : Prop where
  failures : ∀ x ∈ seen, x.isFailure = true
  failure : seen ≠ [] → c.bestResponse.isFailure = true
  method : seen ≠ [] → c.bestResponse.method = c.originalMethod
  priority : c.bestPriority = leastRank seen
  unset : seen = [] → c.bestResponse.isGlobal = false
  ranked : seen ≠ [] → rank c.bestResponse = leastRank seen
  firstGlobal : ∀ g, seen.find? SipResponse.isGlobal = some g → c.bestResponse = g
  challenges : c.bestResponse.challenges = true → ∀ x ∈ seen, x.challenges = true →
    x.wwwAuthenticates ⊆ c.bestResponse.wwwAuthenticates ∧
    x.proxyAuthenticates ⊆ c.bestResponse.proxyAuthenticates

namespace Kept

theorem rank_seen (h : c.Kept seen) (hlt : leastRank seen < 50) :
    rank c.bestResponse = leastRank seen := by
  apply h.ranked
  rintro rfl
  simp [leastRank] at hlt

theorem ne_nil (_ : c.Kept seen) (hle : leastRank seen ≤ rank r) : seen ≠ [] := by
  rintro rfl
  have := rank_le r
  simp [leastRank] at hle
  omega

theorem leastRank_nonneg (h : c.Kept seen) : 0 ≤ leastRank seen := by
  by_cases hne : seen = []
  · simp [hne, leastRank]
  · obtain ⟨x, hx, hrank⟩ := leastRank_attained hne
    rw [← hrank]
    by_cases hg : x.isGlobal = true
    · rw [rank_global hg]
    · have := rank_pos (h.failures x hx) (by simpa using hg)
      omega

/-- The kept response is a 6xx exactly when one has been seen. -/
theorem isGlobal_iff (h : c.Kept seen) :
    c.bestResponse.isGlobal = true ↔ seen.find? SipResponse.isGlobal ≠ none := by
  constructor
  · intro hg hnone
    by_cases hne : seen = []
    · simp [h.unset hne] at hg
    · obtain ⟨x, hx, hleast⟩ := leastRank_attained hne
      have hlocal : x.isGlobal = false := by simpa using List.find?_eq_none.1 hnone x hx
      have hpos := rank_pos (h.failures x hx) hlocal
      have hbest := h.ranked hne
      rw [rank_global hg] at hbest
      omega
  · intro hsome
    obtain ⟨g, hg⟩ := Option.ne_none_iff_exists'.1 hsome
    rw [h.firstGlobal g hg]
    exact List.find?_some hg

theorem picked (h : c.Kept seen) (hne : seen ≠ []) : Picked seen c.bestResponse := by
  have hlocal : seen.find? SipResponse.isGlobal = none →
      getPriority c.bestResponse.statusCode = leastRank seen ∧
      ∀ x ∈ seen, rank x = getPriority x.statusCode := by
    intro hnone
    refine ⟨?_, fun x hx => rank_local (by simpa using List.find?_eq_none.1 hnone x hx)⟩
    rw [← h.ranked hne, rank_local]
    by_contra hg
    exact h.isGlobal_iff.1 (by simpa using hg) hnone
  constructor
  · exact h.firstGlobal
  · intro hnone x hx
    obtain ⟨hbest, hranks⟩ := hlocal hnone
    rw [hbest, ← hranks x hx]
    exact leastRank_le hx
  · intro hnone
    obtain ⟨hbest, hranks⟩ := hlocal hnone
    obtain ⟨x, hx, hleast⟩ := leastRank_attained hne
    exact ⟨x, hx, by rw [hbest, ← hleast, hranks x hx]⟩
  · exact h.challenges

theorem failures_concat (h : c.Kept seen) (hr : r.isFailure = true) :
    ∀ x ∈ seen ++ [r], x.isFailure = true := by
  intro x hx
  rcases List.mem_append.1 hx with hx | hx
  · exact h.failures x hx
  · rwa [List.mem_singleton.1 hx]

/-- A response that takes the place of the kept one. -/
theorem replace (h : c.Kept seen) (hr : r.isFailure = true) (hm : r.method = c.originalMethod)
    (hlt : rank r < leastRank seen) (priority : ℤ) (hp : priority = rank r)
    (isResponse : Bool) :
    { c with bestPriority := priority, bestResponse := r,
             bestIsResponse := isResponse }.Kept (seen ++ [r]) where
  failures := h.failures_concat hr
  failure _ := hr
  method _ := hm
  priority := by
    rw [leastRank_concat]
    change priority = _
    omega
  unset hnil := by simp at hnil
  ranked _ := by
    rw [leastRank_concat]
    change rank r = _
    omega
  firstGlobal g hg := by
    change r = g
    cases hseen : seen.find? SipResponse.isGlobal with
    | none =>
      rw [List.find?_append, hseen, Option.none_or] at hg
      exact List.mem_singleton.1 (List.mem_of_find?_eq_some hg) |>.symm
    | some g' =>
      -- the least rank is 0 already
      have hglobal := h.isGlobal_iff.2 (by simp [hseen])
      have hne : seen ≠ [] := by
        rintro rfl
        simp at hseen
      have hbest := h.ranked hne
      rw [rank_global hglobal] at hbest
      have hpos : 0 ≤ rank r := by
        by_cases hg : r.isGlobal = true
        · rw [rank_global hg]
        · have := rank_pos hr (by simpa using hg)
          omega
      omega
  challenges hchal x hx hxc := by
    change r.challenges = true at hchal
    rcases List.mem_append.1 hx with hx | hx
    · have hle := leastRank_le hx
      rw [rank_eq_four.2 hxc] at hle
      rw [rank_eq_four.2 hchal] at hlt
      omega
    · obtain rfl := List.mem_singleton.1 hx
      exact ⟨List.Subset.refl _, List.Subset.refl _⟩

/-- A response that is passed over. -/
theorem passOver (h : c.Kept seen) (hr : r.isFailure = true) (hle : leastRank seen ≤ rank r)
    (hglobal : r.isGlobal = true → c.bestResponse.isGlobal = true)
    (hchal : r.challenges = true → c.bestResponse.challenges = false) :
    c.Kept (seen ++ [r]) where
  failures := h.failures_concat hr
  failure _ := h.failure (h.ne_nil hle)
  method _ := h.method (h.ne_nil hle)
  priority := by
    rw [leastRank_concat, h.priority]
    omega
  unset hnil := by simp at hnil
  ranked _ := by
    have hseen := h.rank_seen (by have := rank_le r; omega)
    rw [leastRank_concat, hseen]
    omega
  firstGlobal g hg := by
    cases hseen : seen.find? SipResponse.isGlobal with
    | none =>
      rw [List.find?_append, hseen, Option.none_or] at hg
      have hrg := List.find?_some hg
      rw [← List.mem_singleton.1 (List.mem_of_find?_eq_some hg)] at hglobal
      exact absurd hseen (h.isGlobal_iff.1 (hglobal hrg))
    | some g' =>
      rw [List.find?_append, hseen, Option.some_or] at hg
      exact h.firstGlobal g (hseen.trans hg)
  challenges hbest x hx hxc := by
    rcases List.mem_append.1 hx with hx | hx
    · exact h.challenges hbest x hx hxc
    · obtain rfl := List.mem_singleton.1 hx
      simp [hchal hxc] at hbest

/-- A response of the kept one's rank, merged into it: the result `merged` keeps the rank and
carries what both carried. -/
theorem merge (h : c.Kept seen) (hr : r.isFailure = true) (hlocal : r.isGlobal = false)
    (heq : rank r = leastRank seen) (merged : SipResponse υ)
    (hf : c.bestResponse.isFailure = true → merged.isFailure = true)
    (hm : merged.method = c.bestResponse.method) (hrank : rank merged = rank r)
    (hchal : merged.challenges = true → c.bestResponse.challenges = true ∧
      c.bestResponse.wwwAuthenticates ⊆ merged.wwwAuthenticates ∧
      c.bestResponse.proxyAuthenticates ⊆ merged.proxyAuthenticates ∧
      r.wwwAuthenticates ⊆ merged.wwwAuthenticates ∧
      r.proxyAuthenticates ⊆ merged.proxyAuthenticates) :
    { c with bestResponse := merged }.Kept (seen ++ [r]) where
  failures := h.failures_concat hr
  failure _ := hf (h.failure (h.ne_nil heq.ge))
  method _ := hm.trans (h.method (h.ne_nil heq.ge))
  priority := by
    rw [leastRank_concat, ← heq, min_self]
    exact h.priority.trans heq.symm
  unset hnil := by simp at hnil
  ranked _ := by
    rw [leastRank_concat, ← heq, min_self]
    exact hrank
  firstGlobal g hg := by
    have hseen := h.rank_seen (by have := rank_le r; omega)
    have hpos := rank_pos hr hlocal
    cases hfind : seen.find? SipResponse.isGlobal with
    | none =>
      rw [List.find?_append, hfind, Option.none_or] at hg
      have hrg := List.find?_some hg
      rw [List.mem_singleton.1 (List.mem_of_find?_eq_some hg)] at hrg
      simp [hlocal] at hrg
    | some g' =>
      rw [rank_global (h.isGlobal_iff.2 (by simp [hfind]))] at hseen
      omega
  challenges hbest x hx hxc := by
    obtain ⟨hold, hw, hp, hrw, hrp⟩ := hchal hbest
    rcases List.mem_append.1 hx with hx | hx
    · obtain ⟨hxw, hxp⟩ := h.challenges hold x hx hxc
      exact ⟨List.Subset.trans hxw hw, List.Subset.trans hxp hp⟩
    · obtain rfl := List.mem_singleton.1 hx
      exact ⟨hrw, hrp⟩

/-- Every response keeps the choice right. -/
theorem keep (h : c.Kept seen) (hr : r.isFailure = true) (hm : r.method = c.originalMethod) :
    (c.keep r).Kept (seen ++ [r]) := by
  unfold Core.keep
  cases hg : r.isGlobal with
  | true =>
    have hrank := rank_global hg
    unfold keepGlobal
    rw [if_pos rfl]
    split
    · next hbest =>
      refine h.replace hr hm ?_ 0 hrank.symm true
      have hlocal : c.bestResponse.isGlobal = false := by simpa [SipResponse.isGlobal] using hbest
      have hnonneg := h.leastRank_nonneg
      rcases eq_or_ne seen [] with rfl | hne
      · simp [leastRank, hrank]
      · obtain ⟨x, hx, hleast⟩ := leastRank_attained hne
        have hxg : x.isGlobal = false := by
          by_contra hxg
          have hfind : seen.find? SipResponse.isGlobal ≠ none := by
            rw [Ne, List.find?_eq_none]
            exact fun hall => hall x hx (by simpa using hxg)
          simp [h.isGlobal_iff.2 hfind] at hlocal
        have := rank_pos (h.failures x hx) hxg
        omega
    · next hbest =>
      have hglobal : c.bestResponse.isGlobal = true := by
        simpa [SipResponse.isGlobal] using hbest
      refine h.passOver hr ?_ (fun _ => hglobal) fun hchal => ?_
      · have hne : seen ≠ [] := by
          rintro rfl
          simp [h.unset rfl] at hglobal
        rw [← h.ranked hne, rank_global hglobal, hrank]
      · have := rank_eq_four.2 hchal
        omega
  | false =>
    have hrank := rank_local hg
    have hpos := rank_pos hr hg
    simp only [Bool.false_eq_true, if_false, keepBest]
    rw [← hrank]
    split
    · next hprio =>
      have heq : rank r = leastRank seen := hprio.trans h.priority
      have hseen := h.rank_seen (by have := rank_le r; omega)
      split
      · next hcode =>
        have hchal : r.challenges = true := challenges_iff.2 hcode
        have hbest : c.bestResponse.challenges = true := by
          rw [← rank_eq_four, hseen, ← heq]
          exact rank_eq_four.2 hchal
        have hmerged : (c.bestResponse.mergeChallenges r).challenges = true := by
          rw [challenges_iff] at hbest ⊢
          simp only [SipResponse.mergeChallenges]
          split
          · exact hbest
          · exact .inr rfl
        have hfail : (c.bestResponse.mergeChallenges r).isFailure = true := by
          rw [isFailure_iff]
          rcases challenges_iff.1 hmerged with hcode | hcode <;> omega
        refine h.merge hr hg heq _ (fun _ => hfail) rfl ?_ fun _ => ⟨hbest, ?_, ?_, ?_, ?_⟩
        · rw [rank_eq_four.2 hmerged, rank_eq_four.2 hchal]
        all_goals simp [SipResponse.mergeChallenges]
      · next hcode =>
        have hnot : r.challenges = true → c.bestResponse.challenges = false := fun hc =>
          absurd (challenges_iff.1 hc) hcode
        split
        · next hclass =>
          refine h.merge hr hg heq _ (fun _ => rfl) rfl ?_ fun hmerged => ?_
          · rw [hrank, getPriority_redirect hclass]
            rfl
          · simp [SipResponse.challenges, SipResponse.mergeContacts] at hmerged
        · exact h.passOver hr heq.ge (fun hrg => by simp [hg] at hrg) hnot
    · next hne =>
      split
      · next hlt => exact h.replace hr hm (h.priority ▸ hlt) _ rfl true
      · next hge =>
        rw [h.priority] at hne hge
        refine h.passOver hr (by omega) (fun hrg => by simp [hg] at hrg) fun hchal => ?_
        by_contra hbest
        have hfour := rank_eq_four.2 hchal
        have hbest4 : rank c.bestResponse = 4 := rank_eq_four.2 (by simpa using hbest)
        rcases eq_or_ne seen [] with rfl | hnil
        · simp [leastRank] at hge
          omega
        · rw [h.ranked hnil] at hbest4
          omega

end Kept
end Core

namespace Context
variable {υ : Type*} {s : Context υ} {r : SipResponse υ} {tid : Data}

theorem mem_keep : tid ∈ (s.keep r).activeTransactionMap ↔ tid ∈ s.activeTransactionMap := by
  unfold keep
  split
  · unfold keepGlobal
    split
    · dsimp only
      split
      · exact mem_cancelAllClientTransactions
      · rfl
    · rfl
  · unfold keepBest
    dsimp only
    repeat' split
    all_goals rfl

/-- A failure response that passes the checks, on an active branch. -/
theorem processResponse_failure (hpass : r.viaCheck s.originalBranch = .passed)
    (hactive : r.tid ∈ s.activeTransactionMap) (hfail : r.isFailure = true)
    (hfinal : s.haveSentFinalResponse = false) :
    s.processResponse r = ((s.terminateClientTransaction r.tid).keep r).forwardIfDone := by
  have hterm : (s.terminateClientTransaction r.tid).haveSentFinalResponse = false :=
    (congrArg Core.haveSentFinalResponse (core_terminateClientTransaction s r.tid)).trans hfinal
  have hclass : r.statusCode / 100 = 3 ∨ r.statusCode / 100 = 4 ∨ r.statusCode / 100 = 5 ∨
      r.statusCode / 100 = 6 := by
    obtain ⟨hlow, hhigh⟩ := isFailure_iff.1 hfail
    omega
  unfold processResponse
  rw [hpass]
  simp only [hactive, if_true, processActiveResponse, keep, SipResponse.isGlobal]
  rcases hclass with h | h | h | h <;> simp [h, hterm]

@[simp] theorem mem_forwardBestResponse :
    tid ∈ s.forwardBestResponse.activeTransactionMap ↔ tid ∈ s.activeTransactionMap := by
  have hwithdraw : tid ∈ s.withdrawTargets.softenBest.activeTransactionMap ↔
      tid ∈ s.activeTransactionMap := by
    change tid ∈ s.withdrawTargets.activeTransactionMap ↔ _
    unfold withdrawTargets
    split
    · exact mem_cancelActiveClientTransactions
    · rfl
  unfold forwardBestResponse
  dsimp only
  split
  · exact hwithdraw
  · rw [← hwithdraw]
    unfold sendResponse
    split <;> rfl

/-- The choice is only prepared as long as a target is left. -/
theorem core_processResponse_failure (hpass : r.viaCheck s.originalBranch = .passed)
    (hactive : r.tid ∈ s.activeTransactionMap) (hfail : r.isFailure = true)
    (hfinal : s.haveSentFinalResponse = false) :
    (s.processResponse r).core = s.core.keep r ∨
      (s.processResponse r).core = (s.core.keep r).forward ∧
      (s.processResponse r).activeTransactionMap.isEmpty = true := by
  rw [processResponse_failure hpass hactive hfail hfinal]
  have hkeep : ((s.terminateClientTransaction r.tid).keep r).core = s.core.keep r := by
    rw [core_keep, core_terminateClientTransaction]
  unfold forwardIfDone
  split
  · next hdone =>
    refine .inr ⟨by rw [core_forwardBestResponse, hkeep], ?_⟩
    have hempty := (Bool.and_eq_true_iff.1 hdone).2
    rw [Std.TreeMap.isEmpty_iff_forall_not_mem] at hempty ⊢
    exact fun tid htid => hempty tid (mem_forwardBestResponse.1 htid)
  · exact .inl hkeep

/-- A response that fails the checks only ends its branch. -/
theorem core_processResponse_unpassed (hpass : r.viaCheck s.originalBranch ≠ .passed) :
    (s.processResponse r).core = s.core := by
  unfold processResponse
  split
  · rfl
  · exact core_terminateClientTransaction s r.tid
  · next h => exact absurd h hpass

end Context

/-- What `forwardBestResponse` passes on when `best` is kept. -/
def SipResponse.forwarded {υ : Type*} (best : SipResponse υ) : List (SipResponse υ) :=
  if best.statusCode = 408 ∧ best.method ≠ .invite then []
  else if best.statusCode = 503 then [{ best with statusCode := 480 }]
  else [best]

theorem Core.Kept.forward {υ : Type*} {seen : List (SipResponse υ)} {c : Core υ}
    (h : c.Kept seen) (hne : seen ≠ []) (hack : c.originalMethod ≠ .ack)
    (hcancel : c.originalMethod ≠ .cancel) :
    c.forward.upstream = c.upstream ++ c.bestResponse.forwarded ∧
      c.forward.haveSentFinalResponse = true := by
  have hcode := (isFailure_iff.1 (h.failure hne)).1
  have hmethod : c.bestResponse.method ≠ .cancel := fun hm => hcancel ((h.method hne) ▸ hm)
  by_cases h503 : c.bestResponse.statusCode = 503
  · simp [Core.forward, Core.soften, Core.send, SipResponse.forwarded, SipResponse.isFinal, h503,
      hack, hmethod]
  · by_cases h408 : c.bestResponse.statusCode = 408 ∧ c.bestResponse.method ≠ .invite
    · simp [Core.forward, Core.soften, SipResponse.forwarded, h408]
    · have hfinal : 199 < c.bestResponse.statusCode := by omega
      simp [Core.forward, Core.soften, Core.send, SipResponse.forwarded, SipResponse.isFinal, h503,
        h408, hack, hmethod, hfinal]

/-- A response on a branch, or what a processor calls between two of them. -/
inductive Delivery (υ : Type*)
  | call (c : Call υ)
  | response (r : SipResponse υ)

def Delivery.received {υ : Type*} : Delivery υ → Option (SipResponse υ)
  | .call _ => none
  | .response r => some r

/-- The responses that get past the checks of their `Via`. -/
def considered {υ : Type*} (branch : Data) (ds : List (Delivery υ)) : List (SipResponse υ) :=
  (ds.filterMap Delivery.received).filter fun r => r.viaCheck branch == .passed

@[simp] theorem considered_call {υ : Type*} (branch : Data) (c : Call υ)
    (ds : List (Delivery υ)) : considered branch (.call c :: ds) = considered branch ds := by
  simp [considered, List.filterMap_cons, Delivery.received]

theorem considered_response {υ : Type*} (branch : Data) (r : SipResponse υ)
    (ds : List (Delivery υ)) : considered branch (.response r :: ds) =
      ([r].filter fun r => r.viaCheck branch == .passed) ++ considered branch ds := by
  simp [considered, Delivery.received, ← List.filter_append]

namespace Context
variable {υ : Type*} [BEq υ]

def deliver (s : Context υ) : Delivery υ → Context υ
  | .call c => (s.call c).1
  | .response r => s.processResponse r

/-- Deliveries one after the other. -/
def deliverAll (ds : List (Delivery υ)) (s : Context υ) : Context υ := ds.foldl deliver s

/-- Every response is a failure response to the request of `s` for a branch that is active when it
comes; the processors start and cancel targets in between but pass no response. -/
def Delivered (s : Context υ) : List (Delivery υ) → Prop
  | [] => True
  | .call c :: rest => c.sends = false ∧ (s.call c).1.Delivered rest
  | .response r :: rest => r.isFailure = true ∧ r.method = s.originalMethod ∧
      r.tid ∈ s.activeTransactionMap ∧ (s.processResponse r).Delivered rest

/-- The choice among `seen` is prepared, or the best response has gone out. -/
def Choosing (seen : List (SipResponse υ)) (c : Core υ) (s : Context υ) : Prop :=
  c.Kept seen ∧ c.haveSentFinalResponse = false ∧
    (s.core = c ∨ seen ≠ [] ∧ s.core = c.forward ∧ s.activeTransactionMap.isEmpty = true)

theorem Choosing.call {seen : List (SipResponse υ)} {co : Core υ} {s : Context υ} {c : Call υ}
    (h : Choosing seen co s) (hc : c.sends = false) (hack : co.originalMethod ≠ .ack)
    (hcancel : co.originalMethod ≠ .cancel) : Choosing seen co (s.call c).1 := by
  obtain ⟨hkept, hfinal, hcore | ⟨hne, hcore, hempty⟩⟩ := h
  · exact ⟨hkept, hfinal, .inl ((core_call hc s).trans hcore)⟩
  · have hsent : s.haveSentFinalResponse = true :=
      (congrArg Core.haveSentFinalResponse hcore).trans (hkept.forward hne hack hcancel).2
    refine ⟨hkept, hfinal, .inr ⟨hne, (core_call hc s).trans hcore, ?_⟩⟩
    rw [Std.TreeMap.isEmpty_iff_forall_not_mem] at hempty ⊢
    exact fun tid htid => hempty tid (((call_final c hsent).active tid).1 htid)

omit [BEq υ] in
/-- One more response. -/
theorem Choosing.response {seen : List (SipResponse υ)} {c : Core υ} {s : Context υ}
    {r : SipResponse υ} (h : Choosing seen c s) (hfail : r.isFailure = true)
    (hmethod : r.method = s.originalMethod) (hactive : r.tid ∈ s.activeTransactionMap) :
    ∃ c', Choosing (seen ++ [r].filter fun r => r.viaCheck c.originalBranch == .passed) c'
        (s.processResponse r) ∧ c'.upstream = c.upstream ∧
      c'.originalMethod = c.originalMethod ∧ c'.originalBranch = c.originalBranch := by
  obtain ⟨hkept, hfinal, hcore | ⟨-, -, hempty⟩⟩ := h
  · have hsent : s.haveSentFinalResponse = false :=
      (congrArg Core.haveSentFinalResponse hcore).trans hfinal
    have hbranch : s.originalBranch = c.originalBranch := congrArg Core.originalBranch hcore
    by_cases hpass : r.viaCheck c.originalBranch = .passed
    · obtain ⟨kfinal, kmethod, kbranch, kupstream⟩ := Core.keep_frame r c
      have hkeep := hkept.keep hfail (hmethod.trans (congrArg Core.originalMethod hcore))
      refine ⟨c.keep r, ⟨by simpa [hpass] using hkeep, kfinal.trans hfinal, ?_⟩, kupstream, kmethod,
        kbranch⟩
      rcases core_processResponse_failure (hbranch ▸ hpass) hactive hfail hsent with
        hrun | ⟨hrun, hempty⟩
      · exact .inl (hrun.trans (by rw [hcore]))
      · exact .inr ⟨by simp [hpass], hrun.trans (by rw [hcore]), hempty⟩
    · refine ⟨c, ⟨by simpa [hpass] using hkept, hfinal, .inl ?_⟩, rfl, rfl, rfl⟩
      exact (core_processResponse_unpassed (hbranch ▸ hpass)).trans hcore
  · exact absurd hactive (Std.TreeMap.isEmpty_iff_forall_not_mem.1 hempty r.tid)

/-- After all deliveries the response to pick among the considered ones is kept, and it may have
been forwarded. -/
theorem Choosing.deliverAll {ds : List (Delivery υ)} {seen : List (SipResponse υ)} {c : Core υ}
    {s : Context υ} (h : Choosing seen c s) (hack : c.originalMethod ≠ .ack)
    (hcancel : c.originalMethod ≠ .cancel) (hds : s.Delivered ds) :
    ∃ c', Choosing (seen ++ considered c.originalBranch ds) c' (s.deliverAll ds) ∧
      c'.upstream = c.upstream ∧ c'.originalMethod = c.originalMethod := by
  induction ds generalizing s seen c with
  | nil => exact ⟨c, by simpa [considered, Context.deliverAll] using h, rfl, rfl⟩
  | cons d rest ih =>
    cases d with
    | call cl =>
      obtain ⟨hsends, hrest⟩ := hds
      rw [considered_call]
      exact ih (h.call hsends hack hcancel) hack hcancel hrest
    | response r =>
      obtain ⟨hfail, hmethod, hactive, hrest⟩ := hds
      obtain ⟨c₁, hstep, hup₁, hm₁, hb₁⟩ := h.response hfail hmethod hactive
      obtain ⟨c', hc', hup, hm⟩ := ih hstep (hm₁.trans_ne hack) (hm₁.trans_ne hcancel) hrest
      refine ⟨c', ?_, hup.trans hup₁, hm.trans hm₁⟩
      rw [considered_response, ← List.append_assoc]
      rw [hb₁] at hc'
      exact hc'

/-- `forwardBestResponse`, unless it has been called already. -/
def answered (s : Context υ) : Context υ :=
  if s.haveSentFinalResponse then s else s.forwardBestResponse

/-- No response has been kept and no final one sent. -/
structure Unanswered (s : Context υ) : Prop where
  best : s.bestResponse = .empty
  priority : s.bestPriority = 50
  final : s.haveSentFinalResponse = false
  ack : s.originalMethod ≠ .ack
  cancel : s.originalMethod ≠ .cancel

omit [BEq υ] in
theorem Unanswered.choosing {s : Context υ} (h : s.Unanswered) : Choosing [] s.core s := by
  refine ⟨⟨fun x hx => by simp at hx, absurd rfl, absurd rfl, h.priority, fun _ => ?_, absurd rfl,
    fun g hg => by simp at hg, fun _ x hx => by simp at hx⟩, h.final, .inl rfl⟩
  change s.bestResponse.isGlobal = false
  rw [h.best]
  rfl

omit [BEq υ] in
theorem bestPriority_forward (c : Core υ) : c.forward.bestPriority = c.bestPriority := by
  unfold Core.forward Core.send
  dsimp only
  repeat' split
  all_goals rfl

/-- The least rank of the considered responses is kept with the response. -/
theorem bestPriority_deliverAll {s : Context υ} {ds : List (Delivery υ)} (h : s.Unanswered)
    (hds : s.Delivered ds) :
    (s.deliverAll ds).bestPriority = leastRank (considered s.originalBranch ds) := by
  obtain ⟨c, ⟨hkept, -, hrun⟩, -, -⟩ := h.choosing.deliverAll h.ack h.cancel hds
  have hprio : (s.deliverAll ds).core.bestPriority = c.bestPriority := by
    rcases hrun with hrun | ⟨-, hrun, -⟩
    · rw [hrun]
    · rw [hrun, bestPriority_forward]
  exact hprio.trans hkept.priority

/-- Of the responses that get past the checks of their `Via`, the one to pick goes upstream, and
the order in which they come does not change its priority. -/
theorem forwards_picked {s : Context υ} {ds : List (Delivery υ)} (h : s.Unanswered)
    (hds : s.Delivered ds) (hsome : considered s.originalBranch ds ≠ []) :
    (∃ best, Picked (considered s.originalBranch ds) best ∧
      (s.deliverAll ds).answered.upstream = s.upstream ++ best.forwarded) ∧
    ∀ ds', s.Delivered ds' →
      (considered s.originalBranch ds').Perm (considered s.originalBranch ds) →
      (s.deliverAll ds').bestPriority = (s.deliverAll ds).bestPriority := by
  constructor
  · obtain ⟨c, ⟨hkept, hfinal, hrun⟩, hup, hm⟩ := h.choosing.deliverAll h.ack h.cancel hds
    obtain ⟨hforward, hsent⟩ :=
      hkept.forward hsome (hm.trans_ne h.ack) (hm.trans_ne h.cancel)
    refine ⟨c.bestResponse, hkept.picked hsome, ?_⟩
    change _ = s.core.upstream ++ _
    rw [← hup, ← hforward]
    unfold answered
    rcases hrun with hrun | ⟨-, hrun, -⟩
    · rw [if_neg]
      · have hcore := core_forwardBestResponse (s.deliverAll ds)
        rw [hrun] at hcore
        exact congrArg Core.upstream hcore
      · rw [show (s.deliverAll ds).haveSentFinalResponse = false from
          (congrArg Core.haveSentFinalResponse hrun).trans hfinal]
        simp
    · rw [if_pos]
      · exact congrArg Core.upstream hrun
      · exact (congrArg Core.haveSentFinalResponse hrun).trans hsent
  · intro ds' hds' hp
    rw [bestPriority_deliverAll h hds, bestPriority_deliverAll h hds']
    exact leastRank_perm hp

section Example

/-- Branch `tid` to a contact of its own. -/
def branchTo (tid : UInt8) : Target ℕ where
  tid := [tid]
  record := ⟨0, [], tid.toNat⟩
  status := .candidate
  shouldAutoProcess := true
  builds := true

/-- A response on branch `tid` under a `Via` with `branch`. -/
def failureOn (tid : UInt8) (code : ℤ) (branch : Data) : SipResponse ℕ :=
  { SipResponse.make [tid] .invite code with nextVia := .wellFormed branch }

/-- Two branches, one answered with a 401 whose `Via` has `branch`, the other with a 486. -/
def challengeThenBusy (branch : Data) : List (Delivery ℕ) :=
  [.call (.addTarget (branchTo 1) true true), .call (.addTarget (branchTo 2) true true),
    .response (failureOn 1 401 branch), .response (failureOn 2 486 [98])]

theorem unanswered_new : (Context.new (υ := ℕ) .invite [105] [98]).Unanswered := by
  constructor <;> first | rfl | simp [new]

theorem delivered_challengeThenBusy (branch : Data) (h : branch = [98] ∨ branch = [99]) :
    (Context.new .invite [105] [98]).Delivered (challengeThenBusy branch) := by
  rcases h with rfl | rfl <;>
    exact ⟨rfl, rfl, rfl, rfl, by decide, rfl, rfl, by decide, trivial⟩

end Example

theorem forwards_picked_challenge :
    ∃ best, Picked [failureOn 1 401 [98], failureOn 2 486 [98]] best ∧
      ((Context.new .invite [105] [98]).deliverAll (challengeThenBusy [98])).answered.upstream =
        best.forwarded :=
  (forwards_picked unanswered_new (delivered_challengeThenBusy [98] (.inl rfl)) (by
    change [failureOn 1 401 [98], failureOn 2 486 [98]] ≠ []
    simp)).1

/-- A response that fails the checks of its `Via` is passed over, whatever its priority. -/
theorem not_forwards_picked : ¬ ∀ (s : Context ℕ) (ds : List (Delivery ℕ)), s.Unanswered →
    s.Delivered ds → ds.filterMap Delivery.received ≠ [] →
    ∃ best, Picked (ds.filterMap Delivery.received) best ∧
      (s.deliverAll ds).answered.upstream = s.upstream ++ best.forwarded := by
  intro h
  obtain ⟨best, hpicked, hup⟩ := h _ _ unanswered_new
    (delivered_challengeThenBusy [99] (.inr rfl)) (by simp [challengeThenBusy, Delivery.received])
  have hsent : ((Context.new .invite [105] [98]).deliverAll (challengeThenBusy [99])).answered.upstream
      = [failureOn 2 486 [98]] := rfl
  have hbest : best = failureOn 2 486 [98] := by
    rw [hsent] at hup
    change [failureOn 2 486 [98]] = best.forwarded at hup
    unfold SipResponse.forwarded at hup
    split at hup
    · cases hup
    · split at hup
      · have hcode := congrArg SipResponse.statusCode (List.cons.inj hup).1
        exact absurd hcode (by decide : (486 : ℤ) ≠ 480)
      · exact (List.cons.inj hup).1.symm
  have hle := hpicked.least (by rfl) (failureOn 1 401 [99]) (by
    simp [challengeThenBusy, Delivery.received])
  rw [hbest] at hle
  exact absurd hle (by decide)

end Context
end Resiprocate.Repro
