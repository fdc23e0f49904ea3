import Resiprocate.RealmChallenges
import Resiprocate.TransitionSystem

/-! Runs of the requests of one dialog set against servers that challenge them. No assertion fails
as long as nothing is sent once a realm has refused to answer, and a request is sent again at most
twice for every realm with credentials as long as every answer uses up one of these. -/
namespace Resiprocate.Dum
open TransitionSystem

variable {κ : Type*} [LinearOrder κ] [OrderBot κ]

inductive AuthEvent (κ : Type*)
  | send (cseq : ℕ)
  | response (i : ℕ) (response : AuthResponse κ)
  | clear

namespace ClientAuthManager
variable (profile : UserProfile κ)

def next (m : ClientAuthManager κ) : AuthEvent κ → ClientAuthManager κ
  | .send cseq => m.send cseq
  | .response i response => m.handle profile i response
  | .clear => m.clearAuthenticationState

def runs : System (ClientAuthManager κ) (AuthEvent κ) where
  init m := m.attempted = none ∧ m.requests = [] ∧ m.asserted = false
  enabled m e := match e with
    | .response i _ => i < m.requests.length
    | .send _ | .clear => True
  next m e := m.next profile e

/-- The state of the realms, before the first challenge too. -/
def realms (m : ClientAuthManager κ) : AuthState κ := m.attempted.getD .new

/-- Whether a realm has refused a challenge since the state was cleared. -/
def noteRefusal (m : ClientAuthManager κ) (e : AuthEvent κ) (refused : Bool) : Bool :=
  match e with
  | .send _ => refused
  | .response _ response =>
    refused || (hasChallenge response && m.realms.refusesChallenge profile response)
  | .clear => false

/-- A request is sent, or sent again, or the realms are taken to have accepted one. -/
def usesRealms (m : ClientAuthManager κ) : AuthEvent κ → Bool
  | .send _ => true
  | .response _ response =>
    isSuccess response || (hasChallenge response && m.realms.answersChallenge profile response)
  | .clear => false

/-- A challenge is answered and advances no realm: each of its fields is for a realm without
credentials of its own or for one whose last answer is stale, or it has none. -/
def answersIdly (m : ClientAuthManager κ) : AuthEvent κ → Bool
  | .response _ response =>
    hasChallenge response && m.realms.answersChallenge profile response &&
      !m.realms.advancesChallenge profile response
  | .send _ | .clear => false

/-- Once a realm has refused, nothing is sent and no success comes until the state is cleared, and
no challenge is answered idly. -/
def orderly (p : ClientAuthManager κ × Bool) (e : AuthEvent κ) : Prop :=
  (p.2 = true → p.1.usesRealms profile e = false) ∧ p.1.answersIdly profile e = false

/-- How many challenges are still answered for the realms with credentials. -/
def remaining (m : ClientAuthManager κ) : ℕ := m.realms.remaining profile

structure Guarded (p : ClientAuthManager κ × Bool) : Prop where
  asserted : p.1.asserted = false
  invalid : ∀ s, p.1.attempted = some s → s.Avoids .Invalid
  failed : p.2 = false → ∀ s, p.1.attempted = some s → s.Avoids .Failed
  resent : ∀ r ∈ p.1.requests,
    r.resent + p.1.remaining profile ≤ 2 * profile.mDigestCredentials.length

section Steps
variable {profile} {m : ClientAuthManager κ} {refused : Bool}

omit [OrderBot κ] in
theorem avoids_realms {v : RealmStateValue} (h : ∀ s, m.attempted = some s → s.Avoids v) :
    m.realms.Avoids v := by
  unfold realms
  cases hattempted : m.attempted with
  | none =>
    intro realm rs hget
    simp [AuthState.new] at hget
  | some s => exact h s hattempted

variable (profile) in
/-- Credentials are added for realms that have not refused. -/
theorem addAuthentication_spec (hfailed : ∀ s, m.attempted = some s → s.Avoids .Failed) :
    m.addAuthentication.1.asserted = m.asserted ∧
      m.addAuthentication.1.requests = m.requests ∧
      m.addAuthentication.1.remaining profile = m.remaining profile ∧
      ∀ v, (∀ s, m.attempted = some s → s.Avoids v) →
        ∀ s, m.addAuthentication.1.attempted = some s → s.Avoids v := by
  unfold addAuthentication
  cases hattempted : m.attempted with
  | none => exact ⟨rfl, rfl, rfl, fun v h s hs => by simp [hattempted] at hs⟩
  | some s =>
    have hmay := (hfailed s hattempted).mayAdd
    refine ⟨by simp [hmay], rfl, ?_, fun v h s' hs' => ?_⟩
    · simpa [remaining, realms, hattempted] using AuthState.remaining_addAuthentication profile s
    · obtain rfl := Option.some.inj hs'
      exact (h s rfl).addAuthentication

theorem remaining_le (m : ClientAuthManager κ) :
    m.remaining profile ≤ 2 * profile.mDigestCredentials.length :=
  AuthState.remaining_le profile m.realms

namespace Guarded

theorem send (h : Guarded profile (m, refused)) (hrefused : refused = false) (cseq : ℕ) :
    Guarded profile (m.send cseq, refused) := by
  obtain ⟨hasserted, hrequests, hremaining, hkeeps⟩ :=
    addAuthentication_spec profile (h.failed hrefused)
  refine ⟨hasserted.trans h.asserted, hkeeps _ h.invalid, fun _ => hkeeps _ (h.failed hrefused), ?_⟩
  intro r hr
  have hleft : (m.send cseq).remaining profile = m.remaining profile := hremaining
  rw [hleft]
  simp only [ClientAuthManager.send, hrequests, List.mem_append, List.mem_singleton] at hr
  rcases hr with hr | rfl
  · exact h.resent r hr
  · simpa using remaining_le m

theorem clearAuthenticationState (h : Guarded profile (m, refused)) :
    Guarded profile (m.clearAuthenticationState, false) := by
  refine ⟨h.asserted, (fun s hs => by cases hs), (fun _ s hs => by cases hs), fun r hr => ?_⟩
  obtain ⟨r₀, -, rfl⟩ := List.mem_map.mp hr
  simpa using remaining_le m.clearAuthenticationState

theorem authSucceeded_spec (h : Guarded profile (m, refused)) (hrefused : refused = false) :
    m.authSucceeded.asserted = false ∧
      (∀ s, m.authSucceeded.attempted = some s → s.Avoids .Invalid) ∧
      ∀ s, m.authSucceeded.attempted = some s → s.Avoids .Failed := by
  unfold ClientAuthManager.authSucceeded
  cases hattempted : m.attempted with
  | none => exact ⟨h.asserted, by simp [hattempted], by simp [hattempted]⟩
  | some s =>
    have hinvalid := h.invalid s hattempted
    have hfailed := h.failed hrefused s hattempted
    refine ⟨by simpa [hinvalid.maySucceed hfailed] using h.asserted, ?_, ?_⟩
    · rintro _ ⟨⟩
      exact hinvalid.authSucceeded (by simp)
    · rintro _ ⟨⟩
      exact hfailed.authSucceeded (by simp)

theorem success (h : Guarded profile (m, refused)) (hrefused : refused = false) {i : ℕ}
    {response : AuthResponse κ} (hsuccess : isSuccess response) :
    Guarded profile (m.handle profile i response, refused) := by
  obtain ⟨hasserted, hinvalid, hfailed⟩ := h.authSucceeded_spec hrefused
  unfold handle
  rw [if_pos hsuccess]
  refine ⟨hasserted, hinvalid, fun _ => hfailed, fun r hr => ?_⟩
  -- all counts start again
  have hzero : r.resent = 0 := by
    have hmem : r ∈ m.authSucceeded.requests.map fun r => { r with resent := 0 } := by
      dsimp only at hr
      split at hr
      · exact List.mem_of_mem_eraseIdx hr
      · exact hr
    obtain ⟨r₀, -, rfl⟩ := List.mem_map.mp hmem
    rfl
  rw [hzero, Nat.zero_add]
  exact remaining_le _

/-- A response that is neither a success nor a challenge only ends the wait for it. -/
theorem ignored (h : Guarded profile (m, refused)) (i : ℕ) :
    Guarded profile ({ m with requests := m.requests.eraseIdx i }, refused) :=
  ⟨h.asserted, h.invalid, h.failed, fun r hr => h.resent r (List.mem_of_mem_eraseIdx hr)⟩

/-- The state of the realms after a challenge. -/
theorem challenged (h : Guarded profile (m, refused)) (response : AuthResponse κ) :
    Guarded profile
      ({ m with attempted := some (m.realms.handleChallenge profile response).1 },
        refused || m.realms.refusesChallenge profile response) := by
  refine ⟨h.asserted, ?_, fun hnone => ?_, fun r hr => ?_⟩
  · rintro _ ⟨⟩
    exact (avoids_realms h.invalid).handleChallenge_invalid profile response
  · rintro _ ⟨⟩
    rw [Bool.or_eq_false_iff] at hnone
    exact (avoids_realms (h.failed hnone.1)).handleChallenge_failed profile response
      (by simp [hnone.2])
  · have hle := AuthState.remaining_handleChallenge_le (s := m.realms) profile response
    have hresent := h.resent r hr
    simp only [remaining, realms, Option.getD_some] at hle hresent ⊢
    omega

theorem mem_modify {α : Type*} {f : α → α} {l : List α} {i : ℕ} {a : α} (h : a ∈ l.modify i f) :
    a ∈ l ∨ ∃ b ∈ l, a = f b := by
  obtain ⟨j, hj⟩ := List.mem_iff_getElem?.mp h
  rw [List.getElem?_modify] at hj
  obtain ⟨b, hb, rfl⟩ := Option.map_eq_some_iff.mp hj
  have hmem := List.mem_iff_getElem?.mpr ⟨j, hb⟩
  split
  · exact .inr ⟨b, hmem, rfl⟩
  · exact .inl hmem

/-- A challenge that is answered uses up one of those that still are. -/
theorem answered (h : Guarded profile (m, refused)) (hrefused : refused = false) (i : ℕ)
    {response : AuthResponse κ} (hhandled : (m.realms.handleChallenge profile response).2)
    (hadvances : m.realms.advancesChallenge profile response) :
    Guarded profile
      ({ m with attempted := some (m.realms.handleChallenge profile response).1 }.resend i,
        refused || m.realms.refusesChallenge profile response) := by
  have hanswers := AuthState.handleChallenge_snd profile response hhandled
  simp only [AuthState.answersChallenge, Bool.and_eq_true, decide_eq_true_eq] at hanswers
  have hrefuses : (refused || m.realms.refusesChallenge profile response) = false := by
    simp [hrefused, AuthState.refusesChallenge, hanswers.1, hanswers.2]
  have hlt := AuthState.remaining_handleChallenge_lt profile response hhandled hadvances
  have hchallenged := h.challenged response
  obtain ⟨hasserted, hrequests, hremaining, hkeeps⟩ :=
    addAuthentication_spec profile (hchallenged.failed hrefuses)
  refine ⟨hasserted.trans hchallenged.asserted, hkeeps _ hchallenged.invalid,
    fun _ => hkeeps _ (hchallenged.failed hrefuses), fun r hr => ?_⟩
  have hleft : ({ m with attempted := some (m.realms.handleChallenge profile response).1 }.resend
      i).remaining profile < m.remaining profile := by
    refine lt_of_eq_of_lt hremaining ?_
    simpa only [remaining, realms, Option.getD_some] using hlt
  simp only [ClientAuthManager.resend, hrequests] at hr
  rcases mem_modify hr with hold | ⟨r₀, hr₀, rfl⟩
  · exact (Nat.add_le_add_left hleft.le _).trans (h.resent r hold)
  · refine le_trans ?_ (h.resent r₀ hr₀)
    dsimp only
    omega

theorem next (h : Guarded profile (m, refused)) {e : AuthEvent κ}
    (hok : orderly profile (m, refused) e) :
    Guarded profile (m.next profile e, m.noteRefusal profile e refused) := by
  -- the steps that use the realms come before any refusal
  have hfresh (huses : m.usesRealms profile e) : refused = false := by
    cases refused with
    | false => rfl
    | true => exact absurd huses (by simp [hok.1 rfl])
  cases e with
  | send cseq => exact h.send (hfresh rfl) cseq
  | clear => exact h.clearAuthenticationState
  | response i response =>
    unfold ClientAuthManager.next noteRefusal
    dsimp only
    by_cases hsuccess : isSuccess response
    · have hchallenge : hasChallenge response = false := by
        simp only [isSuccess, hasChallenge, Bool.and_eq_true, Bool.not_eq_true'] at hsuccess ⊢
        simp [hsuccess.2]
      rw [hchallenge, Bool.false_and, Bool.or_false]
      exact h.success (hfresh (by simp [usesRealms, hsuccess])) hsuccess
    unfold handle
    rw [if_neg hsuccess]
    by_cases hchallenge : hasChallenge response
    · rw [if_pos hchallenge, hchallenge, Bool.true_and]
      dsimp only
      split
      case isTrue hhandled =>
        have hanswers : m.realms.answersChallenge profile response :=
          AuthState.handleChallenge_snd profile response hhandled
        have hidle := hok.2
        simp only [answersIdly, hchallenge, hanswers, Bool.true_and, Bool.not_eq_false'] at hidle
        exact h.answered (hfresh (by simp [usesRealms, hchallenge, hanswers])) i hhandled hidle
      case isFalse => exact (h.challenged response).ignored i
    · rw [if_neg hchallenge]
      simp only [hchallenge, Bool.false_and, Bool.or_false]
      split
      · exact h.ignored i
      · exact h

end Guarded

end Steps

theorem guarded {p : ClientAuthManager κ × Bool}
    (h : Reach ((runs profile).observe false (noteRefusal profile)) (orderly profile) p) :
    Guarded profile p := by
  refine h.invariant (fun q hq => ?_) fun q e _ hq _ hok => hq.next hok
  obtain ⟨⟨hattempted, hrequests, hasserted⟩, -⟩ := hq
  exact ⟨hasserted, by simp [hattempted], by simp [hattempted], by simp [hrequests]⟩

/-- No assertion fails, and no request is sent again more often than twice for every realm with
credentials while all responses are challenges. -/
theorem challenges_answered_boundedly {p : ClientAuthManager κ × Bool}
    (h : Reach ((runs profile).observe false (noteRefusal profile)) (orderly profile) p) :
    p.1.asserted = false ∧
      ∀ r ∈ p.1.requests, r.resent ≤ 2 * profile.mDigestCredentials.length :=
  ⟨(guarded profile h).asserted, fun r hr =>
    (Nat.le_add_right _ _).trans ((guarded profile h).resent r hr)⟩

instance (m : ClientAuthManager κ) (e : AuthEvent κ) : Decidable ((runs profile).enabled m e) :=
  match e with
  | .response i _ => inferInstanceAs (Decidable (i < m.requests.length))
  | .send _ | .clear => inferInstanceAs (Decidable True)

instance (p : ClientAuthManager κ × Bool) (e : AuthEvent κ) : Decidable (orderly profile p e) :=
  inferInstanceAs (Decidable ((_ → _) ∧ _))

/-- Credentials for the realm 1. -/
def oneRealm : UserProfile ℕ where
  mDigestCredentials := [⟨1, 2, 3, false⟩]
  sorted := by decide
  getDigestCacheUseLimit := 0
  extension := fun _ => false

def idle : ClientAuthManager ℕ := ⟨none, [], false⟩

/-- A challenge of a realm with a nonce. -/
def challenge (realm nonce : ℕ) (stale : Bool) : AuthResponse ℕ :=
  ⟨401, some [⟨some realm, some nonce, stale, none, none, false⟩], none⟩

theorem init_idle : ((runs oneRealm).observe false (noteRefusal oneRealm)).init (idle, false) :=
  ⟨⟨rfl, rfl, rfl⟩, rfl⟩

/-- A request is challenged twice, refused, and nothing more is sent until the state is cleared. -/
def challengedRun : List (AuthEvent ℕ) :=
  [.send 1, .response 0 (challenge 1 5 false), .response 0 ⟨200, none, none⟩, .send 3,
    .response 0 (challenge 1 5 false), .response 0 (challenge 1 6 false),
    .response 0 (challenge 1 7 false), .clear, .send 6]

theorem challenges_answered_boundedly_run :
    let p := challengedRun.foldl ((runs oneRealm).observe false (noteRefusal oneRealm)).next
      (idle, false)
    p.1.asserted = false ∧
      ∀ r ∈ p.1.requests, r.resent ≤ 2 * oneRealm.mDigestCredentials.length :=
  challenges_answered_boundedly oneRealm
    ((Reach.init init_idle).run challengedRun (by decide))

/-- Only challenges come as responses, and the state is not cleared. -/
def onlyChallenged (_ : ClientAuthManager ℕ) : AuthEvent ℕ → Prop
  | .send _ => True
  | .response _ response => isChallenge response
  | .clear => False

/-- After a challenge of the realm 1 that was answered. -/
def staleState (cseq resent : ℕ) : ClientAuthManager ℕ :=
  let m := ((idle.send 1).handle oneRealm 0 (challenge 1 5 true)).handle oneRealm 0 (challenge 1 5 true)
  { m with requests := m.requests.map fun r => { r with cseq := cseq, resent := resent } }

theorem staleState_next (cseq resent : ℕ) :
    (staleState cseq resent).handle oneRealm 0 (challenge 1 5 true) =
      staleState (cseq + 1) (resent + 1) := rfl

instance (m : ClientAuthManager ℕ) (e : AuthEvent ℕ) : Decidable (onlyChallenged m e) :=
  match e with
  | .response _ response => inferInstanceAs (Decidable (isChallenge response = true))
  | .send _ => inferInstanceAs (Decidable True)
  | .clear => inferInstanceAs (Decidable False)

theorem reach_staleState (n : ℕ) :
    Reach (runs oneRealm) onlyChallenged (staleState (n + 3) (n + 2)) := by
  induction n with
  | zero =>
    have hidle : Reach (runs oneRealm) onlyChallenged idle := .init ⟨rfl, rfl, rfl⟩
    exact hidle.run [.send 1, .response 0 (challenge 1 5 true), .response 0 (challenge 1 5 true)]
      (by decide)
  | succ n ih =>
    have henabled : (runs oneRealm).enabled (staleState (n + 3) (n + 2))
        (.response 0 (challenge 1 5 true)) := by
      change 0 < 1
      omega
    exact staleState_next (n + 3) (n + 2) ▸ ih.step henabled rfl

/-- A request of a dialog set in which a realm has refused a challenge. -/
def refusedRun : List (AuthEvent ℕ) :=
  [.send 1, .response 0 (challenge 1 5 false), .response 0 (challenge 1 5 false), .send 3]

/-- A success of another request, when a realm has refused a challenge. -/
def succeededRun : List (AuthEvent ℕ) :=
  [.send 1, .send 2, .response 0 (challenge 1 5 false), .response 0 (challenge 1 5 false),
    .response 0 ⟨200, none, none⟩]

theorem not_challenges_answered_boundedly :
    (refusedRun.foldl (runs oneRealm).next idle).asserted ∧
      (succeededRun.foldl (runs oneRealm).next idle).asserted ∧
      (∀ es ∈ [refusedRun, succeededRun],
        Reach (runs oneRealm) anyStep (es.foldl (runs oneRealm).next idle)) ∧
      ∀ n, ∃ m, Reach (runs oneRealm) onlyChallenged m ∧ ∃ r ∈ m.requests, n ≤ r.resent := by
  refine ⟨by decide, by decide, ?_, fun n => ?_⟩
  · have hidle : Reach (runs oneRealm) anyStep idle := .init ⟨rfl, rfl, rfl⟩
    simp only [List.mem_cons, List.not_mem_nil, or_false]
    rintro es (rfl | rfl)
    · exact hidle.run refusedRun (by decide)
    · exact hidle.run succeededRun (by decide)
  · exact ⟨_, reach_staleState n, _, List.mem_cons_self, Nat.le_add_right n 2⟩


end ClientAuthManager

end Resiprocate.Dum
