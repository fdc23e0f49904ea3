import Resiprocate.ClientAuthManager

/-! The challenges of realms. What a realm refuses, what is kept by the loops over the fields of a
challenge, and how many challenges are still answered. -/
namespace Resiprocate.Dum

variable {κ : Type*} [LinearOrder κ] [OrderBot κ]

/-! ### One realm -/

/-- The client can answer the challenge at all. -/
def UserProfile.canAnswer (profile : UserProfile κ) (auth : Auth κ) : Bool :=
  (algorithmAndQopSupported auth || profile.extension auth) &&
    decide ((profile.getDigestCredential (auth.realm.getD ⊥)).realm ≠ ⊥)

/-- How many challenges of a realm are still answered. -/
def RealmStateValue.remaining : RealmStateValue → ℕ
  | .Invalid | .Cached => 2
  | .Current => 1
  | .TryOnce | .Failed => 0

theorem RealmStateValue.remaining_le (s : RealmStateValue) : s.remaining ≤ 2 := by
  cases s <;> simp [remaining]

namespace RealmState
variable (rs : RealmState κ) (profile : UserProfile κ) (auth : Auth κ) (isProxyCredential : Bool)

/-- The challenge is refused: it comes too often, or the client cannot answer it. -/
def refuses : Bool :=
  match rs.mState with
  | .TryOnce | .Failed => true
  | .Current =>
    !profile.canAnswer auth || !(auth.stale || auth.hasNewNonce rs.mAuth)
  | .Invalid | .Cached => !profile.canAnswer auth

/-- An answer for a realm with credentials of its own, which is not asked for again because the last
one is stale. -/
def advances : Bool :=
  !(decide (rs.mState = .Current) && auth.stale) &&
    profile.mDigestCredentials.any fun c => auth.realm = some c.realm

omit [LinearOrder κ] [OrderBot κ] in
@[simp] theorem mState_transition (s : RealmStateValue) : (rs.transition s).mState = s := rfl
omit [LinearOrder κ] [OrderBot κ] in
@[simp] theorem mState_clear : rs.clear.mState = rs.mState := rfl

theorem tryCredential_snd : (rs.tryCredential profile auth).2 = profile.canAnswer auth := by
  unfold tryCredential findCredential UserProfile.canAnswer
  cases hsupported : algorithmAndQopSupported auth || profile.extension auth with
  | false => simp
  | true =>
    by_cases hrealm : (profile.getDigestCredential (auth.realm.getD ⊥)).realm = ⊥
    · simp [hrealm]
    · simp [hrealm]

theorem tryCredential_mState :
    (rs.tryCredential profile auth).1.mState =
      if profile.canAnswer auth then rs.mState else .Failed := by
  unfold tryCredential findCredential UserProfile.canAnswer
  cases hsupported : algorithmAndQopSupported auth || profile.extension auth with
  | false => simp
  | true =>
    by_cases hrealm : (profile.getDigestCredential (auth.realm.getD ⊥)).realm = ⊥
    · simp [hrealm]
    · simp [hrealm]

theorem handleAuth_snd :
    (rs.handleAuth profile auth isProxyCredential).2 = !rs.refuses profile auth := by
  unfold handleAuth refuses
  cases hstate : rs.mState with
  | Invalid => simp [tryCredential_snd]
  | Cached => simp [tryCredential_snd]
  | Current =>
    cases hstale : auth.stale with
    | true => simp [tryCredential_snd]
    | false =>
      cases hnonce : auth.hasNewNonce rs.mAuth <;> simp [tryCredential_snd, hnonce]
  | TryOnce => rfl
  | Failed => rfl

theorem handleAuth_mState :
    (rs.handleAuth profile auth isProxyCredential).1.mState =
      if rs.refuses profile auth then .Failed
      else if rs.mState = .Current ∧ auth.stale = false then .TryOnce else .Current := by
  unfold handleAuth refuses
  cases hstate : rs.mState with
  | Invalid => cases hcan : profile.canAnswer auth <;> simp [tryCredential_mState, hcan]
  | Cached => cases hcan : profile.canAnswer auth <;> simp [tryCredential_mState, hcan]
  | Current =>
    cases hstale : auth.stale with
    | true => cases hcan : profile.canAnswer auth <;> simp [tryCredential_mState, hcan]
    | false =>
      cases hnonce : auth.hasNewNonce rs.mAuth <;>
        cases hcan : profile.canAnswer auth <;> simp [tryCredential_mState, hcan, hnonce]
  | TryOnce => simp
  | Failed => simp

theorem mState_of_not_refuses (h : ¬rs.refuses profile auth) :
    rs.mState = .Invalid ∨ rs.mState = .Cached ∨ rs.mState = .Current := by
  unfold refuses at h
  cases hstate : rs.mState <;> simp_all

theorem remaining_handleAuth_le :
    (rs.handleAuth profile auth isProxyCredential).1.mState.remaining ≤ rs.mState.remaining := by
  rw [handleAuth_mState]
  by_cases hrefuses : rs.refuses profile auth
  · simp [hrefuses, RealmStateValue.remaining]
  · rw [if_neg hrefuses]
    rcases rs.mState_of_not_refuses profile auth hrefuses with hstate | hstate | hstate <;>
      cases auth.stale <;> simp [hstate, RealmStateValue.remaining]

theorem remaining_handleAuth_lt (hanswered : ¬rs.refuses profile auth)
    (hadvances : rs.advances profile auth) :
    (rs.handleAuth profile auth isProxyCredential).1.mState.remaining < rs.mState.remaining := by
  rw [handleAuth_mState, if_neg hanswered]
  simp only [advances, Bool.and_eq_true, Bool.not_eq_true', Bool.and_eq_false_iff,
    decide_eq_false_iff_not] at hadvances
  rcases rs.mState_of_not_refuses profile auth hanswered with hstate | hstate | hstate
  · simp [hstate, RealmStateValue.remaining]
  · simp [hstate, RealmStateValue.remaining]
  · have hfresh : auth.stale = false := hadvances.1.resolve_left fun hne => hne hstate
    simp [hstate, hfresh, RealmStateValue.remaining]

end RealmState

/-! ### All realms -/

namespace AuthState
variable (profile : UserProfile κ) (isProxyCredential : Bool)

local instance transCmp_realm : Std.TransCmp (compare : κ → κ → Ordering) := inferInstance

/-- No realm is in the state `v`. -/
def Avoids (v : RealmStateValue) (s : AuthState κ) : Prop :=
  ∀ (realm : κ) (rs : RealmState κ), s.mRealms[realm]? = some rs → rs.mState ≠ v

/-- How many challenges are still answered for the realms with credentials. -/
def remaining (s : AuthState κ) : ℕ :=
  (profile.mDigestCredentials.map fun c => (s.realmState c.realm).mState.remaining).sum

/-- What a loop over fields comes to, of which each meets the states that the earlier ones left. -/
def outcome : AuthState κ → List (Auth κ) → ChallengeOutcome
  | _, [] => .handled
  | s, auth :: auths =>
    match auth.realm with
    | none => .noRealm
    | some realm =>
      if (s.realmState realm).refuses profile auth then .failed
      else
        (s.setRealm realm ((s.realmState realm).handleAuth profile auth isProxyCredential).1).outcome
          auths

/-- One of the fields advances its realm. -/
def advances : AuthState κ → List (Auth κ) → Bool
  | _, [] => false
  | s, auth :: auths =>
    match auth.realm with
    | none => false
    | some realm =>
      (s.realmState realm).advances profile auth ||
        (s.setRealm realm ((s.realmState realm).handleAuth profile auth isProxyCredential).1).advances
          auths

omit [OrderBot κ] in
theorem getElem?_setRealm (s : AuthState κ) (realm r : κ) (rs : RealmState κ) :
    (s.setRealm realm rs).mRealms[r]? = if realm = r then some rs else s.mRealms[r]? := by
  simp [setRealm, Std.ExtTreeMap.getElem?_insert]

theorem realmState_setRealm (s : AuthState κ) (realm r : κ) (rs : RealmState κ) :
    (s.setRealm realm rs).realmState r = if realm = r then rs else s.realmState r := by
  unfold realmState
  rw [getElem?_setRealm]
  split <;> rfl

omit [OrderBot κ] in
theorem Avoids.setRealm {v : RealmStateValue} {s : AuthState κ} (h : s.Avoids v) (realm : κ)
    {rs : RealmState κ} (hrs : rs.mState ≠ v) : (s.setRealm realm rs).Avoids v := by
  intro r rs' hr
  rw [getElem?_setRealm] at hr
  split at hr
  · rw [← Option.some.inj hr]
    exact hrs
  · exact h r rs' hr

theorem remaining_setRealm_le {s : AuthState κ} {realm : κ} {rs : RealmState κ}
    (h : rs.mState.remaining ≤ (s.realmState realm).mState.remaining) :
    (s.setRealm realm rs).remaining profile ≤ s.remaining profile := by
  refine List.sum_le_sum fun c _ => ?_
  rw [realmState_setRealm]
  split
  case isTrue heq => exact heq ▸ h
  case isFalse => exact le_rfl

theorem remaining_setRealm_lt {s : AuthState κ} {realm : κ} {rs : RealmState κ}
    (hrealm : ∃ c ∈ profile.mDigestCredentials, c.realm = realm)
    (h : rs.mState.remaining < (s.realmState realm).mState.remaining) :
    (s.setRealm realm rs).remaining profile < s.remaining profile := by
  obtain ⟨c, hc, hcrealm⟩ := hrealm
  refine List.sum_lt_sum _ _ (fun d _ => ?_) ⟨c, hc, ?_⟩
  · rw [realmState_setRealm]
    split
    case isTrue heq => exact heq ▸ h.le
    case isFalse => exact le_rfl
  · rw [realmState_setRealm, if_pos hcrealm.symm, hcrealm]
    exact h

theorem remaining_le (s : AuthState κ) :
    s.remaining profile ≤ 2 * profile.mDigestCredentials.length := by
  have hsum := List.sum_le_card_nsmul
    (profile.mDigestCredentials.map fun c => (s.realmState c.realm).mState.remaining) 2
    (by simp [RealmStateValue.remaining_le])
  rw [List.length_map, smul_eq_mul] at hsum
  unfold remaining
  omega

theorem handleAuths_snd (s : AuthState κ) (auths : List (Auth κ)) :
    (handleAuths profile isProxyCredential s auths).2 = s.outcome profile isProxyCredential auths := by
  induction auths generalizing s with
  | nil => rfl
  | cons auth auths ih =>
    unfold handleAuths outcome
    cases auth.realm with
    | none => rfl
    | some realm =>
      simp only [RealmState.handleAuth_snd]
      cases (s.realmState realm).refuses profile auth with
      | true => rfl
      | false => exact ih _

theorem handleAuth_not_invalid (rs : RealmState κ) (auth : Auth κ) :
    (rs.handleAuth profile auth isProxyCredential).1.mState ≠ .Invalid := by
  rw [RealmState.handleAuth_mState]
  split_ifs <;> simp

theorem handleAuth_not_failed {rs : RealmState κ} {auth : Auth κ}
    (h : ¬rs.refuses profile auth) :
    (rs.handleAuth profile auth isProxyCredential).1.mState ≠ .Failed := by
  rw [RealmState.handleAuth_mState, if_neg h]
  split_ifs <;> simp

theorem Avoids.handleAuths_invalid {s : AuthState κ} (h : s.Avoids .Invalid)
    (auths : List (Auth κ)) : (handleAuths profile isProxyCredential s auths).1.Avoids .Invalid := by
  induction auths generalizing s with
  | nil => exact h
  | cons auth auths ih =>
    unfold AuthState.handleAuths
    cases auth.realm with
    | none => exact h
    | some realm =>
      have hnext := h.setRealm realm
        (handleAuth_not_invalid profile isProxyCredential (s.realmState realm) auth)
      dsimp only
      split
      · exact ih hnext
      · exact hnext

theorem Avoids.handleAuths_failed {s : AuthState κ} (h : s.Avoids .Failed) {auths : List (Auth κ)}
    (hanswered : s.outcome profile isProxyCredential auths ≠ .failed) :
    (handleAuths profile isProxyCredential s auths).1.Avoids .Failed := by
  induction auths generalizing s with
  | nil => exact h
  | cons auth auths ih =>
    unfold outcome at hanswered
    unfold AuthState.handleAuths
    cases hrealm : auth.realm with
    | none => exact h
    | some realm =>
      simp only [hrealm, RealmState.handleAuth_snd] at hanswered ⊢
      split at hanswered
      · exact absurd rfl hanswered
      case isFalse hrefuses =>
        simp only [hrefuses, Bool.not_false, if_true]
        exact ih (h.setRealm realm (handleAuth_not_failed profile isProxyCredential hrefuses)) hanswered

theorem remaining_handleAuths_le (s : AuthState κ) (auths : List (Auth κ)) :
    (handleAuths profile isProxyCredential s auths).1.remaining profile ≤ s.remaining profile := by
  induction auths generalizing s with
  | nil => exact le_rfl
  | cons auth auths ih =>
    unfold handleAuths
    cases auth.realm with
    | none => exact le_rfl
    | some realm =>
      have hnext := remaining_setRealm_le profile
        ((s.realmState realm).remaining_handleAuth_le profile auth isProxyCredential)
      dsimp only
      split
      · exact (ih _).trans hnext
      · exact hnext

theorem remaining_handleAuths_lt {s : AuthState κ} {auths : List (Auth κ)}
    (hanswered : s.outcome profile isProxyCredential auths = .handled)
    (hadvances : s.advances profile isProxyCredential auths) :
    (handleAuths profile isProxyCredential s auths).1.remaining profile < s.remaining profile := by
  induction auths generalizing s with
  | nil => simp [advances] at hadvances
  | cons auth auths ih =>
    unfold outcome at hanswered
    unfold advances at hadvances
    unfold handleAuths
    cases hrealm : auth.realm with
    | none => simp [hrealm] at hadvances
    | some realm =>
      simp only [hrealm, RealmState.handleAuth_snd, Bool.or_eq_true] at hanswered hadvances ⊢
      split at hanswered
      · cases hanswered
      case isFalse hrefuses =>
        simp only [hrefuses, Bool.not_false, if_true]
        rcases hadvances with hfirst | hrest
        · have hown : ∃ c ∈ profile.mDigestCredentials, c.realm = realm := by
            simp only [RealmState.advances, hrealm, Bool.and_eq_true, List.any_eq_true,
              decide_eq_true_eq, Option.some.injEq] at hfirst
            obtain ⟨c, hc, heq⟩ := hfirst.2
            exact ⟨c, hc, heq.symm⟩
          exact (remaining_handleAuths_le profile isProxyCredential _ auths).trans_lt
            (remaining_setRealm_lt profile hown
              ((s.realmState realm).remaining_handleAuth_lt profile auth isProxyCredential hrefuses
                hfirst))
        · exact (ih hanswered hrest).trans_le (remaining_setRealm_le profile
            ((s.realmState realm).remaining_handleAuth_le profile auth isProxyCredential))

/-! ### Challenges -/

section Challenge
variable {s : AuthState κ} (challenge : AuthResponse κ)

/-- The state in which the fields of `Proxy-Authenticate` are handled. -/
def afterWww (s : AuthState κ) : AuthState κ :=
  (handleAuths profile false s (challenge.wwwAuthenticates.getD [])).1

/-- A realm refuses the challenge. -/
def refusesChallenge (s : AuthState κ) : Bool :=
  let www := s.outcome profile false (challenge.wwwAuthenticates.getD [])
  let proxy := (s.afterWww profile challenge).outcome profile true
    (challenge.proxyAuthenticates.getD [])
  www = .failed || (www ≠ .noRealm && proxy = .failed)

/-- All realms answer the challenge. -/
def answersChallenge (s : AuthState κ) : Bool :=
  s.outcome profile false (challenge.wwwAuthenticates.getD []) = .handled &&
    (s.afterWww profile challenge).outcome profile true
      (challenge.proxyAuthenticates.getD []) = .handled

/-- The answer advances a realm. -/
def advancesChallenge (s : AuthState κ) : Bool :=
  s.advances profile false (challenge.wwwAuthenticates.getD []) ||
    (s.afterWww profile challenge).advances profile true (challenge.proxyAuthenticates.getD [])

theorem handleChallenge_snd (h : (s.handleChallenge profile challenge).2) :
    s.answersChallenge profile challenge := by
  unfold handleChallenge at h
  split at h
  · simp at h
  · simp only [handleAuths_snd] at h
    split at h
    · simp at h
    · split at h
      case isTrue hboth =>
        simp only [answersChallenge, Bool.and_eq_true, decide_eq_true_eq]
        exact hboth
      case isFalse => simp at h

/-- The realms after a challenge are those after the first loop, or after both. -/
theorem handleChallenge_cases {P : AuthState κ → Prop}
    (hP : ∀ s n, P s → P { s with mCacheUseLimit := n })
    (hs : P s) (hwww : P (s.afterWww profile challenge))
    (hproxy : P (handleAuths profile true (s.afterWww profile challenge)
      (challenge.proxyAuthenticates.getD [])).1) :
    P (s.handleChallenge profile challenge).1 := by
  unfold handleChallenge
  split
  · exact hs
  · dsimp only
    split
    · exact hwww
    · split
      · exact hP _ _ hproxy
      · exact hproxy

theorem Avoids.handleChallenge_invalid (h : s.Avoids .Invalid) :
    (s.handleChallenge profile challenge).1.Avoids .Invalid := by
  have hwww := h.handleAuths_invalid profile false (challenge.wwwAuthenticates.getD [])
  exact handleChallenge_cases profile challenge (P := Avoids .Invalid) (fun _ _ => id) h hwww
    (hwww.handleAuths_invalid profile true _)

theorem Avoids.handleChallenge_failed (h : s.Avoids .Failed)
    (hrefuses : ¬s.refusesChallenge profile challenge) :
    (s.handleChallenge profile challenge).1.Avoids .Failed := by
  simp only [refusesChallenge, Bool.or_eq_true, decide_eq_true_eq, Bool.and_eq_true, not_or,
    not_and] at hrefuses
  have hwww := h.handleAuths_failed profile false hrefuses.1
  unfold handleChallenge
  split
  · exact h
  · simp only [handleAuths_snd]
    split
    · exact hwww
    case isFalse hnamed =>
      have hproxy := hwww.handleAuths_failed profile true (hrefuses.2 hnamed)
      split
      · exact hproxy
      · exact hproxy

theorem remaining_handleChallenge_le :
    (s.handleChallenge profile challenge).1.remaining profile ≤ s.remaining profile := by
  have hwww := remaining_handleAuths_le profile false s (challenge.wwwAuthenticates.getD [])
  exact handleChallenge_cases profile challenge
    (P := fun s' => s'.remaining profile ≤ s.remaining profile) (fun _ _ => id) le_rfl hwww
    ((remaining_handleAuths_le profile true _ _).trans hwww)

theorem remaining_handleChallenge_lt (h : (s.handleChallenge profile challenge).2)
    (hadvances : s.advancesChallenge profile challenge) :
    (s.handleChallenge profile challenge).1.remaining profile < s.remaining profile := by
  have hanswers := handleChallenge_snd profile challenge h
  simp only [answersChallenge, Bool.and_eq_true, decide_eq_true_eq] at hanswers
  have hlt : (handleAuths profile true (s.afterWww profile challenge)
      (challenge.proxyAuthenticates.getD [])).1.remaining profile < s.remaining profile := by
    simp only [advancesChallenge, Bool.or_eq_true] at hadvances
    rcases hadvances with hwww | hproxy
    · exact (remaining_handleAuths_le profile true _ _).trans_lt
        (remaining_handleAuths_lt profile false hanswers.1 hwww)
    · exact (remaining_handleAuths_lt profile true hanswers.2 hproxy).trans_le
        (remaining_handleAuths_le profile false s _)
  unfold handleChallenge at h ⊢
  split
  case isTrue hfailed => simp [hfailed] at h
  case isFalse hfailed =>
    simp only [hfailed, handleAuths_snd] at h ⊢
    split
    case isTrue hnone => simp [hnone] at h
    case isFalse =>
      split
      · exact hlt
      · exact hlt

end Challenge

/-! ### Successes and requests -/

omit [OrderBot κ] in
theorem Avoids.maySucceed {s : AuthState κ} (hinvalid : s.Avoids .Invalid)
    (hfailed : s.Avoids .Failed) : s.maySucceed := by
  simp only [AuthState.maySucceed, List.all_eq_true, RealmState.maySucceed, Bool.and_eq_true,
    decide_eq_true_eq, Prod.forall]
  intro realm rs hmem
  have hget := Std.ExtTreeMap.mem_toList_iff_getElem?_eq_some.mp hmem
  exact ⟨hinvalid realm rs hget, hfailed realm rs hget⟩

omit [OrderBot κ] in
theorem Avoids.mayAdd {s : AuthState κ} (hfailed : s.Avoids .Failed) : s.mayAdd := by
  simp only [AuthState.mayAdd, Bool.or_eq_true, List.all_eq_true, RealmState.mayAdd,
    decide_eq_true_eq, Prod.forall]
  exact .inr fun realm rs hmem =>
    hfailed realm rs (Std.ExtTreeMap.mem_toList_iff_getElem?_eq_some.mp hmem)

omit [OrderBot κ] in
theorem Avoids.authSucceeded {v : RealmStateValue} {s : AuthState κ} (h : s.Avoids v)
    (hv : v ≠ .Cached) : s.authSucceeded.Avoids v := by
  unfold AuthState.authSucceeded
  dsimp only
  split
  · intro realm rs hget
    simp at hget
  · intro realm rs hget
    simp only [Std.ExtTreeMap.getElem?_map, Option.map_eq_some_iff] at hget
    obtain ⟨rs₀, hget, rfl⟩ := hget
    have hne := h realm rs₀ hget
    unfold RealmState.authSucceeded
    split
    · exact hne
    · exact hne
    · exact hv.symm
    · exact hv.symm
    · exact hv.symm

omit [LinearOrder κ] [OrderBot κ] in
theorem mState_addAuthentication (rs : RealmState κ) :
    rs.addAuthentication.1.mState = rs.mState := by
  unfold RealmState.addAuthentication
  dsimp only
  split_ifs <;> rfl

omit [OrderBot κ] in
theorem Avoids.addAuthentication {v : RealmStateValue} {s : AuthState κ} (h : s.Avoids v) :
    s.addAuthentication.1.Avoids v := by
  unfold AuthState.addAuthentication
  split
  · exact h
  · intro realm rs hget
    simp only [Std.ExtTreeMap.getElem?_map, Option.map_eq_some_iff] at hget
    obtain ⟨rs₀, hget, rfl⟩ := hget
    rw [mState_addAuthentication]
    exact h realm rs₀ hget

theorem remaining_addAuthentication (s : AuthState κ) :
    s.addAuthentication.1.remaining profile = s.remaining profile := by
  unfold AuthState.addAuthentication
  split
  · rfl
  · unfold remaining realmState
    congr 1
    refine List.map_congr_left fun c _ => ?_
    rw [Std.ExtTreeMap.getElem?_map]
    cases s.mRealms[c.realm]? with
    | none => rfl
    | some rs => exact congrArg _ (mState_addAuthentication rs)

end AuthState

end Resiprocate.Dum
