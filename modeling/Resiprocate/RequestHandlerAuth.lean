import Mathlib
import Resiprocate.RequestHandlerTurn

/-! Which messages pass the authentication of the request handler, which messages it
does not answer, and which ones change allocations. -/
namespace Resiprocate.ReTurn

open StunMessage

namespace RequestHandler

variable {h : RequestHandler} {times : ℕ → ℕ} {t : TurnManager}
  {allocations : TurnAllocationManager} {request response : StunMessage} {relay : RelayStart}
  {rfc3489 : Bool}

/-- Messages that are not authenticated. -/
def Exempt (request : StunMessage) : Prop :=
  (request.mClass = stunClassRequest ∧ request.mMethod = sharedSecretMethod) ∨
    (request.mClass = stunClassRequest ∧ request.mMethod = bindMethod) ∨
    request.mClass = stunClassIndication

instance (request : StunMessage) : Decidable (Exempt request) :=
  inferInstanceAs (Decidable (_ ∨ _ ∨ _))

/-- A nonce that this server made, not older than the lifetime of nonces. -/
structure NonceValid (h : RequestHandler) (now : UInt64) (nonce timestamp : Data) : Prop where
  made : nonce = timestamp ++ 58 :: h.md5 (timestamp ++ 58 :: h.mPrivateNonceKey)
  digit : ∃ c rest, timestamp = c :: rest ∧ isDigit c
  colonFree : 58 ∉ timestamp
  fresh : now - convertUInt64 timestamp ≤ h.config.mNonceLifetime

theorem NonceValid.recent {now : UInt64} {nonce timestamp : Data}
    (hn : NonceValid h now nonce timestamp) (hlife : h.config.mNonceLifetime ≤ now) :
    convertUInt64 timestamp ≤ now ∧
      now.toNat - (convertUInt64 timestamp).toNat ≤ h.config.mNonceLifetime.toNat := by
  have hf := hn.fresh
  rw [UInt64.le_iff_toNat_le] at hf hlife ⊢
  rw [UInt64.toNat_sub] at hf
  have hnow := now.toNat_lt
  have hts := (convertUInt64 timestamp).toNat_lt
  omega

theorem takeWhile_timestamp {timestamp : Data} (hc : 58 ∉ timestamp) (rest : Data) :
    (timestamp ++ 58 :: rest).takeWhile (· ≠ 58) = timestamp := by
  rw [List.takeWhile_append_of_pos]
  · simp
  · intro c hmem
    have hne : c ≠ 58 := fun he => hc (he ▸ hmem)
    simpa using hne

theorem checkNonce_valid_iff (h : RequestHandler) (now : UInt64) (nonce : Data) :
    h.checkNonce now nonce = .valid ↔ ∃ timestamp, NonceValid h now nonce timestamp := by
  constructor
  · intro hv
    simp only [checkNonce] at hv
    split_ifs at hv with hdigit hcolon hfresh hmade
    have hcf : (58 : UInt8) ∉ nonce.takeWhile (· ≠ 58) := fun hmem => by
      simpa using List.mem_takeWhile_imp hmem
    refine ⟨nonce.takeWhile (· ≠ 58), hmade.symm, ?_, hcf, hfresh⟩
    cases nonce with
    | nil => simp at hcolon
    | cons c rest =>
      have hc : isDigit c = true := by simpa using hdigit
      have hne : c ≠ 58 := fun he => by
        subst he
        exact absurd hc (by decide)
      exact ⟨c, rest.takeWhile (· ≠ 58), by simp [hne], hc⟩
  · rintro ⟨timestamp, hn⟩
    obtain ⟨c, rest, rfl, hc⟩ := hn.digit
    have htake := takeWhile_timestamp hn.colonFree (h.md5 (c :: rest ++ 58 :: h.mPrivateNonceKey))
    rw [← hn.made] at htake
    have hhead : (nonce.head?.map isDigit).getD true = true := by
      rw [hn.made]
      simpa using hc
    have hlen : (c :: rest).length ≠ nonce.length := by
      rw [hn.made]
      simp
    have hmade : h.generateNonce (c :: rest) = nonce := hn.made.symm
    simp only [checkNonce, htake, hhead, hlen, hn.fresh, hmade]
    simp

/-- The message carries an integrity code under the stored key of its user and realm,
and a nonce of this server. -/
structure Authentic (h : RequestHandler) (now : UInt64) (request : StunMessage)
    (username realm nonce timestamp : Data) : Prop where
  integrity : request.has .messageIntegrity
  has_username : request.attrs .username = some username
  has_realm : request.attrs .realm = some realm
  has_nonce : request.attrs .nonce = some nonce
  nonce_valid : NonceValid h now nonce timestamp
  user_valid : h.config.isUserNameValid username realm
  verifies : (request.checkMessageIntegrity h.computeHmac
    (h.config.getHa1ForUsername username realm)).1

/-- The credentials of a message pass. -/
def IsAuthentic (h : RequestHandler) (now : UInt64) (request : StunMessage) : Prop :=
  ∃ username realm nonce timestamp, Authentic h now request username realm nonce timestamp

/-- An authenticated answer carries the key of the user. -/
theorem handleAuthentication_spec (h : RequestHandler) (times : ℕ → ℕ)
    (request response : StunMessage) :
    (Exempt request ∧ h.handleAuthentication times request response = (true, response)) ∨
    (¬ Exempt request ∧ ∃ username realm nonce timestamp,
      Authentic h (UInt64.ofNat (times 0)) request username realm nonce timestamp ∧
      h.handleAuthentication times request response =
        (true, { (response.set .messageIntegrity (.replicate 20 0)) with
          mHmacKey := h.config.getHa1ForUsername username realm })) ∨
    (¬ Exempt request ∧ ¬ IsAuthentic h (UInt64.ofNat (times 0)) request ∧
      (h.handleAuthentication times request response).1 = false) := by
  by_cases he : Exempt request
  · exact .inl ⟨he, if_pos he⟩
  refine .inr ?_
  have hif := he
  simp only [Exempt] at hif
  simp only [handleAuthentication, if_neg hif]
  by_cases hmi : request.has .messageIntegrity = false
  · simp only [if_pos hmi]
    refine .inr ⟨he, fun ⟨_, _, _, _, ha⟩ => ?_, by simp⟩
    have := ha.integrity
    simp [hmi] at this
  simp only [if_neg hmi]
  cases hu : request.attrs .username with
  | none =>
    refine .inr ⟨he, fun ⟨_, _, _, _, ha⟩ => ?_, by simp⟩
    have := ha.has_username
    simp [hu] at this
  | some username =>
  cases hr : request.attrs .realm with
  | none =>
    refine .inr ⟨he, fun ⟨_, _, _, _, ha⟩ => ?_, by simp⟩
    have := ha.has_realm
    simp [hr] at this
  | some realm =>
  cases hn : request.attrs .nonce with
  | none =>
    refine .inr ⟨he, fun ⟨_, _, _, _, ha⟩ => ?_, by simp⟩
    have := ha.has_nonce
    simp [hn] at this
  | some nonce =>
  -- the three values of any credentials are the ones of the message
  have hsame : ∀ {u r n ts}, Authentic h (UInt64.ofNat (times 0)) request u r n ts →
      username = u ∧ realm = r ∧ nonce = n := fun ha =>
    ⟨Option.some.inj (hu.symm.trans ha.has_username), Option.some.inj (hr.symm.trans ha.has_realm),
      Option.some.inj (hn.symm.trans ha.has_nonce)⟩
  have hnonce := checkNonce_valid_iff h (UInt64.ofNat (times 0)) nonce
  cases hc : h.checkNonce (UInt64.ofNat (times 0)) nonce with
  | expired =>
    refine .inr ⟨he, fun ⟨_, _, _, ts, ha⟩ => ?_, by simp [hc]⟩
    obtain ⟨-, -, rfl⟩ := hsame ha
    have := hnonce.mpr ⟨ts, ha.nonce_valid⟩
    simp [hc] at this
  | notValid =>
    refine .inr ⟨he, fun ⟨_, _, _, ts, ha⟩ => ?_, by simp [hc]⟩
    obtain ⟨-, -, rfl⟩ := hsame ha
    have := hnonce.mpr ⟨ts, ha.nonce_valid⟩
    simp [hc] at this
  | valid =>
  obtain ⟨ts, hts⟩ := hnonce.mp hc
  by_cases hv : h.config.isUserNameValid username realm = false
  · refine .inr ⟨he, fun ⟨_, _, _, _, ha⟩ => ?_, by simp [hc, hv]⟩
    obtain ⟨rfl, rfl, -⟩ := hsame ha
    have := ha.user_valid
    simp [hv] at this
  by_cases hk : (request.checkMessageIntegrity h.computeHmac
      (h.config.getHa1ForUsername username realm)).1 = false
  · refine .inr ⟨he, fun ⟨_, _, _, _, ha⟩ => ?_, by simp [hc, hv, hk]⟩
    obtain ⟨rfl, rfl, -⟩ := hsame ha
    have := ha.verifies
    simp [hk] at this
  · refine .inl ⟨he, username, realm, nonce, ts, ?_, by simp [hc, hv, hk]⟩
    exact ⟨by simpa using hmi, hu, hr, hn, hts, by simpa using hv, by simpa using hk⟩

theorem handleAuthentication_passes_iff (h : RequestHandler) (times : ℕ → ℕ)
    (request response : StunMessage) :
    (h.handleAuthentication times request response).1 = true ↔
      Exempt request ∨ IsAuthentic h (UInt64.ofNat (times 0)) request := by
  obtain ⟨he, heq⟩ | ⟨-, u, r, n, ts, ha, heq⟩ | ⟨he, ha, hf⟩ :=
    h.handleAuthentication_spec times request response
  · simp [heq, he]
  · simp only [heq, true_iff]
    exact .inr ⟨u, r, n, ts, ha⟩
  · simp [hf, he, ha]

@[simp] theorem finish_result (o : Outcome) : (h.finish request o).result = o.result := by
  simp only [finish]
  split_ifs <;> rfl

@[simp] theorem finish_allocations (o : Outcome) :
    (h.finish request o).allocations = o.allocations := by
  simp only [finish]
  split_ifs <;> rfl

@[simp] theorem finish_turnManager (o : Outcome) :
    (h.finish request o).turnManager = o.turnManager := by
  simp only [finish]
  split_ifs <;> rfl

/-- Messages that are not requests. -/
def IsNonRequest (request : StunMessage) : Prop :=
  request.mClass = stunClassIndication ∨ request.mClass = stunClassSuccessResponse ∨
    request.mClass = stunClassErrorResponse

theorem dispatch_nonRequest (hc : IsNonRequest request) :
    (h.dispatch times t allocations request response relay rfc3489).result =
      .noResponseToSend := by
  have hne : request.mClass ≠ stunClassRequest := by
    obtain hc | hc | hc := hc <;> rw [hc] <;> decide
  simp only [dispatch, if_neg hne]
  split_ifs <;> rfl

theorem exempt_nonRequest (hc : IsNonRequest request) :
    Exempt request ↔ request.mClass = stunClassIndication := by
  have hne : request.mClass ≠ stunClassRequest := by
    obtain hc | hc | hc := hc <;> rw [hc] <;> decide
  simp [Exempt, hne]

/-- An indication is not answered when all its required attributes are known; a response
must in addition pass the authentication of a request. -/
theorem nonRequest_unanswered_iff (h : RequestHandler) (times : ℕ → ℕ) (t : TurnManager)
    (allocations : TurnAllocationManager) (request response : StunMessage) (relay : RelayStart)
    (rfc3489 : Bool) (hc : IsNonRequest request) :
    (h.processStunMessage times t allocations request response relay rfc3489).result =
        .noResponseToSend ↔
      request.mUnknownRequiredAttributes = [] ∧
        (request.mClass = stunClassIndication ∨
          IsAuthentic h (UInt64.ofNat (times 0)) request) := by
  have hpass := handleAuthentication_passes_iff h times request
    { response with mRemoteTuple := request.mRemoteTuple }
  rw [exempt_nonRequest hc] at hpass
  simp only [processStunMessage, finish_result]
  rw [← hpass]
  split_ifs with hauth hknown
  · simp [hauth]
  · simp [reject, hknown]
  · simpa [hauth, dispatch_nonRequest hc] using hknown

/-- A server without users. -/
def plainHandler : RequestHandler where
  config :=
    { mAllocationPortRangeMin := 49152
      mAllocationPortRangeMax := 65535
      min_even := rfl
      max_odd := rfl
      min_lt_max := by decide
      max_lt := by decide
      mSoftwareName := []
      mAuthenticationRealm := text "reTurn"
      mNonceLifetime := 3600
      mDefaultAllocationLifetime := 600
      mMaxAllocationLifetime := 3600
      mUsers _ _ := false
      mRealmUsersAuthenticaionCredentials _ _ := none
      credentials_of_users := by simp }
  mRFC3489SupportEnabled := false
  mPrim3489Address := .v4 0
  mPrim3489Port := 0
  mAlt3489Address := .v4 0
  mAlt3489Port := 0
  mPrivateNonceKey := []
  md5 _ := []
  computeHmac _ _ := .replicate 20 0
  createUsernameAndPassword _ := ([], [])
  getTupleFromUsername _ := anyTuple

def bindingIndication : StunMessage :=
  { init with mClass := stunClassIndication, mMethod := bindMethod }

theorem nonRequest_unanswered_iff_bindingIndication :
    (plainHandler.processStunMessage (fun _ => 0) (.new plainHandler.config.toPortRange)
      (fun _ => none) bindingIndication init .started false).result = .noResponseToSend :=
  (nonRequest_unanswered_iff plainHandler _ _ _ bindingIndication _ _ _ (.inl rfl)).mpr
    ⟨rfl, .inl rfl⟩

/-- A binding indication with an unknown required attribute is answered. -/
theorem not_nonRequest_unanswered : ¬ ∀ (h : RequestHandler) (times : ℕ → ℕ) (t : TurnManager)
    (allocations : TurnAllocationManager) (request response : StunMessage) (relay : RelayStart)
    (rfc3489 : Bool), IsNonRequest request →
    (h.processStunMessage times t allocations request response relay rfc3489).result =
      .noResponseToSend := by
  intro hall
  have h := hall plainHandler (fun _ => 0) (.new plainHandler.config.toPortRange) (fun _ => none)
    { bindingIndication with mUnknownRequiredAttributes := [0x7777] } init .started false (.inl rfl)
  simp [processStunMessage, handleAuthentication, bindingIndication, stunClassIndication, reject] at h

end RequestHandler

end Resiprocate.ReTurn
