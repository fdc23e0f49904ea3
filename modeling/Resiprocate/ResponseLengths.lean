import Resiprocate.RequestHandlerAuth
import Resiprocate.TurnClientMessages

/-! How long the responses of the server are. One without a realm is bounded, whatever the request was;
one with a realm is as long as the realm, the nonce and the name of the software make it. -/
namespace Resiprocate.ReTurn
open StunMessage

namespace RequestHandler

/-- The attributes of a response that carries a realm. -/
def refusalAttrs : List Attr :=
  [.errorCode, .unknownAttribute, .realm, .nonce, .xorMappedAddress, .software, .messageIntegrity, .fingerprint]

/-- The realm, the nonce, the reason and the name of the software decide how long a refusal is. -/
def refusalLength (m : StunMessage) : ℕ := 20 + (refusalAttrs.map m.attrLength).sum

/-- Nothing but attributes of a refusal is set. -/
structure OnlyRefusal (m : StunMessage) : Prop where
  only : ∀ a, a ∉ refusalAttrs → m.attrs a = none
  lists : m.listsLength = 0

/-- What each attribute takes at most in the responses without a realm: to binding requests, to requests for
a shared secret, and to all others. -/
def bindingCap : Attr → ℕ
  | .mappedAddress | .xorMappedAddress | .sourceAddress | .changedAddress | .reflectedFrom => 24
  | .software => 768
  | .fingerprint => 8
  | _ => 0

def secretCap : Attr → ℕ
  | .username => 112
  | .password => 44
  | .software => 768
  | .fingerprint => 8
  | _ => 0

def turnCap : Attr → ℕ
  | .errorCode => 68
  | .turnLifetime | .fingerprint => 8
  | .turnReservationToken => 12
  | .xorMappedAddress | .turnXorRelayedAddress | .messageIntegrity => 24
  | .software => 768
  | _ => 0

/-- A response is a refusal with a realm, or one of those whose attributes are bounded. -/
inductive Answer (cap : Attr → ℕ) (m : StunMessage) : Prop
  | refusal (hrealm : m.has .realm) (h : OnlyRefusal m)
  | plain (h : Within cap 0 m)

/-- A response of one of the three kinds. -/
def IsAnswer (m : StunMessage) : Prop := ∃ cap ∈ [bindingCap, secretCap, turnCap], Answer cap m

variable {m : StunMessage} {h : RequestHandler} {cap : Attr → ℕ}

theorem OnlyRefusal.of_same {m' : StunMessage} (hm : OnlyRefusal m) (hattrs : m'.attrs = m.attrs)
    (hlists : m'.listsLength = m.listsLength) : OnlyRefusal m' :=
  ⟨fun a ha => (congrFun hattrs a).trans (hm.only a ha), hlists.trans hm.lists⟩

theorem OnlyRefusal.set (hm : OnlyRefusal m) {a : Attr} {v : a.Value} (ha : a ∈ refusalAttrs) :
    OnlyRefusal (m.set a v) := by
  refine ⟨fun b hb => ?_, hm.lists⟩
  have hne : b ≠ a := fun he => hb (he ▸ ha)
  exact (attrs_set_other hne v).trans (hm.only b hb)

theorem sum_map_filter {α : Type*} {f : α → ℕ} {p : α → Bool} : ∀ {l : List α},
    (∀ a ∈ l, p a = false → f a = 0) → (l.map f).sum = ((l.filter p).map f).sum
  | [], _ => rfl
  | a :: l, h => by
    have hrest := sum_map_filter (l := l) fun b hb => h b (List.mem_cons_of_mem a hb)
    cases hp : p a with
    | true => simp [hp, hrest]
    | false => simp [hp, hrest, h a List.mem_cons_self hp]

theorem OnlyRefusal.encodedLength (hm : OnlyRefusal m) : m.encodedLength = refusalLength m := by
  have hzero : ∀ a ∈ allAttrs, (decide (a ∈ refusalAttrs)) = false → m.attrLength a = 0 := by
    intro a _ ha
    rw [attrLength, hm.only a (of_decide_eq_false ha)]
  have hfilter : allAttrs.filter (fun a => decide (a ∈ refusalAttrs)) = refusalAttrs := by decide
  rw [StunMessage.encodedLength, hm.lists, sum_map_filter hzero, hfilter, refusalLength, Nat.add_zero]

theorem has_false_of_attrLength {a : Attr} (hpos : ∀ v : a.Value, 0 < a.kind.encodedLength v)
    (hm : m.attrLength a ≤ 0) : m.has a = false := by
  unfold attrLength at hm
  unfold has
  cases ha : m.attrs a with
  | none => rfl
  | some v =>
    rw [ha] at hm
    exact absurd (hpos v) (not_lt.mpr hm)

theorem IsAnswer.fits_iff (hm : IsAnswer m) :
    m.encodedLength ≤ 1024 ↔ (m.has .realm = true → refusalLength m ≤ 1024) := by
  obtain ⟨cap, hmem, hm⟩ := hm
  have hcaps : ∀ cap ∈ [bindingCap, secretCap, turnCap],
      cap .realm = 0 ∧ 20 + (allAttrs.map cap).sum + 0 ≤ 1024 := by
    simp only [List.forall_mem_cons, List.not_mem_nil, false_imp_iff, implies_true, and_true]
    decide
  obtain ⟨hcapRealm, hcap⟩ := hcaps cap hmem
  cases hm with
  | refusal hrealm h => rw [h.encodedLength, forall_prop_of_true hrealm]
  | plain h =>
    have hnone : m.has .realm = false := by
      refine has_false_of_attrLength (fun v => ?_) ((h.attr .realm).trans hcapRealm.le)
      exact Nat.lt_of_lt_of_le (by decide) (Nat.le_add_right 4 _)
    simp [h.encodedLength_le.trans hcap, hnone]

/-! ### The responses of the server -/

/-- A response before it is decided what it answers. -/
structure Fresh (m : StunMessage) : Prop where
  only : ∀ a, a ≠ .messageIntegrity → m.attrs a = none
  lists : m.listsLength = 0

variable {response request : StunMessage} {now : UInt64} {errorCode : ℕ} {msg : String}

theorem Fresh.onlyRefusal (hm : Fresh m) : OnlyRefusal m :=
  ⟨fun a ha => hm.only a fun he => ha (he ▸ by decide), hm.lists⟩

theorem Fresh.within (hm : Fresh m) : Within turnCap 0 m := by
  refine ⟨fun a => ?_, hm.lists.le⟩
  by_cases ha : a = .messageIntegrity
  · subst ha
    rw [attrLength_flag (n := 24) fun _ => rfl]
    split_ifs
    · exact le_refl 24
    · exact Nat.zero_le 24
  · rw [attrLength, hm.only a ha]
    exact Nat.zero_le _

theorem within_buildErrorResponse (h : RequestHandler) (now : UInt64) (hm : Within turnCap 0 response) (hmsg : (text msg).length ≤ 60) :
    Within turnCap 0 (h.buildErrorResponse now response errorCode msg none) := by
  exact (hm.withClass stunClassErrorResponse).set (a := .errorCode) (Nat.add_le_add_left (padded_mono hmsg) 8)

theorem refusal_buildErrorResponse (hm : OnlyRefusal response) (realm : Data) :
    (h.buildErrorResponse now response errorCode msg (some realm)).has .realm = true ∧
      OnlyRefusal (h.buildErrorResponse now response errorCode msg (some realm)) := by
  have hclass : OnlyRefusal { response with mClass := stunClassErrorResponse } := hm.of_same rfl rfl
  have herror : OnlyRefusal (({ response with mClass := stunClassErrorResponse }).setErrorCode errorCode msg) :=
    hclass.set (by decide)
  refine ⟨?_, (herror.set (a := .realm) (v := realm) (by decide)).set (by decide)⟩
  have hrealm : (h.buildErrorResponse now response errorCode msg (some realm)).attrs .realm = some realm :=
    (attrs_set_other (by decide) _).trans (attrs_set_same .realm realm)
  rw [has, hrealm]
  rfl

theorem answer_buildErrorResponse (hm : OnlyRefusal response) (realm : Data) :
    Answer turnCap (h.buildErrorResponse now response errorCode msg (some realm)) :=
  .refusal (refusal_buildErrorResponse hm realm).1 (refusal_buildErrorResponse hm realm).2

theorem Answer.set {a : Attr} {v : a.Value} (hm : Answer cap m) (ha : a ∈ refusalAttrs)
    (hv : a.kind.encodedLength v ≤ cap a) : Answer cap (m.set a v) := by
  cases hm with
  | refusal hrealm h =>
    refine .refusal ?_ (h.set ha)
    by_cases hr : a = .realm
    · subst hr
      exact congrArg Option.isSome (attrs_set_same .realm v)
    · exact (congrArg Option.isSome (attrs_set_other (Ne.symm hr) v)).trans hrealm
  | plain h => exact .plain (h.set hv)

/-- The answer to a request with attributes that are not known. -/
theorem answer_unknownAttribute (hm : OnlyRefusal response) (realm : Data) (unknown : List UInt16) :
    Answer turnCap ((h.buildErrorResponse now response errorCode msg (some realm)).set .unknownAttribute
      unknown) := by
  obtain ⟨hrealm, honly⟩ := refusal_buildErrorResponse hm realm
  refine .refusal ?_ (honly.set (by decide))
  exact (congrArg Option.isSome (attrs_set_other (by decide) _)).trans hrealm

theorem Answer.of_same {m' : StunMessage} (hm : Answer cap m) (hattrs : m'.attrs = m.attrs)
    (hlists : m'.listsLength = m.listsLength) : Answer cap m' := by
  cases hm with
  | refusal hrealm h =>
    refine .refusal ?_ (h.of_same hattrs hlists)
    rw [has, hattrs]
    exact hrealm
  | plain h => exact .plain (h.of_same hattrs hlists)

/-- What a request gets when it is not authenticated; else the response stays undecided. -/
theorem handleAuthentication_answers (h : RequestHandler) (request : StunMessage) (times : ℕ → ℕ)
    (hm : Fresh response) :
    ((h.handleAuthentication times request response).1 = true →
      Fresh (h.handleAuthentication times request response).2) ∧
    ((h.handleAuthentication times request response).1 = false →
      Answer turnCap (h.handleAuthentication times request response).2) := by
  have hrefused : ∀ {now : UInt64} {errorCode : ℕ} {msg : String} {realm : Data},
      Answer turnCap (h.buildErrorResponse now response errorCode msg (some realm)) := fun {_ _ _ _} =>
    answer_buildErrorResponse hm.onlyRefusal _
  have hrejected : ∀ (errorCode : ℕ) (msg : String), (text msg).length ≤ 60 →
      Answer turnCap (h.buildErrorResponse (UInt64.ofNat (times 1)) response errorCode msg none) := fun _ _ hmsg =>
    .plain ((within_buildErrorResponse h _ hm.within hmsg))
  have hintegrity : ∀ hmacKey, Fresh
      { (response.set .messageIntegrity (.replicate 20 0)) with mHmacKey := hmacKey } := fun hmacKey =>
    ⟨fun a ha => (attrs_set_other ha _).trans (hm.only a ha), hm.lists⟩
  unfold handleAuthentication
  dsimp only
  split_ifs
  · exact ⟨fun _ => hm, nofun⟩
  · exact ⟨nofun, fun _ => hrefused⟩
  · split
    · exact ⟨nofun, fun _ => hrejected _ _ (by decide)⟩
    · split
      · exact ⟨nofun, fun _ => hrejected _ _ (by decide)⟩
      · split
        · exact ⟨nofun, fun _ => hrejected _ _ (by decide)⟩
        · split
          · exact ⟨nofun, fun _ => hrefused⟩
          · exact ⟨nofun, fun _ => hrejected _ _ (by decide)⟩
          · split_ifs
            · exact ⟨nofun, fun _ => hrefused⟩
            · exact ⟨nofun, fun _ => hrefused⟩
            · exact ⟨fun _ => hintegrity _, nofun⟩

variable {times : ℕ → ℕ} {t : TurnManager} {allocations : TurnAllocationManager}

theorem answer_reject {realm : Option Data} (hm : Within turnCap 0 response)
    (honly : realm.isSome → OnlyRefusal response) (hmsg : (text msg).length ≤ 60) :
    Answer turnCap (h.reject times t allocations response errorCode msg realm).response := by
  cases realm with
  | none => exact .plain ((within_buildErrorResponse h (UInt64.ofNat (times 1)) hm hmsg))
  | some realm => exact answer_buildErrorResponse (honly rfl) realm

theorem Fresh.reject {realm : Option Data} (hm : Fresh response) (hmsg : (text msg).length ≤ 60) :
    Answer turnCap (h.reject times t allocations response errorCode msg realm).response :=
  answer_reject hm.within (fun _ => hm.onlyRefusal) hmsg

/-- A port is refused with one of three texts. -/
theorem choosePort_refused {transport : TransportType}
    (hp : (h.choosePort t request transport).1 = .refused errorCode msg) : (text msg).length ≤ 60 := by
  have hofPort : ∀ port, PortChoice.ofPort port = .refused errorCode msg → (text msg).length ≤ 60 := by
    intro port hport
    unfold PortChoice.ofPort at hport
    split_ifs at hport
    obtain ⟨-, rfl⟩ := PortChoice.refused.inj hport
    decide
  have hany : ∀ t, (h.chooseAnyPort t transport).1 = .refused errorCode msg → (text msg).length ≤ 60 :=
    fun t => hofPort _
  unfold choosePort at hp
  dsimp only at hp
  split at hp
  · split_ifs at hp
    · obtain ⟨-, rfl⟩ := PortChoice.refused.inj hp
      decide
    · exact hofPort _ hp
    · exact hofPort _ hp
    · exact hofPort 0 hp
  · split at hp
    · split_ifs at hp
      · obtain ⟨-, rfl⟩ := PortChoice.refused.inj hp
        decide
      · exact hany _ hp
    · exact hany _ hp

/-- The token of a reserved port fits into the response. -/
theorem Fresh.within_token (hm : Fresh response) (token : Option UInt64) : Within turnCap 0 (match token with
    | none => response
    | some token => response.set .turnReservationToken token) := by
  cases token with
  | none => exact hm.within
  | some token => exact hm.within.set (a := .turnReservationToken) (le_refl 12)

theorem processTurnAllocateRequest_answers (relay : RelayStart) (hm : Fresh response) :
    Answer turnCap (h.processTurnAllocateRequest times t allocations request response relay).response := by
  unfold processTurnAllocateRequest
  dsimp only
  have hunrefused : ∀ r : StunMessage, (none : Option Data).isSome → OnlyRefusal r := fun r hr => by simp at hr
  by_cases hintegrity : request.has .messageIntegrity = false
  · rw [if_pos hintegrity]
    exact hm.reject (by decide)
  rw [if_neg hintegrity]
  by_cases hthere : (allocations request.key).isSome = true
  · rw [if_pos hthere]
    exact hm.reject (by decide)
  rw [if_neg hthere]
  split
  · exact hm.reject (by decide)
  · next transport htransport =>
    by_cases hudp : transport ≠ 17
    · rw [if_pos hudp]
      exact hm.reject (by decide)
    rw [if_neg hudp]
    by_cases hfragment : request.has .turnDontFragment = true
    · rw [if_pos hfragment]
      exact hm.reject (by decide)
    rw [if_neg hfragment]
    split
    · next hport => exact answer_reject (hm.within_token _) (hunrefused _) (choosePort_refused hport)
    · split
      · exact answer_reject (hm.within_token _) (hunrefused _) (by decide)
      · exact answer_reject (hm.within_token _) (hunrefused _) (by decide)
      · refine .plain (.set (.set ?_ (a := .turnLifetime) (le_refl 8)) (a := .turnXorRelayedAddress)
          (encodedLength_address_le _))
        exact (hm.within_token _).withClass stunClassSuccessResponse

theorem withAllocation_answers {noAllocation : String} {process : TurnAllocation → Outcome}
    (hm : Fresh response) (hmsg : (text noAllocation).length ≤ 60)
    (hprocess : ∀ allocation, Answer turnCap (process allocation).response) :
    Answer turnCap (h.withAllocation times t allocations request response noAllocation process).response := by
  unfold withAllocation
  dsimp only
  by_cases hintegrity : request.has .messageIntegrity = false
  · rw [if_pos hintegrity]
    exact hm.reject (by decide)
  rw [if_neg hintegrity]
  split
  · exact hm.reject hmsg
  · split_ifs
    · exact hm.reject (by decide)
    · exact hm.reject (by decide)
    · exact hprocess _

/-- A success without attributes of its own. -/
theorem Fresh.success (hm : Fresh response) : Within turnCap 0
    { response with mClass := stunClassSuccessResponse } := hm.within.withClass _

theorem processTurnRefreshRequest_answers (hm : Fresh response) :
    Answer turnCap (h.processTurnRefreshRequest times t allocations request response).response := by
  refine withAllocation_answers hm (by decide) fun allocation => ?_
  dsimp only
  split_ifs <;> exact .plain ((hm.success.set (a := .turnLifetime) (le_refl 8)))

theorem processTurnCreatePermissionRequest_answers (hm : Fresh response) :
    Answer turnCap (h.processTurnCreatePermissionRequest times t allocations request response).response := by
  refine withAllocation_answers hm (by decide) fun allocation => ?_
  split_ifs
  · exact hm.reject (by decide)
  · exact .plain hm.success

theorem processTurnChannelBindRequest_answers (hm : Fresh response) :
    Answer turnCap (h.processTurnChannelBindRequest times t allocations request response).response := by
  refine withAllocation_answers hm (by decide) fun allocation => ?_
  split
  · dsimp only
    split_ifs
    · exact hm.reject (by decide)
    · exact hm.reject (by decide)
    · exact .plain hm.success
  · exact hm.reject (by decide)

/-- What the requests start from that do not depend on an allocation. -/
theorem Fresh.bare (hm : Fresh response) (hnone : response.attrs .messageIntegrity = none) (cap : Attr → ℕ) :
    Within cap 0 response := by
  refine ⟨fun a => ?_, hm.lists.le⟩
  have ha : response.attrs a = none := by
    by_cases ha : a = .messageIntegrity
    · rw [ha, hnone]
    · exact hm.only a ha
  rw [attrLength, ha]
  exact Nat.zero_le _

theorem processStunBindingRequest_answers (rfc3489 : Bool) (hm : Within bindingCap 0 response) :
    Answer bindingCap (h.processStunBindingRequest request response rfc3489).2 := by
  have hmapped : Within bindingCap 0
      (if request.hasMagicCookie then
        ({ response with mClass := stunClassSuccessResponse }).set .xorMappedAddress
          (stunAtrAddressOfTuple request.mRemoteTuple)
      else ({ response with mClass := stunClassSuccessResponse }).set .mappedAddress
        (stunAtrAddressOfTuple request.mRemoteTuple)) := by
    split_ifs
    · exact (hm.withClass _).set (a := .xorMappedAddress) (encodedLength_address_le _)
    · exact (hm.withClass _).set (a := .mappedAddress) (encodedLength_address_le _)
  unfold processStunBindingRequest
  dsimp only
  by_cases hrfc : h.mRFC3489SupportEnabled = true ∧ rfc3489 = true
  · rw [if_pos hrfc]
    have hchanged := fun from_ changed => (hmapped.set (a := .sourceAddress) (v := from_)
      (encodedLength_address_le _)).set (a := .changedAddress) (v := changed) (encodedLength_address_le _)
    unfold answerFromAlternate
    dsimp only
    split
    · exact .plain ((hchanged _ _))
    · refine .plain ((Within.set ?_ (encodedLength_address_le _)))
      exact (hchanged _ _).of_same rfl rfl
  · rw [if_neg hrfc]
    exact .plain hmapped

/-- How long the texts are that `createUsernameAndPassword` makes: 24 and 8 digits for the address and the
port, 16 for each of the random number and the time, 40 for the code, and the colons between them. -/
def ShortCredentials (h : RequestHandler) : Prop := ∀ tuple,
  (h.createUsernameAndPassword tuple).1.length ≤ 108 ∧ (h.createUsernameAndPassword tuple).2.length ≤ 40

theorem processStunSharedSecretRequest_answers (hcredentials : ShortCredentials h)
    (hm : Fresh response) (hnone : response.attrs .messageIntegrity = none) :
    IsAnswer (h.processStunSharedSecretRequest now request response).2 := by
  unfold processStunSharedSecretRequest
  dsimp only
  split_ifs
  · exact ⟨turnCap, by simp, .plain (within_buildErrorResponse h now hm.within (by decide))⟩
  · obtain ⟨husername, hpassword⟩ := hcredentials response.mRemoteTuple
    have hlength : ∀ {n m : ℕ}, n ≤ m → 4 + padded (min 512 n) ≤ 4 + padded m := fun hn =>
      Nat.add_le_add_left (padded_mono ((min_le_right _ _).trans hn)) 4
    have hclass := (hm.bare hnone secretCap).withClass stunClassSuccessResponse
    exact ⟨secretCap, by simp, .plain ((hclass.set (a := .username) (hlength husername)).set (a := .password)
      (hlength hpassword))⟩

theorem Answer.isAnswer_turn (hm : Answer turnCap m) : IsAnswer m := ⟨turnCap, by simp, hm⟩

/-- Binding requests and requests for a shared secret are not authenticated. -/
theorem processRequest_answers (relay : RelayStart) (rfc3489 : Bool) (hcredentials : ShortCredentials h)
    (hm : Fresh response) (hnone : request.mMethod = bindMethod ∨ request.mMethod = sharedSecretMethod →
      response.attrs .messageIntegrity = none) :
    IsAnswer (h.processRequest times t allocations request response relay rfc3489).response := by
  unfold processRequest
  dsimp only
  split_ifs with hbind hsecret
  · exact ⟨bindingCap, by simp,
      processStunBindingRequest_answers rfc3489 (hm.bare (hnone (.inl hbind)) bindingCap)⟩
  · exact processStunSharedSecretRequest_answers hcredentials hm (hnone (.inr hsecret))
  · exact ((processTurnAllocateRequest_answers relay hm).set (a := .xorMappedAddress) (by decide)
      (encodedLength_address_le _)).isAnswer_turn
  · exact (processTurnRefreshRequest_answers hm).isAnswer_turn
  · exact (processTurnCreatePermissionRequest_answers hm).isAnswer_turn
  · exact (processTurnChannelBindRequest_answers hm).isAnswer_turn
  · exact (hm.reject (by decide)).isAnswer_turn

theorem finish_answers {o : Outcome} (hm : IsAnswer o.response) : IsAnswer (h.finish request o).response := by
  by_cases hnone : o.result = .noResponseToSend
  · rw [finish, if_pos hnone]
    exact hm
  obtain ⟨cap, hmem, hm⟩ := hm
  have hcaps : ∀ cap ∈ [bindingCap, secretCap, turnCap], cap .software = 768 ∧ cap .fingerprint = 8 := by
    simp only [List.forall_mem_cons, List.not_mem_nil, false_imp_iff, implies_true, and_true]
    decide
  obtain ⟨hsoftware, hfingerprint⟩ := hcaps cap hmem
  have hcommon : Answer cap { o.response with
      mMethod := request.mMethod
      magicCookieAndTid := request.magicCookieAndTid } := hm.of_same rfl rfl
  have hnamed : ∀ r : StunMessage, Answer cap r →
      Answer cap (if h.config.mSoftwareName = [] then r else r.set .software h.config.mSoftwareName) := by
    intro r hr
    split_ifs
    · exact hr
    · exact hr.set (by decide) ((encodedLength_string_le 763 _).trans hsoftware.ge)
  have hprinted : ∀ r : StunMessage, Answer cap r →
      Answer cap (if request.has .fingerprint then r.set .fingerprint (0 : UInt32) else r) := by
    intro r hr
    split_ifs
    · exact hr.set (by decide) hfingerprint.ge
    · exact hr
  rw [finish, if_neg hnone]
  exact ⟨cap, hmem, hprinted _ (hnamed _ hcommon)⟩

theorem fresh_init (remote : StunTuple) : Fresh { init with mRemoteTuple := remote } :=
  ⟨fun _ _ => rfl, rfl⟩

theorem dispatch_answers (hcredentials : ShortCredentials h) (relay : RelayStart) (rfc3489 : Bool)
    (hm : Fresh response) (hnone : Exempt request → response.attrs .messageIntegrity = none) :
    IsAnswer (h.dispatch times t allocations request response relay rfc3489).response := by
  unfold dispatch
  dsimp only
  split_ifs with hclass
  · refine processRequest_answers relay rfc3489 hcredentials hm fun hmethod => hnone ?_
    exact hmethod.elim (fun hbind => .inr (.inl ⟨hclass, hbind⟩)) fun hsecret => .inl ⟨hclass, hsecret⟩
  · exact (Answer.plain hm.within).isAnswer_turn
  · exact (Answer.plain hm.within).isAnswer_turn

/-- Whatever is processed, the response is one of those above. -/
theorem processStunMessage_answers (hcredentials : ShortCredentials h) (relay : RelayStart) (rfc3489 : Bool) :
    IsAnswer (h.processStunMessage times t allocations request init relay rfc3489).response := by
  have hfresh := fresh_init request.mRemoteTuple
  have hanswers := h.handleAuthentication_answers request times hfresh
  have hexempt : Exempt request → h.handleAuthentication times request
      { init with mRemoteTuple := request.mRemoteTuple } = (true, { init with mRemoteTuple := request.mRemoteTuple }) := by
    intro he
    obtain ⟨-, heq⟩ | ⟨hne, -⟩ | ⟨hne, -⟩ := h.handleAuthentication_spec times request
      { init with mRemoteTuple := request.mRemoteTuple }
    · exact heq
    · exact absurd he hne
    · exact absurd he hne
  refine finish_answers ?_
  by_cases hrefused : (h.handleAuthentication times request
      { init with mRemoteTuple := request.mRemoteTuple }).1 = false
  · rw [if_pos hrefused]
    exact (hanswers.2 hrefused).isAnswer_turn
  rw [if_neg hrefused]
  have hm := hanswers.1 ((Bool.not_eq_false _).mp hrefused)
  split_ifs with hunknown
  · exact (answer_unknownAttribute hm.onlyRefusal _ _).isAnswer_turn
  · refine dispatch_answers hcredentials relay rfc3489 hm fun he => ?_
    rw [hexempt he]
    rfl

end RequestHandler
end Resiprocate.ReTurn
