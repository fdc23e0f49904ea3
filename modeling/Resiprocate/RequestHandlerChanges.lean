import Mathlib
import Resiprocate.RequestHandlerAuth

/-! What `processStunMessage` does to the allocations, their permissions and their
channel bindings, and on whose authority. -/
namespace Resiprocate.ReTurn

open StunMessage

namespace RequestHandler

variable {h : RequestHandler} {times : ℕ → ℕ} {t : TurnManager}
  {allocations : TurnAllocationManager} {request response : StunMessage} {relay : RelayStart}
  {rfc3489 : Bool}

@[simp] theorem reject_allocations (errorCode : ℕ) (msg : String) (realm : Option Data) :
    (h.reject times t allocations response errorCode msg realm).allocations = allocations := rfl

@[simp] theorem reject_turnManager (errorCode : ℕ) (msg : String) (realm : Option Data) :
    (h.reject times t allocations response errorCode msg realm).turnManager = t := rfl

/-- An allocation is made only for a client that has none. -/
theorem processTurnAllocateRequest_allocations (h : RequestHandler) (times : ℕ → ℕ)
    (t : TurnManager) (allocations : TurnAllocationManager) (request response : StunMessage)
    (relay : RelayStart) :
    (h.processTurnAllocateRequest times t allocations request response relay).allocations =
        allocations ∨ allocations request.key = none := by
  by_cases hk : allocations request.key = none
  · exact .inr hk
  · have hsome : (allocations request.key).isSome := by
      simpa [Option.isSome_iff_ne_none] using hk
    left
    simp only [processTurnAllocateRequest, hsome, if_true]
    split_ifs <;> rfl

/-- An allocation is changed only under the name and key that it was made with. -/
theorem withAllocation_allocations (noAllocation : String) (process : TurnAllocation → Outcome) :
    (h.withAllocation times t allocations request response noAllocation process).allocations =
        allocations ∨
      ∃ allocation, allocations request.key = some allocation ∧
        allocation.mClientAuth = ⟨request.mUsername, response.mHmacKey⟩ := by
  simp only [withAllocation]
  split_ifs
  · exact .inl rfl
  cases hk : allocations request.key with
  | none => exact .inl rfl
  | some allocation =>
    by_cases hu : allocation.mClientAuth.mClientUsername = request.mUsername
    · by_cases hs : allocation.mClientAuth.mClientSharedSecret = response.mHmacKey
      · exact .inr ⟨allocation, rfl, by rw [← hu, ← hs]⟩
      · exact .inl (by simp [hu, hs])
    · exact .inl (by simp [hu])

/-- A request makes an allocation for a client that has none, or its client is the one
that made its allocation. -/
theorem processRequest_allocations (h : RequestHandler) (times : ℕ → ℕ) (t : TurnManager)
    (allocations : TurnAllocationManager) (request response : StunMessage) (relay : RelayStart)
    (rfc3489 : Bool) :
    (h.processRequest times t allocations request response relay rfc3489).allocations =
        allocations ∨
      (request.mMethod = turnAllocateMethod ∧ allocations request.key = none) ∨
      ∃ allocation, allocations request.key = some allocation ∧
        allocation.mClientAuth = ⟨request.mUsername, response.mHmacKey⟩ := by
  simp only [processRequest]
  split_ifs with _ _ halloc
  · exact .inl rfl
  · exact .inl rfl
  · obtain hsame | hnone := processTurnAllocateRequest_allocations h times t allocations request
      response relay
    · exact .inl hsame
    · exact .inr (.inl ⟨halloc, hnone⟩)
  · exact (withAllocation_allocations _ _).imp_right .inr
  · exact (withAllocation_allocations _ _).imp_right .inr
  · exact (withAllocation_allocations _ _).imp_right .inr
  · exact .inl rfl

/-- A permission that has expired is erased, and nothing else changes. -/
def ErasesExpired (now : ℕ) (request : StunMessage) (allocations allocations' : TurnAllocationManager) :
    Prop :=
  ∃ allocation address permission, allocations request.key = some allocation ∧
    allocation.mTurnPermissionMap address = some permission ∧ permission.isExpired now ∧
    allocations' = update allocations request { allocation with
      mTurnPermissionMap := Function.update allocation.mTurnPermissionMap address none }

theorem update_self {allocation : TurnAllocation}
    (hk : allocations request.key = some allocation) :
    update allocations request allocation = allocations := by
  rw [update, ← hk, Function.update_eq_self]

theorem existsPermission_state (a : TurnAllocation) (now : ℕ) (address : Address) :
    (a.existsPermission now address).2 = a ∨ ∃ permission,
      a.mTurnPermissionMap address = some permission ∧ permission.isExpired now ∧
      (a.existsPermission now address).2 = { a with
        mTurnPermissionMap := Function.update a.mTurnPermissionMap address none } := by
  simp only [TurnAllocation.existsPermission]
  cases hp : a.mTurnPermissionMap address with
  | none => exact .inl rfl
  | some permission =>
    by_cases he : permission.isExpired now
    · exact .inr ⟨permission, rfl, he, by simp [he]⟩
    · exact .inl (by simp [he])

theorem sendDataToPeerAddress_state (a : TurnAllocation) (now : ℕ) (peerAddress : StunTuple)
    (data : Data) (isFramed : Bool) :
    (a.sendDataToPeerAddress now peerAddress data isFramed).2 =
      (a.existsPermission now peerAddress.mAddress).2 := by
  simp only [TurnAllocation.sendDataToPeerAddress]
  split
  next heq => simp [heq]
  next heq => split_ifs <;> simp [heq]

theorem processTurnSendIndication_allocations (times : ℕ → ℕ)
    (allocations : TurnAllocationManager) (request : StunMessage) :
    (processTurnSendIndication times allocations request).2 = allocations ∨
      ErasesExpired (times 2) request allocations
        (processTurnSendIndication times allocations request).2 := by
  simp only [processTurnSendIndication]
  cases hk : allocations request.key with
  | none => exact .inl rfl
  | some allocation =>
    dsimp only
    split
    next address _ data _ _ =>
      split_ifs
      · exact .inl rfl
      · dsimp only
        rw [sendDataToPeerAddress_state]
        obtain hsame | ⟨permission, hp, he, heq⟩ := existsPermission_state allocation (times 2)
          (peerTuple allocation address).mAddress
        · exact .inl (by rw [hsame, update_self hk])
        · exact .inr ⟨allocation, _, permission, hk, hp, he, by rw [heq]⟩
    next => exact .inl rfl

theorem mUsername_eq {username : Data} (hu : request.attrs .username = some username) :
    request.mUsername = username := by
  simp [StunMessage.mUsername, hu]

/-- Requests that are not authenticated leave the allocations alone. -/
theorem processRequest_exempt (hm : request.mMethod = sharedSecretMethod ∨
    request.mMethod = bindMethod) :
    (h.processRequest times t allocations request response relay rfc3489).allocations =
      allocations := by
  simp only [processRequest]
  obtain hm | hm := hm
  · have hne : sharedSecretMethod ≠ bindMethod := by decide
    simp [hm, hne]
  · simp [hm]

/-- The client of a request may change allocations: its credentials pass, and the
allocation is a new one or was made with them. -/
def MayChange (h : RequestHandler) (now : UInt64) (allocations : TurnAllocationManager)
    (request : StunMessage) : Prop :=
  request.mClass = stunClassRequest ∧ ∃ username realm nonce timestamp,
    Authentic h now request username realm nonce timestamp ∧
    (h.config.mNonceLifetime ≤ now → convertUInt64 timestamp ≤ now ∧
      now.toNat - (convertUInt64 timestamp).toNat ≤ h.config.mNonceLifetime.toNat) ∧
    ((request.mMethod = turnAllocateMethod ∧ allocations request.key = none) ∨
      ∃ allocation, allocations request.key = some allocation ∧
        allocation.mClientAuth = ⟨username, h.config.getHa1ForUsername username realm⟩)

/-- A message changes allocations, permissions or channel bindings only on the authority
of its credentials; a Send indication can erase a permission that has expired. -/
theorem changes_authorized (h : RequestHandler) (times : ℕ → ℕ) (t : TurnManager)
    (allocations : TurnAllocationManager) (request response : StunMessage) (relay : RelayStart)
    (rfc3489 : Bool) :
    (h.processStunMessage times t allocations request response relay rfc3489).allocations =
        allocations ∨
      MayChange h (UInt64.ofNat (times 0)) allocations request ∨
      (request.mClass = stunClassIndication ∧ request.mMethod = turnSendMethod ∧
        ErasesExpired (times 2) request allocations
          (h.processStunMessage times t allocations request response relay rfc3489).allocations) := by
  simp only [processStunMessage, finish_allocations]
  generalize hr : ({ response with mRemoteTuple := request.mRemoteTuple } : StunMessage) = r
  split_ifs with hauth hknown
  · exact .inl rfl
  · exact .inl rfl
  simp only [dispatch]
  split_ifs with hreq hsend
  · -- a request
    obtain ⟨he, heq⟩ | ⟨-, username, realm, nonce, timestamp, ha, heq⟩ | ⟨-, -, hf⟩ :=
      h.handleAuthentication_spec times request r
    · refine .inl (processRequest_exempt ?_)
      obtain he | he | he := he
      · exact .inl he.2
      · exact .inr he.2
      · rw [hreq] at he
        exact absurd he (by decide)
    · obtain hsame | hnew | ⟨allocation, hk, hown⟩ := processRequest_allocations h times t
        allocations request (h.handleAuthentication times request r).2 relay rfc3489
      · exact .inl hsame
      · exact .inr (.inl ⟨hreq, username, realm, nonce, timestamp, ha, ha.nonce_valid.recent,
          .inl hnew⟩)
      · refine .inr (.inl ⟨hreq, username, realm, nonce, timestamp, ha, ha.nonce_valid.recent,
          .inr ⟨allocation, hk, ?_⟩⟩)
        rw [hown, mUsername_eq ha.has_username, heq]
    · exact absurd hf (by simpa using hauth)
  · obtain hsame | herase := processTurnSendIndication_allocations times allocations request
    · exact .inl hsame
    · exact .inr (.inr ⟨hsend.1, hsend.2, herase⟩)
  · exact .inl rfl

def peerAddress : StunAtrAddress := .ipv4 7000 0x7f000001

/-- A Send indication of a client to a peer. -/
def sendIndication : StunMessage :=
  { (init.set .turnData ([1] : Data)) with
    mClass := stunClassIndication
    mMethod := turnSendMethod
    mTurnXorPeerAddress := [peerAddress] }

/-- An allocation of the sender with a permission that lasts until the time 5. -/
def lapsedAllocation : TurnAllocation :=
  { TurnAllocation.new anyTuple anyTuple ⟨[], []⟩ anyTuple 0 600 with
    mTurnPermissionMap := Function.update (fun _ => none) (.v4 0x7f000001) (some ⟨5, 300⟩) }

/-- Without credentials the permission is erased at the time 10. -/
theorem not_changes_authorized : ¬ ∀ (h : RequestHandler) (times : ℕ → ℕ) (t : TurnManager)
    (allocations : TurnAllocationManager) (request response : StunMessage) (relay : RelayStart)
    (rfc3489 : Bool),
    (h.processStunMessage times t allocations request response relay rfc3489).allocations =
        allocations ∨
      MayChange h (UInt64.ofNat (times 0)) allocations request := by
  intro hall
  obtain hsame | hmay := hall plainHandler (fun _ => 10) (.new plainHandler.config.toPortRange)
    (fun _ => some lapsedAllocation) sendIndication init .started false
  · have hperm := congrArg (fun m => (m sendIndication.key).bind fun a =>
      a.mTurnPermissionMap (.v4 0x7f000001)) hsame
    exact absurd hperm (by decide)
  · exact absurd hmay.1 (by decide)

end RequestHandler

end Resiprocate.ReTurn
