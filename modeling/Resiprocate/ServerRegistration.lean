import Resiprocate.RegistrationDatabase
import Resiprocate.TransactionTypes

/-! The synchronous processing of a REGISTER. Its contacts are written to the database one after the
other while its record is locked. A contact may be refused after others were written, and the
application may reject the request after all were. -/
namespace Resiprocate.Dum
open Transaction (Data TransportType Tuple)

/-- `isSecure`. -/
def isSecure : TransportType → Bool
  | .tls | .dtls | .wss => true
  | .tcp | .udp | .sctp | .dccp | .ws | .unknownTransport => false

/-- A contact of a REGISTER, with its URI and what is asked of the parts of the URI. -/
structure RegisterContact (υ : Type*) where
  isWellFormed : Bool
  isAllContacts : Bool
  uri : υ
  hostIsIpAddress : Bool
  isSips : Bool
  transport : Option TransportType
  sigcompId : Bool
  expires : Option ℕ
  sipInstance : Option Data
  regid : Option ℕ
  deriving DecidableEq

/-- The value of a `Path` header, and whether its URI has an `ob` parameter, unless its parse
throws. -/
structure SipPath where
  value : Data
  ob : Option Bool
  deriving DecidableEq

structure ContactInstanceRecord (υ : Type*) where
  mContact : RegisterContact υ
  mRegExpires : ℕ
  mLastUpdated : ℕ
  mReceivedFrom : Tuple
  /-- The flag of `mReceivedFrom`. -/
  onlyUseExistingConnection : Bool
  mPublicAddress : Tuple
  mSipPath : List SipPath
  mInstance : Data
  mRegId : ℕ
  mUserAgent : Data
  mUseFlowRouting : Bool
  deriving DecidableEq

/-- `ContactInstanceRecord::operator==`. -/
instance {υ : Type*} [BEq υ] : BEq (ContactInstanceRecord υ) where
  beq l r :=
    if (l.mRegId != 0 && !l.mInstance.isEmpty) || (r.mRegId != 0 && !r.mInstance.isEmpty) then
      l.mInstance == r.mInstance && l.mRegId == r.mRegId
    else if l.mRegId == 0 && r.mRegId == 0 && !l.mInstance.isEmpty && !r.mInstance.isEmpty then
      l.mInstance == r.mInstance
    else l.mInstance == r.mInstance && l.mContact.uri == r.mContact.uri

/-- A REGISTER as it is read here. -/
structure RegisterRequest (α υ : Type*) where
  /-- The address of record of the `To` header. -/
  aor : α
  /-- The scheme of the address is `sip` or `sips`, and supported. -/
  schemeSupported : Bool
  contacts : Option (List (RegisterContact υ))
  expires : Option ℕ
  source : Tuple
  publicAddress : Tuple
  userAgent : Option Data
  paths : List SipPath
  viaCount : ℕ
  supportsOutbound : Bool
  /-- `Helper::isClientBehindNAT`, also for private to public addresses only. -/
  behindNAT : Bool
  behindNATPrivateToPublic : Bool

inductive ClientNATDetectionMode
  | ClientNATDetectionDisabled
  | ClientNATDetectionEnabled
  | ClientNATDetectionPrivateToPublicOnly
  deriving DecidableEq

/-- The settings of `InteropHelper` that the registration reads. -/
structure InteropHelper where
  outboundSupported : Bool
  assumeFirstHopSupportsOutbound : Bool
  rrTokenHackEnabled : Bool
  clientNATDetection : ClientNATDetectionMode
  assumeFirstHopSupportsFlowTokens : Bool

/-- The functions of the handler that the application may override: the global expiry with a
return code, and the expiry of a contact. -/
structure ServerRegistrationHandler (α υ : Type*) where
  getGlobalExpires : RegisterRequest α υ → ℕ × ℕ
  getContactExpires : RegisterContact υ → ℕ → ℕ

/-- The expiry times of the master profile. -/
structure RegistrationProfile where
  serverRegistrationMinExpiresTime : ℕ
  serverRegistrationMaxExpiresTime : ℕ
  serverRegistrationDefaultExpiresTime : ℕ

/-- The check of an expiry that the client asks for, with its return code. -/
def RegistrationProfile.check (profile : RegistrationProfile) (expires : ℕ) : ℕ × ℕ :=
  if expires = 0 then (0, 0)
  else if expires < profile.serverRegistrationMinExpiresTime then
    (profile.serverRegistrationMinExpiresTime, 423)
  else (min expires profile.serverRegistrationMaxExpiresTime, 0)

/-- The handler as it is when the application overrides neither function. -/
def ServerRegistrationHandler.ofProfile {α υ : Type*} (profile : RegistrationProfile) :
    ServerRegistrationHandler α υ where
  getGlobalExpires msg :=
    match msg.expires with
    | some expires => profile.check expires
    | none => (profile.serverRegistrationDefaultExpiresTime, 0)
  getContactExpires contact expires :=
    match contact.expires with
    | some expires => (profile.check expires).1
    | none => expires

section Flow
variable {α υ : Type*}

def flowTokenNeededForTls (rec : ContactInstanceRecord υ) : Bool :=
  rec.mContact.hostIsIpAddress && (rec.mContact.isSips || rec.mContact.transport.any isSecure)

def flowTokenNeededForSigcomp (rec : ContactInstanceRecord υ) : Bool :=
  rec.mContact.sigcompId && rec.mContact.transport.any fun t => t == .tls || t == .tcp

/-- What `tryFlow` leaves: the record, its result and whether outbound was done. -/
structure Flow (υ : Type*) where
  record : ContactInstanceRecord υ
  hasFlow : Bool
  didOutbound : Bool

def clientNeedsFlow (interop : InteropHelper) (msg : RegisterRequest α υ) : Bool :=
  match interop.clientNATDetection with
  | .ClientNATDetectionDisabled => false
  | .ClientNATDetectionEnabled => msg.behindNAT
  | .ClientNATDetectionPrivateToPublicOnly => msg.behindNATPrivateToPublic

/-- The part of `tryFlow` without outbound. -/
def tryFlowToken (interop : InteropHelper) (rec : ContactInstanceRecord υ)
    (msg : RegisterRequest α υ) : Flow υ :=
  if (msg.viaCount = 1 && (interop.rrTokenHackEnabled || flowTokenNeededForTls rec ||
      flowTokenNeededForSigcomp rec || clientNeedsFlow interop msg)) ||
      (1 < msg.viaCount && interop.assumeFirstHopSupportsFlowTokens) then
    ⟨{ rec with mUseFlowRouting := true, onlyUseExistingConnection := false }, true, false⟩
  else ⟨rec, false, false⟩

def tryFlow (interop : InteropHelper) (rec : ContactInstanceRecord υ)
    (msg : RegisterRequest α υ) : Flow υ :=
  match rec.mContact.sipInstance, rec.mContact.regid with
  | some _, some regid =>
    if !interop.outboundSupported then tryFlowToken interop rec msg
    else
      match msg.paths.getLast?.map SipPath.ob with
      -- the exception is caught, and there is no flow
      | some none => ⟨rec, false, false⟩
      | ob =>
        if ob.join.any (· || interop.assumeFirstHopSupportsOutbound) then
          ⟨{ rec with mRegId := regid }, true, true⟩
        else if msg.viaCount = 1 then
          ⟨{ rec with mRegId := regid, mUseFlowRouting := true,
                      onlyUseExistingConnection := true }, true, true⟩
        else tryFlowToken interop rec msg
  | _, _ => tryFlowToken interop rec msg

/-- The code and the reason of a response that refuses the request. -/
structure Refusal where
  code : ℕ
  reason : Option String
  deriving DecidableEq

/-- The response of `testFlowRequirements`, unless the requirements are met. -/
def testFlowRequirements (rec : ContactInstanceRecord υ) (msg : RegisterRequest α υ)
    (hasFlow : Bool) : Option Refusal :=
  if hasFlow then none
  else if msg.supportsOutbound && rec.mContact.sipInstance.isSome && rec.mContact.regid.isSome then
    some ⟨439, none⟩
  else if flowTokenNeededForTls rec then
    some ⟨400, some ("Trying to use TLS with an IP-address in your Contact header won't work if " ++
      "you don't have a flow. Consider implementing outbound, or putting an FQDN in your contact " ++
      "header.")⟩
  else if flowTokenNeededForSigcomp rec then
    some ⟨400, some ("Trying to use sigcomp on a connection-oriented protocol won't work if you " ++
      "don't have a flow. Consider implementing outbound, or using UDP/DTLS for this case.")⟩
  else none

end Flow

/-- What the contacts of a request amount to: a refresh as long as none is added or removed. -/
inductive RegistrationOperation
  | ADD
  | REMOVE
  | REFRESH
  deriving DecidableEq

/-- The callback that hands the request to the application. -/
inductive RegistrationCallback
  | onQuery
  | onRemoveAll
  | onRefresh
  | onRemove
  | onAdd
  deriving DecidableEq

namespace RegistrationOperation

def removed : RegistrationOperation → RegistrationOperation
  | .REFRESH => .REMOVE
  | op => op

def updated (op : RegistrationOperation) : UpdateStatus → RegistrationOperation
  | .CONTACT_CREATED => .ADD
  | .CONTACT_UPDATED => op

def callback : RegistrationOperation → RegistrationCallback
  | .REFRESH => .onRefresh
  | .REMOVE => .onRemove
  | .ADD => .onAdd

end RegistrationOperation

inductive LockCall
  | lockRecord
  | unlockRecord
  deriving DecidableEq

/-- A `ServerRegistration` with the database that it changes, the calls that it has made for the
lock of its record, and the failures that it has sent. -/
structure ServerRegistration (α υ : Type*) [LinearOrder α] where
  database : InMemoryRegistrationDatabase α (ContactInstanceRecord υ)
  mAor : α
  mOriginalContacts : Option (List (ContactInstanceRecord υ))
  mRequestContacts : List (ContactInstanceRecord υ)
  mDidOutbound : Bool
  lockCalls : List LockCall
  failures : List Refusal

namespace ServerRegistration
variable {α υ : Type*} [LinearOrder α]

/-- The registration that is made for a REGISTER. -/
def create (db : InMemoryRegistrationDatabase α (ContactInstanceRecord υ))
    (msg : RegisterRequest α υ) : ServerRegistration α υ :=
  ⟨db, msg.aor, none, [], false, [], []⟩

def withDatabase (r : ServerRegistration α υ)
    (db : InMemoryRegistrationDatabase α (ContactInstanceRecord υ)) : ServerRegistration α υ :=
  { r with database := db }

def send (r : ServerRegistration α υ) (failure : Refusal) : ServerRegistration α υ :=
  { r with failures := r.failures ++ [failure] }

/-- It does not return while the record is locked. -/
def lockRecord (r : ServerRegistration α υ) : Option (ServerRegistration α υ) :=
  (r.database.lockRecord r.mAor).map fun db =>
    { r with database := db, lockCalls := r.lockCalls ++ [.lockRecord] }

/-- It does not return if its assertion fails. -/
def unlockRecord (r : ServerRegistration α υ) : Option (ServerRegistration α υ) :=
  (r.database.unlockRecord r.mAor).map fun db =>
    { r with database := db, lockCalls := r.lockCalls ++ [.unlockRecord] }

/-- The request is refused while its record is locked. -/
def refuse (r : ServerRegistration α υ) (failure : Refusal) : Option (ServerRegistration α υ) :=
  (r.send failure).unlockRecord

/-- The record of a contact as it is before `tryFlow`. -/
def makeRecord (msg : RegisterRequest α υ) (now expires : ℕ) (contact : RegisterContact υ) :
    ContactInstanceRecord υ where
  mContact := contact
  mRegExpires := expires + now
  mLastUpdated := now
  mReceivedFrom := msg.source
  onlyUseExistingConnection := false
  mPublicAddress := msg.publicAddress
  mSipPath := msg.paths
  mInstance := contact.sipInstance.getD []
  mRegId := 0
  mUserAgent := msg.userAgent.getD []
  mUseFlowRouting := false

variable [BEq υ] (interop : InteropHelper) (handler : ServerRegistrationHandler α υ)
  (msg : RegisterRequest α υ) (now : ℕ)

/-- The loop over the contacts. It ends with the callback to the application, or without one after
a failure. `count` is the number of all contacts of the request. -/
def processContacts (globalExpires count : ℕ) : RegistrationOperation → List (RegisterContact υ) →
    ServerRegistration α υ → Option (ServerRegistration α υ × Option RegistrationCallback)
  | op, [], r => some (r, some op.callback)
  | op, contact :: contacts, r =>
    if !contact.isWellFormed then
      (r.refuse ⟨400, some "Malformed Contact"⟩).map (·, none)
    else
      let expires := handler.getContactExpires contact globalExpires
      if contact.isAllContacts then
        if 1 < count || expires != 0 then
          (r.refuse ⟨400, some "Invalid use of 'Contact: *'"⟩).map (·, none)
        else some (r.withDatabase (r.database.removeAor r.mAor), some .onRemoveAll)
      else
        let flow := tryFlow interop (makeRecord msg now expires contact) msg
        let r := { r with mDidOutbound := r.mDidOutbound || flow.didOutbound }
        match testFlowRequirements flow.record msg flow.hasFlow with
        | some failure => (r.refuse failure).map (·, none)
        | none =>
          let r := { r with mRequestContacts := r.mRequestContacts ++ [flow.record] }
          if expires = 0 then
            processContacts globalExpires count op.removed contacts
              (r.withDatabase (r.database.removeContact r.mAor flow.record))
          else
            let (db, status) := r.database.updateContact r.mAor flow.record
            processContacts globalExpires count (op.updated status) contacts (r.withDatabase db)

/-- The rest of `processRegistration` once the record is locked. -/
def processLocked (globalExpires : ℕ) (r : ServerRegistration α υ) :
    Option (ServerRegistration α υ × Option RegistrationCallback) :=
  let r := { r with mOriginalContacts := some (r.database.getContacts r.mAor) }
  match msg.contacts with
  | none => some (r, some .onQuery)
  | some contacts =>
    processContacts interop handler msg now globalExpires contacts.length .REFRESH contacts r

def processRegistration (r : ServerRegistration α υ) :
    Option (ServerRegistration α υ × Option RegistrationCallback) :=
  let (globalExpires, returnCode) := handler.getGlobalExpires msg
  if 400 ≤ returnCode then
    some (r.send ⟨returnCode, if returnCode = 423 then some "Interval Too Brief" else none⟩, none)
  else r.lockRecord.bind (processLocked interop handler msg now globalExpires)

def dispatch (r : ServerRegistration α υ) :
    Option (ServerRegistration α υ × Option RegistrationCallback) :=
  if !msg.schemeSupported then
    some (r.send ⟨400, some "Bad/unsupported scheme in To: "⟩, none)
  else r.processRegistration interop handler msg now

omit [BEq υ] in
/-- `reject` of the application: the contacts that the address had are put back. -/
def reject (r : ServerRegistration α υ) (statusCode : ℕ) : Option (ServerRegistration α υ) :=
  let removed := r.withDatabase (r.database.removeAor r.mAor)
  let restored :=
    match r.mOriginalContacts with
    | some contacts => removed.withDatabase (removed.database.addAor r.mAor contacts)
    | none => removed
  restored.unlockRecord.map (·.send ⟨statusCode, none⟩)

omit [BEq υ] in
/-- The application rejects every request that it is handed. -/
def rejectHanded (statusCode : ℕ) :
    ServerRegistration α υ × Option RegistrationCallback → Option (ServerRegistration α υ)
  | (r, some _) => r.reject statusCode
  | (r, none) => some r

/-- A REGISTER that fails: it is refused, or the application that it is handed to rejects it. -/
def fail (db : InMemoryRegistrationDatabase α (ContactInstanceRecord υ)) (statusCode : ℕ) :
    Option (ServerRegistration α υ) :=
  ((create db msg).dispatch interop handler msg now).bind (rejectHanded statusCode)

end ServerRegistration

end Resiprocate.Dum
