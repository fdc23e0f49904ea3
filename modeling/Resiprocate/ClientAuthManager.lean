import Mathlib

/-! The digest authentication of a client in one dialog set. For every realm that challenged it the
client has a state, which decides whether a challenge is answered. -/
namespace Resiprocate.Dum

/-- The algorithm and the quality of protection that a challenge names, up to case. -/
inductive DigestAlgorithm
  | MD5
  | other
  deriving DecidableEq

inductive QopValue
  | auth
  | authInt
  | other
  deriving DecidableEq

/-- The credentials that a challenge asks for. The data of type `κ` has `⊥` as its empty value. -/
structure Auth (κ : Type*) where
  realm : Option κ
  nonce : Option κ
  /-- `stale` is there and is `true`. -/
  stale : Bool
  algorithm : Option DigestAlgorithm
  qop : Option QopValue
  /-- `Helper::qopOption` finds a quality of protection among those that are offered. -/
  hasQopOption : Bool
  deriving DecidableEq

structure DigestCredential (κ : Type*) where
  realm : κ
  user : κ
  password : κ
  isPasswordA1Hash : Bool
  deriving DecidableEq

structure UserProfile (κ : Type*) [LinearOrder κ] where
  /-- A set that is ordered by the realm. -/
  mDigestCredentials : List (DigestCredential κ)
  sorted : (mDigestCredentials.map (·.realm)).Pairwise (· < ·)
  getDigestCacheUseLimit : ℕ
  /-- `algorithmAndQopSupported` of the extension for client authentication. -/
  extension : Auth κ → Bool

inductive RealmStateValue
  | Invalid
  | Cached
  | Current
  | TryOnce
  | Failed
  deriving DecidableEq

/-- `ClientAuthManager::RealmState`. -/
structure RealmState (κ : Type*) where
  mCredential : DigestCredential κ
  mIsProxyCredential : Bool
  mState : RealmStateValue
  mNonceCount : ℕ
  mAuth : Auth κ
  deriving DecidableEq

/-- What a request carries for one realm. -/
structure Authorization (κ : Type*) where
  mIsProxyCredential : Bool
  mAuth : Auth κ
  mCredential : DigestCredential κ
  mNonceCount : Option ℕ
  deriving DecidableEq

/-- `ClientAuthManager::AuthState`. -/
structure AuthState (κ : Type*) [LinearOrder κ] where
  mRealms : Std.ExtTreeMap κ (RealmState κ)
  mFailed : Bool
  mCacheUseLimit : ℕ
  mCacheUseCount : ℕ

/-- A response, with the fields of its `WWW-Authenticate` and `Proxy-Authenticate` headers if it has
them. -/
structure AuthResponse (κ : Type*) where
  statusCode : ℕ
  wwwAuthenticates : Option (List (Auth κ))
  proxyAuthenticates : Option (List (Auth κ))
  deriving DecidableEq

section
variable {κ : Type*} [LinearOrder κ] [OrderBot κ]

def emptyDigestCredential : DigestCredential κ := ⟨⊥, ⊥, ⊥, false⟩

/-- A realm without credentials gets the first ones. -/
def UserProfile.getDigestCredential (profile : UserProfile κ) (realm : κ) : DigestCredential κ :=
  match profile.mDigestCredentials.find? (·.realm = realm) with
  | some credential => credential
  | none => profile.mDigestCredentials.headD emptyDigestCredential

/-- `Helper::algorithmAndQopSupported`. -/
def algorithmAndQopSupported (challenge : Auth κ) : Bool :=
  challenge.nonce.isSome && challenge.realm.isSome &&
    (challenge.algorithm == none || challenge.algorithm == some .MD5) &&
    (challenge.qop == none || challenge.qop == some .auth || challenge.qop == some .authInt)

/-- The nonce of a challenge is not that of the last one. -/
def Auth.hasNewNonce (auth last : Auth κ) : Bool :=
  auth.nonce.isSome && auth.nonce.getD ⊥ ≠ last.nonce.getD ⊥

namespace RealmState

/-- The constructor. -/
def new : RealmState κ where
  mCredential := emptyDigestCredential
  mIsProxyCredential := false
  mState := .Invalid
  mNonceCount := 0
  mAuth := ⟨none, none, false, none, none, false⟩

def transition (rs : RealmState κ) (s : RealmStateValue) : RealmState κ := { rs with mState := s }

def clear (rs : RealmState κ) : RealmState κ := { rs with mNonceCount := 0 }

/-- The assertions of `authSucceeded`. -/
def maySucceed (rs : RealmState κ) : Bool := rs.mState ≠ .Invalid && rs.mState ≠ .Failed

def authSucceeded (rs : RealmState κ) : RealmState κ :=
  match rs.mState with
  | .Invalid | .Failed => rs
  | .Current | .Cached | .TryOnce => rs.transition .Cached

def findCredential (rs : RealmState κ) (profile : UserProfile κ) (auth : Auth κ) :
    RealmState κ × Bool :=
  if !(algorithmAndQopSupported auth || profile.extension auth) then (rs, false)
  else
    let credential := profile.getDigestCredential (auth.realm.getD ⊥)
    ({ rs with mCredential := credential }, credential.realm ≠ ⊥)

/-- The end of `handleAuth`. -/
def tryCredential (rs : RealmState κ) (profile : UserProfile κ) (auth : Auth κ) :
    RealmState κ × Bool :=
  let (rs, found) := rs.findCredential profile auth
  if found then (rs, true) else (rs.transition .Failed, false)

def handleAuth (rs : RealmState κ) (profile : UserProfile κ) (auth : Auth κ)
    (isProxyCredential : Bool) : RealmState κ × Bool :=
  let rs := { rs with mIsProxyCredential := isProxyCredential }
  match rs.mState with
  | .Invalid => ({ rs with mAuth := auth }.transition .Current).tryCredential profile auth
  | .Current =>
    if auth.stale then { rs with mAuth := auth }.clear.tryCredential profile auth
    else if auth.hasNewNonce rs.mAuth then
      ({ rs with mAuth := auth }.clear.transition .TryOnce).tryCredential profile auth
    else (rs.transition .Failed, false)
  | .TryOnce => (rs.transition .Failed, false)
  -- one free chance
  | .Cached => ({ rs with mAuth := auth }.clear.transition .Current).tryCredential profile auth
  | .Failed => (rs, false)

/-- The assertion of `addAuthentication`. -/
def mayAdd (rs : RealmState κ) : Bool := rs.mState ≠ .Failed

def addAuthentication (rs : RealmState κ) : RealmState κ × Option (Authorization κ) :=
  if rs.mState = .Failed then (rs, none)
  else
    let rs := if rs.mAuth.hasQopOption then { rs with mNonceCount := rs.mNonceCount + 1 } else rs
    (rs, some ⟨rs.mIsProxyCredential, rs.mAuth, rs.mCredential,
      if rs.mAuth.hasQopOption then some rs.mNonceCount else none⟩)

end RealmState

/-- How the loop over the fields of a header ends. -/
inductive ChallengeOutcome
  | handled
  | failed
  | noRealm
  deriving DecidableEq

namespace AuthState

/-- The constructor. -/
def new : AuthState κ := ⟨∅, false, 0, 0⟩

/-- `mRealms[realm]`, which makes a state for a realm that has none. -/
def realmState (s : AuthState κ) (realm : κ) : RealmState κ := (s.mRealms[realm]?).getD .new

def setRealm (s : AuthState κ) (realm : κ) (rs : RealmState κ) : AuthState κ :=
  { s with mRealms := s.mRealms.insert realm rs }

/-- One of the loops of `handleChallenge`. -/
def handleAuths (profile : UserProfile κ) (isProxyCredential : Bool) :
    AuthState κ → List (Auth κ) → AuthState κ × ChallengeOutcome
  | s, [] => (s, .handled)
  | s, auth :: auths =>
    match auth.realm with
    | none => (s, .noRealm)
    | some realm =>
      let (rs, handled) := (s.realmState realm).handleAuth profile auth isProxyCredential
      if handled then handleAuths profile isProxyCredential (s.setRealm realm rs) auths
      else (s.setRealm realm rs, .failed)

def handleChallenge (s : AuthState κ) (profile : UserProfile κ) (challenge : AuthResponse κ) :
    AuthState κ × Bool :=
  if s.mFailed then (s, false)
  else
    let (s, www) := handleAuths profile false s (challenge.wwwAuthenticates.getD [])
    if www = .noRealm then (s, false)
    else
      let (s, proxy) := handleAuths profile true s (challenge.proxyAuthenticates.getD [])
      if www = .handled ∧ proxy = .handled then
        ({ s with mCacheUseLimit := profile.getDigestCacheUseLimit }, true)
      else (s, false)

/-- The assertions of `authSucceeded` hold of all realms. -/
def maySucceed (s : AuthState κ) : Bool := s.mRealms.toList.all fun r => r.2.maySucceed

def authSucceeded (s : AuthState κ) : AuthState κ :=
  let s := { s with
    mRealms := s.mRealms.map fun _ rs => rs.authSucceeded
    mCacheUseCount := s.mCacheUseCount + 1 }
  if s.mCacheUseLimit ≠ 0 ∧ s.mCacheUseLimit ≤ s.mCacheUseCount then
    { s with mRealms := ∅, mCacheUseCount := 0 }
  else s

/-- The assertions of `addAuthentication` hold of all realms. -/
def mayAdd (s : AuthState κ) : Bool := s.mFailed || s.mRealms.toList.all fun r => r.2.mayAdd

def addAuthentication (s : AuthState κ) : AuthState κ × List (Authorization κ) :=
  if s.mFailed then (s, [])
  else
    ({ s with mRealms := s.mRealms.map fun _ rs => rs.addAuthentication.1 },
      s.mRealms.toList.filterMap fun r => r.2.addAuthentication.2)

end AuthState

/-- A request that was sent and waits for its response. -/
structure SentRequest (κ : Type*) where
  cseq : ℕ
  authorizations : List (Authorization κ)
  /-- How often it was sent again since the last response that was no challenge. -/
  resent : ℕ

/-- The part of `ClientAuthManager` for one dialog set, and the requests of the set. -/
structure ClientAuthManager (κ : Type*) [LinearOrder κ] where
  /-- What `mAttemptedAuths` has for the dialog set. -/
  attempted : Option (AuthState κ)
  requests : List (SentRequest κ)
  /-- An assertion has failed. -/
  asserted : Bool

namespace ClientAuthManager

/-- `addAuthentication`. -/
def addAuthentication (m : ClientAuthManager κ) : ClientAuthManager κ × List (Authorization κ) :=
  match m.attempted with
  | some s =>
    let (s', authorizations) := s.addAuthentication
    ({ m with attempted := some s', asserted := m.asserted || !s.mayAdd }, authorizations)
  | none => (m, [])

/-- `DialogUsageManager::send` of a request that is no ACK. -/
def send (m : ClientAuthManager κ) (cseq : ℕ) : ClientAuthManager κ :=
  let (m, authorizations) := m.addAuthentication
  { m with requests := m.requests ++ [⟨cseq, authorizations, 0⟩] }

/-- A response that is no challenge. -/
def authSucceeded (m : ClientAuthManager κ) : ClientAuthManager κ :=
  match m.attempted with
  | some s =>
    { m with
      attempted := some s.authSucceeded
      asserted := m.asserted || !s.maySucceed }
  | none => m

def isChallenge (response : AuthResponse κ) : Bool :=
  response.statusCode = 401 || response.statusCode = 407

/-- It tells that the credentials were accepted, or were not needed. -/
def isSuccess (response : AuthResponse κ) : Bool :=
  101 ≤ response.statusCode && response.statusCode < 500 && !isChallenge response

def hasChallenge (response : AuthResponse κ) : Bool :=
  isChallenge response &&
    (response.wwwAuthenticates.isSome || response.proxyAuthenticates.isSome)

/-- The request is sent again with the next sequence number. -/
def resend (m : ClientAuthManager κ) (i : ℕ) : ClientAuthManager κ :=
  let (m, authorizations) := m.addAuthentication
  { m with
    requests := m.requests.modify i fun r => ⟨r.cseq + 1, authorizations, r.resent + 1⟩ }

/-- `handle` of a response to a request, and what its callers do. -/
def handle (m : ClientAuthManager κ) (profile : UserProfile κ) (i : ℕ) (response : AuthResponse κ) :
    ClientAuthManager κ :=
  if isSuccess response then
    let m := m.authSucceeded
    let requests := m.requests.map fun r => { r with resent := 0 }
    { m with requests := if 200 ≤ response.statusCode then requests.eraseIdx i else requests }
  else if hasChallenge response then
    let (s, handled) := (m.attempted.getD .new).handleChallenge profile response
    let m := { m with attempted := some s }
    if handled then m.resend i else { m with requests := m.requests.eraseIdx i }
  else if 200 ≤ response.statusCode then { m with requests := m.requests.eraseIdx i }
  else m

/-- `clearAuthenticationState`, which `dialogSetDestroyed` calls too. -/
def clearAuthenticationState (m : ClientAuthManager κ) : ClientAuthManager κ :=
  { m with
    attempted := none
    requests := m.requests.map fun r => { r with resent := 0 } }

end ClientAuthManager
end

end Resiprocate.Dum
