import Mathlib
import Resiprocate.StunMessage
import Resiprocate.TurnAllocation
import Resiprocate.TurnManager

/-! The request handler of the TURN server. MD5, HMAC, the short-term credentials and
the opening of a relay socket are given from outside; `times` are the readings of
the clock during one call. -/
namespace Resiprocate.ReTurn

open StunMessage

/-- The users of a realm and their HA1, which are added together. -/
structure ReTurnConfig extends PortRange where
  mSoftwareName : Data
  mAuthenticationRealm : Data
  mNonceLifetime : UInt64
  mDefaultAllocationLifetime : UInt64
  mMaxAllocationLifetime : UInt64
  mUsers : Data → Data → Bool
  mRealmUsersAuthenticaionCredentials : Data → Data → Option Data
  credentials_of_users : ∀ username realm, mUsers realm username →
    (mRealmUsersAuthenticaionCredentials username realm).isSome

namespace ReTurnConfig

def isUserNameValid (c : ReTurnConfig) (username realm : Data) : Bool := c.mUsers realm username

def getHa1ForUsername (c : ReTurnConfig) (username realm : Data) : Data :=
  (c.mRealmUsersAuthenticaionCredentials username realm).getD []

end ReTurnConfig

structure RequestHandler where
  config : ReTurnConfig
  mRFC3489SupportEnabled : Bool
  mPrim3489Address : Address
  mPrim3489Port : ℕ
  mAlt3489Address : Address
  mAlt3489Port : ℕ
  mPrivateNonceKey : Data
  md5 : Data → Data
  computeHmac : Data → Data → Vector UInt8 20
  /-- `createUsernameAndPassword` for a sender, and the sender that a name stands for. -/
  createUsernameAndPassword : StunTuple → Data × Data
  getTupleFromUsername : Data → StunTuple

inductive ProcessResult
  | noResponseToSend
  | respondFromReceiving
  | respondFromAlternatePort
  | respondFromAlternateIp
  | respondFromAlternateIpPort
  deriving DecidableEq, Repr

inductive CheckNonceResult
  | valid
  | notValid
  | expired
  deriving DecidableEq, Repr

/-- How the opening of a relay socket ends. -/
inductive RelayStart
  | started
  | failed
  | raised
  deriving DecidableEq, Repr

abbrev TurnAllocationManager := TurnAllocationKey → Option TurnAllocation

/-- What a call answers, and the state it leaves. -/
structure Outcome where
  result : ProcessResult
  response : StunMessage
  turnManager : TurnManager
  allocations : TurnAllocationManager
  sent : Sent

def isDigit (c : UInt8) : Bool := 48 ≤ c && c ≤ 57

def isSpace (c : UInt8) : Bool := c == 32 || (9 ≤ c && c ≤ 13)

/-- `Data::convertUInt64`; the value wraps at 2^64. -/
def convertUInt64 (data : Data) : UInt64 :=
  let digits := match data.dropWhile isSpace with
    | 43 :: rest => rest
    | rest => rest
  (digits.takeWhile isDigit).foldl (fun val c => val * 10 + (c - 48).toUInt64) 0

/-- `Data` of a number. -/
def decimal (n : UInt64) : Data := text (toString n.toNat)

namespace RequestHandler

def generateNonce (h : RequestHandler) (timestamp : Data) : Data :=
  timestamp ++ 58 :: h.md5 (timestamp ++ 58 :: h.mPrivateNonceKey)

/-- The timestamp is the text in front of the first colon. -/
def checkNonce (h : RequestHandler) (now : UInt64) (nonce : Data) : CheckNonceResult :=
  if (nonce.head?.map isDigit).getD true = false then .notValid
  else
    let creationTimeData := nonce.takeWhile (· ≠ 58)
    if creationTimeData.length = nonce.length then .notValid
    else if now - convertUInt64 creationTimeData ≤ h.config.mNonceLifetime then
      if h.generateNonce creationTimeData = nonce then .valid else .notValid
    else .expired

/-- Without a realm the answer carries no nonce. -/
def buildErrorResponse (h : RequestHandler) (now : UInt64) (response : StunMessage) (errorCode : ℕ)
    (msg : String) (realm : Option Data) : StunMessage :=
  let response := ({ response with mClass := stunClassErrorResponse }).setErrorCode errorCode msg
  match realm with
  | none => response
  | some realm => (response.set .realm realm).set .nonce (h.generateNonce (decimal now))

def realm (h : RequestHandler) : Option Data := some h.config.mAuthenticationRealm

/-- Shared secret and binding requests and indications are not authenticated. -/
def handleAuthentication (h : RequestHandler) (times : ℕ → ℕ) (request response : StunMessage) :
    Bool × StunMessage :=
  let now i := UInt64.ofNat (times i)
  let reject (errorCode : ℕ) (msg : String) (realm : Option Data) :=
    (false, h.buildErrorResponse (now 1) response errorCode msg realm)
  if (request.mClass = stunClassRequest ∧ request.mMethod = sharedSecretMethod) ∨
      (request.mClass = stunClassRequest ∧ request.mMethod = bindMethod) ∨
      request.mClass = stunClassIndication then
    (true, response)
  else if request.has .messageIntegrity = false then
    reject 401 "Unauthorized (no MessageIntegrity)" h.realm
  else match request.attrs .username with
  | none => reject 400 "Bad Request (no Username and contains MessageIntegrity)" none
  | some (username : Data) => match request.attrs .realm with
    | none => reject 400 "Bad Request (No Realm)" none
    | some (userRealm : Data) => match request.attrs .nonce with
      | none => reject 400 "Bad Request (No Nonce and contains Realm)" none
      | some (nonce : Data) => match h.checkNonce (now 0) nonce with
        | .expired => reject 438 "Stale Nonce" h.realm
        | .notValid => reject 400 "BadRequest (Invalid Nonce)" none
        | .valid =>
          if h.config.isUserNameValid username userRealm = false then
            reject 401 "Unauthorized" h.realm
          else
            -- `calculateHmacKeyForHa1` of a message with a realm
            let hmacKey := h.config.getHa1ForUsername username userRealm
            if (request.checkMessageIntegrity h.computeHmac hmacKey).1 = false then
              reject 401 "Unauthorized" h.realm
            else
              -- the encoder fills in the integrity of the answer
              (true, { (response.set .messageIntegrity (.replicate 20 0)) with mHmacKey := hmacKey })

section Binding

/-- Addresses of RFC 3489, and where the answer is sent from. -/
def answerFromAlternate (h : RequestHandler) (request response : StunMessage) :
    ProcessResult × StunMessage :=
  let localTuple := request.mLocalTuple
  let changeTuple : StunTuple := ⟨localTuple.mTransport,
    if localTuple.mAddress = h.mPrim3489Address then h.mAlt3489Address else h.mPrim3489Address,
    if localTuple.mPort = h.mPrim3489Port then h.mAlt3489Port else h.mPrim3489Port⟩
  let changeRequest : UInt32 := (request.attrs .changeRequest).getD (0 : UInt32)
  let changeIp : Bool := changeRequest &&& 0x04 ≠ 0
  let changePort : Bool := changeRequest &&& 0x02 ≠ 0
  let (result, sendFromTuple) : ProcessResult × StunTuple :=
    if changeIp ∧ changePort then (.respondFromAlternateIpPort, changeTuple)
    else if changePort then
      (.respondFromAlternatePort, { changeTuple with mAddress := localTuple.mAddress })
    else if changeIp then
      (.respondFromAlternateIp, { changeTuple with mPort := localTuple.mPort })
    else (.respondFromReceiving, localTuple)
  let response := (response.set .sourceAddress (stunAtrAddressOfTuple sendFromTuple)).set
    .changedAddress (stunAtrAddressOfTuple changeTuple)
  match request.attrs .responseAddress with
  | none => (result, response)
  | some address =>
    let response := { response with
      mRemoteTuple := setTupleFromStunAtrAddress response.mRemoteTuple address }
    let reflected := match request.attrs .username with
      | some (username : Data) =>
        if 92 ≤ username.length then h.getTupleFromUsername username else request.mRemoteTuple
      | none => request.mRemoteTuple
    (result, response.set .reflectedFrom (stunAtrAddressOfTuple reflected))

def processStunBindingRequest (h : RequestHandler) (request response : StunMessage)
    (isRFC3489BackwardsCompatServer : Bool) : ProcessResult × StunMessage :=
  let response := { response with mClass := stunClassSuccessResponse }
  let mapped := stunAtrAddressOfTuple request.mRemoteTuple
  let response := if request.hasMagicCookie then response.set .xorMappedAddress mapped
    else response.set .mappedAddress mapped
  if h.mRFC3489SupportEnabled ∧ isRFC3489BackwardsCompatServer then
    h.answerFromAlternate request response
  else (.respondFromReceiving, response)

end Binding

def processStunSharedSecretRequest (h : RequestHandler) (now : UInt64)
    (request response : StunMessage) : ProcessResult × StunMessage :=
  if request.mLocalTuple.mTransport ≠ .tls then
    (.respondFromReceiving,
      h.buildErrorResponse now response 433 "Invalid transport.  TLS required." none)
  else
    let credentials := h.createUsernameAndPassword response.mRemoteTuple
    let response := { response with mClass := stunClassSuccessResponse }
    (.respondFromReceiving, (response.set .username credentials.1).set .password credentials.2)

end RequestHandler

end Resiprocate.ReTurn
