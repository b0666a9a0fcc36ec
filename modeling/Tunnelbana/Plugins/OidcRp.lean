/-
The relying-party side the OIDC and the federation backend share: the
transaction an authorization request leaves in the backend's namespace, and
the callback that answers it. What differs between the two (where the
provider and its keys come from, the subject type) is a parameter.
-/
import Tunnelbana.Core.Attributes
import Tunnelbana.Core.Plugin

namespace Tunnelbana

open Basis

structure ProviderInfo where
  issuer : String
  authorizationEndpoint : String
  tokenEndpoint : String
  userinfoEndpoint : Option String := none
  jwksUri : Option String := none
deriving DecidableEq, Repr

structure JwkSet where
  keys : List String
deriving DecidableEq, Repr

structure TokenResponse where
  idToken : String
  accessToken : String
deriving DecidableEq, Repr

structure IdTokenClaims where
  sub : Option String
  extra : Assoc Json := []

structure ResolvedEntity where
  subject : String
  exp : Option Nat
  metadata : Json
  subjectJwks : JwkSet

/-- The OP metadata recovered from a resolve response. -/
structure ResolvedOp where
  entityId : String
  provider : ProviderInfo
  metadata : Json
  federationJwks : JwkSet

structure ThirdPartyLogin where
  iss : String
  targetLinkUri : Option String

/-- What the libraries, the network and the clock answer while a request is
handled. -/
structure OidcWorld where
  /-- The random tokens of a new transaction. -/
  newState : String
  newNonce : String
  newVerifier : String
  /-- The random verifier of a discovery redirect. -/
  newDiscoVerifier : String
  s256Challenge : String → String
  discover : String → Except Error ProviderInfo
  /-- Whether an authorization URL can be built. -/
  authorizationUrl : ProviderInfo → Except Error Unit
  /-- The signed request object for a state and a nonce. -/
  signedRequestObject : ProviderInfo → String → String → Except Error String
  exchangeCode : ProviderInfo → String → Option String → Except Error TokenResponse
  fetchJwks : String → String → Except Error JwkSet
  /-- Keys, token, issuer, client id and nonce. -/
  verifyIdToken : JwkSet → String → String → String → String → Except Error IdTokenClaims
  fetchUserinfo : String → String → String → String → Except Error Json
  claimsToAttributes : Json → SortedMap (List String)
  /-- The time, as text and in seconds. -/
  now : String
  nowSecs : Nat
  /-- Federation: the OP cache, the trust anchors, discovery. -/
  cachedOp : String → Option (Nat × ResolvedOp)
  resolveViaTrustAnchors : String → Except Error ResolvedEntity
  requireHttps : String → String → Except Error Unit
  entityMetadataJwks : ResolvedOp → Except Error JwkSet
  discoveryRequestUrl : String → Option String → Except Error Unit
  parseThirdPartyLogin : Assoc String → Except Error ThirdPartyLogin
  entityConfiguration : Except Error String

def mergeFields (base extra : Assoc Json) : Assoc Json :=
  extra.foldl (fun b p => if (b.get p.1).isSome then b else b.put p.1 p.2) base

/-- The userinfo is about the subject of the ID token. -/
def requireMatchingUserinfoSubject (userinfo : Json) (idTokenSub : String) : Except Error Unit :=
  match (userinfo.field "sub").bind Json.asStr with
  | none => .error (.authn "userinfo response missing sub")
  | some sub =>
    if sub = idTokenSub then .ok () else .error (.authn "userinfo sub does not match id_token sub")

/-- What one backend's callback uses. -/
structure RelyingParty where
  /-- The backend's name, which is its state namespace. -/
  name : String
  clientId : String
  mapper : AttributeMapper
  subjectType : SubjectType
  /-- An upstream `login_required` on a passive flow asks for interaction. -/
  marksLoginRequired : Bool
  /-- The provider of the transaction, and its keys. -/
  provider : OidcWorld → State → Except Error (ProviderInfo × Except Error JwkSet)

def authorizationRedirect (provider : ProviderInfo) (clientId redirectUri scope state nonce challenge : String)
    (extra : List (String × String)) : Response :=
  { status := 302
    location := some (.authorization provider.authorizationEndpoint
      ([("response_type", "code"), ("client_id", clientId), ("redirect_uri", redirectUri), ("scope", scope),
        ("state", state), ("nonce", nonce), ("code_challenge", challenge), ("code_challenge_method", "S256")]
        ++ extra)) }

namespace RelyingParty

variable (p : RelyingParty) (w : OidcWorld)

def checkState (ctx : Context) : Except Error Unit :=
  match ctx.state.getStr p.name "oidc_state" with
  | none => .error (.authn "missing stored state")
  | some expected =>
    match ctx.request.param "state" with
    | none => .error (.badRequest "missing state")
    | some got => if got = expected then .ok () else .error (.authn "state mismatch")

def checkError (ctx : Context) : Flow Unit :=
  match ctx.request.param "error" with
  | none => pure ()
  | some err => do
    if p.marksLoginRequired && ((ctx.state.getValue p.name "is_passive").bind Json.asBool).getD false
        && err = "login_required" then
      Flow.modify Context.markInteractionRequired
    Flow.fail (.authn ("upstream error: " ++ err))

def mergedClaims (provider : ProviderInfo) (tokens : TokenResponse) (claims : IdTokenClaims) (sub : String) :
    Except Error (Assoc Json) :=
  match provider.userinfoEndpoint with
  | none => .ok claims.extra
  | some endpoint => do
    let userinfo ← w.fetchUserinfo endpoint tokens.accessToken sub provider.issuer
    requireMatchingUserinfoSubject userinfo sub
    return mergeFields claims.extra (userinfo.asObject.getD [])

/-- Redeem the code and verify what comes back against the nonce. -/
def authenticate (provider : ProviderInfo) (keys : Except Error JwkSet) (code nonce : String)
    (verifier : Option String) : Except Error InternalData := do
  let tokens ← w.exchangeCode provider code verifier
  let jwks ← keys
  let claims ← w.verifyIdToken jwks tokens.idToken provider.issuer p.clientId nonce
  match claims.sub with
  | none => .error (.authn "id_token missing sub")
  | some sub =>
    let merged ← mergedClaims w provider tokens claims sub
    return {
      authInfo := {
        authClassRef := (claims.extra.get "acr").bind Json.asStr
        timestamp := some w.now
        issuer := some provider.issuer }
      requester := none
      requesterName := []
      subjectId := some sub
      subjectType := p.subjectType
      attributes := p.mapper.toInternal "openid" (w.claimsToAttributes (.obj merged))
      forceAuthn := false
      isPassive := false }

def redeem (ctx : Context) : Except Error InternalData :=
  match ctx.request.param "code", ctx.state.getStr p.name "oidc_nonce" with
  | none, _ => .error (.badRequest "missing code")
  | some _, none => .error (.authn "missing stored nonce")
  | some code, some nonce => do
    let (provider, keys) ← p.provider w ctx.state
    p.authenticate w provider keys code nonce (ctx.state.getStr p.name "code_verifier")

def handleCallback : Flow BackendAction := do
  let ctx ← Flow.context
  Action.lift (p.checkState ctx)
  p.checkError ctx
  let data ← Action.lift (p.redeem w ctx)
  Flow.clearNamespace p.name
  return .authResponse data

end RelyingParty

end Tunnelbana
