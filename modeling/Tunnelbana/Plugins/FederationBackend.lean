/-
The OpenID Federation backend: a fixed OP, or one chosen at an external
discovery service that returns the user to the initiate endpoint. An OP is
used only as it resolves through the trust anchors.
-/
import Tunnelbana.Plugins.OidcRp

namespace Tunnelbana

open Basis

def DISCOVERY_VERIFIER_KEY : String := "disco_verifier"
def DISCOVERY_VERIFIER_PARAM : String := "tb_discovery_verifier"

structure Discovery where
  service : String
  initiateLoginUri : String
deriving DecidableEq, Repr

def Discovery.targetLinkUri (d : Discovery) (verifier : String) : String :=
  d.initiateLoginUri ++ "?" ++ DISCOVERY_VERIFIER_PARAM ++ "=" ++ verifier

/-- Where the OP comes from: exactly one of the two is configured. -/
inductive OpSelection where
  | fixed (opEntityId : String)
  | discovery (d : Discovery)
deriving DecidableEq, Repr

structure FederationBackend where
  name : String
  entityId : String
  redirectUri : String
  scope : String := "openid profile email"
  op : OpSelection
  mapper : AttributeMapper := {}

namespace FederationBackend

variable (b : FederationBackend) (w : OidcWorld)

def opProvider (resolved : ResolvedEntity) (opMeta : Json) : Except Error ProviderInfo := do
  let get := fun key => (opMeta.field key).bind Json.asStr
  let issuer := (get "issuer").getD resolved.subject
  if issuer ≠ resolved.subject then
    .error (.authn "resolved OP metadata issuer does not match federation entity")
  else
    match get "authorization_endpoint", get "token_endpoint" with
    | none, _ => .error (.authn "resolved OP metadata has no authorization_endpoint")
    | some _, none => .error (.authn "resolved OP metadata has no token_endpoint")
    | some authorizationEndpoint, some tokenEndpoint => do
      let secure := fun (what : String) (url : Option String) =>
        match url with
        | some url => w.requireHttps url ("resolved OP " ++ what)
        | none => .ok ()
      secure "authorization_endpoint" (some authorizationEndpoint)
      secure "token_endpoint" (some tokenEndpoint)
      secure "userinfo_endpoint" (get "userinfo_endpoint")
      secure "jwks_uri" (get "jwks_uri")
      return { issuer, authorizationEndpoint, tokenEndpoint, userinfoEndpoint := get "userinfo_endpoint",
               jwksUri := get "jwks_uri" }

/-- An OP: the cached one while it is fresh, else resolved through the trust
anchors, unexpired. -/
def resolveOp (opEntityId : String) : Except Error ResolvedOp :=
  match (w.cachedOp opEntityId).filter fun p => p.1 > w.nowSecs with
  | some (_, op) => .ok op
  | none => do
    let resolved ← w.resolveViaTrustAnchors opEntityId
    match resolved.exp with
    | none => .error (.authn "resolved federation OP has no trust-anchor expiry")
    | some exp =>
      if exp ≤ w.nowSecs then .error (.authn "resolved federation OP trust decision is expired")
      else
        match resolved.metadata.field "openid_provider" with
        | none => .error (.authn "resolved metadata has no openid_provider")
        | some opMeta => do
          let provider ← opProvider w resolved opMeta
          return { entityId := resolved.subject, provider, metadata := opMeta,
                   federationJwks := resolved.subjectJwks }

def storeTransaction (opEntityId : String) (s : State) : State :=
  (((s.setStr b.name "oidc_state" w.newState).setStr b.name "oidc_nonce" w.newNonce).setStr
    b.name "code_verifier" w.newVerifier).setStr b.name "op_entity_id" opEntityId

def startAuthWithOp (opEntityId : String) : Flow Response := do
  let op ← Action.lift (resolveOp w opEntityId)
  Flow.modify fun ctx => ctx.mapState (b.storeTransaction w opEntityId)
  let requestObject ← Action.lift (w.signedRequestObject op.provider w.newState w.newNonce)
  Action.lift (w.authorizationUrl op.provider)
  return authorizationRedirect op.provider b.entityId b.redirectUri b.scope w.newState w.newNonce
    (w.s256Challenge w.newVerifier) [("request", requestObject)]

/-- The redirect to the discovery service; an unusable hint is dropped. -/
def discoveryRedirect (d : Discovery) (hint : Option String) : Except Error Response :=
  let redirect := fun (hint : List (String × String)) => ({
    status := 302
    location := some (.query d.service ([("entity_id", b.entityId)] ++ hint
      ++ [("target_link_uri", d.targetLinkUri w.newDiscoVerifier)])) } : Response)
  match hint, w.discoveryRequestUrl d.service hint with
  | none, .ok () => .ok (redirect [])
  | none, .error e => .error e
  | some hint, .ok () => .ok (redirect [("hint", hint)])
  | some _, .error _ => do
    w.discoveryRequestUrl d.service none
    return redirect []

/-- Send the user to the discovery service, with a verifier for the return. -/
def startDiscovery (d : Discovery) : Flow Response := do
  Flow.setStr b.name DISCOVERY_VERIFIER_KEY w.newDiscoVerifier
  let ctx ← Flow.context
  Action.lift (b.discoveryRedirect w d ((ctx.decoration KEY_TARGET_ENTITYID).bind Json.asStr))

def startAuth (request : InternalData) : Flow Response :=
  if request.forceAuthn || request.isPassive then
    Flow.fail (.authn "federation backend cannot honor force_authn/is_passive")
  else
    match b.op with
    | .discovery d => b.startDiscovery w d
    | .fixed opEntityId => b.startAuthWithOp w opEntityId

def checkLogin (d : Discovery) (ctx : Context) : Except Error ThirdPartyLogin :=
  match ctx.state.getStr b.name DISCOVERY_VERIFIER_KEY with
  | none => .error (.authn "third-party initiated login without a discovery flow in flight")
  | some verifier => do
    let login ← w.parseThirdPartyLogin ctx.request.query
    if login.targetLinkUri = some (d.targetLinkUri verifier) then return login
    else .error (.authn "third-party initiated login missing or mismatched target_link_uri")

/-- The return from the discovery service: use the chosen OP, once. -/
def handleInitiate : Flow BackendAction :=
  match b.op with
  | .fixed _ => Flow.fail (.noBoundEndpoint "initiate")
  | .discovery d => do
    let ctx ← Flow.context
    let login ← Action.lift (b.checkLogin w d ctx)
    let redirect ← b.startAuthWithOp w login.iss
    Flow.setValue b.name DISCOVERY_VERIFIER_KEY .null
    return .respond redirect

def relyingParty : RelyingParty where
  name := b.name
  clientId := b.entityId
  mapper := b.mapper
  subjectType := .pairwise
  marksLoginRequired := false
  provider := fun w s =>
    match s.getStr b.name "op_entity_id" with
    | none => .error (.state "no OP selected in state")
    | some opEntityId => do
      let op ← resolveOp w opEntityId
      return (op.provider, w.entityMetadataJwks op)

def handleEntityConfiguration : Flow BackendAction := do
  let jwt ← Action.lift w.entityConfiguration
  return .respond ((Response.text 200 jwt).withHeader "content-type" "application/entity-statement+jwt")

def handleEndpoint (routeId : String) : Flow BackendAction :=
  if routeId = "entity_configuration" then handleEntityConfiguration w
  else if routeId = "initiate" then b.handleInitiate w
  else if routeId = "callback" then b.relyingParty.handleCallback w
  else Flow.fail (.noBoundEndpoint routeId)

def registerEndpoints : List Route :=
  [Route.exact (b.name ++ "/.well-known/openid-federation") "entity_configuration",
    Route.exact (b.name ++ "/callback") "callback"] ++
    match b.op with
    | .discovery _ => [Route.exact (b.name ++ "/initiate") "initiate"]
    | .fixed _ => []

def backend {W : Type} (view : W → OidcWorld) : Backend W where
  name := b.name
  registerEndpoints := b.registerEndpoints
  startAuth w request := b.startAuth (view w) request
  handleEndpoint w routeId := b.handleEndpoint (view w) routeId

end FederationBackend

end Tunnelbana
