/-
The OIDC backend: one upstream provider, configured statically or discovered.
-/
import Tunnelbana.Plugins.OidcRp

namespace Tunnelbana

open Basis

structure OidcBackend where
  name : String
  clientId : String
  redirectUri : String
  scope : String := "openid profile email"
  issuer : Option String := none
  authorizationEndpoint : Option String := none
  tokenEndpoint : Option String := none
  userinfoEndpoint : Option String := none
  jwksUri : Option String := none
  mapper : AttributeMapper := {}

namespace OidcBackend

variable (b : OidcBackend) (w : OidcWorld)

/-- The upstream endpoints, from static configuration or via discovery. -/
def providerInfo : Except Error ProviderInfo :=
  match b.authorizationEndpoint, b.tokenEndpoint, b.issuer with
  | some authorizationEndpoint, some tokenEndpoint, some issuer =>
    .ok { issuer, authorizationEndpoint, tokenEndpoint, userinfoEndpoint := b.userinfoEndpoint,
          jwksUri := b.jwksUri }
  | some _, some _, none => .error (.config "oidc backend: issuer is required with static endpoints")
  | _, _, some issuer => w.discover issuer
  | _, _, none => .error (.config "oidc backend needs issuer or explicit endpoints")

def prompt (request : InternalData) : Except Error (Option String) :=
  match request.forceAuthn, request.isPassive with
  | false, false => .ok none
  | true, false => .ok (some "login")
  | false, true => .ok (some "none")
  | true, true => .error (.authn "force_authn and is_passive cannot be honored together upstream")

def storeTransaction (request : InternalData) (s : State) : State :=
  (((s.setStr b.name "oidc_state" w.newState).setStr b.name "oidc_nonce" w.newNonce).setStr
    b.name "code_verifier" w.newVerifier).setValue b.name "is_passive" (.bool request.isPassive)

def startAuth (request : InternalData) : Flow Response := do
  let provider ← Action.lift (b.providerInfo w)
  let prompt ← Action.lift (prompt request)
  Flow.modify fun ctx => ctx.mapState (b.storeTransaction w request)
  Action.lift (w.authorizationUrl provider)
  return authorizationRedirect provider b.clientId b.redirectUri b.scope w.newState w.newNonce
    (w.s256Challenge w.newVerifier) (prompt.toList.map fun p => ("prompt", p))

def relyingParty : RelyingParty where
  name := b.name
  clientId := b.clientId
  mapper := b.mapper
  subjectType := .publicSubject
  marksLoginRequired := true
  provider := fun w _ => do
    let provider ← b.providerInfo w
    return (provider, match provider.jwksUri with
      | some uri => w.fetchJwks uri provider.issuer
      | none => .error (.config "provider has no jwks_uri"))

def handleEndpoint (routeId : String) : Flow BackendAction :=
  if routeId = "callback" then b.relyingParty.handleCallback w else Flow.fail (.noBoundEndpoint routeId)

def registerEndpoints : List Route := [Route.exact (b.name ++ "/callback") "callback"]

def backend {W : Type} (view : W → OidcWorld) : Backend W where
  name := b.name
  registerEndpoints := b.registerEndpoints
  startAuth w request := b.startAuth (view w) request
  handleEndpoint w routeId := b.handleEndpoint (view w) routeId

end OidcBackend

end Tunnelbana
