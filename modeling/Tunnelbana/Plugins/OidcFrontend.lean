/-
The OIDC and the federation frontend: OpenID providers to relying parties that
are configured, or registered automatically through trust chains.
-/
import Tunnelbana.Plugins.OidcOp

namespace Tunnelbana

open Basis

structure OidcFrontend where
  name : String
  mapper : AttributeMapper := {}
  backend : Option String := none

namespace OidcFrontend

variable (f : OidcFrontend) (lib : OpLibrary) (w : OpWorld)

def provider : OpenidProvider := { name := f.name, mapper := f.mapper, backend := f.backend }

def handleAuthorization : Flow FrontendAction := do
  let ctx ← Flow.context
  f.provider.acceptAuthorization lib w ctx.request.queryPairs

def handleEndpoint (routeId : String) : Flow FrontendAction :=
  if routeId = "discovery" then do return .respond (Response.json (← Action.lift w.discoveryDocument))
  else if routeId = "jwks" then do return .respond (Response.json (← Action.lift w.jwksDocument))
  else if routeId = "authorization" then f.handleAuthorization lib w
  else if routeId = "token" then do return .respond (w.token (← Flow.context).request)
  else if routeId = "userinfo" then do return .respond (w.userinfo (← Flow.context).request)
  else Flow.fail (.noBoundEndpoint routeId)

def registerEndpoints : List Route :=
  [Route.exact (f.name ++ "/.well-known/openid-configuration") "discovery", Route.exact (f.name ++ "/jwks") "jwks",
    Route.exact (f.name ++ "/authorization") "authorization", Route.exact (f.name ++ "/token") "token",
    Route.exact (f.name ++ "/userinfo") "userinfo"]

def frontend {W : Type} (view : W → OpWorld) : Frontend W where
  name := f.name
  registerEndpoints := fun _ => f.registerEndpoints
  handleEndpoint w routeId := f.handleEndpoint lib (view w) routeId
  handleAuthnResponse w response := f.provider.handleAuthnResponse lib (view w) response
  handleBackendError w error := f.provider.handleBackendError lib (view w) error

end OidcFrontend

/-! ## Federation -/

def AUTH_PRIVATE_KEY_JWT : String := "private_key_jwt"

/-- What the federation answers beside the provider. -/
structure FederationWorld where
  op : OpWorld
  client : String → Option Client
  /-- Whether a resolution of the client failed a short while ago. -/
  recentlyFailed : String → Bool
  resolveViaTrustAnchors : String → Except Error ResolvedEntity
  parseJwks : Json → Option JwkSet
  /-- The claims of a request object, under keys, issuer and audience. -/
  verifyRequestObject : JwkSet → String → String → String → Except Error (Assoc Json)
  entityConfiguration : Except Error String
  nowSecs : Nat

structure FederationFrontend where
  name : String
  issuer : String
  mapper : AttributeMapper := {}
  rpCacheTtl : Nat := 3600
  backend : Option String := none

/-- A cached entity never outlives what the trust anchor vouches for. -/
def cacheTtlBoundedByTrust (now configuredTtl : Nat) (trustExpiry : Option Nat) (object : String) : Except Error Nat :=
  match trustExpiry with
  | none => .error (.authn (object ++ " has no trust-anchor expiry"))
  | some expiry =>
    if now < expiry then .ok (min configuredTtl (expiry - now))
    else .error (.authn (object ++ " trust decision is expired"))

/-- The first name seen twice; resource indicators may repeat. -/
def duplicateParameter : List String → List (String × String) → Option String
  | _, [] => none
  | seen, (name, _) :: rest =>
    if name = "resource" then duplicateParameter seen rest
    else if name ∈ seen then some name
    else duplicateParameter (name :: seen) rest

/-- Merge the claims of a request object; a claim never overwrites an outer
parameter of another value. -/
def mergeClaims : List (String × String) → Assoc Json → Except Error (List (String × String))
  | params, [] => .ok params
  | params, (k, v) :: rest =>
    match v.asStr with
    | none => mergeClaims params rest
    | some s =>
      if params.any fun p => p.1 = k && p.2 ≠ s then
        .error (.authn ("request object parameter " ++ k ++ " conflicts with outer request"))
      else if params.any fun p => p.1 = k then mergeClaims params rest
      else mergeClaims (params ++ [(k, s)]) rest

namespace FederationFrontend

variable (f : FederationFrontend) (lib : OpLibrary) (w : FederationWorld)

def provider : OpenidProvider := { name := f.name, mapper := f.mapper, backend := f.backend }

def autoRegister (clientId : String) : Except Error Client := do
  let resolved ← w.resolveViaTrustAnchors clientId
  match resolved.metadata.field "openid_relying_party" with
  | none => .error (.authn "resolved metadata has no openid_relying_party")
  | some rpMeta =>
    let client : Client := {
      clientId
      redirectUris := ((rpMeta.field "redirect_uris").map Json.asStrings).getD []
      responseTypes := ["code"]
      grantTypes := ["authorization_code"]
      tokenEndpointAuthMethod := AUTH_PRIVATE_KEY_JWT
      jwks := (rpMeta.field "jwks").bind w.parseJwks
      scope := (rpMeta.field "scope").bind Json.asStr
      subjectType := ((rpMeta.field "subject_type").bind Json.asStr).getD "pairwise"
      clientName := (rpMeta.field "client_name").bind Json.asStr }
    let _ ← cacheTtlBoundedByTrust w.nowSecs f.rpCacheTtl resolved.exp "resolved federation RP"
    return client

/-- Unpack and verify a request object into the parameters. -/
def unpackRequestObject (params : List (String × String)) (client : Client) :
    Except Error (List (String × String)) :=
  match params.find? fun p => p.1 = "request" with
  | none => .ok params
  | some (_, requestJwt) =>
    let params := params.eraseP fun p => p.1 = "request"
    match client.jwks with
    | none => .error (.authn "client has no keys to verify request object")
    | some jwks => do
      let claims ← w.verifyRequestObject jwks client.clientId f.issuer requestJwt
      match (Assoc.get "client_id" claims).bind Json.asStr with
      | none => .error (.authn "request object missing client_id")
      | some inner =>
        if inner ≠ client.clientId then
          .error (.authn "request object client_id does not match outer client_id")
        else mergeClaims params claims

def resolveClient (clientId : String) : Option Client :=
  match w.client clientId with
  | some client => some client
  | none => if w.recentlyFailed clientId then none else (f.autoRegister w clientId).toOption

def handleAuthorization : Flow FrontendAction := do
  let ctx ← Flow.context
  let params := ctx.request.queryPairs
  match duplicateParameter [] params with
  | some name =>
    return .respond (lib.toResponse
      { code := .invalidRequest, description := "duplicate authorization parameter: " ++ name })
  | none => do
    let clientId ← Action.orFail ((params.find? fun p => p.1 = "client_id").map (·.2))
      (.badRequest "missing client_id")
    match f.resolveClient w clientId with
    | none =>
      return .respond (lib.toResponse { code := .invalidRequest, description := "client could not be resolved" })
    | some client =>
      match f.unpackRequestObject w params client with
      | .error _ =>
        return .respond (lib.toResponse { code := .invalidRequest, description := "request object is invalid" })
      | .ok params => f.provider.acceptAuthorization lib w.op params

def handleEntityConfiguration : Flow FrontendAction := do
  let jwt ← Action.lift w.entityConfiguration
  return .respond ((Response.text 200 jwt).withHeader "content-type" "application/entity-statement+jwt")

def handleEndpoint (routeId : String) : Flow FrontendAction :=
  if routeId = "entity_configuration" then handleEntityConfiguration w
  else if routeId = "discovery" then do return .respond (Response.json (← Action.lift w.op.discoveryDocument))
  else if routeId = "jwks" then do return .respond (Response.json (← Action.lift w.op.jwksDocument))
  else if routeId = "authorization" then f.handleAuthorization lib w
  else if routeId = "token" then do return .respond (w.op.token (← Flow.context).request)
  else if routeId = "userinfo" then do return .respond (w.op.userinfo (← Flow.context).request)
  else Flow.fail (.noBoundEndpoint routeId)

def registerEndpoints : List Route :=
  [Route.exact (f.name ++ "/.well-known/openid-federation") "entity_configuration",
    Route.exact (f.name ++ "/.well-known/openid-configuration") "discovery", Route.exact (f.name ++ "/jwks") "jwks",
    Route.exact (f.name ++ "/authorization") "authorization", Route.exact (f.name ++ "/token") "token",
    Route.exact (f.name ++ "/userinfo") "userinfo"]

def frontend {W : Type} (view : W → FederationWorld) : Frontend W where
  name := f.name
  registerEndpoints := fun _ => f.registerEndpoints
  handleEndpoint w routeId := f.handleEndpoint lib (view w) routeId
  handleAuthnResponse w response := f.provider.handleAuthnResponse lib (view w).op response
  handleBackendError w error := f.provider.handleBackendError lib (view w).op error

end FederationFrontend

end Tunnelbana
