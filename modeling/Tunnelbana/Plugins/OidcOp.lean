/-
The provider side the OIDC and the federation frontend share: the
authorization request kept in the frontend's namespace, the registration it
was validated against, and how the answer to it is rendered.

What an OpenID library answers is of two kinds. `OpLibrary` is what it
computes: the JSON of a request, the responses of an error. `OpWorld` is what
it finds while a request is handled: registrations, tokens, keys.
-/
import Tunnelbana.Plugins.OidcRp

namespace Tunnelbana

open Basis

/-- State namespace key of the authorization request in flight. -/
def AUTHZ_KEY : String := "authz_request"

/-- The registration binding, beside it. -/
def AUTHORIZATION_CLIENT : String := "authorization_client_v1"

def AUTHENTICATING_AUTHORITY_ATTRIBUTE : String := "authenticating_authority"

/-- What is read of an authorization request; `other` are its further parameters. -/
structure AuthorizationRequest where
  clientId : String
  redirectUri : String
  state : Option String := none
  prompt : Option String := none
  other : Assoc String := []
deriving DecidableEq

structure Client where
  clientId : String
  clientSecret : Option String := none
  redirectUris : List String := []
  responseTypes : List String := []
  grantTypes : List String := []
  tokenEndpointAuthMethod : String := ""
  jwks : Option JwkSet := none
  scope : Option String := none
  subjectType : String := "public"
  clientName : Option String := none
deriving DecidableEq

inductive OAuthErrorCode where
  | invalidRequest
  | accessDenied
  | loginRequired
  | serverError
  | unauthorizedClient
  | other (code : String)
deriving DecidableEq

structure OAuthError where
  code : OAuthErrorCode
  description : String
  state : Option String := none
deriving DecidableEq

def OAuthError.withState (e : OAuthError) (state : Option String) : OAuthError := { e with state }

/-- What the library computes. A stored request reads back; an error sent to
the client is a redirect, and one answered locally is not. -/
structure OpLibrary where
  toValue : AuthorizationRequest → Except Error Json
  fromValue : Json → Option AuthorizationRequest
  fromValue_toValue : ∀ request value, toValue request = .ok value → fromValue value = some request
  hasPrompt : AuthorizationRequest → String → Bool
  useFragment : AuthorizationRequest → Bool
  toRedirect : OAuthError → String → Bool → Response
  toResponse : OAuthError → Response
  toRedirect_location : ∀ e redirectUri fragment, (toRedirect e redirectUri fragment).location ≠ none
  toResponse_location : ∀ e, (toResponse e).location = none

/-- What the provider of one frontend answers while a request is handled. -/
structure OpWorld where
  fromPairs : List (String × String) → Except OAuthError AuthorizationRequest
  /-- The client whose registration the request passes. -/
  validate : AuthorizationRequest → Except OAuthError Client
  /-- The answer to a request: its subject, claims, class and extra claims. -/
  authorizationRedirect : AuthorizationRequest → (Client → Except OAuthError String) → SortedMap (List String) →
    Option String → Assoc Json → Except OAuthError Response
  fingerprint : Client → Except Error String
  /-- Every registration can be serialized. -/
  fingerprint_ok : ∀ client, ∃ text, fingerprint client = .ok text
  discoveryDocument : Except Error Json
  jwksDocument : Except Error Json
  token : HttpRequestData → Response
  userinfo : HttpRequestData → Response
  /-- These two answer the caller itself. -/
  token_location : ∀ request, (token request).location = none
  userinfo_location : ∀ request, (userinfo request).location = none

/-- The registration the response pipeline's output is bound to. -/
def bindAuthorizationClient (w : OpWorld) (frontend : String) (client : Client) : Flow Unit := do
  let fingerprint ← Action.lift (w.fingerprint client)
  Flow.setValue frontend AUTHORIZATION_CLIENT (.str fingerprint)

/-- The established subject, once the registration at issuance is the one the
login was bound to. -/
def resolveAuthorizationSubject (w : OpWorld) (s : State) (frontend : String) (client : Client)
    (response : InternalData) (mapper : AttributeMapper) : Except OAuthError String := do
  match s.getValue frontend AUTHORIZATION_CLIENT with
  | some saved =>
    match w.fingerprint client with
    | .error _ => .error { code := .serverError, description := "cannot compare client registration" }
    | .ok current =>
      if saved.asStr ≠ some current then
        .error { code := .unauthorizedClient
                 description := "client registration changed during login; restart authorization" }
  | none =>
    .error { code := .unauthorizedClient
             description := "login has no registration binding; restart authorization" }
  match response.subjectId.or (mapper.composeSubjectId response.attributes) with
  | some subject => return subject
  | none => .error { code := .accessDenied, description := "no subject identifier available" }

/-- An error goes to the client only while its request passes registration. -/
def authorizationErrorResponse (lib : OpLibrary) (w : OpWorld) (req : AuthorizationRequest) (error : OAuthError) :
    Response :=
  match w.validate req with
  | .ok _ => lib.toRedirect error req.redirectUri (lib.useFragment req)
  | .error _ => lib.toResponse error

/-- The claim of the upstream authority, under its mapped name and no other. -/
def authenticatingAuthorityClaims (mapper : AttributeMapper) (external : SortedMap (List String))
    (issuer : Option String) : SortedMap (List String) × Assoc Json :=
  let external := external.erase AUTHENTICATING_AUTHORITY_ATTRIBUTE
  match (mapper.profileAttribute "openid" AUTHENTICATING_AUTHORITY_ATTRIBUTE).bind (·.names.head?) with
  | none => (external, [])
  | some claimName =>
    (external.erase claimName, issuer.toList.map fun issuer => (claimName, Json.strings [issuer]))

def applyPromptConstraints (lib : OpLibrary) (req : AuthorizationRequest) (request : InternalData) : InternalData :=
  { request with forceAuthn := lib.hasPrompt req "login", isPassive := lib.hasPrompt req "none" }

def backendAuthorizationError (lib : OpLibrary) (req : AuthorizationRequest) (error : Error)
    (interactionRequired : Bool) : OAuthError :=
  let e : OAuthError := match error with
    | .authn _ =>
      if lib.hasPrompt req "none" && interactionRequired then
        { code := .loginRequired, description := "silent authentication could not be completed" }
      else { code := .accessDenied, description := "authentication was denied" }
    | _ => { code := .serverError, description := "authentication could not be completed" }
  e.withState req.state

/-- What the two frontends have in common. -/
structure OpenidProvider where
  /-- The frontend's name, which is its state namespace. -/
  name : String
  mapper : AttributeMapper := {}
  /-- The backend every flow is pinned to. -/
  backend : Option String := none

namespace OpenidProvider

variable (f : OpenidProvider) (lib : OpLibrary) (w : OpWorld)

def storeAuthzRequest (req : AuthorizationRequest) : Flow Unit := do
  let value ← Action.lift (lib.toValue req)
  Flow.setValue f.name AUTHZ_KEY value

def loadAuthzRequest (s : State) : Option AuthorizationRequest := (s.getValue f.name AUTHZ_KEY).bind lib.fromValue

/-- Validate the parameters of a request, keep it, and start the flow. -/
def acceptAuthorization (params : List (String × String)) : Flow FrontendAction :=
  match w.fromPairs params with
  | .error e => return .respond (lib.toResponse e)
  | .ok req =>
    match w.validate req with
    | .error e => return .respond (lib.toResponse e)
    | .ok client => do
      f.storeAuthzRequest lib req
      bindAuthorizationClient w f.name client
      let request := { InternalData.request req.clientId with requesterName := client.clientName.toList }
      return .startAuth (applyPromptConstraints lib req request) f.backend

def handleAuthnResponse (response : InternalData) : Flow Response := do
  let ctx ← Flow.context
  let req ← Action.orFail (f.loadAuthzRequest lib ctx.state) (.state "no in-flight authorization request")
  let (external, extraClaims) := authenticatingAuthorityClaims f.mapper
    (f.mapper.fromInternal "openid" response.attributes) response.authInfo.issuer
  let resolver := fun client =>
    (resolveAuthorizationSubject w ctx.state f.name client response f.mapper).mapError (·.withState req.state)
  match w.authorizationRedirect req resolver external response.authInfo.authClassRef extraClaims with
  | .ok r => return r
  | .error error => return authorizationErrorResponse lib w req error

def handleBackendError (error : Error) : Flow Response := do
  let ctx ← Flow.context
  match f.loadAuthzRequest lib ctx.state with
  | some req =>
    return authorizationErrorResponse lib w req (backendAuthorizationError lib req error ctx.interactionRequired)
  | none => return Response.text 500 "authentication could not be completed"

end OpenidProvider

/-! ## A library, and a provider of one client -/

def OAuthErrorCode.text : OAuthErrorCode → String
  | .invalidRequest => "invalid_request"
  | .accessDenied => "access_denied"
  | .loginRequired => "login_required"
  | .serverError => "server_error"
  | .unauthorizedClient => "unauthorized_client"
  | .other code => code

namespace AuthorizationRequest

def toJson (r : AuthorizationRequest) : Json :=
  .obj [("client_id", .str r.clientId), ("redirect_uri", .str r.redirectUri), ("state", .optStr r.state),
    ("prompt", .optStr r.prompt), ("other", .obj (r.other.map fun p => (p.1, .str p.2)))]

def ofJson (v : Json) : Option AuthorizationRequest := do
  let clientId ← (v.field "client_id").bind Json.asStr
  let redirectUri ← (v.field "redirect_uri").bind Json.asStr
  let other ← (v.field "other").bind Json.asObject
  return { clientId, redirectUri, state := (v.field "state").bind Json.asStr, prompt := (v.field "prompt").bind Json.asStr,
           other := other.filterMap fun p => p.2.asStr.map fun text => (p.1, text) }

theorem ofJson_toJson (r : AuthorizationRequest) : ofJson r.toJson = some r := by
  have hother : (r.other.map fun p => (p.1, Json.str p.2)).filterMap
      (fun p => p.2.asStr.map fun text => (p.1, text)) = r.other := by
    simp [List.filterMap_map, Function.comp_def]
  have hstate : (Json.optStr r.state).asStr = r.state := Json.asStr_optStr _
  have hprompt : (Json.optStr r.prompt).asStr = r.prompt := Json.asStr_optStr _
  have hread : ofJson r.toJson = some { r with
      state := (Json.optStr r.state).asStr
      prompt := (Json.optStr r.prompt).asStr
      other := (r.other.map fun p => (p.1, Json.str p.2)).filterMap
        fun p => p.2.asStr.map fun text => (p.1, text) } := rfl
  rw [hread, hother, hstate, hprompt]

end AuthorizationRequest

/-- Errors by redirect carry their code and the state in the query. -/
def plainLibrary : OpLibrary where
  toValue r := .ok r.toJson
  fromValue := AuthorizationRequest.ofJson
  fromValue_toValue r value h := by
    cases h
    exact r.ofJson_toJson
  hasPrompt r prompt := r.prompt = some prompt
  useFragment _ := false
  toRedirect e redirectUri _ :=
    { status := 302
      location := some (.query redirectUri (("error", e.code.text) :: e.state.toList.map fun state => ("state", state))) }
  toResponse e := Response.text 400 e.code.text
  toRedirect_location _ _ _ := by simp
  toResponse_location _ := rfl

/-- One registered client; its code names the subject. -/
def clientOnly (client : Client) : OpWorld where
  fromPairs params :=
    match Assoc.get "client_id" params, Assoc.get "redirect_uri" params with
    | some clientId, some redirectUri => .ok { clientId, redirectUri, state := Assoc.get "state" params }
    | _, _ => .error { code := .invalidRequest, description := "missing parameter" }
  validate req :=
    if req.clientId = client.clientId && client.redirectUris.contains req.redirectUri then .ok client
    else .error { code := .invalidRequest, description := "unknown client" }
  authorizationRedirect req resolver _ _ _ :=
    match resolver client with
    | .ok subject =>
      .ok { status := 302
            location := some (.query req.redirectUri
              (("code", subject) :: req.state.toList.map fun state => ("state", state))) }
    | .error e => .error e
  fingerprint client := .ok client.clientId
  fingerprint_ok client := ⟨client.clientId, rfl⟩
  discoveryDocument := .ok (.obj [])
  jwksDocument := .ok (.obj [])
  token _ := Response.text 400 "invalid_grant"
  userinfo _ := Response.text 401 "invalid_token"
  token_location _ := rfl
  userinfo_location _ := rfl

end Tunnelbana
