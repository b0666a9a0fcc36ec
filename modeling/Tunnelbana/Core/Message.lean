/-
The values that cross the proxy's boundary: errors, inbound requests and
responses. The wire forms the protocol libraries encode (a redirect-binding
AuthnRequest, an authorization URL, a SAML Response posted to an SP) stay
values here, so that what is sent can be spoken about.
-/
import Tunnelbana.Basis.Json

namespace Tunnelbana

open Basis

inductive Error where
  | config (message : String)
  | state (message : String)
  | authn (message : String)
  | badRequest (message : String)
  | internal (message : String)
  | crypto (message : String)
  | json (message : String)
  | noBoundEndpoint (path : String)
  | unknownModule (name : String)
deriving DecidableEq, Repr

/-- The inbound HTTP request. `query`, `form`, `headers` and `cookies` are
maps; the `Pairs` keep repeated parameters in order. -/
structure HttpRequestData where
  method : String := ""
  /-- Leading slash already stripped. -/
  path : String := ""
  uri : String := ""
  query : Assoc String := []
  queryPairs : List (String × String) := []
  form : Assoc String := []
  headers : Assoc String := []
  cookies : Assoc String := []

/-- A parameter of the query, else of the form. -/
def HttpRequestData.param (r : HttpRequestData) (name : String) : Option String :=
  (r.query.get name).or (r.form.get name)

/-! ## SAML requests -/

inductive AuthnContextComparison where
  | exact
  | minimum
  | maximum
  | better
deriving DecidableEq, Repr

def AuthnContextComparison.asStr : AuthnContextComparison → String
  | .exact => "exact"
  | .minimum => "minimum"
  | .maximum => "maximum"
  | .better => "better"

def AuthnContextComparison.parse (s : String) : Option AuthnContextComparison :=
  if s = "exact" then some .exact
  else if s = "minimum" then some .minimum
  else if s = "maximum" then some .maximum
  else if s = "better" then some .better
  else none

/-- An AuthnRequest sent to an IdP. `subject` is an unspecified NameID. -/
structure AuthnRequest where
  id : String
  issuer : String
  acsUrl : Option String
  destination : Option String
  protocolBinding : Option String
  nameIdFormat : Option String
  allowCreate : Bool
  forceAuthn : Option Bool
  isPassive : Option Bool
  authnContextClassRefs : List String
  authnContextComparison : Option AuthnContextComparison
  subject : Option String
deriving DecidableEq, Repr

/-! ## Responses -/

inductive Location where
  | url (u : String)
  /-- The redirect binding of an AuthnRequest. -/
  | authnRequest (destination : String) (request : AuthnRequest) (signed : Bool)
  /-- A URL with query parameters appended. -/
  | query (endpoint : String) (params : List (String × String))
  /-- An OAuth2 authorization request. -/
  | authorization (endpoint : String) (params : List (String × String))
deriving DecidableEq, Repr

/-- An attribute of a rendered Response; `nameIds` when its values are
persistent NameIDs of the IdP and the SP. -/
structure RenderedAttribute where
  name : String
  nameFormat : String
  friendlyName : Option String
  values : List String
  nameIds : Bool
deriving DecidableEq, Repr

/-- The SAML Response rendered to an SP, as the auto-submitting form posts it. -/
structure SamlPost where
  acsUrl : String
  relayState : Option String
  issuer : String
  inResponseTo : Option String
  /-- The audience, and the SP qualifier of the name id; none on an error. -/
  spEntityId : Option String
  nameId : Option String
  nameIdFormat : Option String
  authnContextClassRef : Option String
  attributes : List RenderedAttribute
  /-- Status code, second-level code and message. -/
  status : String × Option String × Option String
deriving DecidableEq, Repr

inductive Body where
  | empty
  | text (s : String)
  | json (v : Json)
  | samlPost (m : SamlPost)

structure Response where
  status : Nat
  location : Option Location := none
  headers : List (String × String) := []
  body : Body := .empty

namespace Response

def redirect (url : String) : Response := { status := 302, location := some (.url url) }

def text (status : Nat) (s : String) : Response := { status, body := .text s }

def json (v : Json) : Response :=
  { status := 200, headers := [("content-type", "application/json")], body := .json v }

def withHeader (r : Response) (name value : String) : Response :=
  { r with headers := r.headers ++ [(name, value)] }

end Response

end Tunnelbana
