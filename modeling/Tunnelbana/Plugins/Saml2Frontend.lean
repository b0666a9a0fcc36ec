/-
The SAML2 frontend (IdP role): accepting an AuthnRequest and keeping what the
answer needs in the frontend's state namespace, and rendering a Response to
the SP that namespace names.
-/
import Tunnelbana.Basis.Text
import Tunnelbana.Core.Attributes
import Tunnelbana.Core.Plugin
import Tunnelbana.Plugins.Saml

namespace Tunnelbana

open Basis

def NAMEID_UNSPECIFIED : String := "urn:oasis:names:tc:SAML:1.1:nameid-format:unspecified"
def STATUS_REQUESTER : String := "urn:oasis:names:tc:SAML:2.0:status:Requester"
def STATUS_INVALID_NAMEID_POLICY : String := "urn:oasis:names:tc:SAML:2.0:status:InvalidNameIDPolicy"
def ATTRNAME_FORMAT_URI : String := "urn:oasis:names:tc:SAML:2.0:attrname-format:uri"
def ATTRNAME_FORMAT_BASIC : String := "urn:oasis:names:tc:SAML:2.0:attrname-format:basic"
def AUTHN_CONTEXT_PASSWORD : String := "urn:oasis:names:tc:SAML:2.0:ac:classes:Password"
def EPTID_OID : String := "urn:oid:1.3.6.1.4.1.5923.1.1.1.10"

inductive SpStore where
  /-- Any issuer is accepted; testing only. -/
  | allowAll
  /-- Local metadata, with a metadata service as a fallback when there is one. -/
  | store (entries : Assoc SpEntry) (mdq : Bool)

structure Saml2Frontend where
  name : String
  idpEntityId : String
  ssoUrl : String
  /-- The first is the default. -/
  nameIdFormats : List String
  attributeNameFormatUri : Bool := false
  defaultAcr : Option String := none
  spStore : SpStore
  wantAuthnRequestsSigned : Bool := false
  /-- The internal attributes an SP may receive, by SP or "default". -/
  policy : Assoc (Option (List String)) := []
  mapper : AttributeMapper := {}
  /-- The backend every flow is pinned to. -/
  backend : Option String := none

def SpStore.resolve (w : SamlWorld) (entityId : String) : SpStore → Except Error (Option SpEntry)
  | .allowAll => .ok none
  | .store entries mdq =>
    match entries.get entityId with
    | some entry => .ok (some entry)
    | none =>
      if mdq then
        (w.spMdq entityId).mapError fun e => Error.authn ("MDQ lookup for " ++ entityId ++ " failed: " ++ e)
      else .ok none

def errorText : Error → String
  | .config m | .state m | .authn m | .badRequest m | .internal m | .crypto m | .json m => m
  | .noBoundEndpoint p => p
  | .unknownModule n => n

/-- Check a required AuthnRequest signature for either binding; the reason on
failure. A POST-binding signature has to cover the exact request. -/
def verifyAuthnRequestSignature (w : SamlWorld) (entry : SpEntry) (redirectDecoded : Option RedirectDecoded)
    (authnRequest : InboundAuthnRequest) (xml : String) : Except String Unit := do
  let verifier ← (verifierFromCertDers w entry.signingCertsDer).mapError fun e =>
    "SP metadata carries no usable signing certificate: " ++ errorText e
  match redirectDecoded with
  | some decoded =>
    if decoded.signature.isNone then .error "AuthnRequest must be signed (redirect binding)"
    else
      match verifier.redirectVerifySignature decoded with
      | .ok true => .ok ()
      | .ok false => .error "AuthnRequest redirect signature is not valid"
      | .error e => .error ("AuthnRequest redirect signature verification: " ++ e)
  | none =>
    if !authnRequest.hasSignature then .error "AuthnRequest must be signed (POST binding)"
    else
      match verifier.verifyEnveloped xml with
      | .ok (.valid references) =>
        if references.any fun r => r.digestVerified && r.uri = "#" ++ authnRequest.id then .ok ()
        else .error "AuthnRequest signature does not cover the consumed request"
      | .ok (.invalid reason) => .error ("AuthnRequest signature is not valid: " ++ reason)
      | .error e => .error ("AuthnRequest signature verification: " ++ e)

structure AcceptedRequest where
  processed : ProcessedAuthnRequest
  relayState : Option String
  entry : Option SpEntry
  nameIdFormat : String

inductive SsoOutcome where
  | reject (r : Response)
  | accept (a : AcceptedRequest)

namespace Saml2Frontend

variable (f : Saml2Frontend) (w : SamlWorld)

/-- The AuthnRequest's text, its relay state and its redirect form. -/
def decodeSso (request : HttpRequestData) : Except Error (String × Option String × Option RedirectDecoded) :=
  if (request.query.get "SAMLRequest").isSome then do
    let decoded ← (w.redirectDecode request).mapError fun e => Error.badRequest ("redirect decode: " ++ e)
    let xml ← decoded.samlXml.mapError fun e => Error.badRequest ("SAMLRequest not UTF-8: " ++ e)
    return (xml, decoded.relayState, some decoded)
  else
    match request.form.get "SAMLRequest" with
    | none => .error (.badRequest "missing SAMLRequest")
    | some field => do
      let bytes ← (w.base64Decode (String.ofList (Text.trim field.toList))).mapError fun e =>
        Error.badRequest ("base64 SAMLRequest: " ++ e)
      let xml ← bytes.mapError fun e => Error.badRequest ("SAMLRequest UTF-8: " ++ e)
      return (xml, request.form.get "RelayState", none)

def parseAuthnRequest (xml : String) : Except Error (InboundAuthnRequest × String) := do
  let doc ← (w.parseXml xml).mapError fun e => Error.badRequest ("invalid AuthnRequest XML: " ++ e)
  let authnRequest ← doc.authnRequest.mapError fun e => Error.badRequest ("parsing AuthnRequest: " ++ e)
  match authnRequest.issuer with
  | some spEntityId => return (authnRequest, spEntityId)
  | none => .error (.badRequest "AuthnRequest carries no Issuer")

def mustVerify (entry : SpEntry) (redirectDecoded : Option RedirectDecoded) (authnRequest : InboundAuthnRequest) :
    Bool :=
  entry.authnRequestsSigned = some true || f.wantAuthnRequestsSigned || authnRequest.hasSignature
    || redirectDecoded.any (·.signature.isSome)

/-- The request as kept: validated against the registered SP, or taken as it
is in open mode. -/
def processRequest (entry : Option SpEntry) (authnRequest : InboundAuthnRequest) (spEntityId : String)
    (signatureVerified : Bool) : Except Error ProcessedAuthnRequest :=
  match entry with
  | some entry =>
    (w.processAuthnRequest authnRequest entry signatureVerified).mapError fun e =>
      Error.badRequest ("AuthnRequest validation: " ++ e)
  | none =>
    match authnRequest.assertionConsumerServiceUrl with
    | none => .error (.badRequest "AuthnRequest has no ACS URL and no SP metadata is available")
    | some acsUrl => .ok {
        requestId := authnRequest.id
        spEntityId
        acsUrl
        forceAuthn := authnRequest.forceAuthn.getD false
        isPassive := authnRequest.isPassive.getD false
        requestedNameIdFormat := authnRequest.nameIdFormat
        requestedAuthnContextClassRefs := (authnRequest.requestedAuthnContext.map (·.1)).getD []
        authnContextComparison := authnRequest.requestedAuthnContext.map (·.2) }

/-- The NameID format of the answer; none when the requested one is not offered. -/
def chooseNameIdFormat (requested : Option String) : Option String :=
  match requested with
  | none => f.nameIdFormats.head?
  | some format =>
    if format = NAMEID_UNSPECIFIED then f.nameIdFormats.head?
    else if f.nameIdFormats.contains format then some format
    else none

def samlErrorResponse (processed : ProcessedAuthnRequest) (relayState : Option String)
    (status : String × Option String × Option String) : Except Error Response := do
  let post : SamlPost := {
    acsUrl := processed.acsUrl
    relayState
    issuer := f.idpEntityId
    inResponseTo := some processed.requestId
    spEntityId := none
    nameId := none
    nameIdFormat := none
    authnContextClassRef := none
    attributes := []
    status }
  (w.serializeResponse post).mapError fun e => Error.internal ("serializing error Response: " ++ e)
  return ({ status := 200, body := .samlPost post } : Response).withHeader "cache-control" "no-cache, no-store"

def readSso (request : HttpRequestData) : Except Error SsoOutcome := do
  let (xml, relayState, redirectDecoded) ← decodeSso w request
  let (authnRequest, spEntityId) ← parseAuthnRequest w xml
  let entry ← f.spStore.resolve w spEntityId
  let known := match f.spStore with
    | .allowAll => true
    | .store .. => entry.isSome
  if !known then return .reject (Response.text 403 "unknown SP")
  else
    let verify := match entry with
      | some entry => f.mustVerify entry redirectDecoded authnRequest
      | none => false
    let verified := match entry with
      | some entry => verifyAuthnRequestSignature w entry redirectDecoded authnRequest xml
      | none => .ok ()
    if verify && !verified.isOk then
      return .reject (Response.text 403 "AuthnRequest signature verification failed")
    else
      let processed ← processRequest w entry authnRequest spEntityId verify
      match f.chooseNameIdFormat processed.requestedNameIdFormat with
      | some nameIdFormat => return .accept { processed, relayState, entry, nameIdFormat }
      | none =>
        let response ← f.samlErrorResponse w processed relayState
          (STATUS_REQUESTER, some STATUS_INVALID_NAMEID_POLICY,
            some ("unsupported NameID format: " ++ processed.requestedNameIdFormat.getD ""))
        return .reject response

def storeRequest (a : AcceptedRequest) (s : State) : State :=
  let s := ((((s.setStr f.name "request_id" a.processed.requestId).setStr f.name "sp_entity_id"
    a.processed.spEntityId).setStr f.name "acs_url" a.processed.acsUrl).setStr f.name "name_id_format"
    a.nameIdFormat).setStr STATE_KEY_BASE KEY_NAME_ID_FORMAT a.nameIdFormat
  match a.relayState with
  | some rs => s.setStr f.name "relay_state" rs
  | none => s

/-- What request-path services see of the requester and its request. -/
def publishRequest (a : AcceptedRequest) (ctx : Context) : Context :=
  let ctx := match a.entry with
    | some entry => (ctx.decorate KEY_REQUESTER_ENTITY_CATEGORIES (Json.strings entry.entityCategories)).decorate
        KEY_REQUESTER_ASSURANCE_CERTIFICATIONS (Json.strings entry.assuranceCertifications)
    | none => ctx
  if a.processed.requestedAuthnContextClassRefs = [] then ctx
  else
    let ctx := ctx.decorate KEY_REQUESTED_ACCR (Json.strings a.processed.requestedAuthnContextClassRefs)
    match a.processed.authnContextComparison with
    | some cmp => ctx.decorate KEY_REQUESTED_ACCR_COMPARISON (.str cmp.asStr)
    | none => ctx

def handleSso : Flow FrontendAction := do
  let ctx ← Flow.context
  match ← Action.lift (f.readSso w ctx.request) with
  | .reject r => return .respond r
  | .accept a =>
    Flow.modify fun ctx => publishRequest a (ctx.mapState (f.storeRequest a))
    return .startAuth
      { requester := some a.processed.spEntityId
        forceAuthn := a.processed.forceAuthn
        isPassive := a.processed.isPassive } f.backend

def handleMetadata : Flow FrontendAction := do
  let xml ← Action.lift (w.metadataXml.mapError fun e => Error.internal ("serializing IdP metadata: " ++ e))
  return .respond ((Response.text 200 xml).withHeader "content-type" "application/samlmetadata+xml; charset=utf-8")

def handleEndpoint (routeId : String) : Flow FrontendAction :=
  if routeId = "sso" then f.handleSso w
  else if routeId = "metadata" then handleMetadata w
  else Flow.fail (.noBoundEndpoint routeId)

def registerEndpoints : List Route :=
  let moduleBase := String.ofList (Text.trimEndMatches "/sso".toList f.ssoUrl.length f.ssoUrl.toList)
  [Route.exact (f.name ++ "/sso") "sso", Route.exact (f.name ++ "/metadata") "metadata"] ++
    match stripPrefix (moduleBase ++ "/") f.idpEntityId with
    | some rest =>
      if rest ≠ "" ∧ rest ≠ "sso" ∧ rest ≠ "metadata" then [Route.exact (f.name ++ "/" ++ rest) "metadata"] else []
    | none => []

/-! ## Rendering -/

/-- The attributes an SP may receive: its own entry wins over the default one. -/
def releaseAttributes (spEntityId : String) (attributes : SortedMap (List String)) : Assoc (List String) :=
  match ((f.policy.get spEntityId).or (f.policy.get "default")).join with
  | some allowed => attributes.entries.filter fun p => allowed.contains p.1
  | none => attributes.entries

/-- An internal attribute under its SAML name; none when it has no mapping. -/
def renderAttribute (p : String × List String) : Option RenderedAttribute := do
  let mapping ← f.mapper.profileAttribute "saml" p.1
  let basicName ← mapping.names.head?
  let nameIds := p.1.toLower = "edupersontargetedid" || basicName = "eduPersonTargetedID"
    || mapping.oid = some EPTID_OID || mapping.friendlyName = some "eduPersonTargetedID"
  match f.attributeNameFormatUri, mapping.oid with
  | true, some oid => return {
      name := oid
      nameFormat := ATTRNAME_FORMAT_URI
      friendlyName := mapping.friendlyName.or (some basicName)
      values := p.2
      nameIds }
  | _, _ => return {
      name := basicName
      nameFormat := ATTRNAME_FORMAT_BASIC
      friendlyName := none
      values := p.2
      nameIds }

/-- The NameID value: fresh when transient, else the subject id. -/
def nameIdValue (format : String) (response : InternalData) (attributes : Assoc (List String)) :
    Except Error String :=
  if format = NAMEID_TRANSIENT then .ok w.freshNameId
  else
    match response.subjectId.or (f.mapper.composeSubjectId (SortedMap.ofList attributes)) with
    | some value => .ok value
    | none => .error (.authn "no subject identifier for SAML assertion")

def renderResponse (s : State) (response : InternalData) : Except Error SamlPost :=
  match s.getStr f.name "request_id", s.getStr f.name "sp_entity_id", s.getStr f.name "acs_url" with
  | none, _, _ => .error (.state "no in-flight AuthnRequest")
  | some _, none, _ => .error (.state "no sp_entity_id in state")
  | some _, some _, none => .error (.state "no acs_url in state")
  | some requestId, some spEntityId, some acsUrl => do
    let attributes := f.releaseAttributes spEntityId response.attributes
    let format := (s.getStr f.name "name_id_format").getD (f.nameIdFormats.headD "")
    let nameId ← f.nameIdValue w format response attributes
    return {
      acsUrl
      relayState := s.getStr f.name "relay_state"
      issuer := f.idpEntityId
      inResponseTo := some requestId
      spEntityId := some spEntityId
      nameId := some nameId
      nameIdFormat := some format
      authnContextClassRef := (response.authInfo.authClassRef.or f.defaultAcr).or (some AUTHN_CONTEXT_PASSWORD)
      attributes := attributes.filterMap f.renderAttribute
      status := (STATUS_SUCCESS, none, none) }

def handleAuthnResponse (response : InternalData) : Flow Response := do
  let ctx ← Flow.context
  let post ← Action.lift (f.renderResponse w ctx.state response)
  Action.lift ((w.serializeResponse post).mapError fun e => Error.internal ("serializing Response: " ++ e))
  Action.lift (w.signResponse post)
  Flow.clearNamespace f.name
  return ({ status := 200, body := .samlPost post } : Response).withHeader "cache-control" "no-cache, no-store"

def handleBackendError (_error : Error) : Flow Response :=
  return Response.text 500 "authentication could not be completed"

def frontend {W : Type} (view : W → SamlWorld) : Frontend W where
  name := f.name
  registerEndpoints := fun _ => f.registerEndpoints
  handleEndpoint w routeId := f.handleEndpoint (view w) routeId
  handleAuthnResponse w response := f.handleAuthnResponse (view w) response
  handleBackendError _ error := handleBackendError error

end Saml2Frontend

end Tunnelbana
