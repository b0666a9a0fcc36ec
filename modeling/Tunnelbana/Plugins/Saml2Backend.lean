/-
The SAML2 backend (SP role): starting an authentication at a static or an
MDQ-resolved IdP, the discovery-service return, and the assertion consumer
service with its signature acceptance rule.

Everything the backend keeps between requests is in its state namespace; it
is consumed, with the namespace, by an accepted Response.
-/
import Tunnelbana.Basis.Text
import Tunnelbana.Core.Attributes
import Tunnelbana.Core.Plugin
import Tunnelbana.Plugins.Saml

namespace Tunnelbana

open Basis

def STATE_INITIAL_STEPUP_POLICY : String := "initial_stepup_policy"
def STATE_TARGET_ACCR : String := "target_accr"
def STATE_TARGET_ACCR_COMPARISON : String := "target_accr_comparison"

/-- Where the upstream IdP's SSO endpoint and signing keys come from. -/
inductive IdpMetadata where
  | static (ssoUrl : String) (verifier : SamlVerifier) (policyValues : MetadataPolicyValues)
  /-- Resolved per request from a metadata service. -/
  | mdq

structure Saml2Backend where
  name : String
  stateNamespace : String
  spEntityId : String
  acsUrl : String
  idpEntityId : Option String := none
  discoSrv : Option String := none
  discoReturnUrl : String := ""
  idpMetadata : IdpMetadata
  signRequests : Bool := false
  nameIdFormat : Option String := none
  security : SecurityPreset := .permissive
  acceptedTimeDiffSecs : Option Nat := none
  passthroughUnmappedAttributes : Bool := false
  scopeSubjectIdByIssuer : Bool := false
  allowUnsolicited : Bool := false
  staticIdpScopes : List String := []
  decryptors : List (String → Except String String) := []
  mapper : AttributeMapper := {}
  /-- Send the request's subject id upstream: the step-up micro-SP. -/
  requestSubject : Bool := false

/-- A boolean of a namespace, false when absent. -/
def State.flag (s : State) (ns key : String) : Bool := ((s.getValue ns key).bind Json.asBool).getD false

/-! ## Metadata -/

def idpSsoRedirectUrl (entity : EntityDescriptor) : Except Error String :=
  match entity.idpSsoDescriptors.head? with
  | none => .error (.authn ("metadata for " ++ entity.entityId ++ " has no IDPSSODescriptor"))
  | some idp =>
    match idp.redirectLocation with
    | some location => .ok location
    | none =>
      .error (.authn ("IdP " ++ entity.entityId ++ " advertises no HTTP-Redirect SingleSignOnService"))

def idpVerifierFromMetadata (w : SamlWorld) (entity : EntityDescriptor) : Except Error SamlVerifier :=
  match entity.idpSsoDescriptors.head? with
  | none => .error (.authn ("metadata for " ++ entity.entityId ++ " has no IDPSSODescriptor"))
  | some idp => verifierFromCertDers w idp.signingCertificatesDer

/-! ## Requests -/

/-- An AuthnRequest, where it is sent and the IdP it is issued to. -/
structure BuiltRequest where
  request : AuthnRequest
  ssoUrl : String
  idp : String

/-- The AuthnContextClassRefs and comparison to forward: the decorations of
this request, else what the flow stored. -/
def readTargetAccr (ctx : Context) (ns : String) : List String × Option AuthnContextComparison :=
  let refs := ((ctx.decoration KEY_TARGET_AUTHN_CONTEXT_CLASS_REF).or
    (ctx.state.getValue ns STATE_TARGET_ACCR)).map Json.asStrings
  let comparison := ((ctx.decoration KEY_TARGET_ACCR_COMPARISON).or
    (ctx.state.getValue ns STATE_TARGET_ACCR_COMPARISON)).bind Json.asStr
  (refs.getD [], comparison.bind AuthnContextComparison.parse)

namespace Saml2Backend

variable (b : Saml2Backend) (w : SamlWorld)

def securityConfig : SecurityConfig := { preset := b.security, clockSkewSeconds := b.acceptedTimeDiffSecs }

def isDynamicIdpSelection : Bool :=
  match b.idpMetadata with
  | .static .. => false
  | .mdq => true

def validateStepupTarget (entityId : String) : Except Error Unit :=
  if entityId = "" ∨ entityId.length > 1024 ∨
      entityId.toList.any (fun c => c.toNat < 32 || (127 ≤ c.toNat && c.toNat < 160)) then
    .error (.authn "step-up provider entity id is invalid")
  else if b.isDynamicIdpSelection = false ∧ b.idpEntityId ≠ some entityId then
    .error (.authn "linked step-up provider does not match the statically configured IdP")
  else .ok ()

def discoRedirect (discoSrv : String) : Response :=
  { status := 302, location := some (.query discoSrv [("entityID", b.spEntityId), ("return", b.discoReturnUrl)]) }

/-- The SSO location, entity id and policy values of the IdP to send to. -/
def lookupIdp (targetIdp : Option String) : Except Error (String × String × MetadataPolicyValues) :=
  match b.idpMetadata with
  | .static ssoUrl _ policyValues =>
    match b.idpEntityId with
    | some idp => .ok (ssoUrl, idp, policyValues)
    | none => .error (.internal "static mode without an IdP entity ID")
  | .mdq =>
    match targetIdp with
    | none => .error (.internal "MDQ mode without a target IdP")
    | some target => do
      let resolved ← (w.mdq target).mapError fun e =>
        Error.authn ("MDQ lookup for " ++ target ++ " failed: " ++ e)
      let url ← idpSsoRedirectUrl resolved.entity
      return (url, target, resolved.policyValues)

/-- MDQ mode keeps the choice for the ACS. -/
def keepIdp (idp : String) (s : State) : State :=
  if b.isDynamicIdpSelection then s.setStr b.stateNamespace "idp_entity_id" idp else s

/-- The step-up policy handed over: this request's decoration, else the stored one. -/
def handoffValue (ctx : Context) : Option Json :=
  (ctx.decoration KEY_STEPUP_INITIAL_POLICY).or
    ((ctx.state.getValue b.stateNamespace STATE_INITIAL_STEPUP_POLICY).filter fun v => !v.isNull)

/-- The selection, replaced by the provider's step-up policy when an MFA
request has one. -/
def overrideAccr (handoff : Option Json) (idp : String) (policyValues : MetadataPolicyValues)
    (selected : List String × Option AuthnContextComparison) :
    Except Error (List String × Option AuthnContextComparison) :=
  match handoff with
  | none => .ok selected
  | some v =>
    match InitialPolicyHandoff.fromJson v with
    | none => .error (.state "invalid initial step-up policy")
    | some h =>
      if h.requesterWantsMfa then
        match resolvePolicy h.mfa (some idp) policyValues h.behavior .provider with
        | some settings => .ok (settings.requested, some .exact)
        | none => .ok selected
      else .ok selected

/-- The stored selection is used once. -/
def consumeSelection (ctx : Context) : Context :=
  ctx.mapState fun s => ((s.setValue b.stateNamespace STATE_INITIAL_STEPUP_POLICY .null).setValue
    b.stateNamespace STATE_TARGET_ACCR .null).setValue b.stateNamespace STATE_TARGET_ACCR_COMPARISON .null

/-- The subject of a step-up request; none from an ordinary backend. -/
def requestedSubject (ctx : Context) : Except Error (Option String) :=
  if b.requestSubject then
    match ctx.state.getStr b.stateNamespace "requested_subject" with
    | some subject => .ok (some subject)
    | none => .error (.state "step-up request subject is missing")
  else .ok none

/-- Create an AuthnRequest for the target IdP and keep its id for the ACS. -/
def buildAuthnRequest (targetIdp : Option String) : Flow BuiltRequest := do
  let (ssoUrl, idp, policyValues) ← Action.lift (b.lookupIdp w targetIdp)
  Flow.modify fun ctx => ctx.mapState (b.keepIdp idp)
  let ctx ← Flow.context
  Flow.undecorate KEY_STEPUP_INITIAL_POLICY
  let (refs, comparison) ← Action.lift
    (overrideAccr (b.handoffValue ctx) idp policyValues (readTargetAccr ctx b.stateNamespace))
  Flow.modify b.consumeSelection
  let ctx ← Flow.context
  let id ← Action.lift (w.newRequestId.mapError fun e => Error.internal ("creating AuthnRequest: " ++ e))
  let subject ← Action.lift (b.requestedSubject ctx)
  Flow.setStr b.stateNamespace "authn_id" id
  return {
    request := {
      id
      issuer := b.spEntityId
      acsUrl := some b.acsUrl
      destination := some ssoUrl
      protocolBinding := some BINDING_HTTP_POST
      nameIdFormat := b.nameIdFormat
      allowCreate := true
      forceAuthn := if ctx.state.flag b.stateNamespace "force_authn" then some true else none
      isPassive := if ctx.state.flag b.stateNamespace "is_passive" then some true else none
      authnContextClassRefs := refs
      authnContextComparison := comparison
      subject }
    ssoUrl
    idp }

def redirectAuthnRequest (built : BuiltRequest) : Flow Response := do
  Action.lift ((w.toXmlString built.request).mapError fun e => Error.internal ("serializing AuthnRequest: " ++ e))
  Action.lift ((w.redirectEncode built.request).mapError fun e => Error.internal ("redirect encode: " ++ e))
  return { status := 302, location := some (.authnRequest built.ssoUrl built.request b.signRequests) }

def buildAuthnRedirect (targetIdp : Option String) : Flow Response := do
  let built ← b.buildAuthnRequest w targetIdp
  b.redirectAuthnRequest w built

/-! ## Starting an authentication -/

/-- Keep the request's constraints and this request's selection in the state,
so that they survive a discovery round trip. -/
def persistConstraints (request : InternalData) (ctx : Context) : Context :=
  let accr := Json.strings (ctx.decorationStrings KEY_TARGET_AUTHN_CONTEXT_CLASS_REF)
  ctx.mapState fun s =>
    ((((s.setValue b.stateNamespace "force_authn" (.bool request.forceAuthn)).setValue
      b.stateNamespace "is_passive" (.bool request.isPassive)).setValue
      b.stateNamespace STATE_INITIAL_STEPUP_POLICY ((ctx.decoration KEY_STEPUP_INITIAL_POLICY).getD .null)).setValue
      b.stateNamespace STATE_TARGET_ACCR accr).setValue
      b.stateNamespace STATE_TARGET_ACCR_COMPARISON ((ctx.decoration KEY_TARGET_ACCR_COMPARISON).getD .null)

/-- A step-up request names its linked account. -/
def persistSubject (request : InternalData) : Flow Unit :=
  if b.requestSubject then
    match request.subjectId.filter (· ≠ "") with
    | some subject => Flow.setStr b.stateNamespace "requested_subject" subject
    | none => Flow.fail (.authn "step-up request has no linked-account identifier")
  else pure ()

/-- The IdP this request selects in MDQ mode: a discovery parameter, which a
step-up ignores, a hint, or the default. -/
def selectedTarget (ctx : Context) : Option String :=
  let decorated := (ctx.decoration KEY_TARGET_ENTITYID).bind Json.asStr
  let target := if b.requestSubject then decorated else (ctx.request.param "entityID").or decorated
  target.or b.idpEntityId

/-- Send the user to the discovery service, which a passive request cannot use. -/
def startDiscovery (request : InternalData) : Flow Response :=
  if request.isPassive then do
    Flow.modify Context.markInteractionRequired
    Flow.fail (.authn "IsPassive requested but IdP discovery requires user interaction")
  else
    match b.discoSrv with
    | none => Flow.fail (.authn "no IdP selected and no discovery service configured")
    | some disco => pure (b.discoRedirect disco)

/-- Where a start_auth sends the user: to an IdP, in static mode without
naming it, or to the discovery service. -/
def idpTarget (ctx : Context) : Option (Option String) :=
  match b.idpMetadata, b.selectedTarget ctx with
  | .static .., _ => some none
  | .mdq, some target => some (some target)
  | .mdq, none => none

/-- Keep the request for a discovery round trip and choose where to go. -/
def prepare (request : InternalData) : Flow (Option (Option String)) := do
  Flow.modify (b.persistConstraints request)
  b.persistSubject request
  let ctx ← Flow.context
  return b.idpTarget ctx

def goto (request : InternalData) : Option (Option String) → Flow Response
  | some target => b.buildAuthnRedirect w target
  | none => b.startDiscovery request

def startAuth (request : InternalData) : Flow Response := do
  let target ← b.prepare request
  b.goto w request target

end Saml2Backend

end Tunnelbana
