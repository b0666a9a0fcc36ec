/-
`stepup`: MFA step-up through a native SAML micro-SP. The request leg records
the policy; the response leg lets a satisfied response pass or keeps it in a
snapshot and sends the user to the linked account's provider; the ACS resumes
the response that was kept.
-/
import Tunnelbana.Plugins.DiscoToTargetIssuer
import Tunnelbana.Plugins.Saml2Acs

namespace Tunnelbana

open Basis

def KEY_REQUEST : String := "request"
def MAX_STEPUP_SNAPSHOT_BYTES : Nat := 32 * 1024

structure MfaStepupAccount where
  entityId : String
  identifier : String
  attributeName : String := "eduPersonPrincipalName"
  assurance : String := "eduPersonAssurance"
deriving DecidableEq, Repr

/-- What is recorded of a request. Under eduID a requester policy replaces the
requested LoAs; the original ones are kept beside. -/
structure RequestPolicy where
  behavior : StepupBehavior
  originalRequesterLoas : List String
  requesterLoas : List String
  loaSettings : LoaSettings
  isPassive : Bool := false
deriving DecidableEq, Repr

structure StepupSnapshot where
  response : InternalData
  account : MfaStepupAccount
  policy : RequestPolicy
  targetBackend : Option String
  targetFrontend : Option String
  decorations : Assoc Json

namespace MfaStepupAccount

def toJson (a : MfaStepupAccount) : Json :=
  .obj [("entity_id", .str a.entityId), ("identifier", .str a.identifier), ("attribute", .str a.attributeName),
    ("assurance", .str a.assurance)]

def fromJson (v : Json) : Option MfaStepupAccount := do
  let fs ← v.asObject
  let entityId ← (fs.get "entity_id").bind Json.asStr
  let identifier ← (fs.get "identifier").bind Json.asStr
  let attributeName ← Read.orDefault "eduPersonPrincipalName" Json.asStr (fs.get "attribute")
  let assurance ← Read.orDefault "eduPersonAssurance" Json.asStr (fs.get "assurance")
  return { entityId, identifier, attributeName, assurance }

@[simp] theorem fromJson_toJson (a : MfaStepupAccount) : fromJson a.toJson = some a := rfl

end MfaStepupAccount

namespace RequestPolicy

def wantsMfa (p : RequestPolicy) : Bool := p.requesterLoas.contains REFEDS_MFA

def toJson (p : RequestPolicy) : Json :=
  .obj [("behavior", p.behavior.toJson), ("original_requester_loas", Json.strings p.originalRequesterLoas),
    ("requester_loas", Json.strings p.requesterLoas), ("loa_settings", p.loaSettings.toJson),
    ("is_passive", .bool p.isPassive)]

def fromJson (v : Json) : Option RequestPolicy := do
  let fs ← v.asObject
  let behavior ← Read.orDefault .hardened StepupBehavior.fromJson (fs.get "behavior")
  let originalRequesterLoas ← Read.orDefault [] Read.stringList (fs.get "original_requester_loas")
  let requesterLoas ← (fs.get "requester_loas").bind Read.stringList
  let loaSettings ← (fs.get "loa_settings").bind LoaSettings.fromJson
  let isPassive ← Read.orDefault false Json.asBool (fs.get "is_passive")
  return { behavior, originalRequesterLoas, requesterLoas, loaSettings, isPassive }

@[simp] theorem fromJson_toJson (p : RequestPolicy) : fromJson p.toJson = some p := by
  simp [toJson, fromJson, Assoc.get_cons_self, Assoc.get_cons_other, Read.orDefault]

end RequestPolicy

namespace StepupSnapshot

def toJson (s : StepupSnapshot) : Json :=
  .obj [("response", s.response.toJson), ("account", s.account.toJson), ("policy", s.policy.toJson),
    ("target_backend", Json.optStr s.targetBackend), ("target_frontend", Json.optStr s.targetFrontend),
    ("decorations", .obj s.decorations)]

/-- The backend has to be present, though it may be null. -/
def fromJson (v : Json) : Option StepupSnapshot := do
  let fs ← v.asObject
  let response ← (fs.get "response").bind InternalData.fromJson
  let account ← (fs.get "account").bind MfaStepupAccount.fromJson
  let policy ← (fs.get "policy").bind RequestPolicy.fromJson
  let targetBackend ← (fs.get "target_backend").bind fun v => Read.optString (some v)
  let targetFrontend ← Read.optString (fs.get "target_frontend")
  let decorations ← (fs.get "decorations").bind Json.asObject
  return { response, account, policy, targetBackend, targetFrontend, decorations }

/-- **The response that was kept is the one resumed.** -/
@[simp] theorem fromJson_toJson (s : StepupSnapshot) : fromJson s.toJson = some s := by
  obtain ⟨response, account, policy, targetBackend, targetFrontend, decorations⟩ := s
  cases targetBackend <;> cases targetFrontend <;>
    simp [toJson, fromJson, Assoc.get_cons_self, Assoc.get_cons_other, Read.optString, Json.optStr, InternalData.fromJson_toJson]

end StepupSnapshot

/-- The settings ask for something, and nothing in them is empty. -/
def LoaSettings.isComplete (s : LoaSettings) : Bool :=
  !(s.requested.isEmpty || s.requested.contains "" || s.extraAccepted.contains "" || s.returned = some "")

def validateMfa (name : String) (mfa : MfaConfig) : Except Error Unit :=
  if mfa.settings.all LoaSettings.isComplete then .ok ()
  else .error (.config ("stepup " ++ name ++ ": LoA settings must contain non-empty requested values"))

theorem requested_of_validateMfa {name : String} {mfa : MfaConfig} (h : validateMfa name mfa = .ok ())
    {s : LoaSettings} (hs : s ∈ mfa.settings) : s.requested ≠ [] := by
  unfold validateMfa at h
  split at h
  next hall =>
    have hcomplete := List.all_eq_true.mp hall s hs
    unfold LoaSettings.isComplete at hcomplete
    intro hnil
    rw [hnil] at hcomplete
    simp at hcomplete
  next => cases h

structure StepUp where
  name : String
  behavior : StepupBehavior := .hardened
  mfa : MfaConfig
  saml : Saml2Backend
  mapper : AttributeMapper
  mfaValid : validateMfa name mfa = .ok ()
  samlNamespace : saml.stateNamespace = "stepup_saml:" ++ name
  samlSubject : saml.requestSubject = true

/-- The internal attribute with this external SAML name; eduID takes the first
of several. -/
def internalNameForExternal (mapper : AttributeMapper) (external : String) (behavior : StepupBehavior) :
    Except Error String :=
  let names := mapper.attributes.entries.filterMap fun p =>
    (p.2.get "saml").bind fun mapping => if mapping.keys.contains external then some p.1 else none
  match names, behavior with
  | [internal], _ => .ok internal
  | internal :: _ :: _, .eduid => .ok internal
  | [], _ => .error (.config ("step-up SAML attribute " ++ Text.debug external ++ " has no internal mapping"))
  | _ :: _ :: _, .hardened =>
    .error (.config ("step-up SAML attribute " ++ Text.debug external ++ " has multiple internal mappings"))

/-- Assurances appended; the hardened service leaves out those already there. -/
def mergeAssurances (target source : List String) (behavior : StepupBehavior) : List String :=
  source.foldl (fun target a => if behavior = .eduid || !target.contains a then target ++ [a] else target) target

namespace StepUp

variable (p : StepUp) (w : SamlWorld)

def stateNamespace : String := "stepup:" ++ p.name

/-- The policy of a request, from what this request decorates. Without a
configured one only REFEDS MFA itself is taken and returned. -/
def requestPolicy (ctx : Context) (requester : Option String) : RequestPolicy :=
  let original := ctx.decorationStrings KEY_REQUESTED_ACCR
  let metadata : MetadataPolicyValues :=
    { entityCategories := ctx.decorationStrings KEY_REQUESTER_ENTITY_CATEGORIES
      assuranceCertifications := ctx.decorationStrings KEY_REQUESTER_ASSURANCE_CERTIFICATIONS }
  let configured := resolvePolicy p.mfa requester metadata p.behavior .requester
  let requesterLoas := match configured, p.behavior with
    | some settings, .eduid => settings.requested
    | _, _ => original
  let loaSettings := configured.getD
    { requested := requesterLoas.filter (· = REFEDS_MFA)
      returned := requesterLoas.find? (· = REFEDS_MFA) }
  { behavior := p.behavior, originalRequesterLoas := original, requesterLoas, loaSettings }

def initialProviderPolicy (ctx : Context) (issuer : Option String) (behavior : StepupBehavior) : Option LoaSettings :=
  resolvePolicy p.mfa issuer
    { entityCategories := ctx.decorationStrings KEY_PROVIDER_ENTITY_CATEGORIES
      assuranceCertifications := ctx.decorationStrings KEY_PROVIDER_ASSURANCE_CERTIFICATIONS }
    behavior .provider

/-! ## The request leg -/

def recordedPolicy (ctx : Context) (data : InternalData) : RequestPolicy :=
  { p.requestPolicy ctx data.requester with isPassive := data.isPassive }

def processRequest (data : InternalData) : Flow InternalData := do
  let ctx ← Flow.context
  let policy := p.recordedPolicy ctx data
  let handoff : InitialPolicyHandoff :=
    { behavior := p.behavior, requesterWantsMfa := policy.wantsMfa, mfa := p.mfa }
  Flow.modify fun ctx =>
    if policy.wantsMfa then ctx.decorate KEY_STEPUP_INITIAL_POLICY handoff.toJson
    else ctx.undecorate KEY_STEPUP_INITIAL_POLICY
  Flow.setValue p.stateNamespace KEY_REQUEST policy.toJson
  return data

/-! ## The response leg -/

/-- The recorded policy, else one computed anew. -/
def savedPolicy (ctx : Context) (requester : Option String) : Except Error RequestPolicy :=
  match ctx.state.getValue p.stateNamespace KEY_REQUEST with
  | none => .ok (p.requestPolicy ctx requester)
  | some v =>
    match RequestPolicy.fromJson v with
    | some policy => .ok policy
    | none => .error (.state "invalid saved step-up policy")

/-- The first linked account, complete. -/
def linkedAccount (ctx : Context) : Except Error MfaStepupAccount :=
  match Read.list MfaStepupAccount.fromJson ((ctx.decoration KEY_MFA_STEPUP_ACCOUNTS).getD (.arr [])) with
  | none => .error (.authn "invalid MFA linked-account data")
  | some [] => .error (.authn "MFA is required but the user has no linked account")
  | some (account :: _) =>
    if account.entityId = "" || account.identifier = "" || account.attributeName = "" || account.assurance = "" then
      .error (.authn "MFA linked-account data is incomplete")
    else .ok account

/-- What becomes of a response: it passes, or a second exchange has to confirm
it, with the response kept in a snapshot. -/
inductive Verdict where
  | pass (response : InternalData)
  | stepUp (policy : RequestPolicy) (account : MfaStepupAccount)

/-- Keep the response, once both attributes of the account are mapped. -/
def keepResponse (policy : RequestPolicy) (account : MfaStepupAccount) (data : InternalData) : Flow Verdict := do
  let _ ← Action.lift (internalNameForExternal p.mapper account.attributeName policy.behavior)
  let _ ← Action.lift (internalNameForExternal p.mapper account.assurance policy.behavior)
  let ctx ← Flow.context
  let snapshot : StepupSnapshot :=
    { response := data, account, policy, targetBackend := ctx.targetBackend, targetFrontend := ctx.targetFrontend,
      decorations := ctx.decorations }
  Flow.require (snapshot.toJson.encodedLength ≤ MAX_STEPUP_SNAPSHOT_BYTES)
    (.authn ("step-up snapshot exceeds the " ++ toString MAX_STEPUP_SNAPSHOT_BYTES ++ "-byte state budget"))
  Flow.setValue p.stateNamespace KEY_SNAPSHOT snapshot.toJson
  return .stepUp policy account

/-- Prepare a second exchange, which a passive request cannot have. -/
def requireStepup (policy : RequestPolicy) (data : InternalData) : Flow Verdict :=
  if policy.isPassive then do
    Flow.modify Context.markInteractionRequired
    Flow.fail (.authn "passive authentication cannot initiate an MFA step-up interaction")
  else do
    let ctx ← Flow.context
    let account ← Action.lift (linkedAccount ctx)
    Action.lift (p.saml.validateStepupTarget account.entityId)
    if policy.requesterLoas = [] ∨ policy.loaSettings.requested = [] then return .pass data
    else p.keepResponse policy account data

def showLoa : Option String → String
  | some loa => "Some(" ++ Text.debug loa ++ ")"
  | none => "None"

def decide (policy : RequestPolicy) (data : InternalData) : Flow Verdict := do
  let ctx ← Flow.context
  let settings := p.initialProviderPolicy ctx data.authInfo.issuer policy.behavior
  match initialLoaDecision policy.behavior settings policy.requesterLoas data.authInfo.authClassRef with
  | .satisfied returned => return .pass { data with authInfo := { data.authInfo with authClassRef := some returned } }
  | .rejected => do
    Flow.clearNamespace p.stateNamespace
    Flow.fail (.authn ("initial provider AuthnContextClassRef " ++ showLoa data.authInfo.authClassRef
      ++ " is not accepted"))
  | .needsStepup => p.requireStepup policy data

def examine (data : InternalData) : Flow Verdict := do
  let ctx ← Flow.context
  let policy ← Action.lift (p.savedPolicy ctx data.requester)
  Flow.undecorate KEY_STEPUP_INITIAL_POLICY
  if policy.wantsMfa then p.decide policy data else return .pass data

/-- Send the user to the linked account's provider, bound to its identifier. -/
def redirectStepup (policy : RequestPolicy) (account : MfaStepupAccount) (data : InternalData) :
    Flow MicroServiceResponseAction := do
  Flow.decorate KEY_TARGET_ENTITYID (.str account.entityId)
  Flow.decorate KEY_TARGET_AUTHN_CONTEXT_CLASS_REF (Json.strings policy.loaSettings.requested)
  Flow.decorate KEY_TARGET_ACCR_COMPARISON (.str "exact")
  let redirect ← p.saml.startAuth w { subjectId := some account.identifier, requester := data.requester }
  return .respond redirect

/-- A response that passes consumes the namespace. -/
def actOn (data : InternalData) : Verdict → Flow MicroServiceResponseAction
  | .pass response => do
    Flow.clearNamespace p.stateNamespace
    return .continue response
  | .stepUp policy account => p.redirectStepup w policy account data

def processResponseAction (data : InternalData) : Flow MicroServiceResponseAction := do
  let verdict ← p.examine data
  p.actOn w data verdict

/-! ## The second exchange -/

def snapshot (ctx : Context) : Except Error StepupSnapshot :=
  match ctx.state.getValue p.stateNamespace KEY_SNAPSHOT with
  | none => .error (.authn "no step-up flow in progress")
  | some v =>
    match StepupSnapshot.fromJson v with
    | some snapshot => .ok snapshot
    | none => .error (.state "invalid step-up snapshot")

def satisfies (snapshot : StepupSnapshot) (internal : String) (response : InternalData) : Bool :=
  response.authInfo.issuer = some snapshot.account.entityId &&
    (response.authInfo.authClassRef.any fun loa => snapshot.policy.loaSettings.requested.contains loa) &&
    ((response.attributes.get internal).any fun values => values.contains snapshot.account.identifier)

def completed (snapshot : StepupSnapshot) (assurance : String) (response : InternalData) : InternalData :=
  let kept := snapshot.response
  let attributes := match response.attributes.get assurance with
    | some assurances => kept.attributes.insert assurance
        (mergeAssurances ((kept.attributes.get assurance).getD []) assurances snapshot.policy.behavior)
    | none => kept.attributes
  let original := if snapshot.policy.originalRequesterLoas = [] then snapshot.policy.requesterLoas
    else snapshot.policy.originalRequesterLoas
  { kept with
    attributes
    authInfo := { kept.authInfo with
      authClassRef := completedLoa snapshot.policy.behavior snapshot.policy.loaSettings original
        snapshot.policy.requesterLoas response.authInfo.authClassRef } }

/-- The later response services see the context the response was kept in. -/
def finishStepup (snapshot : StepupSnapshot) (response : InternalData) : Flow InternalData := do
  let internal ← Action.lift
    (internalNameForExternal p.mapper snapshot.account.attributeName snapshot.policy.behavior)
  Flow.require (satisfies snapshot internal response = true)
    (.authn "step-up authentication did not satisfy the linked-account requirements")
  let assurance ← Action.lift
    (internalNameForExternal p.mapper snapshot.account.assurance snapshot.policy.behavior)
  Flow.modify fun ctx =>
    { ctx with
      targetBackend := snapshot.targetBackend
      targetFrontend := snapshot.targetFrontend
      decorations := snapshot.decorations }
  return completed snapshot assurance response

/-- An accepted response consumes the snapshot even when it does not satisfy it. -/
def completeExchange (snapshot : StepupSnapshot) : BackendAction → Flow MicroServiceAction
  | .authResponse response => do
    Flow.clearNamespace p.stateNamespace
    let response ← p.finishStepup snapshot response
    return .resumeResponse response
  | .respond _ => Flow.fail (.internal "step-up ACS did not return authentication data")

def handleAcs : Flow MicroServiceAction := do
  let ctx ← Flow.context
  let snapshot ← Action.lift (p.snapshot ctx)
  let action ← p.saml.handleEndpoint w "acs"
  p.completeExchange snapshot action

def serveMetadata : BackendAction → Flow MicroServiceAction
  | .respond response => pure (.respond response)
  | .authResponse _ => Flow.fail (.internal "step-up metadata endpoint returned authentication data")

def handleEndpoint (routeId : String) : Flow MicroServiceAction :=
  if routeId = "metadata" then do
    let action ← p.saml.handleEndpoint w routeId
    serveMetadata action
  else if routeId = "acs" then p.handleAcs w
  else Flow.fail (.noBoundEndpoint routeId)

def registerEndpoints : List Route := p.saml.registerEndpoints.filter fun r => r.id = "acs" || r.id = "metadata"

def microService {W : Type} (view : W → SamlWorld) : MicroService W where
  name := p.name
  processRequest _ data := p.processRequest data
  processResponseAction w data := p.processResponseAction (view w) data
  registerEndpoints := p.registerEndpoints
  handleEndpoint w routeId := p.handleEndpoint (view w) routeId

end StepUp

end Tunnelbana
