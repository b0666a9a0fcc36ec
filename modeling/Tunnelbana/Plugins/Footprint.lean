/-
What each plugin writes: keys of its own namespace, that namespace as a whole,
and a few decorations. `Permits` is a frame that permits these; each plugin
keeps every frame that permits its own. A result about runs picks its frame
and takes the plugins' lemmas from here.
-/
import Tunnelbana.Plugins.Accr
import Tunnelbana.Plugins.DiscoToTargetIssuer
import Tunnelbana.Plugins.FederationBackend
import Tunnelbana.Plugins.OidcBackend
import Tunnelbana.Plugins.OidcFrontend
import Tunnelbana.Plugins.Saml2Facts
import Tunnelbana.Plugins.Saml2Frontend
import Tunnelbana.Plugins.StepUp

namespace Tunnelbana

open Basis

/-- A frame that permits writing these keys of a namespace, clearing it, and
these decorations. -/
structure Permits (R : Context → Context → Prop) (ns : String) (keys decorations : List String) : Prop where
  setValue : ∀ (ctx : Context) (key : String) (value : Json), key ∈ keys →
    R ctx (ctx.mapState fun s => s.setValue ns key value)
  clear : ∀ (ctx : Context), R ctx (ctx.mapState fun s => s.clearNamespace ns)
  decorate : ∀ (ctx : Context) (key : String) (value : Json), key ∈ decorations → R ctx (ctx.decorate key value)
  undecorate : ∀ (ctx : Context) (key : String), key ∈ decorations → R ctx (ctx.undecorate key)

namespace Permits

variable {R : Context → Context → Prop} {ns : String} {keys decorations : List String}

theorem setStr (h : Permits R ns keys decorations) (ctx : Context) (key value : String) (hk : key ∈ keys) :
    R ctx (ctx.mapState fun s => s.setStr ns key value) := h.setValue ctx key (.str value) hk

theorem andSetValue [Action.Frame R] (h : Permits R ns keys decorations) {ctx ctx' : Context} (hr : R ctx ctx')
    (key : String) (value : Json) (hk : key ∈ keys) : R ctx (ctx'.mapState fun s => s.setValue ns key value) :=
  Action.Frame.trans hr (h.setValue ctx' key value hk)

theorem andSetStr [Action.Frame R] (h : Permits R ns keys decorations) {ctx ctx' : Context} (hr : R ctx ctx')
    (key value : String) (hk : key ∈ keys) : R ctx (ctx'.mapState fun s => s.setStr ns key value) :=
  h.andSetValue hr key (.str value) hk

theorem andDecorate [Action.Frame R] (h : Permits R ns keys decorations) {ctx ctx' : Context} (hr : R ctx ctx')
    (key : String) (value : Json) (hk : key ∈ decorations) : R ctx (ctx'.decorate key value) :=
  Action.Frame.trans hr (h.decorate ctx' key value hk)

theorem keepsSetValue (h : Permits R ns keys decorations) {key : String} (value : Json) (hk : key ∈ keys) :
    Action.Keeps R (Flow.setValue ns key value) := Action.keeps_update fun ctx => h.setValue ctx key value hk

theorem keepsSetStr (h : Permits R ns keys decorations) {key : String} (value : String) (hk : key ∈ keys) :
    Action.Keeps R (Flow.setStr ns key value) := h.keepsSetValue (.str value) hk

theorem keepsClear (h : Permits R ns keys decorations) : Action.Keeps R (Flow.clearNamespace ns) :=
  Action.keeps_update h.clear

theorem keepsDecorate (h : Permits R ns keys decorations) {key : String} (value : Json) (hk : key ∈ decorations) :
    Action.Keeps R (Flow.decorate key value) := Action.keeps_update fun ctx => h.decorate ctx key value hk

theorem keepsUndecorate (h : Permits R ns keys decorations) {key : String} (hk : key ∈ decorations) :
    Action.Keeps R (Flow.undecorate key) := Action.keeps_update fun ctx => h.undecorate ctx key hk

theorem keepsMark (h : Permits R ns keys decorations) (hk : KEY_INTERACTION_REQUIRED ∈ decorations) :
    Action.Keeps R (Flow.modify Context.markInteractionRequired) :=
  Action.keeps_update fun ctx => h.decorate ctx KEY_INTERACTION_REQUIRED (.bool true) hk

theorem mono (h : Permits R ns keys decorations) {keys' decorations' : List String} (hkeys : ∀ k ∈ keys', k ∈ keys)
    (hdecorations : ∀ k ∈ decorations', k ∈ decorations) : Permits R ns keys' decorations' :=
  ⟨fun ctx key value hk => h.setValue ctx key value (hkeys key hk), h.clear,
    fun ctx key value hk => h.decorate ctx key value (hdecorations key hk),
    fun ctx key hk => h.undecorate ctx key (hdecorations key hk)⟩

end Permits

theorem keeps_require {R : Context → Context → Prop} [Action.Frame R] (p : Prop) [Decidable p] (e : Error) :
    Action.Keeps R (Flow.require p e) := by
  unfold Flow.require
  split
  · exact Action.keeps_pure ()
  · exact Action.keeps_fail e

/-! ## The SAML2 backend -/

namespace Saml2Backend

def stateKeys : List String :=
  ["force_authn", "is_passive", STATE_INITIAL_STEPUP_POLICY, STATE_TARGET_ACCR, STATE_TARGET_ACCR_COMPARISON,
    "requested_subject", "idp_entity_id", "authn_id"]

def decorationKeys : List String :=
  [KEY_STEPUP_INITIAL_POLICY, KEY_INTERACTION_REQUIRED, KEY_PROVIDER_SCOPES, KEY_PROVIDER_ASSURANCE_CERTIFICATIONS,
    KEY_PROVIDER_ENTITY_CATEGORIES]

variable {R : Context → Context → Prop} [Action.Frame R] (b : Saml2Backend) (w : SamlWorld)
  (h : Permits R b.stateNamespace stateKeys decorationKeys)
include h

theorem persistConstraints_keeps (request : InternalData) (ctx : Context) :
    R ctx (b.persistConstraints request ctx) := by
  have hforce := h.setValue ctx "force_authn" (.bool request.forceAuthn) (by simp [stateKeys])
  have hpassive := h.andSetValue hforce "is_passive" (.bool request.isPassive) (by simp [stateKeys])
  have hpolicy := h.andSetValue hpassive STATE_INITIAL_STEPUP_POLICY
    ((ctx.decoration KEY_STEPUP_INITIAL_POLICY).getD .null) (by simp [stateKeys])
  have haccr := h.andSetValue hpolicy STATE_TARGET_ACCR
    (Json.strings (ctx.decorationStrings KEY_TARGET_AUTHN_CONTEXT_CLASS_REF)) (by simp [stateKeys])
  exact h.andSetValue haccr STATE_TARGET_ACCR_COMPARISON ((ctx.decoration KEY_TARGET_ACCR_COMPARISON).getD .null)
    (by simp [stateKeys])

theorem persistSubject_keeps (request : InternalData) : Action.Keeps R (b.persistSubject request) := by
  unfold persistSubject
  split
  · split
    · exact h.keepsSetStr _ (by simp [stateKeys])
    · exact Action.keeps_fail _
  · exact Action.keeps_pure ()

theorem prepare_keeps (request : InternalData) : Action.Keeps R (b.prepare request) := by
  unfold prepare
  refine (Action.keeps_update fun ctx => b.persistConstraints_keeps h request ctx).bind fun _ => ?_
  exact (b.persistSubject_keeps h request).bind fun _ => Action.keeps_read.bind fun ctx => Action.keeps_pure _

theorem keepIdp_keeps (idp : String) (ctx : Context) : R ctx (ctx.mapState (b.keepIdp idp)) := by
  unfold keepIdp
  by_cases hdyn : b.isDynamicIdpSelection = true
  · simp only [if_pos hdyn]
    exact h.setStr ctx "idp_entity_id" idp (by simp [stateKeys])
  · simp only [if_neg hdyn]
    exact Action.Frame.refl ctx

theorem consumeSelection_keeps (ctx : Context) : R ctx (b.consumeSelection ctx) := by
  have hpolicy := h.setValue ctx STATE_INITIAL_STEPUP_POLICY .null (by simp [stateKeys])
  have haccr := h.andSetValue hpolicy STATE_TARGET_ACCR .null (by simp [stateKeys])
  exact h.andSetValue haccr STATE_TARGET_ACCR_COMPARISON .null (by simp [stateKeys])

theorem buildAuthnRequest_keeps (target : Option String) : Action.Keeps R (b.buildAuthnRequest w target) := by
  unfold buildAuthnRequest
  refine (Action.keeps_lift _).bind fun ⟨ssoUrl, idp, policyValues⟩ => ?_
  refine (Action.keeps_update fun ctx => b.keepIdp_keeps h idp ctx).bind fun _ => ?_
  refine Action.keeps_read.bind fun ctx => (h.keepsUndecorate (by simp [decorationKeys])).bind fun _ => ?_
  refine (Action.keeps_lift _).bind fun ⟨refs, comparison⟩ => ?_
  refine (Action.keeps_update fun ctx => b.consumeSelection_keeps h ctx).bind fun _ => ?_
  refine Action.keeps_read.bind fun ctx => (Action.keeps_lift _).bind fun id => ?_
  refine (Action.keeps_lift _).bind fun subject => ?_
  exact (h.keepsSetStr id (by simp [stateKeys])).bind fun _ => Action.keeps_pure _

theorem buildAuthnRedirect_keeps (target : Option String) : Action.Keeps R (b.buildAuthnRedirect w target) := by
  unfold buildAuthnRedirect redirectAuthnRequest
  refine (b.buildAuthnRequest_keeps w h target).bind fun built => ?_
  exact (Action.keeps_lift _).bind fun _ => (Action.keeps_lift _).bind fun _ => Action.keeps_pure _

theorem startDiscovery_keeps (request : InternalData) : Action.Keeps R (b.startDiscovery request) := by
  unfold startDiscovery
  split
  · exact (h.keepsMark (by simp [decorationKeys])).bind fun _ => Action.keeps_fail _
  · split
    · exact Action.keeps_fail _
    · exact Action.keeps_pure _

/-- **A start_auth writes its own namespace.** -/
theorem startAuth_keeps (request : InternalData) : Action.Keeps R (b.startAuth w request) := by
  unfold startAuth
  refine (b.prepare_keeps h request).bind fun target => ?_
  unfold goto
  cases target with
  | some target => exact b.buildAuthnRedirect_keeps w h target
  | none => exact b.startDiscovery_keeps h request

theorem checkStatus_keeps (status : SamlStatus) : Action.Keeps R (b.checkStatus w status) := by
  unfold checkStatus
  split
  · exact Action.keeps_pure ()
  · refine Action.keeps_read.bind fun ctx => ?_
    simp only
    split
    · exact (h.keepsMark (by simp [decorationKeys])).bind fun _ => Action.keeps_fail _
    · exact Action.keeps_fail _

theorem processAcs_keeps (verifier : SamlVerifier) (expected : String) (scopes : List String)
    (policyValues : MetadataPolicyValues) : Action.Keeps R (b.processAcs w verifier expected scopes policyValues) := by
  unfold processAcs
  refine Action.keeps_read.bind fun ctx => (Action.keeps_lift _).bind fun m => ?_
  refine (b.checkStatus_keeps w h _).bind fun _ => (keeps_require _ _).bind fun _ => ?_
  refine (Action.keeps_lift _).bind fun expectedId => (Action.keeps_lift _).bind fun _ => ?_
  refine (Action.keeps_lift _).bind fun data => ?_
  have hpublish : ∀ ctx : Context, R ctx (publishProvider scopes policyValues ctx) := by
    intro ctx
    have hscopes := h.decorate ctx KEY_PROVIDER_SCOPES (Json.strings scopes) (by simp [decorationKeys])
    have hcertifications := h.andDecorate hscopes KEY_PROVIDER_ASSURANCE_CERTIFICATIONS
      (Json.strings policyValues.assuranceCertifications) (by simp [decorationKeys])
    exact h.andDecorate hcertifications KEY_PROVIDER_ENTITY_CATEGORIES (Json.strings policyValues.entityCategories)
      (by simp [decorationKeys])
  exact (Action.keeps_update hpublish).bind fun _ => h.keepsClear.bind fun _ => Action.keeps_pure _

/-- **So does an endpoint.** -/
theorem handleEndpoint_keeps (routeId : String) : Action.Keeps R (b.handleEndpoint w routeId) := by
  unfold handleEndpoint
  split
  · unfold handleAcs
    refine Action.keeps_read.bind fun ctx => (Action.keeps_lift _).bind fun selected => ?_
    exact b.processAcs_keeps w h _ _ _ _
  · split
    · unfold handleDisco
      refine Action.keeps_read.bind fun ctx => (Action.keeps_orFail _ _).bind fun target => ?_
      exact (b.buildAuthnRedirect_keeps w h _).bind fun _ => Action.keeps_pure _
    · split
      · unfold handleMetadata
        exact (Action.keeps_lift _).bind fun _ => Action.keeps_pure _
      · exact Action.keeps_fail _

end Saml2Backend

/-! ## The relying parties -/

/-- What the two OpenID backends write of their namespace. -/
def RELYING_PARTY_KEYS : List String :=
  ["oidc_state", "oidc_nonce", "code_verifier", "is_passive", "op_entity_id", DISCOVERY_VERIFIER_KEY]

def RELYING_PARTY_DECORATIONS : List String := [KEY_INTERACTION_REQUIRED]

section
variable {R : Context → Context → Prop} [Action.Frame R] (w : OidcWorld)

/-- The state, nonce and verifier both store for a new transaction. -/
theorem newTransaction_keeps {ns : String} (h : Permits R ns RELYING_PARTY_KEYS RELYING_PARTY_DECORATIONS)
    (ctx : Context) :
    R ctx (ctx.mapState fun s =>
      ((s.setStr ns "oidc_state" w.newState).setStr ns "oidc_nonce" w.newNonce).setStr ns "code_verifier"
        w.newVerifier) := by
  have hstate := h.setStr ctx "oidc_state" w.newState (by simp [RELYING_PARTY_KEYS])
  have hnonce := h.andSetStr hstate "oidc_nonce" w.newNonce (by simp [RELYING_PARTY_KEYS])
  exact h.andSetStr hnonce "code_verifier" w.newVerifier (by simp [RELYING_PARTY_KEYS])

theorem RelyingParty.handleCallback_keeps (p : RelyingParty)
    (h : Permits R p.name RELYING_PARTY_KEYS RELYING_PARTY_DECORATIONS) : Action.Keeps R (p.handleCallback w) := by
  unfold handleCallback checkError
  refine Action.keeps_read.bind fun ctx => (Action.keeps_lift _).bind fun _ => ?_
  refine Action.Keeps.bind ?_ fun _ => (Action.keeps_lift _).bind fun data => h.keepsClear.bind fun _ =>
    Action.keeps_pure _
  split
  · exact Action.keeps_pure ()
  · split
    · exact (h.keepsMark (by simp [RELYING_PARTY_DECORATIONS])).bind fun _ => Action.keeps_fail _
    · exact Action.keeps_fail _

namespace OidcBackend

variable (b : OidcBackend) (h : Permits R b.name RELYING_PARTY_KEYS RELYING_PARTY_DECORATIONS)
include h

theorem startAuth_keeps (request : InternalData) : Action.Keeps R (b.startAuth w request) := by
  unfold startAuth
  refine (Action.keeps_lift _).bind fun provider => (Action.keeps_lift _).bind fun prompt => ?_
  have hstore : ∀ ctx : Context, R ctx (ctx.mapState (b.storeTransaction w request)) := by
    intro ctx
    have hnew := newTransaction_keeps w h ctx
    exact h.andSetValue hnew "is_passive" (.bool request.isPassive) (by simp [RELYING_PARTY_KEYS])
  exact (Action.keeps_update hstore).bind fun _ => (Action.keeps_lift _).bind fun _ => Action.keeps_pure _

theorem handleEndpoint_keeps (routeId : String) : Action.Keeps R (b.handleEndpoint w routeId) := by
  unfold handleEndpoint
  split
  · exact b.relyingParty.handleCallback_keeps w h
  · exact Action.keeps_fail _

end OidcBackend

namespace FederationBackend

variable (b : FederationBackend) (h : Permits R b.name RELYING_PARTY_KEYS RELYING_PARTY_DECORATIONS)
include h

theorem startAuthWithOp_keeps (op : String) : Action.Keeps R (b.startAuthWithOp w op) := by
  unfold startAuthWithOp
  have hstore : ∀ ctx : Context, R ctx (ctx.mapState (b.storeTransaction w op)) := by
    intro ctx
    have hnew := newTransaction_keeps w h ctx
    exact h.andSetStr hnew "op_entity_id" op (by simp [RELYING_PARTY_KEYS])
  refine (Action.keeps_lift _).bind fun op' => (Action.keeps_update hstore).bind fun _ => ?_
  exact (Action.keeps_lift _).bind fun _ => (Action.keeps_lift _).bind fun _ => Action.keeps_pure _

theorem startAuth_keeps (request : InternalData) : Action.Keeps R (b.startAuth w request) := by
  unfold startAuth
  split
  · exact Action.keeps_fail _
  · split
    · unfold startDiscovery
      refine (h.keepsSetStr _ (by simp [RELYING_PARTY_KEYS])).bind fun _ => ?_
      exact Action.keeps_read.bind fun ctx => Action.keeps_lift _
    · exact b.startAuthWithOp_keeps w h _

theorem handleEndpoint_keeps (routeId : String) : Action.Keeps R (b.handleEndpoint w routeId) := by
  unfold handleEndpoint
  split
  · unfold handleEntityConfiguration
    exact (Action.keeps_lift _).bind fun _ => Action.keeps_pure _
  · split
    · unfold handleInitiate
      split
      · exact Action.keeps_fail _
      · refine Action.keeps_read.bind fun ctx => (Action.keeps_lift _).bind fun login => ?_
        refine (b.startAuthWithOp_keeps w h _).bind fun redirect => ?_
        exact (h.keepsSetValue _ (by simp [RELYING_PARTY_KEYS])).bind fun _ => Action.keeps_pure _
    · split
      · exact b.relyingParty.handleCallback_keeps w h
      · exact Action.keeps_fail _

end FederationBackend

end

/-! ## The micro-services -/

/-- A frame on what a request carries besides the routing decisions and the
decorations of one request, which a resumed flow replaces. -/
def Reroutes (R : Context → Context → Prop) : Prop :=
  ∀ (ctx : Context) (backend frontend : Option String) (decorations : Assoc Json),
    R ctx { ctx with targetBackend := backend, targetFrontend := frontend, decorations }

section
variable {R : Context → Context → Prop} [Action.Frame R] (w : SamlWorld)

namespace DiscoToTargetIssuer

def stateKeys : List String := [KEY_SNAPSHOT]

def decorationKeys : List String := [KEY_TARGET_ENTITYID]

variable (d : DiscoToTargetIssuer)

theorem processRequest_keeps (h : Permits R d.stateNamespace stateKeys []) (data : InternalData) :
    Action.Keeps R (d.processRequest data) := by
  unfold processRequest
  refine Action.keeps_read.bind fun ctx => (keeps_require _ _).bind fun _ => ?_
  exact (h.keepsSetValue _ (by simp [stateKeys])).bind fun _ => Action.keeps_pure _

variable (h : Permits R d.stateNamespace stateKeys decorationKeys)
include h

theorem handleEndpoint_keeps (hreroute : Reroutes R) (routeId : String) : Action.Keeps R (d.handleEndpoint routeId) := by
  unfold handleEndpoint readSnapshot
  refine Action.keeps_read.bind fun ctx => (Action.keeps_orFail _ _).bind fun issuer => ?_
  refine (Action.keeps_orFail _ _).bind fun snapshot => ?_
  refine Action.Keeps.bind ?_ fun request => (keeps_require _ _).bind fun _ => h.keepsClear.bind fun _ => ?_
  · split
    · exact Action.keeps_pure _
    · exact h.keepsClear.bind fun _ => Action.keeps_fail _
  · refine (Action.keeps_update fun ctx => hreroute ctx ctx.targetBackend _ ctx.decorations).bind fun _ => ?_
    exact (h.keepsDecorate _ (by simp [decorationKeys])).bind fun _ => Action.keeps_pure _

end DiscoToTargetIssuer

namespace Accr

def stateKeys : List String := [KEY_ACCR_REQUESTED]

def decorationKeys : List String := [KEY_TARGET_AUTHN_CONTEXT_CLASS_REF, KEY_TARGET_ACCR_COMPARISON]

variable (a : Accr) (h : Permits R a.stateNamespace stateKeys decorationKeys)
include h

theorem forward_keeps (accrs : List String) (ctx : Context) : R ctx (a.forward accrs ctx) := by
  unfold forward
  split
  · have htarget := h.decorate ctx KEY_TARGET_AUTHN_CONTEXT_CLASS_REF (Json.strings accrs) (by simp [decorationKeys])
    split
    · exact h.andDecorate htarget KEY_TARGET_ACCR_COMPARISON _ (by simp [decorationKeys])
    · exact htarget
  · exact Action.Frame.refl ctx

theorem processRequest_keeps (data : InternalData) : Action.Keeps R (a.processRequest data) := by
  unfold processRequest
  refine Action.keeps_read.bind fun ctx => (Action.keeps_lift _).bind fun requested => ?_
  refine (Action.keeps_update fun ctx' => a.forward_keeps h _ ctx').bind fun _ => ?_
  exact (h.keepsSetValue _ (by simp [stateKeys])).bind fun _ => Action.keeps_pure _

omit h in
theorem processResponse_keeps (h : Permits R a.stateNamespace [] []) (data : InternalData) :
    Action.Keeps R (a.processResponse data) := by
  unfold processResponse
  refine Action.keeps_read.bind fun ctx => (Action.keeps_lift _).bind fun classRef => ?_
  exact h.keepsClear.bind fun _ => Action.keeps_pure _

end Accr

namespace StepUp

def stateKeys : List String := [KEY_REQUEST, KEY_SNAPSHOT]

def decorationKeys : List String :=
  [KEY_STEPUP_INITIAL_POLICY, KEY_TARGET_ENTITYID, KEY_TARGET_AUTHN_CONTEXT_CLASS_REF, KEY_TARGET_ACCR_COMPARISON,
    KEY_INTERACTION_REQUIRED]

variable (p : StepUp)

/-- The request leg keeps the policy and decorates the initial one alone. -/
theorem processRequest_keeps (h : Permits R p.stateNamespace [KEY_REQUEST] [KEY_STEPUP_INITIAL_POLICY])
    (data : InternalData) : Action.Keeps R (p.processRequest data) := by
  unfold processRequest
  refine Action.keeps_read.bind fun ctx => (Action.keeps_update fun ctx' => ?_).bind fun _ => ?_
  · split
    · exact h.decorate ctx' _ _ (by simp)
    · exact h.undecorate ctx' _ (by simp)
  · exact (h.keepsSetValue _ (by simp)).bind fun _ => Action.keeps_pure _

section
variable (h : Permits R p.stateNamespace [KEY_SNAPSHOT] decorationKeys)
include h

theorem requireStepup_keeps (policy : RequestPolicy) (data : InternalData) :
    Action.Keeps R (p.requireStepup policy data) := by
  unfold requireStepup
  split
  · exact (h.keepsMark (by simp [decorationKeys])).bind fun _ => Action.keeps_fail _
  · refine Action.keeps_read.bind fun ctx => (Action.keeps_lift _).bind fun account => ?_
    refine (Action.keeps_lift _).bind fun _ => ?_
    split
    · exact Action.keeps_pure _
    · unfold keepResponse
      refine (Action.keeps_lift _).bind fun _ => (Action.keeps_lift _).bind fun _ => ?_
      refine Action.keeps_read.bind fun ctx => (keeps_require _ _).bind fun _ => ?_
      exact (h.keepsSetValue _ (by simp)).bind fun _ => Action.keeps_pure _

theorem examine_keeps (data : InternalData) : Action.Keeps R (p.examine data) := by
  unfold examine
  refine Action.keeps_read.bind fun ctx => (Action.keeps_lift _).bind fun policy => ?_
  refine (h.keepsUndecorate (by simp [decorationKeys])).bind fun _ => ?_
  split
  · unfold decide
    refine Action.keeps_read.bind fun ctx => ?_
    simp only
    split
    · exact Action.keeps_pure _
    · exact h.keepsClear.bind fun _ => Action.keeps_fail _
    · exact p.requireStepup_keeps h policy data
  · exact Action.keeps_pure _

variable (hsaml : Permits R p.saml.stateNamespace Saml2Backend.stateKeys Saml2Backend.decorationKeys)
include hsaml

/-- The response leg keeps the response alone. -/
theorem processResponseAction_keeps (data : InternalData) : Action.Keeps R (p.processResponseAction w data) := by
  unfold processResponseAction
  refine (p.examine_keeps h data).bind fun verdict => ?_
  cases verdict with
  | pass response => exact h.keepsClear.bind fun _ => Action.keeps_pure _
  | stepUp policy account =>
    refine (h.keepsDecorate _ (by simp [decorationKeys])).bind fun _ => ?_
    refine (h.keepsDecorate _ (by simp [decorationKeys])).bind fun _ => ?_
    refine (h.keepsDecorate _ (by simp [decorationKeys])).bind fun _ => ?_
    exact (p.saml.startAuth_keeps w hsaml _).bind fun _ => Action.keeps_pure _

end

/-- An endpoint clears the service's own namespace, if anything. -/
theorem handleEndpoint_keeps (h : Permits R p.stateNamespace [] [])
    (hsaml : Permits R p.saml.stateNamespace Saml2Backend.stateKeys Saml2Backend.decorationKeys)
    (hreroute : Reroutes R) (routeId : String) :
    Action.Keeps R (p.handleEndpoint w routeId) := by
  unfold handleEndpoint
  split
  · refine (p.saml.handleEndpoint_keeps w hsaml routeId).bind fun action => ?_
    cases action with
    | respond r => exact Action.keeps_pure _
    | authResponse response => exact Action.keeps_fail _
  · split
    · unfold handleAcs
      refine Action.keeps_read.bind fun ctx => (Action.keeps_lift _).bind fun snapshot => ?_
      refine (p.saml.handleEndpoint_keeps w hsaml "acs").bind fun action => ?_
      cases action with
      | respond r => exact Action.keeps_fail _
      | authResponse response =>
        refine h.keepsClear.bind fun _ => Action.Keeps.bind ?_ fun _ => Action.keeps_pure _
        unfold finishStepup
        refine (Action.keeps_lift _).bind fun internal => (keeps_require _ _).bind fun _ => ?_
        refine (Action.keeps_lift _).bind fun assurance => ?_
        exact (Action.keeps_update fun ctx => hreroute ctx _ _ _).bind fun _ => Action.keeps_pure _
    · exact Action.keeps_fail _

end StepUp

end

/-! ## The frontends -/

section
variable {R : Context → Context → Prop} [Action.Frame R]

namespace Saml2Frontend

def stateKeys : List String := ["request_id", "sp_entity_id", "acs_url", "name_id_format", "relay_state"]

def decorationKeys : List String :=
  [KEY_REQUESTER_ENTITY_CATEGORIES, KEY_REQUESTER_ASSURANCE_CERTIFICATIONS, KEY_REQUESTED_ACCR,
    KEY_REQUESTED_ACCR_COMPARISON]

def publishClasses (a : AcceptedRequest) (ctx : Context) : Context :=
  if a.processed.requestedAuthnContextClassRefs = [] then ctx
  else
    let ctx := ctx.decorate KEY_REQUESTED_ACCR (Json.strings a.processed.requestedAuthnContextClassRefs)
    a.processed.authnContextComparison.elim ctx fun cmp => ctx.decorate KEY_REQUESTED_ACCR_COMPARISON (.str cmp.asStr)

theorem publishRequest_eq (a : AcceptedRequest) (ctx : Context) :
    publishRequest a ctx = publishClasses a (a.entry.elim ctx fun entry =>
      (ctx.decorate KEY_REQUESTER_ENTITY_CATEGORIES (Json.strings entry.entityCategories)).decorate
        KEY_REQUESTER_ASSURANCE_CERTIFICATIONS (Json.strings entry.assuranceCertifications)) := by
  unfold publishRequest publishClasses
  cases a.entry <;> cases a.processed.authnContextComparison <;> rfl

variable (f : Saml2Frontend) (w : SamlWorld) (h : Permits R f.name stateKeys decorationKeys)
include h

theorem storeRequest_keeps
    (hformat : ∀ (ctx : Context) (v : String), R ctx (ctx.mapState fun s => s.setStr STATE_KEY_BASE KEY_NAME_ID_FORMAT v))
    (a : AcceptedRequest) (ctx : Context) : R ctx (ctx.mapState (f.storeRequest a)) := by
  have hid := h.setStr ctx "request_id" a.processed.requestId (by simp [stateKeys])
  have hsp := h.andSetStr hid "sp_entity_id" a.processed.spEntityId (by simp [stateKeys])
  have hacs := h.andSetStr hsp "acs_url" a.processed.acsUrl (by simp [stateKeys])
  have hnameId := h.andSetStr hacs "name_id_format" a.nameIdFormat (by simp [stateKeys])
  have hbase := Action.Frame.trans hnameId (hformat _ a.nameIdFormat)
  unfold storeRequest
  cases a.relayState with
  | none => exact hbase
  | some rs => exact h.andSetStr hbase "relay_state" rs (by simp [stateKeys])

theorem publishRequest_keeps (a : AcceptedRequest) (ctx : Context) : R ctx (publishRequest a ctx) := by
  have hrest : ∀ c : Context, R ctx c → R ctx (publishClasses a c) := by
    intro c hc
    unfold publishClasses
    split
    · exact hc
    · have hrequested := h.andDecorate hc KEY_REQUESTED_ACCR
        (Json.strings a.processed.requestedAuthnContextClassRefs) (by simp [decorationKeys])
      cases a.processed.authnContextComparison with
      | none => exact hrequested
      | some cmp => exact h.andDecorate hrequested KEY_REQUESTED_ACCR_COMPARISON _ (by simp [decorationKeys])
  rw [publishRequest_eq]
  cases a.entry with
  | none => exact hrest ctx (Action.Frame.refl ctx)
  | some entry =>
    have hcategories := h.decorate ctx KEY_REQUESTER_ENTITY_CATEGORIES (Json.strings entry.entityCategories)
      (by simp [decorationKeys])
    exact hrest _ (h.andDecorate hcategories KEY_REQUESTER_ASSURANCE_CERTIFICATIONS _ (by simp [decorationKeys]))

theorem handleEndpoint_keeps
    (hformat : ∀ (ctx : Context) (v : String), R ctx (ctx.mapState fun s => s.setStr STATE_KEY_BASE KEY_NAME_ID_FORMAT v))
    (routeId : String) : Action.Keeps R (f.handleEndpoint w routeId) := by
  unfold handleEndpoint
  split
  · unfold handleSso
    refine Action.keeps_read.bind fun ctx => (Action.keeps_lift _).bind fun outcome => ?_
    cases outcome with
    | reject r => exact Action.keeps_pure _
    | accept a =>
      refine (Action.keeps_update fun ctx' => ?_).bind fun _ => Action.keeps_pure _
      have hstored := f.storeRequest_keeps h hformat a ctx'
      exact Action.Frame.trans hstored (f.publishRequest_keeps h a _)
  · split
    · unfold handleMetadata
      exact (Action.keeps_lift _).bind fun _ => Action.keeps_pure _
    · exact Action.keeps_fail _

omit h in
/-- Rendering a Response clears the namespace. -/
theorem handleAuthnResponse_keeps (h : Permits R f.name [] []) (response : InternalData) :
    Action.Keeps R (f.handleAuthnResponse w response) := by
  unfold handleAuthnResponse
  refine Action.keeps_read.bind fun ctx => (Action.keeps_lift _).bind fun post => ?_
  refine (Action.keeps_lift _).bind fun _ => (Action.keeps_lift _).bind fun _ => ?_
  exact h.keepsClear.bind fun _ => Action.keeps_pure _

end Saml2Frontend

namespace OpenidProvider

def stateKeys : List String := [AUTHZ_KEY, AUTHORIZATION_CLIENT]

variable (f : OpenidProvider) (lib : OpLibrary) (w : OpWorld)

theorem handleAuthnResponse_keeps (response : InternalData) :
    Action.Keeps R (f.handleAuthnResponse lib w response) := by
  unfold handleAuthnResponse
  refine Action.keeps_read.bind fun ctx => (Action.keeps_orFail _ _).bind fun req => ?_
  simp only
  split
  · exact Action.keeps_pure _
  · exact Action.keeps_pure _

theorem handleBackendError_keeps (e : Error) : Action.Keeps R (f.handleBackendError lib w e) := by
  unfold handleBackendError
  refine Action.keeps_read.bind fun ctx => ?_
  split
  · exact Action.keeps_pure _
  · exact Action.keeps_pure _

variable (h : Permits R f.name stateKeys [])
include h

theorem acceptAuthorization_keeps (params : List (String × String)) :
    Action.Keeps R (f.acceptAuthorization lib w params) := by
  unfold acceptAuthorization
  split
  · exact Action.keeps_pure _
  · split
    · exact Action.keeps_pure _
    · unfold storeAuthzRequest bindAuthorizationClient
      refine Action.Keeps.bind ?_ fun _ => Action.Keeps.bind ?_ fun _ => Action.keeps_pure _
      · exact (Action.keeps_lift _).bind fun value => h.keepsSetValue _ (by simp [stateKeys])
      · exact (Action.keeps_lift _).bind fun fingerprint => h.keepsSetValue _ (by simp [stateKeys])

end OpenidProvider

theorem OidcFrontend.handleEndpoint_keeps (f : OidcFrontend) (lib : OpLibrary) (w : OpWorld)
    (h : Permits R f.name OpenidProvider.stateKeys []) (routeId : String) :
    Action.Keeps R (f.handleEndpoint lib w routeId) := by
  unfold handleEndpoint
  split
  · exact (Action.keeps_lift _).bind fun _ => Action.keeps_pure _
  split
  · exact (Action.keeps_lift _).bind fun _ => Action.keeps_pure _
  split
  · exact Action.keeps_read.bind fun ctx => f.provider.acceptAuthorization_keeps lib w h _
  split
  · exact Action.keeps_read.bind fun ctx => Action.keeps_pure _
  split
  · exact Action.keeps_read.bind fun ctx => Action.keeps_pure _
  · exact Action.keeps_fail _

theorem FederationFrontend.handleAuthorization_keeps (f : FederationFrontend) (lib : OpLibrary) (w : FederationWorld)
    (h : Permits R f.name OpenidProvider.stateKeys []) : Action.Keeps R (f.handleAuthorization lib w) := by
  unfold handleAuthorization
  refine Action.keeps_read.bind fun ctx => ?_
  simp only
  split
  · exact Action.keeps_pure _
  · refine (Action.keeps_orFail _ _).bind fun clientId => ?_
    split
    · exact Action.keeps_pure _
    · split
      · exact Action.keeps_pure _
      · exact f.provider.acceptAuthorization_keeps lib w.op h _

theorem FederationFrontend.handleEndpoint_keeps (f : FederationFrontend) (lib : OpLibrary) (w : FederationWorld)
    (h : Permits R f.name OpenidProvider.stateKeys []) (routeId : String) :
    Action.Keeps R (f.handleEndpoint lib w routeId) := by
  unfold handleEndpoint
  split
  · unfold handleEntityConfiguration
    exact (Action.keeps_lift _).bind fun _ => Action.keeps_pure _
  split
  · exact (Action.keeps_lift _).bind fun _ => Action.keeps_pure _
  split
  · exact (Action.keeps_lift _).bind fun _ => Action.keeps_pure _
  split
  · exact f.handleAuthorization_keeps lib w h
  split
  · exact Action.keeps_read.bind fun ctx => Action.keeps_pure _
  split
  · exact Action.keeps_read.bind fun ctx => Action.keeps_pure _
  · exact Action.keeps_fail _

end

end Tunnelbana
