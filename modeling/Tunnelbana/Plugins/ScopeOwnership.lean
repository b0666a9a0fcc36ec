/-
From a provider's metadata to the organisation its users are looked up in. The
scopes of the provider a flow was sent to are published by the SAML backend, and
the SCIM service takes a data owner from them: it is the owner of a scope that the
provider's own descriptor declares, whoever else is in the document.
-/
import Tunnelbana.Plugins.AttributeIngestion
import Tunnelbana.Plugins.MetadataScopes
import Tunnelbana.Plugins.ScimService

namespace Tunnelbana

open Basis

/-- Among scopes published as a list, the least one with an owner decides. -/
theorem ScimAttributes.scopeOwner_strings (p : ScimAttributes) (scopes : List String) (owner : String) :
    p.scopeOwner (some (Json.strings scopes)) = some owner ↔ ∃ scope ∈ scopes,
      configured p.scopeToDataOwner scope = some owner ∧
        ∀ other ∈ scopes, other < scope → configured p.scopeToDataOwner other = none := by
  have hread : (scopes.map Json.str).filterMap Json.asStr = scopes := by
    rw [List.filterMap_map]
    exact List.filterMap_some
  have howner : p.scopeOwner (some (Json.strings scopes)) =
      (sortedStrings scopes).findSome? (configured p.scopeToDataOwner) := by
    show (sortedStrings ((scopes.map Json.str).filterMap Json.asStr)).findSome? _ = _
    rw [hread]
  rw [howner]
  exact findSome?_sortedStrings

def ScopeAwareMdqClient.Answered (c : ScopeAwareMdqClient) (entityId : String) (answer : ResolvedIdpMetadata) : Prop :=
  ∃ (i : Nat) (l : Lookup), c.lookups[i]? = some l ∧ l.entityId = entityId ∧ l.phase = .done (some answer)

namespace Saml2Backend

variable {b : Saml2Backend} {w : SamlWorld} {verifier : SamlVerifier} {selected : String} {scopes : List String}
  {policyValues : MetadataPolicyValues} {ctx ctx' : Context} {data : InternalData}

theorem selectedIdp_mdq (hmdq : b.idpMetadata = .mdq)
    (h : b.selectedIdp w ctx.state = .ok (verifier, selected, scopes, policyValues)) :
    (ctx.state.getStr b.stateNamespace "idp_entity_id").or b.idpEntityId = some selected ∧
      ∃ resolved, w.mdq selected = .ok resolved ∧ scopes = resolved.scopes := by
  unfold selectedIdp at h
  rw [hmdq] at h
  simp only at h
  split at h
  next => cases h
  next found hfound =>
    obtain ⟨resolved, hresolved, h⟩ := except_bind_ok.mp h
    obtain ⟨_, -, h⟩ := except_bind_ok.mp h
    cases h
    exact ⟨hfound, resolved, except_mapError_ok.mp hresolved, rfl⟩

theorem publishProvider_scopes (scopes : List String) (policyValues : MetadataPolicyValues) (ctx : Context) :
    (publishProvider scopes policyValues ctx).decoration KEY_PROVIDER_SCOPES = some (Json.strings scopes) := by
  unfold publishProvider Context.decoration Context.decorate
  rw [Assoc.get_put, if_neg (by decide), Assoc.get_put, if_neg (by decide), Assoc.get_put, if_pos rfl]

/-- A response accepted leaves the scopes of the provider published. -/
theorem processAcs_scopes
    (h : b.processAcs w verifier selected scopes policyValues ctx = (.ok (.authResponse data), ctx')) :
    ctx'.decoration KEY_PROVIDER_SCOPES = some (Json.strings scopes) := by
  obtain ⟨m, -, h⟩ := Action.lift_bind_ok.mp h
  obtain ⟨_, _, -, h⟩ := Action.bind_ok.mp h
  obtain ⟨_, ctx₁, -, h⟩ := Action.bind_ok.mp h
  obtain ⟨_, -, h⟩ := Action.lift_bind_ok.mp h
  obtain ⟨_, -, h⟩ := Action.lift_bind_ok.mp h
  obtain ⟨_, -, h⟩ := Action.lift_bind_ok.mp h
  cases h
  exact publishProvider_scopes scopes policyValues ctx₁

/-- **A provider's scopes give it no organisation but its own.** After any
interleaving of metadata lookups, when the backend has accepted a response of the
provider it selected, the data owner the SCIM service takes by scope is that of
the least scope with an owner among those that provider's own descriptor declares
in the document it was accepted from. -/
theorem scope_owner_declared (lib : MetadataLibrary) {capacity : Nat} (hcapacity : 0 < capacity) (ts : List Turn)
    (hmdq : b.idpMetadata = .mdq)
    (hworld : ∀ entityId answer, w.mdq entityId = .ok answer →
      (ts.foldl (ScopeAwareMdqClient.step lib.reader capacity) {}).Answered entityId answer)
    (h : b.handleAcs w ctx = (.ok (.authResponse data), ctx')) (p : ScimAttributes) :
    ∃ selected a, (ctx.state.getStr b.stateNamespace "idp_entity_id").or b.idpEntityId = some selected ∧
      (selected, a) ∈ (ts.foldl (ScopeAwareMdqClient.step lib.reader capacity) {}).fetched ∧
      ∀ owner, p.scopeOwner ((ContextSnapshot.fromContext ctx').decorations.get KEY_PROVIDER_SCOPES) = some owner ↔
        ∃ scope, lib.Declares a.document selected scope ∧ configured p.scopeToDataOwner scope = some owner ∧
          ∀ other, lib.Declares a.document selected other → other < scope →
            configured p.scopeToDataOwner other = none := by
  obtain ⟨⟨verifier, selected, scopes, policyValues⟩, hidp, hprocess⟩ := Action.lift_bind_ok.mp h
  obtain ⟨hselected, resolved, hresolved, hscopes⟩ := selectedIdp_mdq hmdq hidp
  obtain ⟨i, l, hl, hentity, hdone⟩ := hworld selected resolved hresolved
  obtain ⟨a, hfetched, -, hread⟩ := ScopeAwareMdqClient.answered_document lib hcapacity ts hl hdone
  rw [hentity] at hfetched hread
  have hpublished : (ContextSnapshot.fromContext ctx').decorations.get KEY_PROVIDER_SCOPES = some (Json.strings scopes) :=
    processAcs_scopes hprocess
  refine ⟨selected, a, hselected, hfetched, fun owner => ?_⟩
  rw [hpublished, hscopes, hread, p.scopeOwner_strings]
  simp only [lib.mem_trustedScopes]

/-- A federation in which another provider claims a scope of its own. -/
def homeFederation : MetadataLibrary where
  parseSecureMetadata xml :=
    if xml = "home" then
      some (.element (metadataName "EntitiesDescriptor") []
        [scopedEntity "https://other.example" "a.example" [], scopedEntity "https://idp.example" "home.example" []])
    else none

def homeEntity : Accepted where
  document := Envelope.utf8 "home"
  entity := {
    entityId := "https://idp.example"
    idpSsoDescriptors := [{ redirectLocation := some "https://idp.example/sso", signingCertificatesDer := ["c1"] }] }

def homeLookup : List Turn :=
  [.call "https://idp.example", .acquire 0, .openCaches 0, .fetch 0 homeEntity true, .promote 0]

def homeWorld : SamlWorld :=
  { answering "_q2" with
    mdq := fun entityId =>
      if entityId = "https://idp.example" then
        .ok (ScopeAwareMdqClient.promoted homeFederation.reader "https://idp.example" homeEntity)
      else .error "unknown" }

def twoOwners : ScimAttributes :=
  { eduidScim with scopeToDataOwner := [("a.example", "other.org"), ("home.example", "home.org")] }

theorem scope_owner_declared_demo :
    ∃ data ctx', discovering.handleAcs homeWorld answeredContext = (.ok (.authResponse data), ctx') ∧
      twoOwners.scopeOwner ((ContextSnapshot.fromContext ctx').decorations.get KEY_PROVIDER_SCOPES) = some "home.org" := by
  obtain ⟨data, ctx', haccepts⟩ : ∃ data ctx', discovering.handleAcs homeWorld answeredContext =
      (.ok (.authResponse data), ctx') := ⟨_, _, rfl⟩
  refine ⟨data, ctx', haccepts, ?_⟩
  have hworld : ∀ entityId answer, homeWorld.mdq entityId = .ok answer →
      (homeLookup.foldl (ScopeAwareMdqClient.step homeFederation.reader 1) {}).Answered entityId answer := by
    intro entityId answer h
    simp only [homeWorld] at h
    split at h
    next hidp =>
      cases h
      exact ⟨0, { entityId := "https://idp.example", lock := 0, phase := .done (some _) }, rfl, hidp.symm, rfl⟩
    next => cases h
  obtain ⟨selected, a, hselected, hfetched, howner⟩ :=
    scope_owner_declared homeFederation (by decide) homeLookup rfl hworld haccepts twoOwners
  have hsame : selected = "https://idp.example" := by
    cases hselected
    rfl
  have ha : (selected, a) ∈ [("https://idp.example", homeEntity)] := hfetched
  cases List.mem_singleton.mp ha
  have hroot : homeFederation.documentElement (Envelope.utf8 "home") = homeFederation.parseSecureMetadata "home" := by
    unfold MetadataLibrary.documentElement
    rw [fromUTF8_utf8, Option.bind_some]
  have hscopes : homeFederation.trustedScopes homeEntity.document "https://idp.example" = ["home.example"] := by
    show homeFederation.trustedScopes (Envelope.utf8 "home") "https://idp.example" = _
    rw [MetadataLibrary.trustedScopes_eq, hroot]
    rfl
  refine (howner "home.org").mpr ⟨"home.example", ?_, by decide, fun other hother hlt => ?_⟩
  · rw [← MetadataLibrary.mem_trustedScopes, hscopes]
    exact List.mem_singleton.mpr rfl
  · rw [← MetadataLibrary.mem_trustedScopes, hscopes] at hother
    cases List.mem_singleton.mp hother
    exact absurd hlt (String.lt_irrefl _)

end Saml2Backend

end Tunnelbana
