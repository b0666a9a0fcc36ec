/-
The scopes of an identity provider, read of the document its entity was accepted
from. A federation's document holds the descriptors of many entities, each written
by its own operator: which scopes an entity is given depends on the descriptors
of that entity, and on nothing the others state (`trustedScopes_congr`). With the
caches in front, `scopes_declared` says it of what every lookup returns.

The XML parser is a parameter; namespaces are resolved in what it returns.
-/
import Tunnelbana.Basis.SortedMapFacts
import Tunnelbana.Basis.Text
import Tunnelbana.Basis.XmlTree
import Tunnelbana.Core.SealFacts
import Tunnelbana.Plugins.ScopeCache

namespace Tunnelbana

open Basis

def SHIBBOLETH_METADATA_NS : String := "urn:mace:shibboleth:metadata:1.0"
def SAML_METADATA_NS : String := "urn:oasis:names:tc:SAML:2.0:metadata"

def metadataName (localName : String) : ExpandedName := { ns := some SAML_METADATA_NS, localName }

def isControl (c : Char) : Bool := c.toNat ≤ 0x1F || (0x7F ≤ c.toNat && c.toNat ≤ 0x9F)

/-- What a `Scope` element declares. One with elements inside declares nothing. -/
def scopeValue (scope : XmlTree) : Option String :=
  if scope.named { ns := some SHIBBOLETH_METADATA_NS, localName := "Scope" } && !scope.children.any XmlTree.isElement then
    let value := Text.trim scope.textContent.toList
    if !value.isEmpty && !value.any isControl then some (String.ofList value) else none
  else none

def declaredScopes (entity : XmlTree) : List String :=
  (entity.children.filter (XmlTree.named (metadataName "IDPSSODescriptor"))).flatMap fun role =>
    (role.children.filter (XmlTree.named (metadataName "Extensions"))).flatMap fun extensions =>
      extensions.children.filterMap scopeValue

def describes (entityId : String) (entity : XmlTree) : Bool := entity.getAttribute "entityID" = some entityId

def findMetadataEntity (root : XmlTree) (entityId : String) : Option XmlTree :=
  root.findMember (metadataName "EntityDescriptor") (metadataName "EntitiesDescriptor") (describes entityId)

def descriptors (root : XmlTree) : List XmlTree :=
  root.members (metadataName "EntityDescriptor") (metadataName "EntitiesDescriptor")

structure MetadataLibrary where
  /-- The document element. -/
  parseSecureMetadata : String → Option XmlTree
  trustedIdpPolicyValues : EntityDescriptor → MetadataPolicyValues := fun _ => {}

namespace MetadataLibrary

def trustedScopesFromMetadataXml (lib : MetadataLibrary) (xml entityId : String) : List String :=
  match lib.parseSecureMetadata xml with
  | none => []
  | some root =>
    match findMetadataEntity root entityId with
    | none => []
    | some entity => (SortedMap.ofList ((declaredScopes entity).map fun scope => (scope, ()))).entries.keys

/-- The scopes of the bytes fetched; bytes that are no text have none. -/
def trustedScopes (lib : MetadataLibrary) (document : Bytes) (entityId : String) : List String :=
  match String.fromUTF8? ⟨document.toArray⟩ with
  | none => []
  | some xml => lib.trustedScopesFromMetadataXml xml entityId

def reader (lib : MetadataLibrary) : MetadataReader where
  trustedScopes := lib.trustedScopes
  trustedIdpPolicyValues := lib.trustedIdpPolicyValues

def documentElement (lib : MetadataLibrary) (document : Bytes) : Option XmlTree :=
  (String.fromUTF8? ⟨document.toArray⟩).bind lib.parseSecureMetadata

/-- A scope that the first descriptor of the entity in the document declares. -/
def Declares (lib : MetadataLibrary) (document : Bytes) (entityId scope : String) : Prop :=
  ∃ root entity, lib.documentElement document = some root ∧ (descriptors root).find? (describes entityId) = some entity ∧
    scope ∈ declaredScopes entity

/-- Two documents with the same descriptors of an entity; the others are as they like. -/
def SameDescriptors (lib : MetadataLibrary) (entityId : String) (document document' : Bytes) : Prop :=
  ∃ root root', lib.documentElement document = some root ∧ lib.documentElement document' = some root' ∧
    (descriptors root).filter (describes entityId) = (descriptors root').filter (describes entityId)

variable (lib : MetadataLibrary) {document document' : Bytes} {entityId : String}

theorem trustedScopes_eq (document : Bytes) (entityId : String) : lib.trustedScopes document entityId =
    match (lib.documentElement document).bind (findMetadataEntity · entityId) with
    | none => []
    | some entity => (SortedMap.ofList ((declaredScopes entity).map fun scope => (scope, ()))).entries.keys := by
  unfold trustedScopes documentElement
  cases String.fromUTF8? ⟨document.toArray⟩ with
  | none => rfl
  | some xml =>
    simp only [trustedScopesFromMetadataXml, Option.bind_some]
    cases lib.parseSecureMetadata xml with
    | none => rfl
    | some root => rfl

theorem trustedScopes_sorted : (lib.trustedScopes document entityId).Pairwise (· < ·) := by
  rw [trustedScopes_eq]
  split
  next => exact List.Pairwise.nil
  next => exact SortedMap.sorted_keys _

theorem mem_trustedScopes {scope : String} :
    scope ∈ lib.trustedScopes document entityId ↔ lib.Declares document entityId scope := by
  rw [trustedScopes_eq]
  unfold Declares
  cases hroot : lib.documentElement document with
  | none => simp
  | some root =>
    have hfind : findMetadataEntity root entityId = (descriptors root).find? (describes entityId) :=
      XmlTree.findMember_eq (describes entityId) root
    rw [Option.bind_some, hfind]
    cases hentity : (descriptors root).find? (describes entityId) with
    | none => simp [hentity]
    | some entity => simp [hentity, SortedMap.mem_keys_ofList]

/-- **The other descriptors make no difference.** -/
theorem trustedScopes_congr (h : lib.SameDescriptors entityId document document') :
    lib.trustedScopes document' entityId = lib.trustedScopes document entityId := by
  obtain ⟨root, root', hroot, hroot', hsame⟩ := h
  have hfind : findMetadataEntity root entityId = findMetadataEntity root' entityId := XmlTree.findMember_congr hsame
  rw [trustedScopes_eq, trustedScopes_eq, hroot, hroot', Option.bind_some, Option.bind_some, hfind]

end MetadataLibrary

/-! ## What is declared -/

theorem scopeValue_some {scope : XmlTree} {value : String} (h : scopeValue scope = some value) :
    value ≠ "" ∧ value.toList.any isControl = false := by
  unfold scopeValue at h
  split at h
  next =>
    simp only at h
    split at h
    next hvalue =>
      cases h
      obtain ⟨hne, hcontrol⟩ := (Bool.and_eq_true _ _).mp hvalue
      rw [String.toList_ofList]
      refine ⟨fun hempty => ?_, by simpa using hcontrol⟩
      have hnil := congrArg String.toList hempty
      rw [String.toList_ofList] at hnil
      simp [hnil] at hne
    next => cases h
  next => cases h

/-- No empty scope is declared, and none with a control character. -/
theorem declaredScopes_plain {entity : XmlTree} {scope : String} (h : scope ∈ declaredScopes entity) :
    scope ≠ "" ∧ scope.toList.any isControl = false := by
  obtain ⟨role, -, h⟩ := List.mem_flatMap.mp h
  obtain ⟨extensions, -, h⟩ := List.mem_flatMap.mp h
  obtain ⟨element, -, h⟩ := List.mem_filterMap.mp h
  exact scopeValue_some h

/-! ## What lookups return -/

namespace ScopeAwareMdqClient

/-- An answer has the scopes read of the document its entity was accepted from. -/
theorem answered_document (lib : MetadataLibrary) {capacity : Nat} (hcapacity : 0 < capacity) (ts : List Turn) {i : Nat}
    {l : Lookup} {answer : ResolvedIdpMetadata}
    (hl : (ts.foldl (step lib.reader capacity) {}).lookups[i]? = some l) (hdone : l.phase = .done (some answer)) :
    ∃ a, (l.entityId, a) ∈ (ts.foldl (step lib.reader capacity) {}).fetched ∧ answer.entity = a.entity ∧
      answer.scopes = lib.trustedScopes a.document l.entityId := by
  have hstep : ∀ (c : ScopeAwareMdqClient) (t : Turn), c.Consistent lib.reader capacity → True →
      (c.step lib.reader capacity t).Consistent lib.reader capacity := fun c t h _ => h.step hcapacity t
  have hend : (ts.foldl (step lib.reader capacity) {}).Consistent lib.reader capacity :=
    Along.invariant_end hstep consistent_new (Along.of_forall (fun _ _ => trivial) ts)
  exact hend.sourced.answered i l answer hl hdone

/-- **An entity has the scopes its own descriptor declares.** After any
interleaving of lookups, an answer carries, sorted and without repetition, just
what the first descriptor of that very entity declares in the document the entity
was accepted from, and would carry the same whatever the other descriptors of
that document were. -/
theorem scopes_declared (lib : MetadataLibrary) (capacity : Nat) (hcapacity : 0 < capacity) (ts : List Turn) :
    let c := ts.foldl (step lib.reader capacity) {}
    ∀ (i : Nat) (l : Lookup) answer, c.lookups[i]? = some l → l.phase = .done (some answer) →
      ∃ a, (l.entityId, a) ∈ c.fetched ∧ answer.entity = a.entity ∧ answer.scopes.Pairwise (· < ·) ∧
        (∀ scope, scope ∈ answer.scopes ↔ lib.Declares a.document l.entityId scope) ∧
        (∀ scope ∈ answer.scopes, scope ≠ "" ∧ scope.toList.any isControl = false) ∧
        ∀ document, lib.SameDescriptors l.entityId a.document document →
          lib.trustedScopes document l.entityId = answer.scopes := by
  intro c i l answer hl hdone
  obtain ⟨a, hfetched, hentity, hread⟩ := answered_document lib hcapacity ts hl hdone
  have hmem : ∀ scope, scope ∈ answer.scopes ↔ lib.Declares a.document l.entityId scope := by
    intro scope
    rw [hread]
    exact lib.mem_trustedScopes
  refine ⟨a, hfetched, hentity, ?_, hmem, fun scope hscope => ?_, fun document hsame => ?_⟩
  · rw [hread]
    exact lib.trustedScopes_sorted
  · obtain ⟨root, entity, -, -, hdeclared⟩ := (hmem scope).mp hscope
    exact declaredScopes_plain hdeclared
  · rw [hread]
    exact lib.trustedScopes_congr hsame

end ScopeAwareMdqClient

def scopedEntity (entityId scope : String) (others : List XmlTree) : XmlTree :=
  .element (metadataName "EntityDescriptor") [("entityID", entityId)]
    (others ++ [.element (metadataName "IDPSSODescriptor") [] [.element (metadataName "Extensions") []
      [.element { ns := some SHIBBOLETH_METADATA_NS, localName := "Scope" } [] [.text scope]]]])

/-- A federation of two, and one in which the first pretends to describe the second too. -/
def federations : MetadataLibrary where
  parseSecureMetadata xml :=
    if xml = "honest" then
      some (.element (metadataName "EntitiesDescriptor") []
        [scopedEntity "https://a.example" "a.example" [], scopedEntity "https://b.example" "b.example" []])
    else if xml = "hostile" then
      some (.element (metadataName "EntitiesDescriptor") []
        [scopedEntity "https://a.example" "b.example" [scopedEntity "https://b.example" "a.example" []],
          scopedEntity "https://b.example" "b.example" []])
    else none

def acceptedEntity : Accepted where
  document := Envelope.utf8 "honest"
  entity := { entityId := "https://b.example", idpSsoDescriptors := [] }

def oneLookup : List Turn :=
  [.call "https://b.example", .acquire 0, .openCaches 0, .fetch 0 acceptedEntity true, .promote 0]

theorem ScopeAwareMdqClient.scopes_declared_demo :
    federations.trustedScopes (Envelope.utf8 "hostile") "https://b.example" = ["b.example"] := by
  have hhonest : federations.documentElement (Envelope.utf8 "honest") = federations.parseSecureMetadata "honest" := by
    unfold MetadataLibrary.documentElement
    rw [fromUTF8_utf8, Option.bind_some]
  have hhostile : federations.documentElement (Envelope.utf8 "hostile") = federations.parseSecureMetadata "hostile" := by
    unfold MetadataLibrary.documentElement
    rw [fromUTF8_utf8, Option.bind_some]
  have hlookup : (oneLookup.foldl (ScopeAwareMdqClient.step federations.reader 1) {}).lookups[0]? =
      some { entityId := "https://b.example", lock := 0, phase := .done (some (ScopeAwareMdqClient.promoted
        federations.reader "https://b.example" acceptedEntity)) } := by
    rfl
  have hfetched : (oneLookup.foldl (ScopeAwareMdqClient.step federations.reader 1) {}).fetched =
      [("https://b.example", acceptedEntity)] := by
    rfl
  obtain ⟨a, ha, -, -, -, -, hothers⟩ :=
    ScopeAwareMdqClient.scopes_declared federations 1 (by decide) oneLookup 0 _ _ hlookup rfl
  rw [hfetched] at ha
  cases List.mem_singleton.mp ha
  have hread : federations.trustedScopes (Envelope.utf8 "honest") "https://b.example" = ["b.example"] := by
    rw [MetadataLibrary.trustedScopes_eq, hhonest]
    rfl
  exact (hothers (Envelope.utf8 "hostile") ⟨_, _, hhonest, hhostile, rfl⟩).trans hread

end Tunnelbana
