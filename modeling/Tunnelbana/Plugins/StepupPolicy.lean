/-
The step-up policy both legs of a flow evaluate: which LoA settings a
requester or a provider has, whether the initial provider satisfied the
request, and which LoA goes downstream. Policies travel in the state, so what
is written is read back (`fromJson_toJson`).

`resolvePolicy_resolves` says which policy applies: the order in which an entity
presents its metadata values decides in eduID's mode only.
-/
import Tunnelbana.Core.Internal

namespace Tunnelbana

open Basis

def REFEDS_MFA : String := "https://refeds.org/profile/mfa"

inductive StepupBehavior where
  | hardened
  | eduid
deriving DecidableEq, Repr

structure LoaSettings where
  requested : List String
  extraAccepted : List String := []
  returned : Option String := none
deriving DecidableEq, Repr

/-- Policies by entity id, category and certification, in configuration order. -/
structure MfaConfig where
  byEntityId : Assoc LoaSettings := []
  byEntityCategory : Assoc LoaSettings := []
  byAssuranceCertification : Assoc LoaSettings := []
deriving DecidableEq, Repr

structure MetadataPolicyValues where
  entityCategories : List String := []
  assuranceCertifications : List String := []
deriving DecidableEq, Repr

inductive PolicySubject where
  | requester
  | provider
deriving DecidableEq, Repr

/-- The handoff the selected SAML backend consumes. -/
structure InitialPolicyHandoff where
  behavior : StepupBehavior
  requesterWantsMfa : Bool
  mfa : MfaConfig
deriving DecidableEq, Repr

namespace StepupBehavior

def toJson : StepupBehavior → Json
  | .hardened => .str "hardened"
  | .eduid => .str "eduid"

def fromJson : Json → Option StepupBehavior
  | .str s => if s = "hardened" then some .hardened else if s = "eduid" then some .eduid else none
  | _ => none

@[simp] theorem fromJson_toJson (b : StepupBehavior) : fromJson b.toJson = some b := by
  cases b <;> rfl

end StepupBehavior

namespace LoaSettings

def accepts (s : LoaSettings) (loa : Option String) : Bool :=
  loa.any fun loa => s.requested.contains loa || s.extraAccepted.contains loa

def toJson (s : LoaSettings) : Json :=
  .obj [("requested", Json.strings s.requested), ("extra_accepted", Json.strings s.extraAccepted),
    ("returned", Json.optStr s.returned)]

def fromJson (v : Json) : Option LoaSettings := do
  let fs ← v.asObject
  let requested ← (fs.get "requested").bind Read.stringList
  let extraAccepted ← Read.orDefault [] Read.stringList (fs.get "extra_accepted")
  let returned ← Read.optString (fs.get "returned")
  return { requested, extraAccepted, returned }

@[simp] theorem fromJson_toJson (s : LoaSettings) : fromJson s.toJson = some s := by
  obtain ⟨requested, extraAccepted, returned⟩ := s
  cases returned <;> simp [toJson, fromJson, Assoc.get_cons_self, Assoc.get_cons_other, Read.orDefault, Read.optString, Json.optStr]

end LoaSettings

namespace MfaConfig

def settings (mfa : MfaConfig) : List LoaSettings :=
  (mfa.byEntityId ++ mfa.byEntityCategory ++ mfa.byAssuranceCertification).map (·.2)

def tableJson (m : Assoc LoaSettings) : Json := .obj (m.map fun p => (p.1, p.2.toJson))

def toJson (mfa : MfaConfig) : Json :=
  .obj [("by_entity_id", tableJson mfa.byEntityId), ("by_entity_category", tableJson mfa.byEntityCategory),
    ("by_assurance_certification", tableJson mfa.byAssuranceCertification)]

def fromJson (v : Json) : Option MfaConfig := do
  let fs ← v.asObject
  let byEntityId ← Read.orDefault [] (Read.entries LoaSettings.fromJson) (fs.get "by_entity_id")
  let byEntityCategory ← Read.orDefault [] (Read.entries LoaSettings.fromJson) (fs.get "by_entity_category")
  let byAssuranceCertification ←
    Read.orDefault [] (Read.entries LoaSettings.fromJson) (fs.get "by_assurance_certification")
  return { byEntityId, byEntityCategory, byAssuranceCertification }

@[simp] theorem entries_tableJson (m : Assoc LoaSettings) :
    Read.entries LoaSettings.fromJson (tableJson m) = some m :=
  Read.entries_toJson LoaSettings.fromJson_toJson m

@[simp] theorem fromJson_toJson (mfa : MfaConfig) : fromJson mfa.toJson = some mfa := by
  simp [toJson, fromJson, Assoc.get_cons_self, Assoc.get_cons_other, Read.orDefault]

end MfaConfig

namespace InitialPolicyHandoff

def toJson (h : InitialPolicyHandoff) : Json :=
  .obj [("behavior", h.behavior.toJson), ("requester_wants_mfa", .bool h.requesterWantsMfa),
    ("mfa", h.mfa.toJson)]

def fromJson (v : Json) : Option InitialPolicyHandoff := do
  let fs ← v.asObject
  let behavior ← (fs.get "behavior").bind StepupBehavior.fromJson
  let requesterWantsMfa ← (fs.get "requester_wants_mfa").bind Json.asBool
  let mfa ← (fs.get "mfa").bind MfaConfig.fromJson
  return { behavior, requesterWantsMfa, mfa }

@[simp] theorem fromJson_toJson (h : InitialPolicyHandoff) : fromJson h.toJson = some h := by
  simp [toJson, fromJson, Assoc.get_cons_self, Assoc.get_cons_other]

end InitialPolicyHandoff

/-! ## Evaluation -/

/-- The policy of an entity: an exact rule first, then eduID's generic
metadata-source order or the role-specific configuration order. -/
def resolvePolicy (mfa : MfaConfig) (entityId : Option String) (metadata : MetadataPolicyValues)
    (behavior : StepupBehavior) (subject : PolicySubject) : Option LoaSettings :=
  entityId.bind fun entityId =>
    match mfa.byEntityId.get entityId with
    | some settings => some settings
    | none =>
      match behavior with
      | .eduid =>
        (metadata.entityCategories.findSome? fun value => mfa.byEntityCategory.get value).or
          (metadata.assuranceCertifications.findSome? fun value => mfa.byAssuranceCertification.get value)
      | .hardened =>
        let configured := match subject with
          | .requester => mfa.byEntityCategory
          | .provider => mfa.byAssuranceCertification
        let presented := match subject with
          | .requester => metadata.entityCategories
          | .provider => metadata.assuranceCertifications
        (configured.find? fun p => presented.contains p.1).map (·.2)

inductive InitialLoaDecision where
  | satisfied (returned : String)
  | needsStepup
  | rejected
deriving DecidableEq, Repr

/-- Whether the initial provider already satisfied the request. -/
def initialLoaDecision (behavior : StepupBehavior) (settings : Option LoaSettings)
    (requesterLoas : List String) (assertedLoa : Option String) : InitialLoaDecision :=
  match settings with
  | none => .needsStepup
  | some settings =>
    match behavior with
    | .hardened =>
      if settings.accepts assertedLoa then
        match (settings.returned.or requesterLoas.head?).or assertedLoa with
        | some loa => .satisfied loa
        | none => .needsStepup
      else .needsStepup
    | .eduid =>
      match settings.returned with
      | some returned => if settings.accepts assertedLoa then .satisfied returned else .rejected
      | none => .needsStepup

/-- The downstream LoA after a second exchange. -/
def completedLoa (behavior : StepupBehavior) (settings : LoaSettings)
    (originalRequesterLoas effectiveRequesterLoas : List String) (assertedLoa : Option String) : Option String :=
  match behavior with
  | .hardened => (settings.returned.or originalRequesterLoas.head?).or assertedLoa
  | .eduid => effectiveRequesterLoas.head?.or assertedLoa

theorem resolvePolicy_mem {mfa : MfaConfig} {entityId : Option String} {metadata : MetadataPolicyValues}
    {behavior : StepupBehavior} {subject : PolicySubject} {s : LoaSettings}
    (h : resolvePolicy mfa entityId metadata behavior subject = some s) : s ∈ mfa.settings := by
  have hsettings : ∀ {m : Assoc LoaSettings} {k : String},
      (m = mfa.byEntityId ∨ m = mfa.byEntityCategory ∨ m = mfa.byAssuranceCertification) →
      (k, s) ∈ m → s ∈ mfa.settings := by
    intro m k hm hk
    refine List.mem_map.mpr ⟨(k, s), ?_, rfl⟩
    rcases hm with rfl | rfl | rfl
    · exact List.mem_append_left _ (List.mem_append_left _ hk)
    · exact List.mem_append_left _ (List.mem_append_right _ hk)
    · exact List.mem_append_right _ hk
  obtain ⟨id, rfl, hres⟩ := Option.bind_eq_some_iff.mp h
  split at hres
  next settings hexact =>
    cases hres
    exact hsettings (.inl rfl) (Assoc.get_mem hexact)
  next =>
    cases behavior with
    | eduid =>
      rcases Option.or_eq_some_iff.mp hres with hfind | ⟨_, hfind⟩
      · obtain ⟨value, _, hget⟩ := List.exists_of_findSome?_eq_some hfind
        exact hsettings (.inr (.inl rfl)) (Assoc.get_mem hget)
      · obtain ⟨value, _, hget⟩ := List.exists_of_findSome?_eq_some hfind
        exact hsettings (.inr (.inr rfl)) (Assoc.get_mem hget)
    | hardened =>
      obtain ⟨p, hfind, rfl⟩ := Option.map_eq_some_iff.mp hres
      have hp := List.mem_of_find?_eq_some hfind
      cases subject with
      | requester => exact hsettings (.inr (.inl rfl)) hp
      | provider => exact hsettings (.inr (.inr rfl)) hp

/-! ## Which policy applies -/

def MfaConfig.ofSubject (mfa : MfaConfig) : PolicySubject → Assoc LoaSettings
  | .requester => mfa.byEntityCategory
  | .provider => mfa.byAssuranceCertification

def MetadataPolicyValues.ofSubject (metadata : MetadataPolicyValues) : PolicySubject → List String
  | .requester => metadata.entityCategories
  | .provider => metadata.assuranceCertifications

/-- The first policy, in configuration order, whose key is presented. -/
def FirstPresented (configured : Assoc LoaSettings) (presented : List String) (s : LoaSettings) : Prop :=
  ∃ before key after, configured = before ++ (key, s) :: after ∧ key ∈ presented ∧ ∀ p ∈ before, p.1 ∉ presented

/-- The policy of the first value, in the order of presentation, that has one. -/
def FirstWithRule (table : Assoc LoaSettings) (values : List String) (s : LoaSettings) : Prop :=
  ∃ before value after, values = before ++ value :: after ∧ table.get value = some s ∧ ∀ v ∈ before, table.get v = none

section

variable {mfa : MfaConfig} {metadata metadata' : MetadataPolicyValues} {behavior : StepupBehavior}
  {subject : PolicySubject} {id : String} {s : LoaSettings}

theorem find?_presented {configured : Assoc LoaSettings} {presented : List String} :
    (configured.find? fun p => presented.contains p.1).map (·.2) = some s ↔ FirstPresented configured presented s := by
  rw [Option.map_eq_some_iff]
  constructor
  · rintro ⟨⟨key, settings⟩, hfind, rfl⟩
    obtain ⟨hkey, before, after, hconfigured, hbefore⟩ := List.find?_eq_some_iff_append.mp hfind
    refine ⟨before, key, after, hconfigured, by simpa using hkey, fun p hp => ?_⟩
    simpa using hbefore p hp
  · rintro ⟨before, key, after, hconfigured, hkey, hbefore⟩
    refine ⟨(key, s), List.find?_eq_some_iff_append.mpr ⟨by simpa using hkey, before, after, hconfigured, ?_⟩, rfl⟩
    intro p hp
    simpa using hbefore p hp

theorem findSome?_rule {table : Assoc LoaSettings} {values : List String} :
    (values.findSome? fun value => table.get value) = some s ↔ FirstWithRule table values s :=
  List.findSome?_eq_some_iff

theorem resolvePolicy_exact (h : mfa.byEntityId.get id = some s) :
    resolvePolicy mfa (some id) metadata behavior subject = some s := by
  simp [resolvePolicy, h]

theorem resolvePolicy_hardened (h : mfa.byEntityId.get id = none) :
    resolvePolicy mfa (some id) metadata .hardened subject =
      ((mfa.ofSubject subject).find? fun p => (metadata.ofSubject subject).contains p.1).map (·.2) := by
  simp only [resolvePolicy, Option.bind_some, h]
  cases subject <;> rfl

theorem resolvePolicy_eduid (h : mfa.byEntityId.get id = none) :
    resolvePolicy mfa (some id) metadata .eduid subject =
      (metadata.entityCategories.findSome? fun value => mfa.byEntityCategory.get value).or
        (metadata.assuranceCertifications.findSome? fun value => mfa.byAssuranceCertification.get value) := by
  simp only [resolvePolicy, Option.bind_some, h]

/-- **Only which values are presented for the role counts**: not their order, not
how often, and none of the other role's. -/
theorem resolvePolicy_congr (h : ∀ value, value ∈ metadata'.ofSubject subject ↔ value ∈ metadata.ofSubject subject)
    (entityId : Option String) :
    resolvePolicy mfa entityId metadata' .hardened subject = resolvePolicy mfa entityId metadata .hardened subject := by
  have hcontains : ∀ value, (metadata'.ofSubject subject).contains value = (metadata.ofSubject subject).contains value := by
    intro value
    rw [Bool.eq_iff_iff]
    simpa using h value
  cases entityId with
  | none => rfl
  | some id =>
    cases hexact : mfa.byEntityId.get id with
    | some settings => rw [resolvePolicy_exact hexact, resolvePolicy_exact hexact]
    | none =>
      rw [resolvePolicy_hardened hexact, resolvePolicy_hardened hexact]
      simp only [hcontains]

end

/-- **Which policy applies.** None without an entity id; an exact rule before all
others. Otherwise a hardened configuration gives the first of its own policies
whose key is presented, whatever the order of presentation, and an eduID one
the policy of the first category presented that has one, else of the first such
certification. -/
theorem resolvePolicy_resolves (mfa : MfaConfig) (entityId : Option String) (metadata : MetadataPolicyValues)
    (subject : PolicySubject) :
    (∀ behavior, resolvePolicy mfa none metadata behavior subject = none) ∧
    (∀ id settings behavior, mfa.byEntityId.get id = some settings →
      resolvePolicy mfa (some id) metadata behavior subject = some settings) ∧
    (∀ id, mfa.byEntityId.get id = none → ∀ s,
      (resolvePolicy mfa (some id) metadata .hardened subject = some s ↔
        FirstPresented (mfa.ofSubject subject) (metadata.ofSubject subject) s)) ∧
    (∀ metadata' : MetadataPolicyValues,
      (∀ value, value ∈ metadata'.ofSubject subject ↔ value ∈ metadata.ofSubject subject) →
      resolvePolicy mfa entityId metadata' .hardened subject = resolvePolicy mfa entityId metadata .hardened subject) ∧
    (∀ id, mfa.byEntityId.get id = none → ∀ s,
      (resolvePolicy mfa (some id) metadata .eduid subject = some s ↔
        FirstWithRule mfa.byEntityCategory metadata.entityCategories s ∨
          (∀ value ∈ metadata.entityCategories, mfa.byEntityCategory.get value = none) ∧
            FirstWithRule mfa.byAssuranceCertification metadata.assuranceCertifications s)) := by
  refine ⟨fun _ => rfl, fun _ _ _ hexact => resolvePolicy_exact hexact, ?_, ?_, ?_⟩
  · intro id hexact s
    rw [resolvePolicy_hardened hexact, find?_presented]
  · intro metadata' hsame
    exact resolvePolicy_congr hsame entityId
  · intro id hexact s
    rw [resolvePolicy_eduid hexact, Option.or_eq_some_iff, findSome?_rule, findSome?_rule, List.findSome?_eq_none_iff]

/-- Two rules, presented in the other order and twice, beside a certification. -/
theorem resolvePolicy_resolves_reordered :
    resolvePolicy { byEntityCategory := [("a", { requested := ["mfa"] }), ("b", { requested := [] })] } (some "sp")
        { entityCategories := ["b", "a", "b"], assuranceCertifications := ["c"] } .hardened .requester =
      resolvePolicy { byEntityCategory := [("a", { requested := ["mfa"] }), ("b", { requested := [] })] } (some "sp")
        { entityCategories := ["a", "b"] } .hardened .requester ∧
    FirstPresented [("a", { requested := ["mfa"] }), ("b", { requested := [] })] ["a", "b"] { requested := ["mfa"] } := by
  obtain ⟨-, -, hfirst, hsame, -⟩ := resolvePolicy_resolves
    { byEntityCategory := [("a", { requested := ["mfa"] }), ("b", { requested := [] })] } (some "sp")
    { entityCategories := ["a", "b"] } .requester
  refine ⟨hsame _ fun value => ?_, (hfirst "sp" rfl _).mp rfl⟩
  simp only [MetadataPolicyValues.ofSubject, List.mem_cons, List.not_mem_nil, or_false]
  constructor
  · rintro (h | h | h)
    · exact .inr h
    · exact .inl h
    · exact .inr h
  · rintro (h | h)
    · exact .inr (.inl h)
    · exact .inl h

end Tunnelbana
