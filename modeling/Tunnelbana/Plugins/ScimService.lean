/-
The SCIM micro-service as it answers: it finds the owner of the data, looks the
user up, replaces what the user's profile holds, adds the entitlements of the
groups and publishes the accounts that may be asked for a second factor.

The users and the groups are in databases behind a third library; what a lookup
gives is a parameter. `processResponse_ok` says what the service makes of a
response, and `execute_scim` what is left of it once it has crossed the
boundary. So the account the step-up service acts on is one of the user looked
up (`stepup_account`), and the attribute it compares is the one the lookup was by
(`externalId_agrees`).
-/
import Mathlib.Data.List.Sort
import Tunnelbana.Plugins.ScimAttributes
import Tunnelbana.Plugins.StepUp

namespace Tunnelbana

open Basis

def EPPN_EXTERNAL_NAME : String := "eduPersonPrincipalName"
def ENTITLEMENT : String := "edupersonentitlement"

/-! ## Strings in their order -/

def sortedStrings (ss : List String) : List String := ss.insertionSort (· ≤ ·)

def minString : List String → Option String
  | [] => none
  | s :: ss => some (ss.foldl (fun least t => if t < least then t else least) s)

/-- The first of the sorted strings that has a value is the least one that has. -/
theorem findSome?_sortedStrings {β : Type} {f : String → Option β} {ss : List String} {b : β} :
    (sortedStrings ss).findSome? f = some b ↔ ∃ s ∈ ss, f s = some b ∧ ∀ t ∈ ss, t < s → f t = none := by
  have hsorted : (sortedStrings ss).Pairwise (· ≤ ·) := List.pairwise_insertionSort (· ≤ ·) ss
  have hmem : ∀ s, s ∈ sortedStrings ss ↔ s ∈ ss := fun s => List.mem_insertionSort (· ≤ ·)
  have hfound : ∀ b, (sortedStrings ss).findSome? f = some b →
      ∃ s ∈ ss, f s = some b ∧ ∀ t ∈ ss, t < s → f t = none := by
    intro b h
    obtain ⟨before, s, after, hsplit, hs, hnone⟩ := List.findSome?_eq_some_iff.mp h
    refine ⟨s, (hmem s).mp (by simp [hsplit]), hs, fun t ht hlt => ?_⟩
    have ht' : t ∈ before ∨ t = s ∨ t ∈ after := by simpa [hsplit] using (hmem t).mpr ht
    rw [hsplit, List.pairwise_append, List.pairwise_cons] at hsorted
    rcases ht' with ht' | rfl | ht'
    · exact hnone t ht'
    · exact absurd hlt (String.lt_irrefl t)
    · exact absurd hlt (String.not_lt.mpr (hsorted.2.1.1 t ht'))
  constructor
  · exact hfound b
  · intro h
    obtain ⟨s, hs, hb, hleast⟩ := h
    cases hfind : (sortedStrings ss).findSome? f with
    | none =>
      have hnone := List.findSome?_eq_none_iff.mp hfind s ((hmem s).mpr hs)
      simp [hb] at hnone
    | some b' =>
      obtain ⟨s', hs', hb', hleast'⟩ := hfound b' hfind
      have hge : ¬ s' < s := fun hlt => by simp [hleast s' hs' hlt] at hb'
      have hle : ¬ s < s' := fun hlt => by simp [hleast' s hs hlt] at hb
      have heq : s = s' := String.le_antisymm (String.not_lt.mp hge) (String.not_lt.mp hle)
      subst heq
      simpa [hb] using hb'.symm

/-! ## The configuration -/

def SCIM_CONFIG_KEYS : List String :=
  ["mongo_uri", "neo4j_uri", "neo4j_config", "allow_users_not_in_database", "fallback_data_owner",
    "idp_to_data_owner", "mfa_stepup_issuer_to_entity_id", "scope_to_data_owner", "virt_idp_to_data_owner"]

inductive ScimConfigError where
  | unknownKeys (keys : List String)
  | notDictionary (key : String)
  | notString (key : String)
  | notMapping (key : String)
  | notStrings (key : String)
  | notBooleans (key : String)
  | internalAttributes (e : ScimTypeError)
  | eppn

def ScimConfigError.message (repr : String → String) : ScimConfigError → String
  | .unknownKeys keys => "unknown ScimAttributes configuration keys: " ++ ", ".intercalate keys
  | .notDictionary key => key ++ " must be a dictionary"
  | .notString key => key ++ " must be a non-empty string"
  | .notMapping key => key ++ " must be a mapping"
  | .notStrings key => key ++ " must map strings to non-empty strings"
  | .notBooleans key => key ++ " must map strings to booleans"
  | .internalAttributes e => e.message repr
  | .eppn => "the attribute map must map eduPersonPrincipalName to exactly one internal attribute"

def nonEmptyString : PyValue → Option String
  | .str s => if s = "" then none else some s
  | _ => none

def PyValue.asBool : PyValue → Option Bool
  | .bool b => some b
  | _ => Option.none

def requiredString (value : Option PyValue) (key : String) : Except ScimConfigError String :=
  match value.bind nonEmptyString with
  | some s => pure s
  | none => throw (.notString key)

def optionalString (value : Option PyValue) (key : String) : Except ScimConfigError (Option String) :=
  match value with
  | none => pure none
  | some .none => pure none
  | some value => (requiredString (some value) key).map some

def dictionary (value : PyValue) (key : String) : Except ScimConfigError Unit :=
  if value.asDict.isSome then pure () else throw (.notDictionary key)

def knownKeys (config : Assoc PyValue) : Except ScimConfigError Unit :=
  match sortedStrings (config.keys.filter fun k => k ∉ SCIM_CONFIG_KEYS) with
  | [] => pure ()
  | unknown => throw (.unknownKeys unknown)

/-- A mapping from strings to what `target` reads. -/
def settingMap {α : Type} (target : PyValue → Option α) (absent : Assoc α) (badItem : String → ScimConfigError)
    (value : Option PyValue) (key : String) : Except ScimConfigError (Assoc α) :=
  match value with
  | none => pure absent
  | some .none => pure absent
  | some (.dict entries) =>
    entries.foldlM (fun result e =>
      match e.1.asStr, target e.2 with
      | some source, some v => pure (result.put source v)
      | _, _ => throw (badItem key)) []
  | some _ => throw (.notMapping key)

def stringMap : Option PyValue → String → Except ScimConfigError (Assoc String) :=
  settingMap nonEmptyString [] .notStrings

def boolMap (default : Bool) : Option PyValue → String → Except ScimConfigError (Assoc Bool) :=
  settingMap PyValue.asBool [("default", default)] .notBooleans

structure ScimAttributes where
  /-- The graph database, where groups are used. -/
  neo4jUri : Option String := none
  allowUsersNotInDatabase : Assoc Bool := [("default", false)]
  fallbackDataOwner : Option String := none
  idpToDataOwner : Assoc String := []
  mfaStepupIssuerToEntityId : Assoc String := []
  scopeToDataOwner : Assoc String := []
  virtIdpToDataOwner : Assoc String := []
  samlNames : Assoc (List String)
  externalIdAttribute : String

/-- The internal attributes that have an external name. -/
def internalNames (external : String) (samlNames : Assoc (List String)) : List String :=
  samlNames.filterMap fun p => if external ∈ p.2 then some p.1 else none

/-- The settings are a table with string keys, as they come out of the configuration. -/
def ScimAttributes.init (config : Assoc PyValue) (internalAttributes : PyValue) :
    Except ScimConfigError ScimAttributes := do
  knownKeys config
  let _ ← requiredString (config.get "mongo_uri") "mongo_uri"
  let neo4jUri ← optionalString (config.get "neo4j_uri") "neo4j_uri"
  dictionary ((config.get "neo4j_config").getD (.dict [])) "neo4j_config"
  let allowUsersNotInDatabase ← boolMap false (config.get "allow_users_not_in_database") "allow_users_not_in_database"
  let fallbackDataOwner ← optionalString (config.get "fallback_data_owner") "fallback_data_owner"
  let idpToDataOwner ← stringMap (config.get "idp_to_data_owner") "idp_to_data_owner"
  let mfaStepupIssuerToEntityId ←
    stringMap (config.get "mfa_stepup_issuer_to_entity_id") "mfa_stepup_issuer_to_entity_id"
  let scopeToDataOwner ← stringMap (config.get "scope_to_data_owner") "scope_to_data_owner"
  let virtIdpToDataOwner ← stringMap (config.get "virt_idp_to_data_owner") "virt_idp_to_data_owner"
  let samlNames ← (parseInternalAttributes internalAttributes).mapError .internalAttributes
  match internalNames EPPN_EXTERNAL_NAME samlNames with
  | [externalIdAttribute] =>
    return { neo4jUri, allowUsersNotInDatabase, fallbackDataOwner, idpToDataOwner, mfaStepupIssuerToEntityId,
             scopeToDataOwner, virtIdpToDataOwner, samlNames, externalIdAttribute }
  | _ => throw .eppn

/-! ## The databases -/

structure ScimProfile where
  /-- The attributes, where they are a mapping. -/
  attributes : Option (Assoc ProfileValue)

structure LinkedAccount where
  issuer : PyValue
  value : PyValue
  parameters : PyValue

structure ScimUser where
  /-- The profiles, where they are a mapping. -/
  profiles : Option (Assoc ScimProfile) := some []
  linkedAccounts : List LinkedAccount := []
  scimId : PyValue

inductive ScimFailure where
  | noOwner
  | notPresent
  | profilesNotMapping
  | attributesNotMapping
  | profileValues (e : ScimTypeError)
  | unhashable
  | noScimId
  /-- A database raised. -/
  | database

def ScimFailure.message (repr : String → String) : ScimFailure → Option String
  | .noOwner => some "no SCIM data owner could be resolved"
  | .notPresent => some "user is not present in the SCIM database"
  | .profilesNotMapping => some "SCIM user profiles must be a mapping"
  | .attributesNotMapping => some "SCIM profile attributes must be a mapping"
  | .profileValues e => some (e.message repr)
  | .noScimId => some "SCIM user has no scim_id"
  | .unhashable => none
  | .database => none

/-- The databases of users, by collection, and of groups, by scope and collection. -/
structure ScimDatabases (W : Type) where
  getUserByExternalId : W → String → String → Except ScimFailure (Option ScimUser)
  graphScope : String → String → String
  getGroupsForUser : W → String → String → PyValue → Except ScimFailure (List String)
  getGroupsOwnedByUser : W → String → String → PyValue → Except ScimFailure (List String)

def usersCollection (dataOwner : String) : String :=
  if dataOwner = "eduid.se" then "profiles" else dataOwner.replace "." "_" ++ "__users"

def groupsCollection (dataOwner : String) : String := dataOwner.replace "." "_" ++ "__groups"

/-! ## A response -/

def ContextSnapshot.publish (context : ContextSnapshot) (accounts : List MfaStepupAccount) : ContextSnapshot :=
  { context with
    decorations := context.decorations.put KEY_MFA_STEPUP_ACCOUNTS (.arr (accounts.map MfaStepupAccount.toJson)) }

/-- What a key is mapped to; nothing and an empty string count alike. -/
def configured (m : Assoc String) (key : String) : Option String := (m.get key).filter (· ≠ "")

def stepupEnabled : PyValue → Bool
  | .dict parameters =>
    match PyValue.getItem "mfa_stepup" parameters with
    | some (.bool true) => true
    | _ => false
  | _ => false

def memberEntitlement (scope identifier : String) : String := scope ++ ":group:" ++ identifier ++ "#eduid-iam"

def managerEntitlement (scope identifier : String) : String :=
  scope ++ ":group:" ++ identifier ++ ":role=manager#eduid-iam"

namespace ScimAttributes

variable {W : Type} (p : ScimAttributes) (db : ScimDatabases W) (w : W)

/-- The owner by the scopes of the provider. -/
def scopeOwner (scopes : Option Json) : Option String :=
  match scopes.getD (.arr []) with
  | .arr items => (sortedStrings (items.filterMap Json.asStr)).findSome? (configured p.scopeToDataOwner)
  | _ => none

/-- The frontend decides, then the provider, then the fallback, then the scopes. -/
def dataOwner (context : ContextSnapshot) (data : InternalData) : Option String :=
  ((context.targetFrontend.bind (configured p.virtIdpToDataOwner)).or
    (data.authInfo.issuer.bind (configured p.idpToDataOwner))).or
      (p.fallbackDataOwner.or (p.scopeOwner (context.decorations.get KEY_PROVIDER_SCOPES)))

/-- The internal attributes of the first profile by name. -/
def profileAttributes (user : ScimUser) : Except ScimFailure (Assoc (List String)) :=
  match user.profiles with
  | none => throw .profilesNotMapping
  | some profiles =>
    match minString profiles.keys with
    | none => pure []
    | some profileName =>
      match (profiles.get profileName).bind ScimProfile.attributes with
      | some external => (mappedProfile p.samlNames external).mapError .profileValues
      | none => throw .attributesNotMapping

/-- The provider of a linked account. A list or a dictionary is no key. -/
def stepupEntity : PyValue → Except ScimFailure (Option String)
  | .str issuer => pure (configured p.mfaStepupIssuerToEntityId issuer)
  | .list _ => throw .unhashable
  | .dict _ => throw .unhashable
  | _ => pure none

def stepupAccount (account : LinkedAccount) : Except ScimFailure (Option MfaStepupAccount) :=
  if stepupEnabled account.parameters then do
    let entityId ← p.stepupEntity account.issuer
    pure (entityId.bind fun entityId => (nonEmptyString account.value).map fun identifier => { entityId, identifier })
  else pure none

/-- The accounts a second factor may be asked of, in order. -/
def stepupAccounts (user : ScimUser) : Except ScimFailure (List MfaStepupAccount) :=
  user.linkedAccounts.foldlM (fun accounts account => do
    let found ← p.stepupAccount account
    pure (accounts ++ found.toList)) []

def applyUser (context : ContextSnapshot) (data : InternalData) (user : ScimUser) :
    Except ScimFailure (ContextSnapshot × InternalData) := do
  let mapped ← p.profileAttributes user
  let accounts ← p.stepupAccounts user
  pure (context.publish accounts, { data with attributes := data.attributes.extend mapped })

/-- The entitlements of a user: of the groups it is in, then of those it manages. -/
def groupEntitlements (dataOwner : String) (scimId : PyValue) : Except ScimFailure (List String) := do
  let collection := groupsCollection dataOwner
  let scope := db.graphScope dataOwner collection
  let groups ← db.getGroupsForUser w dataOwner collection scimId
  let managed ← db.getGroupsOwnedByUser w dataOwner collection scimId
  pure (groups.map (memberEntitlement scope) ++ managed.map (managerEntitlement scope))

/-- The entitlements are appended to those there are, which there are then even
if there is none. -/
def applyGroups (data : InternalData) (dataOwner : String) (user : ScimUser) : Except ScimFailure InternalData :=
  match p.neo4jUri with
  | none => pure data
  | some _ =>
    match user.scimId with
    | .none => throw .noScimId
    | scimId => do
      let entitlements ← groupEntitlements db w dataOwner scimId
      pure { data with
        attributes := data.attributes.insert ENTITLEMENT
          (appendNew ((data.attributes.get ENTITLEMENT).getD []) entitlements) }

def allowUnresolvedUser (context : ContextSnapshot) : Bool :=
  (context.targetFrontend.bind fun frontend => p.allowUsersNotInDatabase.get frontend).getD
    ((p.allowUsersNotInDatabase.get "default").getD false)

/-- The user with the one external id of the response. -/
def findUser (dataOwner : String) (data : InternalData) : Except ScimFailure (Option ScimUser) :=
  match (data.attributes.get p.externalIdAttribute).getD [] with
  | [externalId] => db.getUserByExternalId w (usersCollection dataOwner) externalId
  | _ => pure none

/-- A response without a user passes where that is allowed. -/
def unresolved (context : ContextSnapshot) (data : InternalData) (failure : ScimFailure) :
    Except ScimFailure (ContextSnapshot × InternalData) :=
  if p.allowUnresolvedUser context then pure (context, data) else throw failure

def processResponse (context : ContextSnapshot) (data : InternalData) :
    Except ScimFailure (ContextSnapshot × InternalData) := do
  -- An account published before is never taken for one of this user.
  let context := context.publish []
  match p.dataOwner context data with
  | none => p.unresolved context data .noOwner
  | some dataOwner =>
    if dataOwner = "no-scim" then pure (context, data)
    else do
      match ← p.findUser db w dataOwner data with
      | none => p.unresolved context data .notPresent
      | some user => do
        let (context, data) ← p.applyUser context data user
        let data ← p.applyGroups db w data dataOwner user
        pure (context, data)

/-- The class as the runtime calls it: it reads the copies it gets and hands
back what it made of them. It has no request method. -/
def call (lib : Pythonize) : W → Phase → PyValue → PyValue → PyReturn
  | _, .request, _, _ => .raised
  | w, .response, pyContext, pyData =>
    match lib.depythonizeContext pyContext, lib.depythonizeData pyData with
    | some context, some data =>
      match p.processResponse db w context data with
      | .error _ => .raised
      | .ok (context, data) =>
        match lib.pythonizeContext context, lib.pythonizeData data with
        | some pyContext, some pyData => .returned pyContext pyData false
        | _, _ => .raised
    | _, _ => .raised

def service (lib : Pythonize) (name : String) (backends : List String) (fate : W → Phase → CallFate) :
    PythonMicroService W where
  name
  hasRequest := false
  hasResponse := true
  backends
  call := p.call db lib
  fate

/-! ## What a response becomes -/

def resolvedUser (context : ContextSnapshot) (data : InternalData) : Option ScimUser :=
  (p.dataOwner context data).bind fun dataOwner =>
    if dataOwner = "no-scim" then none else (p.findUser db w dataOwner data).toOption.join

/-- The account a linked account is published as. -/
def accountOf (account : LinkedAccount) : Option MfaStepupAccount :=
  if stepupEnabled account.parameters then
    (account.issuer.asStr.bind (configured p.mfaStepupIssuerToEntityId)).bind fun entityId =>
      (nonEmptyString account.value).map fun identifier => { entityId, identifier }
  else none

/-- The accounts of a user that are published; without one there are none. -/
def accountsOf (user : Option ScimUser) : List MfaStepupAccount :=
  (user.elim [] ScimUser.linkedAccounts).filterMap p.accountOf

def profileOf (user : Option ScimUser) : Assoc (List String) :=
  (user.bind fun user => (p.profileAttributes user).toOption).getD []

def entitlementsOf (context : ContextSnapshot) (data : InternalData) : List String :=
  if p.neo4jUri.isNone then []
  else
    ((p.dataOwner context data).bind fun dataOwner => (p.resolvedUser db w context data).bind fun user =>
      (groupEntitlements db w dataOwner user.scimId).toOption).getD []

theorem stepupAccount_ok {account : LinkedAccount} {found : Option MfaStepupAccount}
    (h : p.stepupAccount account = .ok found) : found = p.accountOf account := by
  obtain ⟨issuer, value, parameters⟩ := account
  unfold stepupAccount at h
  unfold accountOf
  by_cases henabled : stepupEnabled parameters = true
  · simp only [henabled, if_true] at h ⊢
    obtain ⟨entityId, hentity, hfound⟩ := except_bind_ok.mp h
    have hread : entityId = issuer.asStr.bind (configured p.mfaStepupIssuerToEntityId) := by
      cases issuer <;> cases hentity <;> rfl
    cases hfound
    rw [hread]
  · simp only [if_neg henabled] at h ⊢
    cases h
    rfl

theorem stepupAccounts_ok {user : ScimUser} {accounts : List MfaStepupAccount}
    (h : p.stepupAccounts user = .ok accounts) : accounts = user.linkedAccounts.filterMap p.accountOf := by
  have hfold : ∀ (linked : List LinkedAccount) (seen accounts : List MfaStepupAccount),
      linked.foldlM (fun accounts account => do
        let found ← p.stepupAccount account
        pure (accounts ++ found.toList)) seen = .ok accounts → accounts = seen ++ linked.filterMap p.accountOf := by
    intro linked
    induction linked with
    | nil =>
      intro seen accounts h
      cases h
      simp
    | cons account linked ih =>
      intro seen accounts h
      rw [List.foldlM_cons] at h
      obtain ⟨next, hnext, hrest⟩ := except_bind_ok.mp h
      obtain ⟨found, hfound, heq⟩ := except_bind_ok.mp hnext
      cases heq
      have hof := p.stepupAccount_ok hfound
      have hlast := ih _ _ hrest
      subst hof
      cases hacc : p.accountOf account <;> simp [hlast, hacc]
  simpa using hfold user.linkedAccounts [] accounts h

theorem distinct_mappedProfile {samlNames : Assoc (List String)} {external : Assoc ProfileValue}
    {mapped : Assoc (List String)} (h : mappedProfile samlNames external = .ok mapped) : mapped.Distinct := by
  have hfold : ∀ (names : Assoc (List String)) (seen mapped : Assoc (List String)), seen.Distinct →
      names.foldlM (fun mapped p => do
        let values ← candidateValues external p.2
        pure (if values = [] then mapped else mapped.put p.1 values)) seen = .ok mapped → mapped.Distinct := by
    intro names
    induction names with
    | nil =>
      intro seen mapped hseen h
      cases h
      exact hseen
    | cons name names ih =>
      intro seen mapped hseen h
      rw [List.foldlM_cons] at h
      obtain ⟨next, hnext, hrest⟩ := except_bind_ok.mp h
      obtain ⟨values, -, heq⟩ := except_bind_ok.mp hnext
      cases heq
      refine ih _ mapped ?_ hrest
      split
      · exact hseen
      · exact hseen.put _ _
  exact hfold samlNames [] mapped List.nodup_nil h

theorem distinct_profileAttributes {user : ScimUser} {mapped : Assoc (List String)}
    (h : p.profileAttributes user = .ok mapped) : mapped.Distinct := by
  unfold profileAttributes at h
  split at h
  next => cases h
  next profiles _ =>
    split at h
    next => cases h; exact List.nodup_nil
    next profileName _ =>
      split at h
      next external _ => exact distinct_mappedProfile (except_mapError_ok.mp h)
      next => cases h

@[simp] theorem get_publish_self (context : ContextSnapshot) (accounts : List MfaStepupAccount) :
    (context.publish accounts).decorations.get KEY_MFA_STEPUP_ACCOUNTS =
      some (.arr (accounts.map MfaStepupAccount.toJson)) := Assoc.get_put_self _ _ _

theorem get_publish_other (context : ContextSnapshot) (accounts : List MfaStepupAccount) {key : String}
    (h : key ≠ KEY_MFA_STEPUP_ACCOUNTS) :
    (context.publish accounts).decorations.get key = context.decorations.get key :=
  Assoc.get_put_other _ _ h.symm

@[simp] theorem dataOwner_publish (context : ContextSnapshot) (accounts : List MfaStepupAccount) (data : InternalData) :
    p.dataOwner (context.publish accounts) data = p.dataOwner context data := by
  have hscopes := get_publish_other context accounts (show KEY_PROVIDER_SCOPES ≠ KEY_MFA_STEPUP_ACCOUNTS by decide)
  unfold dataOwner
  rw [hscopes]
  rfl

theorem scopeOwner_arr (items : List Json) (owner : String) :
    p.scopeOwner (some (.arr items)) = some owner ↔
      ∃ scope ∈ items.filterMap Json.asStr, configured p.scopeToDataOwner scope = some owner ∧
        ∀ other ∈ items.filterMap Json.asStr, other < scope → configured p.scopeToDataOwner other = none :=
  findSome?_sortedStrings

/-- The order in which scopes are published makes no difference. -/
theorem scopeOwner_perm {items items' : List Json} (h : items.Perm items') :
    p.scopeOwner (some (.arr items)) = p.scopeOwner (some (.arr items')) := by
  have hmem : ∀ scope, scope ∈ items.filterMap Json.asStr ↔ scope ∈ items'.filterMap Json.asStr :=
    fun scope => (h.filterMap Json.asStr).mem_iff
  apply Option.ext
  intro owner
  simp only [scopeOwner_arr, hmem]

structure Enriched (context : ContextSnapshot) (data : InternalData) (out : ContextSnapshot × InternalData) : Prop where
  accounts : out.1.decorations.get KEY_MFA_STEPUP_ACCOUNTS =
    some (.arr ((p.accountsOf (p.resolvedUser db w context data)).map MfaStepupAccount.toJson))
  decorations : ∀ key, key ≠ KEY_MFA_STEPUP_ACCOUNTS → out.1.decorations.get key = context.decorations.get key
  restOfContext : { out.1 with decorations := context.decorations } = context
  restOfData : { out.2 with attributes := data.attributes } = data
  replaced : ∀ key, key ≠ ENTITLEMENT → out.2.attributes.get key =
    ((p.profileOf (p.resolvedUser db w context data)).get key).or (data.attributes.get key)
  entitlements : (out.2.attributes.get ENTITLEMENT).getD [] =
    appendNew ((((p.profileOf (p.resolvedUser db w context data)).get ENTITLEMENT).or
      (data.attributes.get ENTITLEMENT)).getD []) (p.entitlementsOf db w context data)

/-- A response without a user keeps its attributes, and offers no account. -/
theorem enriched_of_none {context : ContextSnapshot} {data : InternalData}
    (h : p.resolvedUser db w context data = none) : p.Enriched db w context data (context.publish [], data) := by
  have hentitlements : p.entitlementsOf db w context data = [] := by
    unfold entitlementsOf
    simp [h]
  refine ⟨?_, fun key hkey => get_publish_other context [] hkey, rfl, rfl, fun key _ => ?_, ?_⟩
  · simp [h, accountsOf]
  · simp [h, profileOf]
  · rw [hentitlements, appendNew_nil, h]
    rfl

/-- The entitlements of the groups are appended, each once. -/
theorem applyGroups_ok {data data' : InternalData} {dataOwner : String} {user : ScimUser}
    (h : p.applyGroups db w data dataOwner user = .ok data') :
    { data' with attributes := data.attributes } = data ∧
      (∀ key, key ≠ ENTITLEMENT → data'.attributes.get key = data.attributes.get key) ∧
      (data'.attributes.get ENTITLEMENT).getD [] = appendNew ((data.attributes.get ENTITLEMENT).getD [])
        (if p.neo4jUri.isNone then [] else (groupEntitlements db w dataOwner user.scimId).toOption.getD []) := by
  unfold applyGroups at h
  cases hneo : p.neo4jUri with
  | none =>
    rw [hneo] at h
    cases h
    exact ⟨rfl, fun _ _ => rfl, by simp [appendNew_nil]⟩
  | some uri =>
    simp only [hneo] at h
    split at h
    next => cases h
    next hid =>
      obtain ⟨entitlements, hgroups, hdata⟩ := except_bind_ok.mp h
      cases hdata
      refine ⟨rfl, fun key hkey => ?_, ?_⟩
      · simp [SortedMap.get_insert, hkey.symm]
      · simp [SortedMap.get_insert, hgroups, Except.toOption]

theorem processResponse_ok {context : ContextSnapshot} {data : InternalData} {out : ContextSnapshot × InternalData}
    (h : p.processResponse db w context data = .ok out) : p.Enriched db w context data out := by
  have hpass : ∀ failure, p.unresolved (context.publish []) data failure = .ok out →
      p.resolvedUser db w context data = none → p.Enriched db w context data out := by
    intro failure h hnone
    unfold unresolved at h
    split at h
    next =>
      cases h
      exact p.enriched_of_none db w hnone
    next => cases h
  unfold processResponse at h
  simp only [dataOwner_publish] at h
  cases howner : p.dataOwner context data with
  | none =>
    rw [howner] at h
    exact hpass _ h (by simp [resolvedUser, howner])
  | some dataOwner =>
    simp only [howner] at h
    by_cases hscim : dataOwner = "no-scim"
    · rw [if_pos hscim] at h
      cases h
      exact p.enriched_of_none db w (by simp [resolvedUser, howner, hscim])
    · rw [if_neg hscim] at h
      obtain ⟨found, hfound, h⟩ := except_bind_ok.mp h
      have hresolved : p.resolvedUser db w context data = found := by
        simp [resolvedUser, howner, hscim, hfound, Except.toOption]
      cases found with
      | none => exact hpass _ h hresolved
      | some user =>
        obtain ⟨applied, happlied, h⟩ := except_bind_ok.mp h
        obtain ⟨grouped, hgrouped, h⟩ := except_bind_ok.mp h
        obtain ⟨mapped, hmapped, happlied⟩ := except_bind_ok.mp happlied
        obtain ⟨accounts, haccounts, happlied⟩ := except_bind_ok.mp happlied
        cases happlied
        cases h
        obtain ⟨hdata, hothers, hentitlements⟩ := p.applyGroups_ok db w hgrouped
        have hprofile : p.profileOf (some user) = mapped := by
          simp [profileOf, hmapped, Except.toOption]
        have hextended : ∀ key, (data.attributes.extend mapped).get key =
            (mapped.get key).or (data.attributes.get key) :=
          fun key => SortedMap.get_extend (p.distinct_profileAttributes hmapped) data.attributes key
        have hgroups : p.entitlementsOf db w context data =
            if p.neo4jUri.isNone then [] else (groupEntitlements db w dataOwner user.scimId).toOption.getD [] := by
          simp [entitlementsOf, howner, hresolved]
        refine ⟨?_, fun key hkey => ?_, rfl, ?_, fun key hkey => ?_, ?_⟩
        · rw [hresolved, get_publish_self, p.stepupAccounts_ok haccounts]
          rfl
        · rw [get_publish_other _ _ hkey, get_publish_other _ _ hkey]
        · exact congrArg (fun d : InternalData => { d with attributes := data.attributes }) hdata
        · rw [hresolved, hprofile, hothers key hkey]
          exact hextended key
        · rw [hentitlements, hresolved, hprofile, hgroups, ← hextended ENTITLEMENT]

end ScimAttributes

/-! ## Across the boundary -/

/-- What is converted is converted back: a copy holds what it was made of. -/
structure Pythonize.Copies (lib : Pythonize) : Prop where
  context : ∀ context v, lib.pythonizeContext context = some v → lib.depythonizeContext v = some context
  data : ∀ data v, lib.pythonizeData data = some v → lib.depythonizeData v = some data

def firstAccount (accounts : List MfaStepupAccount) : Except Error MfaStepupAccount :=
  accounts.head?.elim (.error (.authn "MFA is required but the user has no linked account")) .ok

/-- The step-up service reads the accounts that are published. -/
theorem linkedAccount_published {ctx : Context} {accounts : List MfaStepupAccount}
    (h : ctx.decoration KEY_MFA_STEPUP_ACCOUNTS = some (.arr (accounts.map MfaStepupAccount.toJson)))
    (hcomplete : ∀ a ∈ accounts, a.entityId ≠ "" ∧ a.identifier ≠ "" ∧ a.attributeName ≠ "" ∧ a.assurance ≠ "") :
    StepUp.linkedAccount ctx = firstAccount accounts := by
  have hread : Read.list MfaStepupAccount.fromJson (.arr (accounts.map MfaStepupAccount.toJson)) = some accounts :=
    Read.list_toJson MfaStepupAccount.fromJson_toJson accounts
  unfold StepUp.linkedAccount firstAccount
  rw [h, Option.getD_some, hread]
  cases accounts with
  | nil => rfl
  | cons account accounts =>
    have hall := hcomplete account List.mem_cons_self
    simp [hall]

namespace ScimAttributes

variable {W : Type} (p : ScimAttributes) (db : ScimDatabases W) (w : W)

theorem configured_ne {m : Assoc String} {key target : String} (h : configured m key = some target) : target ≠ "" := by
  have hkept := Option.filter_eq_some_iff.mp h
  simpa using hkept.2

/-- Nothing an account is published with is empty. -/
theorem accountOf_complete {account : LinkedAccount} {a : MfaStepupAccount} (h : p.accountOf account = some a) :
    a.entityId ≠ "" ∧ a.identifier ≠ "" ∧ a.attributeName ≠ "" ∧ a.assurance ≠ "" := by
  unfold accountOf at h
  split at h
  next =>
    obtain ⟨entityId, hentity, h⟩ := Option.bind_eq_some_iff.mp h
    obtain ⟨identifier, hidentifier, h⟩ := Option.map_eq_some_iff.mp h
    obtain ⟨issuer, -, hconfigured⟩ := Option.bind_eq_some_iff.mp hentity
    subst h
    refine ⟨configured_ne hconfigured, ?_, by simp, by simp⟩
    unfold nonEmptyString at hidentifier
    split at hidentifier
    next s _ =>
      split at hidentifier
      next => cases hidentifier
      next hne =>
        cases hidentifier
        exact hne
    next => cases hidentifier
  next => cases h

theorem accountOf_attributeName {account : LinkedAccount} {a : MfaStepupAccount} (h : p.accountOf account = some a) :
    a.attributeName = EPPN_EXTERNAL_NAME := by
  unfold accountOf at h
  split at h
  next =>
    obtain ⟨entityId, -, h⟩ := Option.bind_eq_some_iff.mp h
    obtain ⟨identifier, -, h⟩ := Option.map_eq_some_iff.mp h
    subst h
    rfl
  next => cases h

/-- What comes back out of a call is what the class made of what went in. -/
theorem pythonCall_scim {lib : Pythonize} (hlib : lib.Copies) {name : String} {backends : List String}
    {fate : W → Phase → CallFate} {context : ContextSnapshot} {data : InternalData} {output : CallOutput}
    (h : (p.service db lib name backends fate).pythonCall lib w .response context data = some output) :
    p.processResponse db w context data = .ok (output.context, output.data) := by
  unfold PythonMicroService.pythonCall at h
  obtain ⟨pyContext, hpyContext, h⟩ := Option.bind_eq_some_iff.mp h
  obtain ⟨pyData, hpyData, h⟩ := Option.bind_eq_some_iff.mp h
  have hcall : (p.service db lib name backends fate).call w .response pyContext pyData =
      p.call db lib w .response pyContext pyData := rfl
  rw [hcall, call, hlib.context _ _ hpyContext, hlib.data _ _ hpyData] at h
  cases hout : p.processResponse db w context data with
  | error e => simp [hout] at h
  | ok out =>
    obtain ⟨context', data'⟩ := out
    simp only [hout] at h
    cases hpyContext' : lib.pythonizeContext context' with
    | none => simp [hpyContext'] at h
    | some pyContext' =>
      cases hpyData' : lib.pythonizeData data' with
      | none => simp [hpyContext', hpyData'] at h
      | some pyData' =>
        simp only [hpyContext', hpyData', hlib.context _ _ hpyContext', hlib.data _ _ hpyData'] at h
        simp only [Option.bind_eq_bind, Option.bind_eq_some_iff, Option.pure_def, Option.some_inj] at h
        obtain ⟨_, -, _, -, _, -, _, -, _, -, _, -, _, rfl, _, rfl, rfl⟩ := h
        rfl

/-- A response comes back enriched, and the context with what was published. -/
theorem execute_scim {lib : Pythonize} (hlib : lib.Copies) {name : String} {backends : List String}
    {fate : W → Phase → CallFate} {data data' : InternalData} {ctx ctx' : Context}
    (h : (p.service db lib name backends fate).execute lib w .response data ctx = (.ok data', ctx')) :
    ∃ context, p.Enriched db w (.fromContext ctx) data (context, data') ∧
      ctx' = { ctx with decorations := context.decorations } := by
  have hcases := (p.service db lib name backends fate).execute_cases lib w .response data ctx
  rw [h] at hcases
  cases hcases with
  | absent hmethod => cases hmethod
  | committed output hmethod hcall hvalid =>
    have hfinished : (p.service db lib name backends fate).runPythonCall lib w .response (.fromContext ctx) data
        = .ok output := by
      unfold PythonMicroService.controlled at hcall
      split at hcall <;> first | cases hcall | exact hcall
    have hpython : (p.service db lib name backends fate).pythonCall lib w .response (.fromContext ctx) data
        = some output := by
      unfold PythonMicroService.runPythonCall at hfinished
      split at hfinished
      next output' hsome =>
        cases hfinished
        exact hsome
      next => cases hfinished
    have henriched := p.processResponse_ok db w (p.pythonCall_scim db w hlib hpython)
    have hbackend : output.context.targetBackend = ctx.targetBackend :=
      congrArg ContextSnapshot.targetBackend henriched.restOfContext
    refine ⟨output.context, henriched, ?_⟩
    unfold PythonMicroService.commit
    rw [hbackend]

/-- **The step-up service acts on an account of the user looked up.** Once the
SCIM service has let a response through, what the step-up service takes for the
linked account is the first eligible one of the user with the response's
external id among those of its data owner; where no such user was looked up
there is none, whatever was published before. No other decoration has changed,
nor any of the context besides. Of the data only the attributes have: those the
profile of that user holds are replaced, and the entitlements of its groups are
appended to those there were. -/
theorem stepup_account {lib : Pythonize} (hlib : lib.Copies) {name : String} {backends : List String}
    {fate : W → Phase → CallFate} {data data' : InternalData} {ctx ctx' : Context}
    (h : (p.service db lib name backends fate).execute lib w .response data ctx = (.ok data', ctx')) :
    let user := p.resolvedUser db w (.fromContext ctx) data
    StepUp.linkedAccount ctx' = firstAccount (p.accountsOf user) ∧
      (∀ key, key ≠ KEY_MFA_STEPUP_ACCOUNTS → ctx'.decoration key = ctx.decoration key) ∧
      { ctx' with decorations := ctx.decorations } = ctx ∧
      { data' with attributes := data.attributes } = data ∧
      (∀ key, key ≠ ENTITLEMENT →
        data'.attributes.get key = ((p.profileOf user).get key).or (data.attributes.get key)) ∧
      (data'.attributes.get ENTITLEMENT).getD [] =
        appendNew ((((p.profileOf user).get ENTITLEMENT).or (data.attributes.get ENTITLEMENT)).getD [])
          (p.entitlementsOf db w (.fromContext ctx) data) := by
  intro user
  obtain ⟨context, henriched, hctx⟩ := p.execute_scim db w hlib h
  subst hctx
  refine ⟨?_, henriched.decorations, rfl, henriched.restOfData, henriched.replaced, henriched.entitlements⟩
  refine linkedAccount_published henriched.accounts fun a ha => ?_
  obtain ⟨account, -, haccount⟩ := List.mem_filterMap.mp ha
  exact p.accountOf_complete haccount

end ScimAttributes

/-! ## One attribute map -/

/-- The internal attributes with an external name are those the step-up service
finds for it in the map the service was handed. -/
theorem internalNames_samlAttributes (m : AttributeMapper) (external : String) :
    internalNames external (samlAttributes m) = m.attributes.entries.filterMap fun p =>
      (p.2.get "saml").bind fun mapping => if mapping.keys.contains external then some p.1 else none := by
  unfold internalNames samlAttributes Assoc.filterMapValues
  rw [List.filterMap_filterMap]
  congr 1
  funext p
  cases hsaml : p.2.get "saml" <;> simp [hsaml]

/-- A service is built only where one internal attribute is the external id. -/
theorem ScimAttributes.init_ok {config : Assoc PyValue} {internalAttributes : PyValue} {p : ScimAttributes}
    (h : ScimAttributes.init config internalAttributes = .ok p) :
    parseInternalAttributes internalAttributes = .ok p.samlNames ∧
      internalNames EPPN_EXTERNAL_NAME p.samlNames = [p.externalIdAttribute] := by
  unfold ScimAttributes.init at h
  obtain ⟨_, -, h⟩ := except_bind_ok.mp h
  obtain ⟨mongoUri, -, h⟩ := except_bind_ok.mp h
  obtain ⟨neo4jUri, -, h⟩ := except_bind_ok.mp h
  obtain ⟨_, -, h⟩ := except_bind_ok.mp h
  obtain ⟨allowed, -, h⟩ := except_bind_ok.mp h
  obtain ⟨fallback, -, h⟩ := except_bind_ok.mp h
  obtain ⟨byIdp, -, h⟩ := except_bind_ok.mp h
  obtain ⟨byIssuer, -, h⟩ := except_bind_ok.mp h
  obtain ⟨byScope, -, h⟩ := except_bind_ok.mp h
  obtain ⟨byFrontend, -, h⟩ := except_bind_ok.mp h
  obtain ⟨samlNames, hnames, h⟩ := except_bind_ok.mp h
  split at h
  next externalId hexternal =>
    cases h
    exact ⟨except_mapError_ok.mp hnames, hexternal⟩
  next => cases h

/-- **The lookup and the comparison are by one attribute.** Of a service built
from the map the proxy hands over, the attribute users are looked up by is the
internal name the step-up service resolves for every account it publishes, and
compares with the account's identifier; its resolution cannot fail, under either behaviour. -/
theorem ScimAttributes.externalId_agrees (json : PythonizeJson) {m : AttributeMapper} {config : Assoc PyValue}
    {p : ScimAttributes} (h : ScimAttributes.init config (json.pythonize m.profileMappingsJson) = .ok p)
    (user : Option ScimUser) (behavior : StepupBehavior) :
    ∀ account ∈ p.accountsOf user,
      internalNameForExternal m account.attributeName behavior = .ok p.externalIdAttribute := by
  obtain ⟨hparsed, hunique⟩ := ScimAttributes.init_ok h
  rw [parseInternalAttributes_pythonize] at hparsed
  have hnames : samlAttributes m = p.samlNames := Except.ok.inj hparsed
  rw [← hnames, internalNames_samlAttributes] at hunique
  intro account haccount
  obtain ⟨linked, -, hlinked⟩ := List.mem_filterMap.mp haccount
  have hattribute : account.attributeName = EPPN_EXTERNAL_NAME := p.accountOf_attributeName hlinked
  unfold internalNameForExternal
  rw [hattribute, hunique]

/-! ## A library that converts -/

mutual
/-- The JSON value a Python value is a copy of. -/
def PyValue.toJson : PyValue → Option Json
  | .none => some .null
  | .bool b => some (.bool b)
  | .int n => some (.num n)
  | .str s => some (.str s)
  | .list xs => (PyValue.toItems xs).map .arr
  | .dict entries => (PyValue.toFields entries).map .obj
  | .object _ => Option.none

def PyValue.toItems : List PyValue → Option (List Json)
  | [] => some []
  | x :: xs => (PyValue.toJson x).bind fun v => (PyValue.toItems xs).map (v :: ·)

def PyValue.toFields : List (PyValue × PyValue) → Option (List (String × Json))
  | [] => some []
  | (k, x) :: entries =>
    k.asStr.bind fun k => (PyValue.toJson x).bind fun v => (PyValue.toFields entries).map ((k, v) :: ·)
end

mutual
theorem PyValue.toJson_ofJson : ∀ v : Json, (PyValue.ofJson v).toJson = some v
  | .null => rfl
  | .bool _ => rfl
  | .num _ => rfl
  | .str _ => rfl
  | .arr xs => by simp [PyValue.ofJson, PyValue.toJson, PyValue.toItems_ofItems xs]
  | .obj fs => by simp [PyValue.ofJson, PyValue.toJson, PyValue.toFields_ofFields fs]

theorem PyValue.toItems_ofItems : ∀ xs : List Json, PyValue.toItems (PyValue.ofItems xs) = some xs
  | [] => rfl
  | x :: xs => by simp [PyValue.ofItems, PyValue.toItems, PyValue.toJson_ofJson x, PyValue.toItems_ofItems xs]

theorem PyValue.toFields_ofFields : ∀ fs : List (String × Json), PyValue.toFields (PyValue.ofFields fs) = some fs
  | [] => rfl
  | (k, x) :: fs => by
    simp [PyValue.ofFields, PyValue.toFields, PyValue.asStr, PyValue.toJson_ofJson x, PyValue.toFields_ofFields fs]
end

namespace ContextSnapshot

def toJson (context : ContextSnapshot) : Json :=
  .obj [("path", .str context.path), ("method", .str context.method),
    ("query", .obj (context.query.entries.map fun p => (p.1, .str p.2))),
    ("form", .obj (context.form.entries.map fun p => (p.1, .str p.2))), ("requester", Json.optStr context.requester),
    ("target_backend", Json.optStr context.targetBackend), ("target_frontend", Json.optStr context.targetFrontend),
    ("decorations", .obj context.decorations)]

def fromJson (v : Json) : Option ContextSnapshot := do
  let fs ← v.asObject
  let path ← (fs.get "path").bind Json.asStr
  let method ← (fs.get "method").bind Json.asStr
  let query ← (fs.get "query").bind (Read.map Json.asStr)
  let form ← (fs.get "form").bind (Read.map Json.asStr)
  let requester ← Read.optString (fs.get "requester")
  let targetBackend ← Read.optString (fs.get "target_backend")
  let targetFrontend ← Read.optString (fs.get "target_frontend")
  let decorations ← (fs.get "decorations").bind Json.asObject
  return { path, method, query, form, requester, targetBackend, targetFrontend, decorations }

theorem fromJson_toJson (context : ContextSnapshot) : fromJson context.toJson = some context := by
  obtain ⟨path, method, query, form, requester, targetBackend, targetFrontend, decorations⟩ := context
  have hmap : ∀ m : SortedMap String, Read.map Json.asStr (.obj (m.entries.map fun p => (p.1, .str p.2))) = some m :=
    fun m => Read.map_toJson (g := Json.str) (fun _ => rfl) m
  cases requester <;> cases targetBackend <;> cases targetFrontend <;>
    simp [toJson, fromJson, Assoc.get_cons_self, Assoc.get_cons_other, Read.optString, Json.optStr, hmap]

end ContextSnapshot

def InternalData.toFields (d : InternalData) : Json :=
  .obj [("auth_info", .obj [("auth_class_ref", Json.optStr d.authInfo.authClassRef),
      ("timestamp", Json.optStr d.authInfo.timestamp), ("issuer", Json.optStr d.authInfo.issuer)]),
    ("requester", Json.optStr d.requester), ("requester_name", Json.strings d.requesterName),
    ("subject_id", Json.optStr d.subjectId), ("subject_type", d.subjectType.toJson),
    ("attributes", .obj (d.attributes.entries.map fun p => (p.1, Json.strings p.2))),
    ("force_authn", .bool d.forceAuthn), ("is_passive", .bool d.isPassive)]

theorem Read.optString_optStr (o : Option String) : Read.optString (some (Json.optStr o)) = some o := by
  cases o <;> rfl

theorem InternalData.fromJson_toFields (d : InternalData) : InternalData.fromJson d.toFields = some d := by
  obtain ⟨⟨classRef, timestamp, issuer⟩, requester, requesterName, subjectId, subjectType, attributes, forceAuthn,
    isPassive⟩ := d
  have hattrs : Read.map Read.stringList (.obj (attributes.entries.map fun p => (p.1, Json.strings p.2)))
      = some attributes := Read.map_toJson (fun ss => Read.stringList_strings ss) attributes
  simp [toFields, fromJson, AuthenticationInformation.fromJson, Assoc.get_cons_self, Assoc.get_cons_other,
    Read.orDefault, Read.optString_optStr, hattrs]

/-- A library that copies field by field, and compares values by their text. -/
def Pythonize.copy : Pythonize where
  pythonizeContext context := some (.ofJson context.toJson)
  pythonizeData data := some (.ofJson data.toFields)
  depythonizeContext v := v.toJson.bind ContextSnapshot.fromJson
  depythonizeData v := v.toJson.bind InternalData.fromJson
  valueEq u v := u.render = v.render
  valueEq_refl := by simp
  valueEq_trans := by
    intro u v w huv hvw
    simp only [decide_eq_true_eq] at *
    rw [huv, hvw]

theorem Pythonize.copies_copy : Pythonize.copy.Copies where
  context := by
    intro context v h
    cases h
    simp [copy, PyValue.toJson_ofJson, ContextSnapshot.fromJson_toJson]
  data := by
    intro data v h
    cases h
    simp [copy, PyValue.toJson_ofJson, InternalData.fromJson_toFields]

def eduidMapper : AttributeMapper :=
  { attributes := SortedMap.ofList
      [("edupersonprincipalname", SortedMap.ofList [("saml", { names := ["eduPersonPrincipalName"] })]),
        ("mail", SortedMap.ofList [("saml", { names := ["mail"] })])] }

def eduidScim : ScimAttributes :=
  { neo4jUri := some "bolt://graph.example"
    virtIdpToDataOwner := [("SamlFrontend", "example.org")]
    mfaStepupIssuerToEntityId := [("eduid.se", "https://idp.example/metadata")]
    samlNames := [("edupersonprincipalname", ["eduPersonPrincipalName"]), ("mail", ["mail"])]
    externalIdAttribute := "edupersonprincipalname" }

/-- A user with two profiles, of two linked accounts the second enabled. -/
def eduidUser : ScimUser :=
  { profiles := some [("z-profile", { attributes := some [("mail", .str "wrong@example.org")] }),
      ("a-profile", { attributes := some [("mail", .list [.str "user@example.org"])] })]
    linkedAccounts :=
      [{ issuer := .str "eduid.se", value := .str "off@eduid.se", parameters := .dict [(.str "mfa_stepup", .int 1)] },
        { issuer := .str "eduid.se", value := .str "linked@eduid.se",
          parameters := .dict [(.str "mfa_stepup", .bool true)] }]
    scimId := .str "scim-user" }

def eduidDatabases : ScimDatabases Unit where
  getUserByExternalId _ _ externalId := pure (if externalId = "user@example.org" then some eduidUser else none)
  graphScope dataOwner _ := dataOwner
  getGroupsForUser _ _ _ _ := pure ["group-1"]
  getGroupsOwnedByUser _ _ _ _ := pure ["group-2"]

def eduidContext : Context := { targetFrontend := some "SamlFrontend" }

def eduidResponse : InternalData :=
  { attributes := SortedMap.ofList [("edupersonprincipalname", ["user@example.org"]),
      ("edupersonentitlement", ["urn:mace:staff"])] }

/-- The one account published, of a service built from its settings. -/
theorem ScimAttributes.externalId_agrees_demo :
    eduidScim.accountsOf (some eduidUser) =
        [{ entityId := "https://idp.example/metadata", identifier := "linked@eduid.se" }] ∧
      internalNameForExternal eduidMapper EPPN_EXTERNAL_NAME .hardened = .ok "edupersonprincipalname" := by
  have hinit : ScimAttributes.init [("mongo_uri", .str "mongodb://users.example"),
      ("neo4j_uri", .str "bolt://graph.example"),
      ("virt_idp_to_data_owner", .dict [(.str "SamlFrontend", .str "example.org")]),
      ("mfa_stepup_issuer_to_entity_id", .dict [(.str "eduid.se", .str "https://idp.example/metadata")])]
      (PythonizeJson.copy.pythonize eduidMapper.profileMappingsJson) = .ok eduidScim := by
    rfl
  have haccounts : eduidScim.accountsOf (some eduidUser) =
      [{ entityId := "https://idp.example/metadata", identifier := "linked@eduid.se" }] := by
    rfl
  refine ⟨haccounts, ?_⟩
  exact ScimAttributes.externalId_agrees .copy hinit (some eduidUser) .hardened
    { entityId := "https://idp.example/metadata", identifier := "linked@eduid.se" } (by simp [haccounts])

/-- One user, looked up, enriched and offered for step-up. -/
theorem ScimAttributes.stepup_account_demo :
    StepUp.linkedAccount ((eduidScim.service eduidDatabases .copy "scim" [] fun _ _ => .finished).execute .copy ()
        .response eduidResponse eduidContext).2 =
      .ok { entityId := "https://idp.example/metadata", identifier := "linked@eduid.se" } := by
  have hrun : (eduidScim.service eduidDatabases .copy "scim" [] fun _ _ => .finished).execute .copy () .response
      eduidResponse eduidContext =
      (.ok { eduidResponse with
        attributes := SortedMap.ofList [("edupersonprincipalname", ["user@example.org"]),
          ("mail", ["user@example.org"]), ("edupersonentitlement", ["urn:mace:staff",
            "example.org:group:group-1#eduid-iam", "example.org:group:group-2:role=manager#eduid-iam"])] },
        eduidContext.decorate KEY_MFA_STEPUP_ACCOUNTS (.arr [MfaStepupAccount.toJson
          { entityId := "https://idp.example/metadata", identifier := "linked@eduid.se" }])) := by
    rfl
  rw [hrun]
  exact (eduidScim.stepup_account eduidDatabases () Pythonize.copies_copy hrun).1

end Tunnelbana
