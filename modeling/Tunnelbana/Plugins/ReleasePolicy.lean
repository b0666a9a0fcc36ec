/-
`static_attributes`, `filter_attributes` and `attribute_authorization`: what a
response may release, and whether it may be released at all. Each decides from
the response alone. The filter keeps the attributes permitted to the requester
(`FilterAttributes.get_filtered`); the authorization passes a response on as it
is, or refuses it (`AttributeAuthorization.processResponse_cases`).
-/
import Tunnelbana.Basis.MapEdit
import Tunnelbana.Plugins.DiscoToTargetIssuer
import Tunnelbana.Plugins.Values

namespace Tunnelbana

open Basis

/-! ## `static_attributes` -/

structure StaticAttributes where
  name : String
  attributes : SortedMap (List String) := .empty

namespace StaticAttributes

variable (p : StaticAttributes)

/-- One attribute, unless the response has it. -/
def addMissing (attributes : SortedMap (List String)) (entry : String × List String) : SortedMap (List String) :=
  if attributes.contains entry.1 then attributes else attributes.insert entry.1 entry.2

def added (attributes : SortedMap (List String)) : SortedMap (List String) := p.attributes.entries.foldl addMissing attributes

def processResponse (data : InternalData) : Flow InternalData :=
  return { data with attributes := p.added data.attributes }

def microService {W : Type} : MicroService W where
  name := p.name
  processResponse _ data := p.processResponse data

theorem get_addMissing (attributes : SortedMap (List String)) (entry : String × List String) (k : String) :
    (addMissing attributes entry).get k = (attributes.get k).or (if entry.1 = k then some entry.2 else none) := by
  unfold addMissing
  by_cases hk : entry.1 = k
  · subst hk
    unfold SortedMap.contains
    cases hget : attributes.get entry.1 with
    | none => simp [SortedMap.get_insert]
    | some values => simp [hget]
  · cases attributes.contains entry.1 <;> simp [SortedMap.get_insert, hk]

/-- **What the response has stays, and the rest is added.** -/
theorem get_added (attributes : SortedMap (List String)) (k : String) :
    (p.added attributes).get k = (attributes.get k).or (p.attributes.get k) := by
  have hfold : ∀ (entries : Assoc (List String)) (attributes : SortedMap (List String)),
      (entries.foldl addMissing attributes).get k = (attributes.get k).or (Assoc.get k entries) := by
    intro entries
    induction entries with
    | nil => simp
    | cons entry entries ih =>
      intro attributes
      rw [List.foldl_cons, ih, get_addMissing, Option.or_assoc]
      by_cases hk : entry.1 = k
      · subst hk
        simp [Assoc.get]
      · simp [Assoc.get, hk]
  exact hfold p.attributes.entries attributes

end StaticAttributes

/-! ## `filter_attributes` -/

structure PolicyEntry where
  allowed : Option (List String) := none
deriving DecidableEq, Repr

structure FilterAttributesConfig where
  /-- Applied when no policy matches. -/
  allowed : Option (List String) := none
  policy : SortedMap PolicyEntry := .empty
  passthroughUnmatched : Bool := false

/-- The service; no policy leaves open what it allows. -/
structure FilterAttributes where
  name : String
  allowed : Option (List String)
  policy : SortedMap PolicyEntry
  passthroughUnmatched : Bool
  explicit : ∀ e ∈ policy.entries, e.2.allowed ≠ none

namespace FilterAttributes

def build (name : String) (cfg : FilterAttributesConfig) : Except Error FilterAttributes :=
  match hfind : cfg.policy.entries.find? fun e => e.2.allowed = none with
  | some (requester, _) =>
    .error (.config ("filter_attributes " ++ name ++ ": policy entry " ++ Text.debug requester
      ++ " must set allowed (use [] to drop everything)"))
  | none =>
    .ok { name, allowed := cfg.allowed, policy := cfg.policy, passthroughUnmatched := cfg.passthroughUnmatched
          explicit := fun e he hnone => List.find?_eq_none.mp hfind e he (decide_eq_true hnone) }

variable (p : FilterAttributes)

/-- The allowlist for a requester; its policy overrides the global one. -/
def allowedFor (requester : String) : Option (List String) :=
  match level p.policy requester with
  | some entry => entry.allowed
  | none => p.allowed

def filtered (requester : String) (attributes : SortedMap (List String)) : SortedMap (List String) :=
  match p.allowedFor requester with
  | some allowed => attributes.retain allowed.contains
  -- absence is no implicit "allow all"
  | none => if p.passthroughUnmatched then attributes else .empty

def processResponse (data : InternalData) : Flow InternalData :=
  return { data with attributes := p.filtered (data.requester.getD "") data.attributes }

def microService {W : Type} : MicroService W where
  name := p.name
  processResponse _ data := p.processResponse data

def permits (requester name : String) : Bool :=
  match p.allowedFor requester with
  | some allowed => allowed.contains name
  | none => p.passthroughUnmatched

/-- **The filter keeps what is permitted, unchanged.** -/
theorem get_filtered (requester : String) (attributes : SortedMap (List String)) (name : String) :
    (p.filtered requester attributes).get name = if p.permits requester name then attributes.get name else none := by
  unfold filtered permits
  cases p.allowedFor requester with
  | some allowed => exact SortedMap.get_retain _ _ _
  | none => cases p.passthroughUnmatched <;> simp

/-- Where a policy applies, nothing passes unlisted. -/
theorem permits_of_level {requester : String} {entry : PolicyEntry} (h : level p.policy requester = some entry) :
    ∃ allowed, entry.allowed = some allowed ∧ ∀ name, p.permits requester name = allowed.contains name := by
  have hmem : ∃ key, (key, entry) ∈ p.policy.entries := by
    unfold level at h
    rcases Option.or_eq_some_iff.mp h with hget | ⟨_, h⟩
    · exact ⟨requester, SortedMap.get_eq_some.mp hget⟩
    · rcases Option.or_eq_some_iff.mp h with hget | ⟨_, hget⟩
      · exact ⟨"", SortedMap.get_eq_some.mp hget⟩
      · exact ⟨"default", SortedMap.get_eq_some.mp hget⟩
  obtain ⟨key, hkey⟩ := hmem
  obtain ⟨allowed, hallowed⟩ := Option.ne_none_iff_exists'.mp (p.explicit _ hkey)
  refine ⟨allowed, hallowed, fun name => ?_⟩
  have hfor : p.allowedFor requester = some allowed := by
    unfold allowedFor
    rw [h]
    exact hallowed
  unfold permits
  rw [hfor]

end FilterAttributes

/-! ## `attribute_authorization` -/

/-- Requester to provider to attribute to patterns. -/
abbrev AuthzRules (R : Type) := SortedMap (SortedMap (SortedMap (List R)))

structure AttributeAuthorizationConfig where
  attributeAllow : AuthzRules String := .empty
  attributeDeny : AuthzRules String := .empty
  forceAttributesPresenceOnAllow : Bool := false
  forceAttributesPresenceOnDeny : Bool := false

def compileAuthz (newRegex : String → Except String Regex) (raw : AuthzRules String) (name : String) :
    Except Error (AuthzRules Regex) :=
  compileMap (compileMap (compileMap (List.mapM fun pattern =>
    (newRegex pattern).mapError fun e =>
      Error.config ("attribute_authorization " ++ name ++ ": bad pattern " ++ Text.debug pattern ++ ": " ++ e)))) raw

structure AttributeAuthorization where
  name : String
  attributeAllow : AuthzRules Regex
  attributeDeny : AuthzRules Regex
  forceAttributesPresenceOnAllow : Bool
  forceAttributesPresenceOnDeny : Bool

namespace AttributeAuthorization

def build (newRegex : String → Except String Regex) (name : String) (cfg : AttributeAuthorizationConfig) :
    Except Error AttributeAuthorization := do
  let attributeAllow ← compileAuthz newRegex cfg.attributeAllow name
  let attributeDeny ← compileAuthz newRegex cfg.attributeDeny name
  return { name, attributeAllow, attributeDeny
           forceAttributesPresenceOnAllow := cfg.forceAttributesPresenceOnAllow
           forceAttributesPresenceOnDeny := cfg.forceAttributesPresenceOnDeny }

/-- The rules of a requester, then of the provider: one set, never merged. -/
def rules (rules : AuthzRules Regex) (requester provider : String) : Option (SortedMap (List Regex)) :=
  (level rules requester).bind fun byProvider => level byProvider provider

variable (p : AttributeAuthorization)

def denied : Error := .authn ("attribute_authorization " ++ p.name ++ ": permission denied")

def anyMatch (values : List String) (regexes : List Regex) : Bool := values.any fun v => regexes.any fun r => r v

def allowRefuses (attributes : SortedMap (List String)) (rule : String × List Regex) : Bool :=
  match attributes.get rule.1 with
  | some values => !anyMatch values rule.2
  | none => p.forceAttributesPresenceOnAllow

def denyRefuses (attributes : SortedMap (List String)) (rule : String × List Regex) : Bool :=
  match attributes.get rule.1 with
  | some values => anyMatch values rule.2
  | none => p.forceAttributesPresenceOnDeny

/-- The rules of a set in turn, up to the first that refuses. -/
def enforce (refuses : String × List Regex → Bool) : List (String × List Regex) → Flow Unit
  | [] => pure ()
  | rule :: rest => do
    Flow.require (refuses rule = false) p.denied
    enforce refuses rest

def enforceAll (refuses : String × List Regex → Bool) : Option (SortedMap (List Regex)) → Flow Unit
  | some rules => p.enforce refuses rules.entries
  | none => pure ()

def processResponse (data : InternalData) : Flow InternalData := do
  let requester := data.requester.getD ""
  let provider := data.authInfo.issuer.getD ""
  p.enforceAll (p.allowRefuses data.attributes) (rules p.attributeAllow requester provider)
  p.enforceAll (p.denyRefuses data.attributes) (rules p.attributeDeny requester provider)
  return data

def microService {W : Type} : MicroService W where
  name := p.name
  processResponse _ data := p.processResponse data

/-! ### What is authorized -/

/-- The attributes satisfy an allow rule: one value matches, or the attribute may
be absent. -/
def Allowed (attributes : SortedMap (List String)) (attr : String) (regexes : List Regex) : Prop :=
  (∃ values, attributes.get attr = some values ∧ ∃ v ∈ values, ∃ r ∈ regexes, r v = true) ∨
    attributes.get attr = none ∧ p.forceAttributesPresenceOnAllow = false

/-- No value falls under a deny rule, and the attribute may be absent if it is. -/
def Undenied (attributes : SortedMap (List String)) (attr : String) (regexes : List Regex) : Prop :=
  (∃ values, attributes.get attr = some values ∧ ∀ v ∈ values, ∀ r ∈ regexes, r v = false) ∨
    attributes.get attr = none ∧ p.forceAttributesPresenceOnDeny = false

/-- The response satisfies the one set of rules that applies to it. -/
structure Authorizes (data : InternalData) : Prop where
  allowed : ∀ set, rules p.attributeAllow (data.requester.getD "") (data.authInfo.issuer.getD "") = some set →
    ∀ attr regexes, set.get attr = some regexes → p.Allowed data.attributes attr regexes
  undenied : ∀ set, rules p.attributeDeny (data.requester.getD "") (data.authInfo.issuer.getD "") = some set →
    ∀ attr regexes, set.get attr = some regexes → p.Undenied data.attributes attr regexes

theorem anyMatch_iff {values : List String} {regexes : List Regex} :
    anyMatch values regexes = true ↔ ∃ v ∈ values, ∃ r ∈ regexes, r v = true := by
  simp [anyMatch, List.any_eq_true]

theorem allowRefuses_iff (attributes : SortedMap (List String)) {rule : String × List Regex} :
    p.allowRefuses attributes rule = false ↔ p.Allowed attributes rule.1 rule.2 := by
  unfold allowRefuses Allowed
  cases attributes.get rule.1 with
  | none => simp
  | some values => simp [anyMatch_iff]

theorem denyRefuses_iff (attributes : SortedMap (List String)) {rule : String × List Regex} :
    p.denyRefuses attributes rule = false ↔ p.Undenied attributes rule.1 rule.2 := by
  unfold denyRefuses Undenied
  cases attributes.get rule.1 with
  | none => simp
  | some values => simp [anyMatch, List.any_eq_false]

/-- A set is passed without a trace, or refused. -/
theorem enforce_run (refuses : String × List Regex → Bool) (rules : List (String × List Regex)) (ctx : Context) :
    p.enforce refuses rules ctx = if rules.all fun rule => !refuses rule then (.ok (), ctx) else (.error p.denied, ctx) := by
  induction rules with
  | nil => rfl
  | cons rule rest ih =>
    unfold enforce
    rw [List.all_cons]
    cases hrefuses : refuses rule with
    | true => simp [Flow.require, Flow.fail, Action.fail_bind_run]
    | false =>
      simp only [Flow.require, if_true, Action.pure_bind_run, ih]
      rfl

theorem enforceAll_run {refuses : String × List Regex → Bool} {Satisfied : String → List Regex → Prop}
    (hrefuses : ∀ rule, refuses rule = false ↔ Satisfied rule.1 rule.2) (set : Option (SortedMap (List Regex)))
    (ctx : Context) :
    (∀ rules, set = some rules → ∀ attr regexes, rules.get attr = some regexes → Satisfied attr regexes) ∧
        p.enforceAll refuses set ctx = (.ok (), ctx) ∨
      ¬ (∀ rules, set = some rules → ∀ attr regexes, rules.get attr = some regexes → Satisfied attr regexes) ∧
        p.enforceAll refuses set ctx = (.error p.denied, ctx) := by
  cases set with
  | none => exact .inl ⟨fun _ h => (by cases h), rfl⟩
  | some rules =>
    have hall : (rules.entries.all fun rule => !refuses rule) = true ↔
        ∀ attr regexes, rules.get attr = some regexes → Satisfied attr regexes := by
      rw [List.all_eq_true]
      constructor
      · intro h attr regexes hget
        have hpasses := h _ (SortedMap.get_eq_some.mp hget)
        exact (hrefuses (attr, regexes)).mp (by simpa using hpasses)
      · intro h rule hrule
        have hpasses := (hrefuses rule).mpr (h rule.1 rule.2 (SortedMap.get_eq_some.mpr hrule))
        simp [hpasses]
    show _ ∧ p.enforce refuses rules.entries ctx = _ ∨ _ ∧ p.enforce refuses rules.entries ctx = _
    rw [p.enforce_run]
    by_cases hpass : (rules.entries.all fun rule => !refuses rule) = true
    · rw [if_pos hpass]
      refine .inl ⟨fun rules' h => ?_, rfl⟩
      cases h
      exact hall.mp hpass
    · rw [if_neg hpass]
      exact .inr ⟨fun h => hpass (hall.mpr (h rules rfl)), rfl⟩

/-- **A response is authorized and passes as it is, or is refused.** -/
theorem processResponse_cases (data : InternalData) (ctx : Context) :
    p.Authorizes data ∧ p.processResponse data ctx = (.ok data, ctx) ∨
      ¬ p.Authorizes data ∧ p.processResponse data ctx = (.error p.denied, ctx) := by
  unfold processResponse
  rcases p.enforceAll_run (fun _ => p.allowRefuses_iff data.attributes)
    (rules p.attributeAllow (data.requester.getD "") (data.authInfo.issuer.getD "")) ctx with ⟨hallow, hrun⟩ | ⟨hallow, hrun⟩
  · rw [Action.bind_of_ok hrun]
    rcases p.enforceAll_run (fun _ => p.denyRefuses_iff data.attributes)
      (rules p.attributeDeny (data.requester.getD "") (data.authInfo.issuer.getD "")) ctx with ⟨hdeny, hrun⟩ | ⟨hdeny, hrun⟩
    · rw [Action.bind_of_ok hrun]
      exact .inl ⟨⟨hallow, hdeny⟩, rfl⟩
    · rw [Action.bind_of_error hrun]
      exact .inr ⟨fun h => hdeny h.undenied, rfl⟩
  · rw [Action.bind_of_error hrun]
    exact .inr ⟨fun h => hallow h.allowed, rfl⟩

end AttributeAuthorization

end Tunnelbana
