/-
Which subject ids tell users apart. Scoped by issuer, an asserted identifier
and its issuer can be read back (`selectSubjectId_scoped_inj`); a composed one
is joined with colons, so its parts are told apart by how many colons they
hold and by nothing else (`composedSubject_inj`).
-/
import Tunnelbana.Basis.Framing
import Tunnelbana.Core.AttributeFacts
import Tunnelbana.Plugins.OidcOp
import Tunnelbana.Plugins.Saml2Acs
import Tunnelbana.Plugins.Saml2Frontend

namespace Tunnelbana

open Basis

/-! ## Scoped by issuer -/

theorem scopeSubjectId_eq (issuer subjectId : String) :
    scopeSubjectId issuer subjectId = framed issuer ++ (":" ++ subjectId) := by
  simp [scopeSubjectId, framed, numbered, String.append_assoc]

theorem scopeSubjectId_separates {issuer₁ issuer₂ subjectId₁ subjectId₂ : String}
    (h : scopeSubjectId issuer₁ subjectId₁ = scopeSubjectId issuer₂ subjectId₂) :
    issuer₁ = issuer₂ ∧ subjectId₁ = subjectId₂ := by
  simp only [scopeSubjectId_eq] at h
  obtain ⟨hissuer, hrest⟩ := readable_framed h
  have hsubject := append_inj_of_size rfl hrest
  exact ⟨hissuer, hsubject.2⟩

/-- The identifier the scope is put around. -/
def assertedId (mapper : AttributeMapper) (internalAttrs : SortedMap (List String)) (rawNameId : String) : String :=
  (mapper.composeSubjectId internalAttrs).getD rawNameId

theorem selectSubjectId_scoped (mapper : AttributeMapper) (internalAttrs : SortedMap (List String))
    (rawNameId issuer : String) (subjectType : SubjectType) :
    selectSubjectId mapper internalAttrs rawNameId issuer true subjectType true =
      scopeSubjectId issuer (assertedId mapper internalAttrs rawNameId) := rfl

/-- **Scoped subject ids do not collide**, whatever issuers and identifiers hold. -/
theorem selectSubjectId_scoped_inj {mapper₁ mapper₂ : AttributeMapper} {attrs₁ attrs₂ : SortedMap (List String)}
    {rawNameId₁ rawNameId₂ issuer₁ issuer₂ : String} {subjectType₁ subjectType₂ : SubjectType}
    (h : selectSubjectId mapper₁ attrs₁ rawNameId₁ issuer₁ true subjectType₁ true =
      selectSubjectId mapper₂ attrs₂ rawNameId₂ issuer₂ true subjectType₂ true) :
    issuer₁ = issuer₂ ∧ assertedId mapper₁ attrs₁ rawNameId₁ = assertedId mapper₂ attrs₂ rawNameId₂ := by
  simp only [selectSubjectId_scoped] at h
  exact scopeSubjectId_separates h

def byMail : AttributeMapper := { userIdFromAttrs := ["mail"] }

/-- A composed id and a raw one of the same text, at one issuer. -/
theorem selectSubjectId_scoped_inj_demo :
    "é:idp" = "é:idp" ∧
      assertedId byMail (.ofList [("mail", ["1:a"])]) "other" = assertedId byMail .empty "1:a" :=
  selectSubjectId_scoped_inj (show selectSubjectId byMail (.ofList [("mail", ["1:a"])]) "other" "é:idp" true .transient
    true = selectSubjectId byMail .empty "1:a" "é:idp" true .persistent true from rfl)

namespace Saml2Backend

variable {b : Saml2Backend} {w : SamlWorld}

theorem extractIdentity_subject {response : SamlResponse} {data : InternalData}
    (h : b.extractIdentity w response = .ok data) :
    ∃ assertion ∈ response.assertions, ∃ nameId : NameId, b.readNameId w assertion = .ok nameId ∧
      data.authInfo.issuer = some assertion.issuer ∧
      data.subjectId = some (selectSubjectId b.mapper data.attributes nameId.value assertion.issuer
        b.isDynamicIdpSelection data.subjectType b.scopeSubjectIdByIssuer) := by
  unfold extractIdentity at h
  split at h
  next => cases h
  next assertion hfind =>
    obtain ⟨nameId, hnameId, hdata⟩ := except_bind_ok.mp h
    cases hdata
    exact ⟨assertion, List.mem_of_find?_eq_some hfind, nameId, hnameId, rfl, rfl⟩

/-- Two accepted responses with one scoped subject id are of one issuer, which
asserted one identifier. -/
theorem extractIdentity_scoped {w₁ w₂ : SamlWorld} {response₁ response₂ : SamlResponse} {data₁ data₂ : InternalData}
    (hdynamic : b.isDynamicIdpSelection = true) (hscope : b.scopeSubjectIdByIssuer = true)
    (h₁ : b.extractIdentity w₁ response₁ = .ok data₁) (h₂ : b.extractIdentity w₂ response₂ = .ok data₂)
    (hid : data₁.subjectId = data₂.subjectId) :
    ∃ assertion₁ ∈ response₁.assertions, ∃ assertion₂ ∈ response₂.assertions, ∃ nameId₁ nameId₂ : NameId,
      b.readNameId w₁ assertion₁ = .ok nameId₁ ∧ b.readNameId w₂ assertion₂ = .ok nameId₂ ∧
      assertion₁.issuer = assertion₂.issuer ∧
      assertedId b.mapper data₁.attributes nameId₁.value = assertedId b.mapper data₂.attributes nameId₂.value := by
  obtain ⟨assertion₁, hmem₁, nameId₁, hread₁, _, hsubject₁⟩ := extractIdentity_subject h₁
  obtain ⟨assertion₂, hmem₂, nameId₂, hread₂, _, hsubject₂⟩ := extractIdentity_subject h₂
  rw [hsubject₁, hsubject₂, hdynamic, hscope, selectSubjectId_scoped, selectSubjectId_scoped] at hid
  have hboth := scopeSubjectId_separates (Option.some.inj hid)
  exact ⟨assertion₁, hmem₁, assertion₂, hmem₂, nameId₁, nameId₂, hread₁, hread₂, hboth⟩

end Saml2Backend

/-! ## Composed of attributes -/

def colons (v : String) : Nat := v.toList.count ':'

namespace AttributeMapper

def sourceValues (m : AttributeMapper) (internal : SortedMap (List String)) : Option (List String) :=
  m.userIdFromAttrs.mapM fun name => (internal.get name).bind List.head?

theorem sourceValues_of_compose {m : AttributeMapper} {internal : SortedMap (List String)} {id : String}
    (h : m.composeSubjectId internal = some id) :
    m.userIdFromAttrs ≠ [] ∧ ∃ vs, m.sourceValues internal = some vs ∧ id = String.intercalate ":" vs := by
  by_cases hnames : m.userIdFromAttrs = []
  · unfold composeSubjectId at h
    rw [if_pos hnames] at h
    cases h
  · rw [composeSubjectId_eq hnames] at h
    obtain ⟨vs, hvs, hid⟩ := Option.map_eq_some_iff.mp h
    exact ⟨hnames, vs, hvs, hid.symm⟩

/-- The values are those of the configured names, each of which has one. -/
theorem sourceValues_eq_map {m : AttributeMapper} {internal : SortedMap (List String)} {vs : List String}
    (h : m.sourceValues internal = some vs) :
    vs = m.userIdFromAttrs.map fun name => ((internal.get name).bind List.head?).getD "" := by
  unfold sourceValues at h
  generalize m.userIdFromAttrs = names at h
  induction names generalizing vs with
  | nil =>
    cases h
    rfl
  | cons name names ih =>
    rw [List.mapM_cons] at h
    obtain ⟨v, hv, hrest⟩ := Option.bind_eq_some_iff.mp h
    obtain ⟨vs', hvs', hcons⟩ := Option.bind_eq_some_iff.mp hrest
    cases hcons
    rw [List.map_cons, hv, ← ih hvs']
    rfl

end AttributeMapper

theorem toList_intercalate_colon (vs : List String) :
    (String.intercalate ":" vs).toList = [':'].intercalate (vs.map String.toList) := by
  simp [String.toList_intercalate]

theorem map_toList_inj {us vs : List String} (h : us.map String.toList = vs.map String.toList) : us = vs :=
  List.map_injective_iff.mpr (fun _ _ he => String.toList_injective he) h

/-- No value a subject id is composed of holds a colon, save those of one attribute. -/
def AttributeMapper.PlainBut (m : AttributeMapper) (free : String) (internal : SortedMap (List String)) : Prop :=
  ∀ name ∈ m.userIdFromAttrs, name ≠ free → ∀ v, (internal.get name).bind List.head? = some v → ':' ∉ v.toList

/-- A subject a consumer makes of a composed id, with the issuer it is scoped
by: the one the SAML backend selects and the fallbacks of the SAML and the
OIDC frontend. -/
inductive ComposedSubject (m : AttributeMapper) (internal : SortedMap (List String)) : Option String → String → Prop
  | selected (rawNameId issuer : String) (subjectType : SubjectType)
      (composed : (m.composeSubjectId internal).isSome) :
      ComposedSubject m internal none (selectSubjectId m internal rawNameId issuer true subjectType false)
  | selectedByIssuer (rawNameId issuer : String) (subjectType : SubjectType)
      (composed : (m.composeSubjectId internal).isSome) :
      ComposedSubject m internal (some issuer) (selectSubjectId m internal rawNameId issuer true subjectType true)
  | nameId (f : Saml2Frontend) (w : SamlWorld) (format : String) (response : InternalData)
      (attributes : Assoc (List String)) (value : String) (mapper : f.mapper = m)
      (durable : format ≠ NAMEID_TRANSIENT) (unset : response.subjectId = none)
      (released : SortedMap.ofList attributes = internal)
      (rendered : f.nameIdValue w format response attributes = .ok value) : ComposedSubject m internal none value
  | authorized (w : OpWorld) (s : State) (frontend : String) (client : Client) (response : InternalData)
      (value : String) (unset : response.subjectId = none) (attributes : response.attributes = internal)
      (resolved : resolveAuthorizationSubject w s frontend client response m = .ok value) :
      ComposedSubject m internal none value

section Consumers

variable {m : AttributeMapper} {internal internal₁ internal₂ : SortedMap (List String)}
  {scope scope₁ scope₂ : Option String} {subject : String}

/-- The subject of an OIDC login is the response's own, else the composed one. -/
theorem resolveAuthorizationSubject_ok {w : OpWorld} {s : State} {frontend : String} {client : Client}
    {response : InternalData} (h : resolveAuthorizationSubject w s frontend client response m = .ok subject) :
    response.subjectId.or (m.composeSubjectId response.attributes) = some subject := by
  unfold resolveAuthorizationSubject at h
  cases hsaved : s.getValue frontend AUTHORIZATION_CLIENT with
  | none => simp [hsaved, bind, Except.bind] at h
  | some saved =>
    cases hcurrent : w.fingerprint client with
    | error e => simp [hsaved, hcurrent, bind, Except.bind] at h
    | ok current =>
      by_cases hsame : saved.asStr = some current
      · cases hsubject : response.subjectId.or (m.composeSubjectId response.attributes) with
        | none => simp [hsaved, hcurrent, hsame, hsubject] at h
        | some value =>
          simp [hsaved, hcurrent, hsame, hsubject] at h
          cases h
          rfl
      · simp [hsaved, hcurrent, hsame, bind, Except.bind] at h

/-- Every consumer uses the composed id as it is, or scoped. -/
theorem ComposedSubject.composed (h : ComposedSubject m internal scope subject) :
    ∃ id, m.composeSubjectId internal = some id ∧ subject = scope.elim id fun issuer => scopeSubjectId issuer id := by
  cases h with
  | selected rawNameId issuer subjectType hsome =>
    obtain ⟨id, hid⟩ := Option.isSome_iff_exists.mp hsome
    exact ⟨id, hid, by simp [selectSubjectId, hid]⟩
  | selectedByIssuer rawNameId issuer subjectType hsome =>
    obtain ⟨id, hid⟩ := Option.isSome_iff_exists.mp hsome
    exact ⟨id, hid, by simp [selectSubjectId, hid]⟩
  | nameId f w format response attributes _ hmapper hdurable hunset hreleased hrendered =>
    unfold Saml2Frontend.nameIdValue at hrendered
    rw [if_neg hdurable, hunset, Option.none_or, hmapper, hreleased] at hrendered
    cases hcompose : m.composeSubjectId internal with
    | none =>
      rw [hcompose] at hrendered
      cases hrendered
    | some id =>
      rw [hcompose] at hrendered
      cases hrendered
      exact ⟨subject, rfl, rfl⟩
  | authorized w s frontend client response _ hunset hattributes hresolved =>
    subst hattributes
    have hsubject := resolveAuthorizationSubject_ok hresolved
    rw [hunset, Option.none_or] at hsubject
    exact ⟨subject, hsubject, rfl⟩

/-- Equal subjects are of equal composed ids. -/
theorem ComposedSubject.same_id (hscope : scope₁.isSome = scope₂.isSome)
    (h₁ : ComposedSubject m internal₁ scope₁ subject) (h₂ : ComposedSubject m internal₂ scope₂ subject) :
    ∃ id, m.composeSubjectId internal₁ = some id ∧ m.composeSubjectId internal₂ = some id := by
  obtain ⟨id₁, hid₁, hsubject₁⟩ := h₁.composed
  obtain ⟨id₂, hid₂, hsubject₂⟩ := h₂.composed
  cases scope₁ with
  | none =>
    cases scope₂ with
    | none =>
      have hsame : id₁ = id₂ := hsubject₁.symm.trans hsubject₂
      exact ⟨id₁, hid₁, hsame ▸ hid₂⟩
    | some issuer₂ => cases hscope
  | some issuer₁ =>
    cases scope₂ with
    | none => cases hscope
    | some issuer₂ =>
      have hsame : id₁ = id₂ := (scopeSubjectId_separates (hsubject₁.symm.trans hsubject₂)).2
      exact ⟨id₁, hid₁, hsame ▸ hid₂⟩

/-- **A composed subject is of one tuple of values exactly when the values hold
as many colons each**, as they do where those of all attributes but one hold
none. -/
theorem composedSubject_inj (hscope : scope₁.isSome = scope₂.isSome)
    (h₁ : ComposedSubject m internal₁ scope₁ subject) (h₂ : ComposedSubject m internal₂ scope₂ subject) :
    ∃ us vs, m.sourceValues internal₁ = some us ∧ m.sourceValues internal₂ = some vs ∧
      (us = vs ↔ us.map colons = vs.map colons) ∧
      ∀ free, m.PlainBut free internal₁ → m.PlainBut free internal₂ → us = vs := by
  obtain ⟨id, hid₁, hid₂⟩ := ComposedSubject.same_id hscope h₁ h₂
  obtain ⟨_, us, hus, hjoined₁⟩ := AttributeMapper.sourceValues_of_compose hid₁
  obtain ⟨_, vs, hvs, hjoined₂⟩ := AttributeMapper.sourceValues_of_compose hid₂
  have hchars : [':'].intercalate (us.map String.toList) = [':'].intercalate (vs.map String.toList) := by
    rw [← toList_intercalate_colon, ← toList_intercalate_colon, ← hjoined₁, ← hjoined₂]
  refine ⟨us, vs, hus, hvs, ⟨fun he => congrArg (List.map colons) he, fun hcolons => ?_⟩, fun free hp₁ hp₂ => ?_⟩
  · refine map_toList_inj (intercalate_inj ?_ hchars)
    rw [List.map_map, List.map_map]
    exact hcolons
  · apply map_toList_inj
    have hplain : ∀ {internal}, m.PlainBut free internal → ∀ name ∈ m.userIdFromAttrs, name ≠ free →
        ':' ∉ (((internal.get name).bind List.head?).getD "").toList := by
      intro internal hp name hname hne
      cases hv : (internal.get name).bind List.head? with
      | none => simp
      | some v => exact hp name hname hne v hv
    rw [AttributeMapper.sourceValues_eq_map hus, AttributeMapper.sourceValues_eq_map hvs, List.map_map, List.map_map]
      at hchars ⊢
    exact intercalate_inj_of_plain (hplain hp₁) (hplain hp₂) hchars

end Consumers

def byNameAndHome : AttributeMapper := { userIdFromAttrs := ["eppn", "home"] }

/-- The same values, selected by the SAML backend for two raw ids. -/
theorem composedSubject_inj_demo :
    ∃ us vs, byNameAndHome.sourceValues (.ofList [("eppn", ["anna"]), ("home", ["urn:x"])]) = some us ∧
      byNameAndHome.sourceValues (.ofList [("eppn", ["anna"]), ("home", ["urn:x", "y"])]) = some vs ∧ us = vs := by
  have h₁ : ComposedSubject byNameAndHome (.ofList [("eppn", ["anna"]), ("home", ["urn:x"])]) none "anna:urn:x" :=
    .selected "n1" "https://idp.example" .persistent rfl
  have h₂ : ComposedSubject byNameAndHome (.ofList [("eppn", ["anna"]), ("home", ["urn:x", "y"])]) none "anna:urn:x" :=
    .selected "n2" "https://idp.example" .transient rfl
  obtain ⟨us, vs, hus, hvs, hcolons, _⟩ := composedSubject_inj rfl h₁ h₂
  refine ⟨us, vs, hus, hvs, hcolons.mpr ?_⟩
  cases hus
  cases hvs
  rfl

/-- A colon in either of two values, and one composed id. -/
theorem composeSubjectId_collides :
    byNameAndHome.composeSubjectId (.ofList [("eppn", ["a:b"]), ("home", ["c"])]) = some "a:b:c" ∧
    byNameAndHome.composeSubjectId (.ofList [("eppn", ["a"]), ("home", ["b:c"])]) = some "a:b:c" ∧
    byNameAndHome.sourceValues (.ofList [("eppn", ["a:b"]), ("home", ["c"])]) ≠
      byNameAndHome.sourceValues (.ofList [("eppn", ["a"]), ("home", ["b:c"])]) :=
  ⟨rfl, rfl, by decide⟩

end Tunnelbana
