/-
What passing unmapped attributes on changes. No internal attribute of the map
gets another value by it, whatever a provider calls its attributes. A subject id
composed of attributes may: a source the map does not define is read from the
attribute passed on under its name. It is the same exactly when no sources are
completed so (`passthrough_neutral_iff`).
-/
import Tunnelbana.Plugins.AttributeIngestion

namespace Tunnelbana

open Basis

def SamlWorld.LowersOnce (w : SamlWorld) : Prop := ∀ s, w.toLowercase (w.toLowercase s) = w.toLowercase s

namespace Saml2Backend

variable (b : Saml2Backend) (w : SamlWorld)

/-- The backend with unmapped attributes passed on, or not. -/
def passing (on : Bool) : Saml2Backend := { b with passthroughUnmappedAttributes := on }

/-- The map knows the attribute, under its name or its friendly name in any
letter case. -/
def Known (a : SamlAttribute) : Prop :=
  w.toLowercase a.name ∈ (b.mapper.externalNames "saml").map w.toLowercase ∨
    ∃ friendly ∈ a.friendlyName, w.toLowercase friendly ∈ (b.mapper.externalNames "saml").map w.toLowercase

def passKey (a : SamlAttribute) : String := w.toLowercase (a.friendlyName.getD a.name)

/-- The map defines an internal attribute of that name, in any profile. -/
def Defined (key : String) : Prop := key ∈ b.mapper.attributes.entries.map fun p => w.toLowercase p.1

instance (a : SamlAttribute) : Decidable (b.Known w a) := inferInstanceAs (Decidable (_ ∨ _))

instance (key : String) : Decidable (b.Defined w key) := inferInstanceAs (Decidable (_ ∈ _))

/-- The attribute passed on under a key: the first unknown one with values. -/
def passedOn (attributes : List SamlAttribute) (key : String) : Option SamlAttribute :=
  if b.Defined w key then none
  else attributes.find? fun a => ¬ b.Known w a ∧ a.strings ≠ [] ∧ passKey w a = key

variable {b w}

theorem passAttribute_eq (internal : SortedMap (List String)) (a : SamlAttribute) :
    passAttribute w ((b.mapper.externalNames "saml").map w.toLowercase)
        (b.mapper.attributes.entries.map fun p => w.toLowercase p.1) internal a =
      if b.Known w a ∨ a.strings = [] ∨ internal.contains (passKey w a) ∨ b.Defined w (passKey w a) then internal
      else internal.insert (passKey w a) (appendNew [] a.strings) := by
  have hknown : (((b.mapper.externalNames "saml").map w.toLowercase).contains (w.toLowercase a.name) ||
      a.friendlyName.any fun f => ((b.mapper.externalNames "saml").map w.toLowercase).contains (w.toLowercase f)) =
        decide (b.Known w a) := by
    rw [Bool.eq_iff_iff, decide_eq_true_iff, Bool.or_eq_true, List.contains_iff_mem, Option.any_eq_true]
    unfold Known
    simp only [List.contains_iff_mem, Option.mem_def]
  unfold passAttribute
  simp only [hknown]
  refine if_congr ?_ rfl rfl
  simp only [Bool.or_eq_true, decide_eq_true_iff, List.contains_iff_mem, or_assoc]
  rfl

theorem passedOn_cons (a : SamlAttribute) (attributes : List SamlAttribute) (key : String) :
    b.passedOn w (a :: attributes) key =
      if b.Defined w key then none
      else if ¬ b.Known w a ∧ a.strings ≠ [] ∧ passKey w a = key then some a else b.passedOn w attributes key := by
  unfold passedOn
  rw [List.find?_cons]
  by_cases hdefined : b.Defined w key
  · simp [hdefined]
  · by_cases htakes : ¬ b.Known w a ∧ a.strings ≠ [] ∧ passKey w a = key
    · simp [hdefined, htakes]
    · simp [hdefined, htakes]

/-- **An unmapped attribute is passed on under a free key alone**, the first of
its key. -/
theorem get_passedOn (attributes : List SamlAttribute) (internal : SortedMap (List String)) (key : String) :
    (attributes.foldl (passAttribute w ((b.mapper.externalNames "saml").map w.toLowercase)
        (b.mapper.attributes.entries.map fun p => w.toLowercase p.1)) internal).get key =
      (internal.get key).or ((b.passedOn w attributes key).map fun a => appendNew [] a.strings) := by
  induction attributes generalizing internal with
  | nil =>
    unfold passedOn
    split <;> simp
  | cons a attributes ih =>
    rw [List.foldl_cons, ih, passAttribute_eq, passedOn_cons]
    by_cases hskips : b.Known w a ∨ a.strings = [] ∨ internal.contains (passKey w a) ∨ b.Defined w (passKey w a)
    · rw [if_pos hskips]
      cases hget : internal.get key with
      | some values => rfl
      | none =>
        have hfree : ¬ (passKey w a = key ∧ internal.contains (passKey w a) = true) := by
          rintro ⟨hkey, hcontains⟩
          unfold SortedMap.contains at hcontains
          rw [hkey, hget] at hcontains
          cases hcontains
        by_cases hdefined : b.Defined w key
        · simp [hdefined, passedOn]
        · have hleft : ¬ (¬ b.Known w a ∧ a.strings ≠ [] ∧ passKey w a = key) := by
            rintro ⟨hunknown, hvalues, hkey⟩
            rcases hskips with h | h | h | h
            · exact hunknown h
            · exact hvalues h
            · exact hfree ⟨hkey, h⟩
            · exact hdefined (hkey ▸ h)
          rw [if_neg hdefined, if_neg hleft]
    · rw [if_neg hskips, SortedMap.get_insert]
      obtain ⟨hunknown, hvalues, hcontains, hundefined⟩ :
          ¬ b.Known w a ∧ a.strings ≠ [] ∧ ¬ internal.contains (passKey w a) ∧ ¬ b.Defined w (passKey w a) := by
        simpa only [not_or] using hskips
      by_cases hkey : passKey w a = key
      · subst hkey
        have hnone : internal.get (passKey w a) = none := by
          unfold SortedMap.contains at hcontains
          simpa using hcontains
        rw [if_pos rfl, if_neg hundefined, if_pos ⟨hunknown, hvalues, rfl⟩, hnone]
        rfl
      · rw [if_neg hkey]
        by_cases hdefined : b.Defined w key
        · simp [hdefined, passedOn]
        · rw [if_neg hdefined, if_neg fun h => hkey h.2.2]

/-! ## The two runs -/

variable {on : Bool} {ctx ctx' : Context} {data data' : InternalData}

theorem spliceEncrypted_passing (on : Bool) (v : SamlVerifier) (envelope : Bool) (ids : List String)
    (encrypted : List Utf8) :
    (b.passing on).spliceEncrypted w v envelope ids encrypted = b.spliceEncrypted w v envelope ids encrypted := by
  induction encrypted generalizing ids with
  | nil => rfl
  | cons e encrypted ih =>
    unfold spliceEncrypted
    simp only [ih]
    rfl

/-- Whether unmapped attributes are passed on is read after everything else. -/
theorem readMessage_passing (on : Bool) (request : HttpRequestData) (v : SamlVerifier) (expected : String) :
    (b.passing on).readMessage w request v expected = b.readMessage w request v expected := by
  have hparse : ∀ xml, (b.passing on).parseResponse w xml expected = b.parseResponse w xml expected := fun _ => rfl
  unfold readMessage
  simp only [hparse, spliceEncrypted_passing]
  rfl

theorem extractIdentity_passing (on' : Bool) {response : SamlResponse}
    (h : (b.passing on).extractIdentity w response = .ok data) :
    ∃ data', (b.passing on').extractIdentity w response = .ok data' := by
  unfold extractIdentity at h ⊢
  cases hassertion : response.assertions.find? fun a => a.authnStatements ≠ [] with
  | none =>
    rw [hassertion] at h
    cases h
  | some assertion =>
    rw [hassertion] at h
    obtain ⟨nid, hnid, _⟩ := except_bind_ok.mp h
    exact ⟨_, except_bind_ok.mpr ⟨nid, hnid, rfl⟩⟩

theorem handleAcs_passing (on' : Bool) (h : (b.passing on).handleAcs w ctx = (.ok (.authResponse data), ctx')) :
    ∃ data', (b.passing on').handleAcs w ctx = (.ok (.authResponse data'), ctx') := by
  obtain ⟨⟨v, expected, scopes, policyValues⟩, hidp, hprocess⟩ := Action.lift_bind_ok.mp h
  unfold processAcs at hprocess
  simp only [Flow.context, Action.read_bind_run, readMessage_passing] at hprocess
  obtain ⟨m, hread, hprocess⟩ := Action.lift_bind_ok.mp hprocess
  obtain ⟨_, ctx₁, hstatus, hprocess⟩ := Action.bind_ok.mp hprocess
  obtain ⟨_, ctx₂, hassertions, hprocess⟩ := Action.bind_ok.mp hprocess
  obtain ⟨expectedId, hexpected, hprocess⟩ := Action.lift_bind_ok.mp hprocess
  obtain ⟨_, hvalid, hprocess⟩ := Action.lift_bind_ok.mp hprocess
  obtain ⟨read, hextract, hprocess⟩ := Action.lift_bind_ok.mp hprocess
  obtain ⟨read', hextract'⟩ := extractIdentity_passing on' hextract
  cases hprocess
  refine ⟨read', Action.lift_bind_ok.mpr ⟨_, hidp, ?_⟩⟩
  unfold processAcs
  simp only [Flow.context, Action.read_bind_run, readMessage_passing]
  refine Action.lift_bind_ok.mpr ⟨m, hread, Action.bind_ok.mpr ⟨_, ctx₁, hstatus, ?_⟩⟩
  refine Action.bind_ok.mpr ⟨_, ctx₂, hassertions, Action.lift_bind_ok.mpr ⟨expectedId, hexpected, ?_⟩⟩
  exact Action.lift_bind_ok.mpr ⟨_, hvalid, Action.lift_bind_ok.mpr ⟨read', hextract', rfl⟩⟩

theorem identitySource_passing (on : Bool) : (b.passing on).identitySource w ctx = b.identitySource w ctx := by
  unfold identitySource
  simp only [readMessage_passing]
  rfl

/-! ## The sources of a subject id -/

/-- The mapped value of a subject-id source. -/
def mappedSource (b : Saml2Backend) (attributes : List SamlAttribute) (name : String) : Option String :=
  (b.mapper.mapped "saml" (externalAttributes attributes) name).bind List.head?

/-- Its value where unmapped attributes are passed on. -/
def source (b : Saml2Backend) (w : SamlWorld) (attributes : List SamlAttribute) (name : String) : Option String :=
  (b.mappedSource attributes name).or ((b.passedOn w attributes name).bind fun a => a.strings.head?)

theorem get_passing_false (attributes : List SamlAttribute) (n : String) :
    ((b.passing false).internalAttributes w attributes).get n =
      b.mapper.mapped "saml" (externalAttributes attributes) n :=
  AttributeMapper.get_toInternal b.mapper "saml" _ n

theorem get_passing_true (attributes : List SamlAttribute) (n : String) :
    ((b.passing true).internalAttributes w attributes).get n =
      (b.mapper.mapped "saml" (externalAttributes attributes) n).or
        ((b.passedOn w attributes n).map fun a => appendNew [] a.strings) := by
  rw [← AttributeMapper.get_toInternal]
  exact get_passedOn attributes _ n

/-- **Nothing is passed on as an internal attribute of the map.** -/
theorem passedOn_defined (hl : w.LowersOnce) {n : String} (h : b.mapper.attributes.get n ≠ none)
    (attributes : List SamlAttribute) : b.passedOn w attributes n = none := by
  cases hpassed : b.passedOn w attributes n with
  | none => rfl
  | some a =>
    unfold passedOn at hpassed
    split at hpassed
    · cases hpassed
    next hundefined =>
      have hfound := List.find?_some hpassed
      have hkey : passKey w a = n := (of_decide_eq_true hfound).2.2
      obtain ⟨profiles, hget⟩ := Option.ne_none_iff_exists'.mp h
      refine absurd (List.mem_map.mpr ⟨(n, profiles), SortedMap.get_eq_some.mp hget, ?_⟩) hundefined
      show w.toLowercase n = n
      rw [← hkey]
      exact hl _

theorem source_of_mapped {attributes : List SamlAttribute} {name value : String}
    (h : b.mappedSource attributes name = some value) : b.source w attributes name = some value := by
  unfold source
  rw [h]
  rfl

theorem head_passing_true (attributes : List SamlAttribute) (name : String) :
    (((b.passing true).internalAttributes w attributes).get name).bind List.head? = b.source w attributes name := by
  rw [get_passing_true]
  unfold source mappedSource
  cases hmapped : b.mapper.mapped "saml" (externalAttributes attributes) name with
  | none =>
    cases b.passedOn w attributes name with
    | none => rfl
    | some a => exact head?_appendNew_nil a.strings
  | some values =>
    have hvalues : values ≠ [] := AttributeMapper.mapped_ne_nil hmapped
    cases values with
    | nil => exact absurd rfl hvalues
    | cons v values => rfl

/-- Every source has a value when unmapped attributes are passed on, and some
had none: an identifier is composed that the map alone did not give. -/
structure Completes (b : Saml2Backend) (w : SamlWorld) (attributes : List SamlAttribute) (composed : String) : Prop where
  dynamic : b.isDynamicIdpSelection = true
  missing : ∃ name ∈ b.mapper.userIdFromAttrs, b.mappedSource attributes name = none
  composed : ∃ values, b.mapper.userIdFromAttrs.mapM (b.source w attributes) = some values ∧
    composed = String.intercalate ":" values

/-- The identifier where none is composed, before the issuer scopes all. -/
def unsourced (b : Saml2Backend) (issuer : String) (nid : NameId) : String :=
  if b.scopeSubjectIdByIssuer = false ∧ subjectTypeFromNameIdFormat nid.format = .persistent then
    scopeSubjectId issuer nid.value
  else nid.value

/-- No source is completed, or it makes no difference. -/
def SourcesKept (b : Saml2Backend) (w : SamlWorld) (ctx : Context) : Prop :=
  ∀ response assertion nid composed, b.identitySource w ctx = .ok (response, assertion, nid) →
    b.Completes w (b.consumed w ctx) composed → composed = b.unsourced assertion.issuer nid

/-- Every internal attribute of the map has the same values, and the subject id
is the same. -/
structure Unaffected (m : AttributeMapper) (data data' : InternalData) : Prop where
  attributes : ∀ n, m.attributes.get n ≠ none → data'.attributes.get n = data.attributes.get n
  subject : data'.subjectId = data.subjectId

theorem mapM_eq_none {names : List String} {f : String → Option String} :
    names.mapM f = none ↔ ∃ name ∈ names, f name = none := by
  induction names with
  | nil => simp
  | cons name names ih =>
    rw [List.mapM_cons]
    cases hname : f name with
    | none => simp [hname]
    | some value =>
      have hrest : (do let rest ← names.mapM f; pure (value :: rest)) = none ↔ names.mapM f = none := by
        cases names.mapM f <;> simp
      simp only [Option.bind_eq_bind, Option.bind_some] at hrest ⊢
      rw [hrest, ih]
      simp [hname]

theorem mapM_eq_some_of_imp {names values : List String} {f g : String → Option String}
    (h : ∀ name value, f name = some value → g name = some value) (hf : names.mapM f = some values) :
    names.mapM g = some values := by
  induction names generalizing values with
  | nil => exact hf
  | cons name names ih =>
    rw [List.mapM_cons] at hf ⊢
    obtain ⟨value, hvalue, hf⟩ := Option.bind_eq_some_iff.mp hf
    obtain ⟨rest, hrest, hret⟩ := Option.bind_eq_some_iff.mp hf
    exact Option.bind_eq_some_iff.mpr ⟨value, h _ _ hvalue, Option.bind_eq_some_iff.mpr ⟨rest, ih hrest, hret⟩⟩

theorem scopeSubjectId_inj {issuer s t : String} : scopeSubjectId issuer s = scopeSubjectId issuer t ↔ s = t := by
  constructor
  · intro h
    have hlist := congrArg String.toList h
    simp only [scopeSubjectId, String.toList_append] at hlist
    exact String.toList_inj.mp (List.append_cancel_left hlist)
  · rintro rfl
    rfl

theorem compose_passing_false (attributes : List SamlAttribute) (h : b.mapper.userIdFromAttrs ≠ []) :
    b.mapper.composeSubjectId ((b.passing false).internalAttributes w attributes) =
      (b.mapper.userIdFromAttrs.mapM (b.mappedSource attributes)).map (String.intercalate ":") := by
  have hsources : (fun name => (((b.passing false).internalAttributes w attributes).get name).bind List.head?) =
      b.mappedSource attributes := funext fun name => by rw [get_passing_false]; rfl
  rw [AttributeMapper.composeSubjectId_eq h, hsources]

theorem compose_passing_true (attributes : List SamlAttribute) (h : b.mapper.userIdFromAttrs ≠ []) :
    b.mapper.composeSubjectId ((b.passing true).internalAttributes w attributes) =
      (b.mapper.userIdFromAttrs.mapM (b.source w attributes)).map (String.intercalate ":") := by
  have hsources : (fun name => (((b.passing true).internalAttributes w attributes).get name).bind List.head?) =
      b.source w attributes := funext fun name => head_passing_true attributes name
  rw [AttributeMapper.composeSubjectId_eq h, hsources]

/-- Composed or not, the identifiers differ where `unsourced` does. -/
theorem selectSubjectId_composed {internal internal' : SortedMap (List String)} {issuer composed : String} {nid : NameId}
    (hon : b.mapper.composeSubjectId internal' = some composed) (hoff : b.mapper.composeSubjectId internal = none) :
    selectSubjectId b.mapper internal' nid.value issuer true (subjectTypeFromNameIdFormat nid.format)
        b.scopeSubjectIdByIssuer =
      selectSubjectId b.mapper internal nid.value issuer true (subjectTypeFromNameIdFormat nid.format)
        b.scopeSubjectIdByIssuer ↔ composed = b.unsourced issuer nid := by
  unfold selectSubjectId unsourced
  rw [hon, hoff]
  cases b.scopeSubjectIdByIssuer with
  | true =>
    simp only [if_true, Option.getD_some, Option.getD_none, Bool.true_eq_false, false_and, if_false]
    exact scopeSubjectId_inj
  | false => simp

/-- **The subject id is the same exactly when no source is completed.** -/
theorem selectSubjectId_passing_iff (b : Saml2Backend) (w : SamlWorld) (attributes : List SamlAttribute)
    (issuer : String) (nid : NameId) :
    selectSubjectId b.mapper ((b.passing true).internalAttributes w attributes) nid.value issuer
        b.isDynamicIdpSelection (subjectTypeFromNameIdFormat nid.format) b.scopeSubjectIdByIssuer =
      selectSubjectId b.mapper ((b.passing false).internalAttributes w attributes) nid.value issuer
        b.isDynamicIdpSelection (subjectTypeFromNameIdFormat nid.format) b.scopeSubjectIdByIssuer ↔
      ∀ composed, b.Completes w attributes composed → composed = b.unsourced issuer nid := by
  cases hdynamic : b.isDynamicIdpSelection with
  | false =>
    refine ⟨fun _ composed hcompletes => ?_, fun _ => rfl⟩
    have hstatic := hcompletes.dynamic
    rw [hdynamic] at hstatic
    cases hstatic
  | true =>
    -- Where the same identifier is composed, or none, nothing is completed.
    have hsame : b.mapper.composeSubjectId ((b.passing true).internalAttributes w attributes) =
        b.mapper.composeSubjectId ((b.passing false).internalAttributes w attributes) →
        (∀ composed, ¬ b.Completes w attributes composed) →
        (selectSubjectId b.mapper ((b.passing true).internalAttributes w attributes) nid.value issuer true
            (subjectTypeFromNameIdFormat nid.format) b.scopeSubjectIdByIssuer =
          selectSubjectId b.mapper ((b.passing false).internalAttributes w attributes) nid.value issuer true
            (subjectTypeFromNameIdFormat nid.format) b.scopeSubjectIdByIssuer ↔
          ∀ composed, b.Completes w attributes composed → composed = b.unsourced issuer nid) := by
      intro hcompose hnever
      refine ⟨fun _ composed hcompletes => absurd hcompletes (hnever composed), fun _ => ?_⟩
      unfold selectSubjectId
      rw [hcompose]
    by_cases hnames : b.mapper.userIdFromAttrs = []
    · refine hsame ?_ fun composed hcompletes => ?_
      · unfold AttributeMapper.composeSubjectId
        rw [if_pos hnames, if_pos hnames]
      · obtain ⟨name, hmem, _⟩ := hcompletes.missing
        rw [hnames] at hmem
        cases hmem
    · cases hmapped : b.mapper.userIdFromAttrs.mapM (b.mappedSource attributes) with
      | some values =>
        have hsources := mapM_eq_some_of_imp (fun _ _ h => source_of_mapped (w := w) h) hmapped
        refine hsame ?_ fun composed hcompletes => ?_
        · rw [compose_passing_true _ hnames, compose_passing_false _ hnames, hsources, hmapped]
        · rw [mapM_eq_none.mpr hcompletes.missing] at hmapped
          cases hmapped
      | none =>
        cases hsources : b.mapper.userIdFromAttrs.mapM (b.source w attributes) with
        | none =>
          refine hsame ?_ fun composed hcompletes => ?_
          · rw [compose_passing_true _ hnames, compose_passing_false _ hnames, hsources, hmapped]
          · obtain ⟨values, hvalues, _⟩ := hcompletes.composed
            rw [hsources] at hvalues
            cases hvalues
        | some values =>
          have hon := compose_passing_true (w := w) attributes hnames
          have hoff := compose_passing_false (w := w) attributes hnames
          rw [hsources, Option.map_some] at hon
          rw [hmapped, Option.map_none] at hoff
          rw [selectSubjectId_composed hon hoff]
          constructor
          · intro heq composed hcompletes
            obtain ⟨values', hvalues', rfl⟩ := hcompletes.composed
            cases hsources.symm.trans hvalues'
            exact heq
          · exact fun h => h _ ⟨hdynamic, mapM_eq_none.mp hmapped, values, hsources, rfl⟩

theorem handleAcs_passing_identity (h : (b.passing on).handleAcs w ctx = (.ok (.authResponse data), ctx')) :
    ∃ response assertion nid, b.identitySource w ctx = .ok (response, assertion, nid) ∧
      data.attributes = (b.passing on).internalAttributes w (b.consumed w ctx) ∧
      data.subjectId = some (selectSubjectId b.mapper ((b.passing on).internalAttributes w (b.consumed w ctx))
        nid.value assertion.issuer b.isDynamicIdpSelection (subjectTypeFromNameIdFormat nid.format)
        b.scopeSubjectIdByIssuer) := by
  obtain ⟨response, assertion, nid, hsource, _, hattributes, hsubject⟩ := handleAcs_identity (congrArg Prod.fst h)
  rw [identitySource_passing] at hsource
  have hconsumed : (b.passing on).consumed w ctx = b.consumed w ctx := by
    unfold consumed
    rw [identitySource_passing]
    rfl
  rw [hconsumed] at hattributes
  rw [hattributes] at hsubject
  exact ⟨response, assertion, nid, hsource, hattributes, hsubject⟩

/-- **Passing unmapped attributes on leaves every internal attribute of the map,
and the subject id exactly when no source of it is completed.** -/
theorem passthrough_neutral_iff {b : Saml2Backend} {w : SamlWorld} {ctx ctx' : Context} {data : InternalData}
    (hl : w.LowersOnce) (h : (b.passing false).handleAcs w ctx = (.ok (.authResponse data), ctx')) :
    (∃ data', (b.passing true).handleAcs w ctx = (.ok (.authResponse data'), ctx') ∧
      Unaffected b.mapper data data') ↔ b.SourcesKept w ctx := by
  obtain ⟨response, assertion, nid, hsource, hattributes, hsubject⟩ := handleAcs_passing_identity h
  obtain ⟨data', haccepts⟩ := handleAcs_passing true h
  obtain ⟨_, _, _, hsource', hattributes', hsubject'⟩ := handleAcs_passing_identity haccepts
  cases hsource.symm.trans hsource'
  have hselect := selectSubjectId_passing_iff b w (b.consumed w ctx) assertion.issuer nid
  constructor
  · rintro ⟨data'', haccepts', hsame⟩ response' assertion' nid' composed hread hcompletes
    cases hsource.symm.trans hread
    cases haccepts.symm.trans haccepts'
    have hsubjects := hsame.subject
    rw [hsubject, hsubject'] at hsubjects
    exact hselect.mp (Option.some.inj hsubjects) composed hcompletes
  · intro hkept
    refine ⟨data', haccepts, fun n hn => ?_, ?_⟩
    · rw [hattributes, hattributes', get_passing_true, get_passing_false, passedOn_defined hl hn, Option.map_none,
        Option.or_none]
    · rw [hsubject, hsubject', hselect.mpr fun composed => hkept response assertion nid composed hsource]

/-- Sources the map defines are never completed. -/
theorem sourcesKept_of_defined (hl : w.LowersOnce)
    (h : ∀ name ∈ b.mapper.userIdFromAttrs, b.mapper.attributes.get name ≠ none) (ctx : Context) :
    b.SourcesKept w ctx := by
  intro response assertion nid composed _ hcompletes
  obtain ⟨name, hmem, hmissing⟩ := hcompletes.missing
  obtain ⟨values, hvalues, _⟩ := hcompletes.composed
  have hnone : b.source w (b.consumed w ctx) name = none := by
    unfold source
    rw [hmissing, passedOn_defined hl (h name hmem)]
    rfl
  rw [mapM_eq_none.mpr ⟨name, hmem, hnone⟩] at hvalues
  cases hvalues

/-! ## An unmapped source -/

/-- The map defines `mail` alone; the IdP is chosen for each flow. -/
def sourcingBackend (source : String) : Saml2Backend :=
  { mailingBackend with
    idpMetadata := .mdq
    mapper := { mailingBackend.mapper with userIdFromAttrs := [source] } }

def carryingUid : SamlWorld :=
  carrying [[mailNamed "mail" "a@example.org", { name := "uid", values := [.string "victim"] }]]

theorem carryingUid_lowersOnce : carryingUid.LowersOnce := fun _ => rfl

/-- With a source the map defines passing on changes nothing. -/
theorem passthrough_neutral_mapped :
    ∃ data ctx', ((sourcingBackend "mail").passing false).handleAcs carryingUid answeredContext =
        (.ok (.authResponse data), ctx') ∧
      ∃ data', ((sourcingBackend "mail").passing true).handleAcs carryingUid answeredContext =
          (.ok (.authResponse data'), ctx') ∧
        Unaffected (sourcingBackend "mail").mapper data data' := by
  obtain ⟨data, ctx', haccepts⟩ : ∃ data ctx', ((sourcingBackend "mail").passing false).handleAcs carryingUid
      answeredContext = (.ok (.authResponse data), ctx') := ⟨_, _, rfl⟩
  refine ⟨data, ctx', haccepts, (passthrough_neutral_iff carryingUid_lowersOnce haccepts).mpr ?_⟩
  refine sourcesKept_of_defined carryingUid_lowersOnce (fun name hname => ?_) answeredContext
  have hmail : name = "mail" := List.mem_singleton.mp hname
  subst hmail
  exact fun hnone => by cases hnone

/-- With `uid` for a source the provider chooses the subject id. -/
theorem passthrough_completes_uid :
    ¬ ∀ data ctx', ((sourcingBackend "uid").passing false).handleAcs carryingUid answeredContext =
        (.ok (.authResponse data), ctx') →
      ∃ data', ((sourcingBackend "uid").passing true).handleAcs carryingUid answeredContext =
          (.ok (.authResponse data'), ctx') ∧
        Unaffected (sourcingBackend "uid").mapper data data' := by
  intro h
  obtain ⟨data', haccepts, hsame⟩ := h _ _ rfl
  cases haccepts
  exact absurd hsame.subject (by decide)

end Saml2Backend

end Tunnelbana
