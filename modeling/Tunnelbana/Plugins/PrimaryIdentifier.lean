/-
`primary_identifier`: one identifier from the first candidate whose parts are
all there. Identifiers are framed, so their components can be read back
(`construct_inj`); of the components the first values and the scope can, and
the NameID unless it was skipped (`construct_separates`).
-/
import Tunnelbana.Basis.Framing
import Tunnelbana.Basis.Text
import Tunnelbana.Core.Plugin

namespace Tunnelbana

open Basis

structure Candidate where
  /-- Attributes whose first values are combined; `name_id` is the subject. -/
  attributeNames : List String
  nameIdFormat : Option String := none
  /-- A last component: itself, or the issuer for `issuer_entityid`. -/
  addScope : Option String := none
deriving DecidableEq

structure PrimaryOverrides where
  orderedIdentifierCandidates : Option (List Candidate) := none
  primaryIdentifier : Option String := none
  clearInputAttributes : Option Bool := none
  replaceSubjectId : Option Bool := none
  onError : Option String := none
  ignore : Bool := false

structure PrimaryIdentifierConfig where
  orderedIdentifierCandidates : List Candidate
  primaryIdentifier : Option String := none
  clearInputAttributes : Bool := false
  replaceSubjectId : Bool := false
  onError : Option String := none
  overrides : SortedMap PrimaryOverrides := .empty

structure Effective where
  candidates : List Candidate
  primaryIdentifier : String
  clearInputAttributes : Bool
  replaceSubjectId : Bool
  onError : Option String
  ignore : Bool

def NAME_ID : String := "name_id"
def ISSUER_ENTITYID : String := "issuer_entityid"

def SubjectType.short : SubjectType → String
  | .persistent => "persistent"
  | .transient => "transient"
  | .publicSubject => "public"
  | .pairwise => "pairwise"

/-- The format is the short name, or ends in it after its last colon. -/
def subjectTypeMatches (format : String) (subjectType : SubjectType) : Bool :=
  format = subjectType.short || String.ofList (Text.afterLast ':' format.toList) = subjectType.short

namespace Candidate

variable (c : Candidate) (data : InternalData)

/-- One more component; none where it is not there. A NameID some attribute
already asserted is left out. -/
def push (values : List String) (name : String) : Option (List String) :=
  if name = NAME_ID then
    match data.subjectId, c.nameIdFormat.any fun f => subjectTypeMatches f data.subjectType with
    | some subject, true => some (if subject ∈ values then values else values ++ [subject])
    | _, _ => none
  else (data.attrFirst name).map fun v => values ++ [v]

def pushScope (values : List String) : Option (List String) :=
  match c.addScope with
  | some scope =>
    if scope = ISSUER_ENTITYID then data.authInfo.issuer.map fun issuer => values ++ [issuer]
    else some (values ++ [scope])
  | none => some values

def components : Option (List String) := (c.attributeNames.foldlM (c.push data) []).bind (c.pushScope data)

end Candidate

/-- A versioned frame with the number of components and the length of each. -/
def frameComponents (values : List String) : String :=
  "tbpid-v1:" ++ toString values.length ++ ":" ++
    String.join (values.map fun value => toString value.utf8ByteSize ++ ":" ++ value)

namespace PrimaryIdentifier

def select (candidates : List Candidate) (data : InternalData) : Option (Candidate × List String) :=
  candidates.findSome? fun c => ((c.components data).filter (· ≠ [])).map (c, ·)

def construct (candidates : List Candidate) (data : InternalData) : Option String :=
  (select candidates data).map fun p => frameComponents p.2

end PrimaryIdentifier

/-- The service; without candidates it is not built. -/
structure PrimaryIdentifier where
  name : String
  config : PrimaryIdentifierConfig
  hasCandidates : config.orderedIdentifierCandidates ≠ []

namespace PrimaryIdentifier

def build (name : String) (config : PrimaryIdentifierConfig) : Except Error PrimaryIdentifier :=
  if h : config.orderedIdentifierCandidates ≠ [] then .ok { name, config, hasCandidates := h }
  else .error (.config ("primary_identifier " ++ name ++ ": ordered_identifier_candidates must not be empty"))

variable (p : PrimaryIdentifier)

def override (eff : Effective) (key : String) : Effective :=
  if key = "" then eff
  else
    match p.config.overrides.get key with
    | none => eff
    | some o =>
      { candidates := o.orderedIdentifierCandidates.getD eff.candidates
        primaryIdentifier := o.primaryIdentifier.getD eff.primaryIdentifier
        clearInputAttributes := o.clearInputAttributes.getD eff.clearInputAttributes
        replaceSubjectId := o.replaceSubjectId.getD eff.replaceSubjectId
        onError := o.onError.or eff.onError
        ignore := eff.ignore || o.ignore }

/-- The provider's overrides first, so the requester's win. -/
def effective (requester issuer : String) : Effective :=
  [issuer, requester].foldl p.override
    { candidates := p.config.orderedIdentifierCandidates
      primaryIdentifier := p.config.primaryIdentifier.getD "uid"
      clearInputAttributes := p.config.clearInputAttributes
      replaceSubjectId := p.config.replaceSubjectId
      onError := p.config.onError
      ignore := false }

def Effective.assign (eff : Effective) (identifier : String) (data : InternalData) : InternalData :=
  { data with
    attributes := (if eff.clearInputAttributes then .empty else data.attributes).insert eff.primaryIdentifier [identifier]
    subjectId := if eff.replaceSubjectId then some identifier else data.subjectId }

/-- `encode` writes pairs as a query string. -/
def processResponse (encode : List (String × String) → String) (data : InternalData) : Flow InternalData :=
  let requester := data.requester.getD ""
  let issuer := data.authInfo.issuer.getD ""
  let eff := p.effective requester issuer
  if eff.ignore then return data
  else
    match construct eff.candidates data, eff.onError with
    | some identifier, _ => return Effective.assign eff identifier data
    | none, some onError => do
      Flow.decorate KEY_ERROR_REDIRECT (.str (onError ++ "?" ++ encode [("sp", requester), ("idp", issuer)]))
      Flow.fail (.authn ("primary_identifier " ++ p.name ++ ": no identifier could be constructed"))
    | none, none => return data

/-- The response passes, gets its identifier, or fails with a redirect. -/
theorem processResponse_cases (encode : List (String × String) → String) (data : InternalData) (ctx : Context) :
    p.processResponse encode data ctx = (.ok data, ctx) ∨
    (∃ identifier,
      construct (p.effective (data.requester.getD "") (data.authInfo.issuer.getD "")).candidates data = some identifier ∧
      p.processResponse encode data ctx =
        (.ok (Effective.assign (p.effective (data.requester.getD "") (data.authInfo.issuer.getD "")) identifier data), ctx)) ∨
    ∃ e redirect, p.processResponse encode data ctx = (.error e, ctx.decorate KEY_ERROR_REDIRECT redirect) := by
  unfold processResponse
  by_cases hignore : (p.effective (data.requester.getD "") (data.authInfo.issuer.getD "")).ignore = true
  · simp [hignore]
  · simp only [hignore]
    cases construct (p.effective (data.requester.getD "") (data.authInfo.issuer.getD "")).candidates data with
    | some identifier => exact .inr (.inl ⟨identifier, rfl, rfl⟩)
    | none =>
      cases (p.effective (data.requester.getD "") (data.authInfo.issuer.getD "")).onError with
      | some onError => exact .inr (.inr ⟨_, _, rfl⟩)
      | none => exact .inl rfl

def microService {W : Type} (encode : List (String × String) → String) : MicroService W where
  name := p.name
  processResponse _ data := p.processResponse encode data

end PrimaryIdentifier

/-! ## Components are read back -/

theorem frameComponents_eq (values : List String) :
    frameComponents values = "tbpid-v1:" ++ counted framed values := by
  have hframed : frameComponents values =
      "tbpid-v1:" ++ toString values.length ++ ":" ++ String.join (values.map framed) := rfl
  rw [hframed]
  simp [counted, numbered, String.append_assoc]

theorem frameComponents_injective : Function.Injective frameComponents := by
  intro us vs h
  simp only [frameComponents_eq] at h
  exact readable_framed.counted.injective (append_inj_of_size rfl h).2

namespace PrimaryIdentifier

variable {candidates candidates₁ candidates₂ : List Candidate} {data data₁ data₂ : InternalData} {id : String}

/-- **Equal identifiers have equal components**, of whichever candidates. -/
theorem construct_inj (h₁ : construct candidates₁ data₁ = some id) (h₂ : construct candidates₂ data₂ = some id) :
    ∃ values, (select candidates₁ data₁).map (·.2) = some values ∧
      (select candidates₂ data₂).map (·.2) = some values := by
  obtain ⟨p₁, hp₁, hid₁⟩ := Option.map_eq_some_iff.mp h₁
  obtain ⟨p₂, hp₂, hid₂⟩ := Option.map_eq_some_iff.mp h₂
  have hvalues : p₁.2 = p₂.2 := frameComponents_injective (hid₁.trans hid₂.symm)
  refine ⟨p₁.2, ?_, ?_⟩
  · rw [hp₁]
    rfl
  · rw [hp₂, hvalues]
    rfl

/-- Two candidates that collect the same components, one of them its scope. -/
theorem construct_inj_demo :
    ∃ values, (select [{ attributeNames := ["mail"], addScope := some "x:1" }]
        (InternalData.setAttr {} "mail" "é")).map (·.2) = some values ∧
      (select [{ attributeNames := ["epuid"] }, { attributeNames := ["eppn", "home"] }]
        (InternalData.setAttr (InternalData.setAttr {} "eppn" "é") "home" "x:1")).map (·.2) = some values := by
  have h₁ : construct [{ attributeNames := ["mail"], addScope := some "x:1" }] (InternalData.setAttr {} "mail" "é") =
      some "tbpid-v1:2:2:é3:x:1" := rfl
  have h₂ : construct [{ attributeNames := ["epuid"] }, { attributeNames := ["eppn", "home"] }]
      (InternalData.setAttr (InternalData.setAttr {} "eppn" "é") "home" "x:1") = some "tbpid-v1:2:2:é3:x:1" := rfl
  exact construct_inj h₁ h₂

end PrimaryIdentifier

/-! ## What a candidate collects -/

namespace Candidate

variable {c : Candidate} {data data₁ data₂ : InternalData} {names values acc : List String}

def first (data : InternalData) (name : String) : String := (data.attrFirst name).getD ""

theorem push_attribute {name : String} (hname : name ≠ NAME_ID) (h : c.push data acc name = some values) :
    data.attrFirst name = some (first data name) ∧ values = acc ++ [first data name] := by
  unfold push at h
  rw [if_neg hname] at h
  obtain ⟨v, hv, hvalues⟩ := Option.map_eq_some_iff.mp h
  simp [first, hv, ← hvalues]

theorem push_nameId (h : c.push data acc NAME_ID = some values) :
    ∃ subject, data.subjectId = some subject ∧ values = if subject ∈ acc then acc else acc ++ [subject] := by
  unfold push at h
  rw [if_pos rfl] at h
  cases hsubject : data.subjectId with
  | none => simp [hsubject] at h
  | some subject =>
    cases hformat : c.nameIdFormat.any fun f => subjectTypeMatches f data.subjectType with
    | false => simp [hsubject, hformat] at h
    | true =>
      rw [hsubject, hformat] at h
      cases h
      exact ⟨subject, rfl, rfl⟩

theorem collect_attributes (hthere : NAME_ID ∈ names → ∀ subject, data.subjectId = some subject → subject ∈ acc)
    (h : names.foldlM (c.push data) acc = some values) :
    (∀ n ∈ names, n ≠ NAME_ID → data.attrFirst n = some (first data n)) ∧
      values = acc ++ (names.filter (· ≠ NAME_ID)).map (first data) := by
  induction names generalizing acc with
  | nil =>
    cases h
    simp
  | cons name names ih =>
    rw [List.foldlM_cons] at h
    obtain ⟨acc', hpush, hrest⟩ := Option.bind_eq_some_iff.mp h
    by_cases hname : name = NAME_ID
    · subst hname
      obtain ⟨subject, hsubject, hacc'⟩ := push_nameId hpush
      have hmem : subject ∈ acc := hthere List.mem_cons_self subject hsubject
      rw [if_pos hmem] at hacc'
      subst hacc'
      obtain ⟨hfirst, hvalues⟩ := ih (fun hn => hthere (List.mem_cons_of_mem _ hn)) hrest
      refine ⟨List.forall_mem_cons.mpr ⟨fun hne => absurd rfl hne, hfirst⟩, ?_⟩
      simpa using hvalues
    · obtain ⟨hattr, rfl⟩ := push_attribute hname hpush
      obtain ⟨hfirst, hvalues⟩ := ih (fun hn subject hsubject =>
        List.mem_append_left _ (hthere (List.mem_cons_of_mem _ hn) subject hsubject)) hrest
      refine ⟨List.forall_mem_cons.mpr ⟨fun _ => hattr, hfirst⟩, ?_⟩
      simpa [hname] using hvalues

variable (c data) in
/-- The first values of the attributes named before the NameID. -/
def preceding : List String := (c.attributeNames.takeWhile (· ≠ NAME_ID)).map (first data)

variable (c data) in
/-- The NameID is among the values asserted before it, so it is left out. -/
def SkipsNameId : Prop := ∃ subject, data.subjectId = some subject ∧ subject ∈ c.preceding data

theorem filter_ne_nameId (h : NAME_ID ∉ names) : names.filter (· ≠ NAME_ID) = names := by
  refine List.filter_eq_self.mpr fun n hn => ?_
  have hne : n ≠ NAME_ID := fun he => h (he ▸ hn)
  simpa using hne

theorem preceding_eq {before after : List String} (hnames : c.attributeNames = before ++ NAME_ID :: after)
    (hbefore : NAME_ID ∉ before) : c.preceding data = before.map (first data) := by
  unfold preceding
  rw [hnames, List.takeWhile_append_of_pos]
  · simp
  · intro n hn
    have hne : n ≠ NAME_ID := fun he => hbefore (he ▸ hn)
    simpa using hne

/-- Around the NameID: what is asserted before it, the NameID unless it is
there, and the rest. -/
theorem collect_around {before after : List String} (hbefore : NAME_ID ∉ before)
    (h : (before ++ NAME_ID :: after).foldlM (c.push data) [] = some values) :
    (∀ n ∈ before ++ NAME_ID :: after, n ≠ NAME_ID → data.attrFirst n = some (first data n)) ∧
      ∃ subject, data.subjectId = some subject ∧
        values = before.map (first data) ++ ((if subject ∈ before.map (first data) then [] else [subject]) ++
          (after.filter (· ≠ NAME_ID)).map (first data)) := by
  rw [List.foldlM_append] at h
  obtain ⟨acc, hacc, hrest⟩ := Option.bind_eq_some_iff.mp h
  obtain ⟨hfirst, hbeforeValues⟩ := collect_attributes (fun hn => absurd hn hbefore) hacc
  rw [filter_ne_nameId hbefore, List.nil_append] at hbeforeValues
  subst hbeforeValues
  rw [List.foldlM_cons] at hrest
  obtain ⟨acc', hpush, hafter⟩ := Option.bind_eq_some_iff.mp hrest
  obtain ⟨subject, hsubject, hacc'⟩ := push_nameId hpush
  have hthere : subject ∈ acc' := by
    rw [hacc']
    by_cases hmem : subject ∈ before.map (first data)
    · rw [if_pos hmem]
      exact hmem
    · rw [if_neg hmem]
      exact List.mem_append_right _ List.mem_cons_self
  obtain ⟨hfirst', hvalues⟩ := collect_attributes (fun _ s hs => (by rw [hsubject] at hs; cases hs; exact hthere)) hafter
  have hall := List.forall_mem_append.mpr ⟨hfirst, List.forall_mem_cons.mpr ⟨fun hne => absurd rfl hne, hfirst'⟩⟩
  refine ⟨hall, subject, hsubject, ?_⟩
  rw [hvalues, hacc']
  by_cases hmem : subject ∈ before.map (first data)
  · rw [if_pos hmem, if_pos hmem, List.nil_append]
  · rw [if_neg hmem, if_neg hmem, List.append_assoc]

theorem first_congr {n : String} (hfirst₁ : ∀ n ∈ names, n ≠ NAME_ID → data₁.attrFirst n = some (first data₁ n))
    (hfirst₂ : ∀ n ∈ names, n ≠ NAME_ID → data₂.attrFirst n = some (first data₂ n))
    (hsame : ∀ n ∈ names, n ≠ NAME_ID → first data₁ n = first data₂ n) (hn : n ∈ names) (hne : n ≠ NAME_ID) :
    data₁.attrFirst n = data₂.attrFirst n := by
  rw [hfirst₁ n hn hne, hfirst₂ n hn hne, hsame n hn hne]

/-- **What is collected alike has alike first values, and the same NameID
unless both leave theirs out.** -/
theorem collect_inj (h₁ : c.attributeNames.foldlM (c.push data₁) [] = some values)
    (h₂ : c.attributeNames.foldlM (c.push data₂) [] = some values) :
    (∀ n ∈ c.attributeNames, n ≠ NAME_ID → data₁.attrFirst n = data₂.attrFirst n) ∧
      (NAME_ID ∈ c.attributeNames →
        data₁.subjectId = data₂.subjectId ∨ c.SkipsNameId data₁ ∧ c.SkipsNameId data₂) := by
  by_cases hmem : NAME_ID ∈ c.attributeNames
  · obtain ⟨before, after, hnames, hbefore⟩ := List.eq_append_cons_of_mem hmem
    rw [hnames] at h₁ h₂
    obtain ⟨hfirst₁, subject₁, hsubject₁, hvalues₁⟩ := collect_around hbefore h₁
    obtain ⟨hfirst₂, subject₂, hsubject₂, hvalues₂⟩ := collect_around hbefore h₂
    have hsame := hvalues₁.symm.trans hvalues₂
    obtain ⟨hfront, hrest⟩ := List.append_inj hsame (by simp)
    -- Both lists are as long, so both hold the NameID or neither does.
    have hlength := congrArg List.length hrest
    simp only [List.length_append, List.length_map] at hlength
    obtain ⟨hnameId, hsuffix⟩ := List.append_inj hrest (by omega)
    have hvaluesOf : ∀ n ∈ before ++ NAME_ID :: after, n ≠ NAME_ID → first data₁ n = first data₂ n := by
      refine List.forall_mem_append.mpr ⟨fun n hn _ => List.map_inj_left.mp hfront n hn, ?_⟩
      refine List.forall_mem_cons.mpr ⟨fun hne => absurd rfl hne, fun n hn hne => ?_⟩
      exact List.map_inj_left.mp hsuffix n (List.mem_filter.mpr ⟨hn, by simpa using hne⟩)
    refine ⟨fun n hn hne => first_congr hfirst₁ hfirst₂ hvaluesOf (hnames ▸ hn) hne, fun _ => ?_⟩
    by_cases hskip₁ : subject₁ ∈ before.map (first data₁)
    · by_cases hskip₂ : subject₂ ∈ before.map (first data₂)
      · refine .inr ⟨⟨subject₁, hsubject₁, ?_⟩, subject₂, hsubject₂, ?_⟩
        · rw [preceding_eq hnames hbefore]
          exact hskip₁
        · rw [preceding_eq hnames hbefore]
          exact hskip₂
      · simp [hskip₁, hskip₂] at hnameId
    · by_cases hskip₂ : subject₂ ∈ before.map (first data₂)
      · simp [hskip₁, hskip₂] at hnameId
      · rw [if_neg hskip₁, if_neg hskip₂] at hnameId
        rw [hsubject₁, hsubject₂, List.singleton_inj.mp hnameId]
        exact .inl rfl
  · obtain ⟨hfirst₁, hvalues₁⟩ := collect_attributes (fun hn => absurd hn hmem) h₁
    obtain ⟨hfirst₂, hvalues₂⟩ := collect_attributes (fun hn => absurd hn hmem) h₂
    rw [filter_ne_nameId hmem] at hvalues₁ hvalues₂
    have hsame : c.attributeNames.map (first data₁) = c.attributeNames.map (first data₂) :=
      hvalues₁.symm.trans hvalues₂
    exact ⟨fun n hn hne => first_congr hfirst₁ hfirst₂ (fun k hk _ => List.map_inj_left.mp hsame k hk) hn hne,
      fun hn => absurd hn hmem⟩

/-- The scope is the last component, on top of what is collected. -/
theorem components_inj (h₁ : c.components data₁ = some values) (h₂ : c.components data₂ = some values) :
    ∃ collected, c.attributeNames.foldlM (c.push data₁) [] = some collected ∧
      c.attributeNames.foldlM (c.push data₂) [] = some collected ∧
      (c.addScope = some ISSUER_ENTITYID → data₁.authInfo.issuer = data₂.authInfo.issuer) := by
  obtain ⟨collected₁, hcollected₁, hscope₁⟩ := Option.bind_eq_some_iff.mp h₁
  obtain ⟨collected₂, hcollected₂, hscope₂⟩ := Option.bind_eq_some_iff.mp h₂
  unfold pushScope at hscope₁ hscope₂
  cases hadd : c.addScope with
  | none =>
    simp only [hadd, Option.some.injEq] at hscope₁ hscope₂
    have hsame : collected₁ = collected₂ := hscope₁.trans hscope₂.symm
    exact ⟨collected₁, hcollected₁, hsame ▸ hcollected₂, fun he => (by cases he)⟩
  | some scope =>
    by_cases hissuer : scope = ISSUER_ENTITYID
    · simp only [hadd, hissuer, if_true] at hscope₁ hscope₂
      obtain ⟨issuer₁, hissuer₁, hvalues₁⟩ := Option.map_eq_some_iff.mp hscope₁
      obtain ⟨issuer₂, hissuer₂, hvalues₂⟩ := Option.map_eq_some_iff.mp hscope₂
      obtain ⟨hsame, hlast⟩ := List.append_inj' (hvalues₁.trans hvalues₂.symm) rfl
      refine ⟨collected₁, hcollected₁, hsame ▸ hcollected₂, fun _ => ?_⟩
      rw [hissuer₁, hissuer₂, List.singleton_inj.mp hlast]
    · simp only [hadd, if_neg hissuer, Option.some.injEq] at hscope₁ hscope₂
      obtain ⟨hsame, _⟩ := List.append_inj' (hscope₁.trans hscope₂.symm) rfl
      exact ⟨collected₁, hcollected₁, hsame ▸ hcollected₂, fun he => absurd (Option.some.inj he) hissuer⟩

end Candidate

namespace PrimaryIdentifier

variable {candidates candidates₁ candidates₂ : List Candidate} {data data₁ data₂ : InternalData} {id : String}

theorem select_components {c : Candidate} {values : List String} (h : select candidates data = some (c, values)) :
    c ∈ candidates ∧ c.components data = some values := by
  obtain ⟨c', hc', hvalues⟩ := List.exists_of_findSome?_eq_some h
  obtain ⟨values', hvalues', hpair⟩ := Option.map_eq_some_iff.mp hvalues
  cases hpair
  exact ⟨hc', (Option.filter_eq_some_iff.mp hvalues').1⟩

def chosen (candidates : List Candidate) (data : InternalData) : Option Candidate := (select candidates data).map (·.1)

/-- **One candidate's identifiers tell first values, issuers and NameIDs
apart**, save NameIDs left out for a value asserted before them. -/
theorem construct_separates {c : Candidate} (hc₁ : chosen candidates₁ data₁ = some c)
    (hc₂ : chosen candidates₂ data₂ = some c) (h₁ : construct candidates₁ data₁ = some id)
    (h₂ : construct candidates₂ data₂ = some id) :
    (∀ n ∈ c.attributeNames, n ≠ NAME_ID → data₁.attrFirst n = data₂.attrFirst n) ∧
      (NAME_ID ∈ c.attributeNames →
        data₁.subjectId = data₂.subjectId ∨ c.SkipsNameId data₁ ∧ c.SkipsNameId data₂) ∧
      (c.addScope = some ISSUER_ENTITYID → data₁.authInfo.issuer = data₂.authInfo.issuer) := by
  obtain ⟨⟨_, values₁⟩, hselect₁, hcand₁⟩ := Option.map_eq_some_iff.mp hc₁
  obtain ⟨⟨_, values₂⟩, hselect₂, hcand₂⟩ := Option.map_eq_some_iff.mp hc₂
  cases hcand₁
  cases hcand₂
  unfold construct at h₁ h₂
  rw [hselect₁] at h₁
  rw [hselect₂] at h₂
  have hframes : frameComponents values₁ = frameComponents values₂ :=
    (Option.some.inj h₁).trans (Option.some.inj h₂).symm
  have hvalues := frameComponents_injective hframes
  subst hvalues
  obtain ⟨collected, hcollected₁, hcollected₂, hissuer⟩ :=
    Candidate.components_inj (select_components hselect₁).2 (select_components hselect₂).2
  obtain ⟨hfirst, hnameId⟩ := Candidate.collect_inj hcollected₁ hcollected₂
  exact ⟨hfirst, hnameId, hissuer⟩

def tripled : Candidate := { attributeNames := ["eppn", "mail", NAME_ID], nameIdFormat := some "persistent" }

def named (subject : String) : InternalData where
  subjectId := some subject
  attributes := .ofList [("eppn", ["a"]), ("mail", ["b"])]

/-- A NameID no attribute asserts, read by one candidate of two deployments. -/
theorem construct_separates_demo :
    (named "c").attrFirst "mail" = (InternalData.setAttr (named "c") "home" "x").attrFirst "mail" ∧
      ((named "c").subjectId = (InternalData.setAttr (named "c") "home" "x").subjectId ∨
        tripled.SkipsNameId (named "c") ∧ tripled.SkipsNameId (InternalData.setAttr (named "c") "home" "x")) := by
  have h₁ : construct [tripled] (named "c") = some "tbpid-v1:3:1:a1:b1:c" := rfl
  have h₂ : construct [{ attributeNames := ["epuid"] }, tripled] (InternalData.setAttr (named "c") "home" "x") =
      some "tbpid-v1:3:1:a1:b1:c" := rfl
  obtain ⟨hfirst, hnameId, _⟩ := construct_separates (c := tripled) rfl rfl h₁ h₂
  exact ⟨hfirst "mail" (by decide) (by decide), hnameId (by decide)⟩

/-- Each NameID is asserted by an attribute, and the identifiers are the same. -/
theorem construct_skips :
    construct [tripled] (named "a") = some "tbpid-v1:2:1:a1:b" ∧
      construct [tripled] (named "b") = some "tbpid-v1:2:1:a1:b" ∧
      chosen [tripled] (named "a") = some tripled ∧ chosen [tripled] (named "b") = some tripled ∧
      (named "a").subjectId ≠ (named "b").subjectId :=
  ⟨rfl, rfl, rfl, rfl, by decide⟩

end PrimaryIdentifier

end Tunnelbana
