/-
The attribute mapping of the SCIM micro-service. The service is Python: it is
handed a copy of the attribute map as it starts, reads the SAML names out of it
and maps the attributes of a stored profile itself.

It does so as the attribute mapper does (`mappedProfile_eq_toInternal`): the
mapper scans a repeated alias again where the service drops it, and a second
scan of the same values adds nothing.
-/
import Tunnelbana.Core.AttributeFacts
import Tunnelbana.Plugins.PythonService

namespace Tunnelbana

open Basis

/-! ## The map, handed over -/

def ProfileAttribute.toJson (p : ProfileAttribute) : Json :=
  .obj [("names", Json.strings p.names), ("oid", Json.optStr p.oid), ("friendly_name", Json.optStr p.friendlyName)]

namespace AttributeMapper

/-- A detached copy of the normalized map. -/
def profileMappings (m : AttributeMapper) : SortedMap (SortedMap ProfileAttribute) := m.attributes

def profileMappingsJson (m : AttributeMapper) : Json :=
  .obj (m.profileMappings.entries.map fun p => (p.1, .obj (p.2.entries.map fun q => (q.1, q.2.toJson))))

end AttributeMapper

/-- The conversion library, on what serializes to JSON: a dictionary keeps the
order of the fields. -/
structure PythonizeJson where
  pythonize : Json → PyValue
  null : pythonize .null = .none
  str : ∀ s, pythonize (.str s) = .str s
  arr : ∀ xs, pythonize (.arr xs) = .list (xs.map pythonize)
  obj : ∀ fs, Assoc.Distinct fs → pythonize (.obj fs) = .dict (fs.map fun p => (.str p.1, pythonize p.2))

mutual
def PyValue.ofJson : Json → PyValue
  | .null => .none
  | .bool b => .bool b
  | .num n => .int n
  | .str s => .str s
  | .arr xs => .list (PyValue.ofItems xs)
  | .obj fs => .dict (PyValue.ofFields fs)

def PyValue.ofItems : List Json → List PyValue
  | [] => []
  | x :: xs => PyValue.ofJson x :: PyValue.ofItems xs

def PyValue.ofFields : List (String × Json) → List (PyValue × PyValue)
  | [] => []
  | (k, x) :: fs => (.str k, PyValue.ofJson x) :: PyValue.ofFields fs
end

theorem PyValue.ofItems_eq (xs : List Json) : PyValue.ofItems xs = xs.map PyValue.ofJson := by
  induction xs with
  | nil => rfl
  | cons x xs ih => rw [PyValue.ofItems, ih, List.map_cons]

theorem PyValue.ofFields_eq (fs : List (String × Json)) :
    PyValue.ofFields fs = fs.map fun p => (.str p.1, PyValue.ofJson p.2) := by
  induction fs with
  | nil => rfl
  | cons p fs ih => rw [PyValue.ofFields, ih, List.map_cons]

def PythonizeJson.copy : PythonizeJson where
  pythonize := PyValue.ofJson
  null := rfl
  str := fun _ => rfl
  arr := by
    intro xs
    rw [PyValue.ofJson, PyValue.ofItems_eq]
  obj := by
    intro fs _
    rw [PyValue.ofJson, PyValue.ofFields_eq]

/-! ## The service -/

inductive ScimTypeError where
  | mapNotMapping
  | invalidMap
  | samlNotMapping
  | namesNotStringList
  | extraNotString
  | notStringValues (externalName : String)
deriving DecidableEq

/-- The text of the `TypeError`; `repr` quotes a string as Python does. -/
def ScimTypeError.message (repr : String → String) : ScimTypeError → String
  | .mapNotMapping => "internal_attributes must be a mapping"
  | .invalidMap => "invalid internal attribute map"
  | .samlNotMapping => "normalized SAML attribute mapping must be a mapping"
  | .namesNotStringList => "normalized SAML names must be a string list"
  | .extraNotString => "normalized SAML OID and friendly name must be strings"
  | .notStringValues externalName =>
    "SCIM profile attribute " ++ repr externalName ++ " must contain string values"

def PyValue.asStr : PyValue → Option String
  | .str s => some s
  | _ => Option.none

def stringItems (items : List PyValue) (error : ScimTypeError) : Except ScimTypeError (List String) :=
  match items.mapM PyValue.asStr with
  | some strings => pure strings
  | none => throw error

def addExtra (candidates : List String) : Option PyValue → Except ScimTypeError (List String)
  | none => pure candidates
  | some .none => pure candidates
  | some (.str extra) => pure (candidates ++ [extra])
  | some _ => throw .extraNotString

/-- The candidates of one internal attribute: its names, its OID and its
friendly name, each once. -/
def parseCandidates (saml : List (PyValue × PyValue)) : Except ScimTypeError (List String) := do
  let names ← match (PyValue.getItem "names" saml).getD (.list []) with
    | .list items => stringItems items .namesNotStringList
    | _ => throw .namesNotStringList
  let candidates ← [PyValue.getItem "oid" saml, PyValue.getItem "friendly_name" saml].foldlM addExtra names
  pure (appendNew [] candidates)

def parseProfiles (result : Assoc (List String)) : PyValue × PyValue → Except ScimTypeError (Assoc (List String))
  | (.str internalName, .dict profiles) =>
    match PyValue.getItem "saml" profiles with
    | none => pure result
    | some .none => pure result
    | some (.dict saml) => do
      let candidates ← parseCandidates saml
      pure (result.put internalName candidates)
    | some _ => throw .samlNotMapping
  | _ => throw .invalidMap

/-- The external SAML names of every internal attribute. -/
def parseInternalAttributes : PyValue → Except ScimTypeError (Assoc (List String))
  | .dict entries => entries.foldlM parseProfiles []
  | _ => throw .mapNotMapping

/-- A value of a stored profile, as far as it is looked into. -/
inductive ProfileValue where
  | str (s : String)
  | list (items : List PyValue)
  | tuple (items : List PyValue)
  | other

def attributeValues (value : ProfileValue) (externalName : String) : Except ScimTypeError (List String) :=
  match value with
  | .str s => pure [s]
  | .list items => stringItems items (.notStringValues externalName)
  | .tuple items => stringItems items (.notStringValues externalName)
  | .other => throw (.notStringValues externalName)

/-- The values of every candidate that is there, each once. -/
def candidateValues (external : Assoc ProfileValue) (candidates : List String) : Except ScimTypeError (List String) :=
  candidates.foldlM (fun values externalName =>
    match external.get externalName with
    | none => pure values
    | some value => do
      let items ← attributeValues value externalName
      pure (appendNew values items)) []

def mappedProfile (samlAttributes : Assoc (List String)) (external : Assoc ProfileValue) :
    Except ScimTypeError (Assoc (List String)) :=
  samlAttributes.foldlM (fun mapped p => do
    let values ← candidateValues external p.2
    pure (if values = [] then mapped else mapped.put p.1 values)) []

/-! ## The map is read back -/

section

variable (lib : PythonizeJson)

theorem getItem_map {α : Type} (k : String) (f : α → PyValue) (entries : Assoc α) :
    PyValue.getItem k (entries.map fun p => (.str p.1, f p.2)) = (entries.get k).map f := by
  induction entries with
  | nil => rfl
  | cons p entries ih =>
    obtain ⟨a, v⟩ := p
    by_cases ha : a = k
    · subst ha
      simp [PyValue.getItem, PyValue.isStr, Assoc.get_cons_self]
    · rw [Assoc.get_cons_other _ _ ha, ← ih]
      simp [PyValue.getItem, PyValue.isStr, ha]

theorem mapM_asStr (ss : List String) : (ss.map PyValue.str).mapM PyValue.asStr = some ss :=
  mapM_readBack fun _ _ => rfl

theorem addExtra_optStr (candidates : List String) (extra : Option String) :
    addExtra candidates (some (lib.pythonize (Json.optStr extra))) = .ok (candidates ++ extra.toList) := by
  cases extra with
  | none =>
    rw [Json.optStr, lib.null]
    simp [addExtra, pure, Except.pure]
  | some s =>
    rw [Json.optStr, lib.str]
    rfl

/-- A mapping is read back as its keys, each once. -/
theorem parseCandidates_toJson (p : ProfileAttribute) :
    ∃ fields, lib.pythonize p.toJson = .dict fields ∧ parseCandidates fields = .ok (appendNew [] p.keys) := by
  have hdistinct : Assoc.Distinct [("names", Json.strings p.names), ("oid", Json.optStr p.oid),
      ("friendly_name", Json.optStr p.friendlyName)] := by
    show List.Nodup ["names", "oid", "friendly_name"]
    decide
  refine ⟨_, lib.obj _ hdistinct, ?_⟩
  have hstrings : lib.pythonize (Json.strings p.names) = .list (p.names.map .str) := by
    rw [Json.strings, lib.arr, List.map_map]
    exact congrArg PyValue.list (List.map_congr_left fun s _ => lib.str s)
  have hget : ∀ k, PyValue.getItem k
      (List.map (fun q : String × Json => (PyValue.str q.1, lib.pythonize q.2))
        [("names", Json.strings p.names), ("oid", Json.optStr p.oid), ("friendly_name", Json.optStr p.friendlyName)]) =
      (Assoc.get k [("names", Json.strings p.names), ("oid", Json.optStr p.oid),
        ("friendly_name", Json.optStr p.friendlyName)]).map lib.pythonize := fun k => getItem_map k lib.pythonize _
  unfold parseCandidates
  simp only [hget, Assoc.get, if_true, if_false, Option.map_some, String.reduceEq, Option.getD_some, hstrings]
  simp only [stringItems, mapM_asStr, List.foldlM_cons, List.foldlM_nil, addExtra_optStr, pure_bind]
  rfl

/-- The candidates of every internal attribute that has SAML names. -/
def samlAttributes (m : AttributeMapper) : Assoc (List String) :=
  Assoc.filterMapValues (fun _ profiles => (profiles.get "saml").map fun p => appendNew [] p.keys) m.attributes.entries

theorem parseProfiles_pythonize (result : Assoc (List String)) (k : String) (profiles : SortedMap ProfileAttribute) :
    parseProfiles result (.str k, lib.pythonize (.obj (profiles.entries.map fun q => (q.1, q.2.toJson)))) =
      .ok (((profiles.get "saml").map fun p => appendNew [] p.keys).elim result fun names => result.put k names) := by
  have hdict := lib.obj _ (profiles.mapValues fun _ p => p.toJson).distinct_entries
  have hsaml : PyValue.getItem "saml"
      ((profiles.mapValues fun _ p => p.toJson).entries.map fun q => (.str q.1, lib.pythonize q.2)) =
        (profiles.get "saml").map fun p => lib.pythonize p.toJson := by
    rw [getItem_map]
    show Option.map lib.pythonize ((profiles.mapValues fun _ p => p.toJson).get "saml") = _
    rw [SortedMap.get_mapValues, Option.map_map]
    rfl
  show parseProfiles result (.str k, lib.pythonize (.obj (profiles.mapValues fun _ p => p.toJson).entries)) = _
  rw [hdict, parseProfiles, hsaml]
  cases profiles.get "saml" with
  | none => rfl
  | some p =>
    obtain ⟨fields, hfields, hcandidates⟩ := parseCandidates_toJson lib p
    simp only [Option.map_some, hfields, hcandidates]
    rfl

/-- **The service reads back what it is handed.** -/
theorem parseInternalAttributes_pythonize (m : AttributeMapper) :
    parseInternalAttributes (lib.pythonize m.profileMappingsJson) = .ok (samlAttributes m) := by
  have hdict := lib.obj _ (m.attributes.mapValues fun _ profiles =>
    Json.obj (profiles.entries.map fun q => (q.1, q.2.toJson))).distinct_entries
  show parseInternalAttributes (lib.pythonize (.obj (m.attributes.mapValues fun _ profiles =>
    Json.obj (profiles.entries.map fun q => (q.1, q.2.toJson))).entries)) = _
  rw [hdict, parseInternalAttributes, List.foldlM_map, SortedMap.mapValues, List.foldlM_map]
  have hstep : (fun result (p : String × SortedMap ProfileAttribute) => parseProfiles result
      (.str p.1, lib.pythonize (.obj (p.2.entries.map fun q => (q.1, q.2.toJson))))) =
      fun result p => pure (((p.2.get "saml").map fun p => appendNew [] p.keys).elim result fun names =>
        result.put p.1 names) := by
    funext result p
    exact parseProfiles_pythonize lib result p.1 p.2
  show m.attributes.entries.foldlM (fun result (p : String × SortedMap ProfileAttribute) => parseProfiles result
      (.str p.1, lib.pythonize (.obj (p.2.entries.map fun q => (q.1, q.2.toJson))))) [] = _
  rw [hstep, List.foldlM_pure, samlAttributes, ← Assoc.foldl_put _ m.attributes.distinct_entries]
  rfl

end

/-! ## The profile is mapped -/

/-- What a stored profile may hold: a string, or a list of them. -/
inductive ProfileText where
  | one (s : String)
  | many (ss : List String)

namespace ProfileText

def toPython : ProfileText → ProfileValue
  | .one s => .str s
  | .many ss => .list (ss.map .str)

def values : ProfileText → List String
  | .one s => [s]
  | .many ss => ss

theorem attributeValues_toPython (text : ProfileText) (externalName : String) :
    attributeValues text.toPython externalName = .ok text.values := by
  cases text with
  | one s => rfl
  | many ss =>
    simp only [attributeValues, toPython, stringItems, mapM_asStr]
    rfl

end ProfileText

structure ExternalProfile where
  attributes : Assoc ProfileText
  distinct : attributes.Distinct

namespace ExternalProfile

def toPython (external : ExternalProfile) : Assoc ProfileValue := external.attributes.map fun p => (p.1, p.2.toPython)

def toRust (external : ExternalProfile) : SortedMap (List String) :=
  SortedMap.ofList (external.attributes.map fun p => (p.1, p.2.values))

variable (external : ExternalProfile)

theorem get_toPython (k : String) : external.toPython.get k = (external.attributes.get k).map ProfileText.toPython :=
  Assoc.get_map (fun _ text => ProfileText.toPython text) external.attributes k

theorem get_toRust (k : String) : external.toRust.get k = (external.attributes.get k).map ProfileText.values := by
  have hdistinct : Assoc.Distinct (external.attributes.map fun p => (p.1, p.2.values)) := by
    have hkeys : Assoc.keys (external.attributes.map fun p => (p.1, p.2.values)) = external.attributes.keys := by
      simp [Assoc.keys, Function.comp_def]
    unfold Assoc.Distinct
    rw [hkeys]
    exact external.distinct
  have hget : external.toRust.get k =
      (Assoc.get k (external.attributes.map fun p => (p.1, p.2.values))).or (SortedMap.empty.get k) :=
    SortedMap.get_extend hdistinct .empty k
  rw [hget, SortedMap.get_empty, Option.or_none]
  exact Assoc.get_map (fun _ text => ProfileText.values text) external.attributes k

/-- The values of every external attribute of a list, each once. -/
def gather (candidates : List String) : List String :=
  candidates.foldl (fun values k => appendNew values ((external.toRust.get k).getD [])) []

theorem candidateValues_toPython (candidates : List String) :
    candidateValues external.toPython candidates = .ok (external.gather candidates) := by
  have hstep : (fun (values : List String) externalName =>
      match external.toPython.get externalName with
      | none => (pure values : Except ScimTypeError (List String))
      | some value => do
        let items ← attributeValues value externalName
        pure (appendNew values items)) =
      fun values k => pure (appendNew values ((external.toRust.get k).getD [])) := by
    funext values k
    rw [get_toPython, get_toRust]
    cases external.attributes.get k with
    | none => rfl
    | some text =>
      simp only [Option.map_some, ProfileText.attributeValues_toPython]
      rfl
  unfold candidateValues
  refine Eq.trans (congrArg (fun step => candidates.foldlM step []) hstep) ?_
  rw [List.foldlM_pure]
  rfl

/-- **An alias dropped is not missed**: the candidates have the values the mapper
collects. -/
theorem gather_keys (p : ProfileAttribute) : external.gather (appendNew [] p.keys) = p.collect external.toRust := by
  unfold gather
  rw [foldl_appendNew_keys]
  rfl

theorem mappedProfile_toPython {samlAttributes : Assoc (List String)} (h : samlAttributes.Distinct) :
    mappedProfile samlAttributes external.toPython =
      .ok (Assoc.filterMapValues (fun _ candidates => (some (external.gather candidates)).filter (· ≠ []))
        samlAttributes) := by
  have hstep : (fun (mapped : Assoc (List String)) (p : String × List String) => do
      let values ← candidateValues external.toPython p.2
      pure (if values = [] then mapped else mapped.put p.1 values)) =
      fun mapped p => (pure (((some (external.gather p.2)).filter (· ≠ [])).elim mapped fun values =>
        mapped.put p.1 values) : Except ScimTypeError (Assoc (List String))) := by
    funext mapped p
    rw [candidateValues_toPython]
    show Except.ok _ = Except.ok _
    by_cases hempty : external.gather p.2 = [] <;> simp [hempty, Option.filter]
  unfold mappedProfile
  rw [hstep, List.foldlM_pure, ← Assoc.foldl_put _ h]
  rfl

end ExternalProfile

/-- **The service maps a profile as the attribute mapper does**: the same
internal attributes, in the same order, with the same values in the same order. -/
theorem mappedProfile_eq_toInternal (lib : PythonizeJson) (m : AttributeMapper) (external : ExternalProfile) :
    ((parseInternalAttributes (lib.pythonize m.profileMappingsJson)).bind fun samlAttributes =>
      mappedProfile samlAttributes external.toPython) = .ok (m.toInternal "saml" external.toRust).entries := by
  rw [parseInternalAttributes_pythonize]
  have hdistinct : (samlAttributes m).Distinct := m.attributes.distinct_entries.filterMapValues _
  show mappedProfile (samlAttributes m) external.toPython = _
  rw [external.mappedProfile_toPython hdistinct, AttributeMapper.entries_toInternal, samlAttributes,
    Assoc.filterMapValues_filterMapValues]
  congr 2
  funext k profiles
  cases profiles.get "saml" with
  | none => rfl
  | some p =>
    simp only [Option.map_some, Option.bind_some, external.gather_keys]

/-- A mapping that names one attribute twice, and a profile with a scalar. -/
theorem mappedProfile_eq_toInternal_alias :
    ((parseInternalAttributes (PythonizeJson.copy.pythonize (AttributeMapper.profileMappingsJson
        { attributes := SortedMap.empty.insert "address"
            (SortedMap.empty.insert "saml" { names := ["mail", "email"], friendlyName := some "mail" }) }))).bind
      fun samlAttributes => mappedProfile samlAttributes
        [("email", .list [.str "a", .str "b", .str "a"]), ("mail", .str "b")]) = .ok [("address", ["b", "a"])] := by
  have hagree := mappedProfile_eq_toInternal .copy
    { attributes := SortedMap.empty.insert "address"
        (SortedMap.empty.insert "saml" { names := ["mail", "email"], friendlyName := some "mail" }) }
    ⟨[("email", .many ["a", "b", "a"]), ("mail", .one "b")], by
      show List.Nodup ["email", "mail"]
      decide⟩
  refine Eq.trans hagree ?_
  decide

end Tunnelbana
