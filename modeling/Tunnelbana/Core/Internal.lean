/-
The protocol-agnostic data frontends and backends exchange, and its JSON form
in the state cookie. Reading back what was written gives the data again
(`InternalData.fromJson_toJson`): a flow that is suspended resumes with the
request it was suspended with.
-/
import Tunnelbana.Basis.Json
import Tunnelbana.Basis.SortedMap

namespace Tunnelbana

open Basis

/-! ## Readers of derived fields -/

namespace Read

/-- An optional string field: absent and null are none. -/
def optString : Option Json → Option (Option String)
  | none => some none
  | some .null => some none
  | some (.str s) => some (some s)
  | some _ => none

def orDefault {α : Type} (d : α) (f : Json → Option α) : Option Json → Option α
  | none => some d
  | some v => f v

/-- Every item read by `f`. -/
def list {α : Type} (f : Json → Option α) (v : Json) : Option (List α) := v.asArray.bind (List.mapM f)

def stringList : Json → Option (List String) := list Json.asStr

/-- Every entry of an object read by `f`, in order. -/
def entries {α : Type} (f : Json → Option α) (v : Json) : Option (Assoc α) :=
  v.asObject.bind (List.mapM fun p => (f p.2).map (p.1, ·))

/-- An object read as a map in key order. -/
def map {α : Type} (f : Json → Option α) (v : Json) : Option (SortedMap α) :=
  (entries f v).map SortedMap.ofList

theorem list_toJson {α : Type} {f : Json → Option α} {g : α → Json} (hfg : ∀ a, f (g a) = some a) (xs : List α) :
    list f (.arr (xs.map g)) = some xs := by
  rw [list, Json.asArray_arr, Option.bind_some, mapM_readBack fun a _ => hfg a]

@[simp] theorem stringList_strings (ss : List String) : stringList (Json.strings ss) = some ss :=
  list_toJson (g := .str) (fun _ => rfl) ss

theorem entries_toJson {α : Type} {f : Json → Option α} {g : α → Json} (hfg : ∀ a, f (g a) = some a)
    (m : Assoc α) : entries f (.obj (m.map fun p => (p.1, g p.2))) = some m := by
  rw [entries, Json.asObject_obj, Option.bind_some]
  exact mapM_readBack fun p _ => by rw [hfg, Option.map_some]

theorem map_toJson {α : Type} {f : Json → Option α} {g : α → Json} (hfg : ∀ a, f (g a) = some a)
    (m : SortedMap α) : map f (.obj (m.entries.map fun p => (p.1, g p.2))) = some m := by
  rw [map, entries_toJson hfg, Option.map_some, SortedMap.ofList_entries]

end Read

/-! ## The data -/

/-- How and where the user authenticated. -/
structure AuthenticationInformation where
  authClassRef : Option String := none
  timestamp : Option String := none
  issuer : Option String := none
deriving DecidableEq, Repr

/-- How the subject identifier should be treated downstream. -/
inductive SubjectType where
  | persistent
  | transient
  | publicSubject
  | pairwise
deriving DecidableEq, Repr

/-- The carrier of an authentication request or response. -/
structure InternalData where
  authInfo : AuthenticationInformation := {}
  requester : Option String := none
  requesterName : List String := []
  subjectId : Option String := none
  subjectType : SubjectType := .persistent
  attributes : SortedMap (List String) := .empty
  forceAuthn : Bool := false
  isPassive : Bool := false
deriving DecidableEq

namespace SubjectType

def toJson : SubjectType → Json
  | .persistent => .str "persistent"
  | .transient => .str "transient"
  | .publicSubject => .str "public"
  | .pairwise => .str "pairwise"

def fromJson : Json → Option SubjectType
  | .str s =>
    if s = "persistent" then some .persistent
    else if s = "transient" then some .transient
    else if s = "public" then some .publicSubject
    else if s = "pairwise" then some .pairwise
    else none
  | _ => none

@[simp] theorem fromJson_toJson (t : SubjectType) : fromJson t.toJson = some t := by
  cases t <;> rfl

end SubjectType

/-- A field left out when there is nothing to write. -/
def optField (k : String) : Option Json → List (String × Json)
  | some v => [(k, v)]
  | none => []

namespace AuthenticationInformation

def toJson (a : AuthenticationInformation) : Json :=
  .obj (optField "auth_class_ref" (a.authClassRef.map .str) ++ optField "timestamp" (a.timestamp.map .str)
    ++ optField "issuer" (a.issuer.map .str))

def fromJson (v : Json) : Option AuthenticationInformation := do
  let fs ← v.asObject
  let authClassRef ← Read.optString (fs.get "auth_class_ref")
  let timestamp ← Read.optString (fs.get "timestamp")
  let issuer ← Read.optString (fs.get "issuer")
  return { authClassRef, timestamp, issuer }

@[simp] theorem fromJson_toJson (a : AuthenticationInformation) : fromJson a.toJson = some a := by
  obtain ⟨classRef, timestamp, issuer⟩ := a
  cases classRef <;> cases timestamp <;> cases issuer <;> rfl

end AuthenticationInformation

namespace InternalData

/-- An empty request carrying just the requester. -/
def request (requester : String) : InternalData := { requester := some requester }

def attrFirst (d : InternalData) (name : String) : Option String := (d.attributes.get name).bind List.head?

def setAttr (d : InternalData) (name value : String) : InternalData :=
  { d with attributes := d.attributes.insert name [value] }

def toJson (d : InternalData) : Json :=
  .obj ([("auth_info", d.authInfo.toJson)]
    ++ optField "requester" (d.requester.map .str)
    ++ optField "requester_name" (if d.requesterName = [] then none else some (Json.strings d.requesterName))
    ++ optField "subject_id" (d.subjectId.map .str)
    ++ [("subject_type", d.subjectType.toJson),
        ("attributes", .obj (d.attributes.entries.map fun p => (p.1, Json.strings p.2))),
        ("force_authn", .bool d.forceAuthn),
        ("is_passive", .bool d.isPassive)])

def fromJson (v : Json) : Option InternalData := do
  let fs ← v.asObject
  let authInfo ← Read.orDefault {} AuthenticationInformation.fromJson (fs.get "auth_info")
  let requester ← Read.optString (fs.get "requester")
  let requesterName ← Read.orDefault [] Read.stringList (fs.get "requester_name")
  let subjectId ← Read.optString (fs.get "subject_id")
  let subjectType ← Read.orDefault .persistent SubjectType.fromJson (fs.get "subject_type")
  let attributes ← Read.orDefault .empty (Read.map Read.stringList) (fs.get "attributes")
  let forceAuthn ← Read.orDefault false Json.asBool (fs.get "force_authn")
  let isPassive ← Read.orDefault false Json.asBool (fs.get "is_passive")
  return { authInfo, requester, requesterName, subjectId, subjectType, attributes, forceAuthn, isPassive }

/-- **What a snapshot stores is what a resumed flow reads.** -/
theorem fromJson_toJson (d : InternalData) : fromJson d.toJson = some d := by
  obtain ⟨authInfo, requester, requesterName, subjectId, subjectType, attributes, forceAuthn, isPassive⟩ := d
  have hattrs : Read.map Read.stringList (.obj (attributes.entries.map fun p => (p.1, Json.strings p.2)))
      = some attributes := Read.map_toJson (fun ss => Read.stringList_strings ss) attributes
  cases requester <;> cases subjectId <;> cases requesterName <;>
    simp [toJson, fromJson, optField, Assoc.get_cons_self, Assoc.get_cons_other, Read.orDefault, Read.optString, hattrs]

end InternalData

end Tunnelbana
