/-
Attribute mapping between protocol-specific names and the internal model.
Each internal attribute maps, per profile, to external names, the first of
which is the canonical one on the way out.
-/
import Tunnelbana.Basis.SortedMap

namespace Tunnelbana

open Basis

/-- One internal attribute's mapping for a single profile. -/
structure ProfileAttribute where
  names : List String := []
  oid : Option String := none
  friendlyName : Option String := none
deriving DecidableEq

/-- The attribute map: internal name to profile to mapping. -/
structure AttributeMapper where
  attributes : SortedMap (SortedMap ProfileAttribute) := .empty
  userIdFromAttrs : List String := []
  userIdToAttr : Option String := none

/-- Append the values that are not there yet. -/
def appendNew (values vals : List String) : List String :=
  vals.foldl (fun acc v => if v ∈ acc then acc else acc ++ [v]) values

namespace ProfileAttribute

/-- The external keys matched on the way in, in order. -/
def keys (p : ProfileAttribute) : List String := p.names ++ p.oid.toList ++ p.friendlyName.toList

/-- The values of every matching external key, deduplicated. -/
def collect (p : ProfileAttribute) (external : SortedMap (List String)) : List String :=
  p.keys.foldl (fun values ext => appendNew values ((external.get ext).getD [])) []

end ProfileAttribute

namespace AttributeMapper

def profileAttribute (m : AttributeMapper) (profile internalName : String) : Option ProfileAttribute :=
  (m.attributes.get internalName).bind fun profiles => profiles.get profile

def externalNames (m : AttributeMapper) (profile : String) : List String :=
  m.attributes.entries.flatMap fun p => ((p.2.get profile).map ProfileAttribute.keys).getD []

def toInternal (m : AttributeMapper) (profile : String) (external : SortedMap (List String)) :
    SortedMap (List String) :=
  m.attributes.entries.foldl (fun internal p =>
    match p.2.get profile with
    | none => internal
    | some mapping =>
      let values := mapping.collect external
      if values = [] then internal else internal.insert p.1 values) .empty

/-- Internal attributes under the canonical external names of a profile. -/
def fromInternal (m : AttributeMapper) (profile : String) (internal : SortedMap (List String)) :
    SortedMap (List String) :=
  internal.entries.foldl (fun external p =>
    match (m.profileAttribute profile p.1).bind fun mapping => mapping.names.head? with
    | none => external
    | some canonical => external.insert canonical p.2) .empty

def composeSubjectId (m : AttributeMapper) (internal : SortedMap (List String)) : Option String :=
  if m.userIdFromAttrs = [] then none
  else (m.userIdFromAttrs.mapM fun name => (internal.get name).bind List.head?).map (String.intercalate ":")

end AttributeMapper

end Tunnelbana
