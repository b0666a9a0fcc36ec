/-
JSON values with integer numbers, and the accessors of a JSON library's
dynamic value type: each answers `none` on a value of another kind.
-/
import Mathlib.Algebra.Group.Int.Defs
import Mathlib.Algebra.Group.Nat.Defs
import Tunnelbana.Basis.Assoc

namespace Basis

/-- A JSON value. Objects keep their fields in insertion order. -/
inductive Json where
  | null
  | bool (b : Bool)
  | num (n : Int)
  | str (s : String)
  | arr (xs : List Json)
  | obj (fs : List (String × Json))

namespace Json

def asStr : Json → Option String
  | .str s => some s
  | _ => none

def asBool : Json → Option Bool
  | .bool b => some b
  | _ => none

def asU64 : Json → Option Nat
  | .num n => if 0 ≤ n ∧ n < 2 ^ 64 then some n.toNat else none
  | _ => none

def asArray : Json → Option (List Json)
  | .arr xs => some xs
  | _ => none

def asObject : Json → Option (Assoc Json)
  | .obj fs => some fs
  | _ => none

def field (k : String) (v : Json) : Option Json := v.asObject.bind (Assoc.get k)

def isNull : Json → Bool
  | .null => true
  | _ => false

def isObject (v : Json) : Bool := v.asObject.isSome

def strings (ss : List String) : Json := .arr (ss.map .str)

/-- The strings of an array, other items dropped; none of another value. -/
def asStrings (v : Json) : List String := ((v.asArray.getD []).filterMap asStr)

def optStr : Option String → Json
  | some s => .str s
  | none => .null

@[simp] theorem asStr_str (s : String) : asStr (.str s) = some s := rfl
@[simp] theorem asStr_null : asStr .null = none := rfl
@[simp] theorem asBool_bool (b : Bool) : asBool (.bool b) = some b := rfl
@[simp] theorem asArray_arr (xs : List Json) : asArray (.arr xs) = some xs := rfl
@[simp] theorem asObject_obj (fs : Assoc Json) : asObject (.obj fs) = some fs := rfl
@[simp] theorem field_obj (k : String) (fs : Assoc Json) : field k (.obj fs) = Assoc.get k fs := rfl
@[simp] theorem isNull_null : isNull .null = true := rfl
@[simp] theorem isObject_obj (fs : Assoc Json) : isObject (.obj fs) = true := rfl
@[simp] theorem asStr_optStr (o : Option String) : asStr (optStr o) = o := by cases o <;> rfl

@[simp] theorem asStrings_strings (ss : List String) : asStrings (strings ss) = ss := by
  simp [asStrings, strings, List.filterMap_map, Function.comp_def]

theorem isObject_iff {v : Json} : v.isObject = true ↔ ∃ fs, v = .obj fs := by
  cases v <;> simp [isObject, asObject]

/-! ## Nesting and well-formedness -/

mutual
/-- How deep arrays and objects nest; a scalar has depth zero. -/
def depth : Json → Nat
  | .arr xs => depthItems xs + 1
  | .obj fs => depthFields fs + 1
  | _ => 0

def depthItems : List Json → Nat
  | [] => 0
  | x :: xs => max x.depth (depthItems xs)

def depthFields : List (String × Json) → Nat
  | [] => 0
  | (_, x) :: fs => max x.depth (depthFields fs)
end

mutual
/-- A value a JSON library can hold: the numbers are 64-bit integers and the
keys of every object are distinct. -/
def Valid : Json → Prop
  | .num n => -(2 : Int) ^ 63 ≤ n ∧ n < 2 ^ 64
  | .arr xs => ValidItems xs
  | .obj fs => Assoc.Distinct fs ∧ ValidFields fs
  | _ => True

def ValidItems : List Json → Prop
  | [] => True
  | x :: xs => x.Valid ∧ ValidItems xs

def ValidFields : List (String × Json) → Prop
  | [] => True
  | (_, x) :: fs => x.Valid ∧ ValidFields fs
end

theorem validFields_iff {fs : List (String × Json)} : ValidFields fs ↔ ∀ p ∈ fs, p.2.Valid := by
  induction fs with
  | nil => simp [ValidFields]
  | cons p fs ih =>
    obtain ⟨k, v⟩ := p
    simp [ValidFields, ih]

theorem valid_obj {fs : List (String × Json)} :
    (obj fs).Valid ↔ Assoc.Distinct fs ∧ ∀ p ∈ fs, p.2.Valid := by
  rw [← validFields_iff]
  exact Iff.rfl

end Json

end Basis
