/-
The state of a login flow: namespaces of JSON values, sealed into a cookie
between requests. Plugins reach it only through the operations here.

`Tame` is what frame arguments use: over some protected keys an operation
leaves every namespace either as it was or without any of them, which is all
that clearing a namespace another plugin shares can do.
-/
import Tunnelbana.Basis.Json

namespace Tunnelbana

open Basis

/-- The mutable per-request state map. `issuedAt` is the issue time of the
envelope it was unsealed from; `delete` asks for the cookie to be cleared. -/
structure State where
  data : Assoc Json := []
  issuedAt : Option Nat := none
  delete : Bool := false

namespace State

def new : State := {}

def get (s : State) (ns : String) : Option Json := s.data.get ns

/-- Insert into an object; other values stay as they are. -/
def insertField (key : String) (value : Json) : Json → Json
  | .obj fs => .obj (Assoc.put key value fs)
  | v => v

/-- Store a value within a namespace, created when absent. -/
def setValue (s : State) (ns key : String) (value : Json) : State :=
  { s with data := s.data.put ns (insertField key value ((s.data.get ns).getD (.obj []))) }

def setStr (s : State) (ns key value : String) : State := s.setValue ns key (.str value)

def getValue (s : State) (ns key : String) : Option Json := (s.data.get ns).bind (Json.field key)

def getStr (s : State) (ns key : String) : Option String := (s.getValue ns key).bind Json.asStr

def clearNamespace (s : State) (ns : String) : State := { s with data := s.data.erase ns }

/-! ## Every namespace is an object -/

/-- Namespaces hold objects: the operations above only ever create one. -/
def Objects (s : State) : Prop := ∀ ns v, s.data.get ns = some v → v.isObject = true

theorem objects_new : new.Objects := by
  intro ns v h
  simp [new] at h

theorem isObject_insertField (key : String) (value v : Json) :
    (insertField key value v).isObject = v.isObject := by
  cases v <;> rfl

theorem Objects.setValue {s : State} (h : s.Objects) (ns key : String) (value : Json) :
    (s.setValue ns key value).Objects := by
  intro ns' v hv
  simp only [State.setValue, Assoc.get_put] at hv
  split at hv
  · simp only [Option.some.injEq] at hv
    rw [← hv, isObject_insertField]
    cases hget : s.data.get ns with
    | none => rfl
    | some w => exact h ns w hget
  · exact h ns' v hv

theorem Objects.setStr {s : State} (h : s.Objects) (ns key value : String) :
    (s.setStr ns key value).Objects := h.setValue ns key _

theorem Objects.clearNamespace {s : State} (h : s.Objects) (ns : String) :
    (s.clearNamespace ns).Objects := by
  intro ns' v hv
  simp only [State.clearNamespace, Assoc.get_erase] at hv
  split at hv
  · cases hv
  · exact h ns' v hv

/-! ## Reading after writing -/

@[simp] theorem getValue_new (ns key : String) : new.getValue ns key = none := rfl
@[simp] theorem getStr_new (ns key : String) : new.getStr ns key = none := rfl

theorem getValue_setValue_self {s : State} (h : s.Objects) (ns key : String) (value : Json) :
    (s.setValue ns key value).getValue ns key = some value := by
  simp only [getValue, setValue, Assoc.get_put_self, Option.bind_some]
  cases hget : s.data.get ns with
  | none => simp [insertField]
  | some v =>
    obtain ⟨fs, rfl⟩ := Json.isObject_iff.mp (h ns v hget)
    simp [insertField]

theorem getValue_setValue_other (s : State) {ns key ns' key' : String} (value : Json)
    (hne : ¬ (ns = ns' ∧ key = key')) :
    (s.setValue ns key value).getValue ns' key' = s.getValue ns' key' := by
  simp only [getValue, setValue, Assoc.get_put]
  by_cases hns : ns = ns'
  · subst hns
    have hk : key ≠ key' := fun h => hne ⟨rfl, h⟩
    cases hget : s.data.get ns with
    | none => simp [insertField, Assoc.get_put_other _ _ hk]
    | some v => cases v <;> simp [insertField, Json.field, Json.asObject, Assoc.get_put_other _ _ hk]
  · simp [hns]

theorem getValue_clearNamespace (s : State) (ns ns' key : String) :
    (s.clearNamespace ns).getValue ns' key = if ns = ns' then none else s.getValue ns' key := by
  simp only [getValue, clearNamespace, Assoc.get_erase]
  split <;> simp

theorem getStr_eq_some {s : State} {ns key value : String} :
    s.getStr ns key = some value ↔ s.getValue ns key = some (.str value) := by
  simp only [getStr]
  cases h : s.getValue ns key with
  | none => simp
  | some v => cases v <;> simp [Json.asStr]

theorem getStr_setStr_self {s : State} (h : s.Objects) (ns key value : String) :
    (s.setStr ns key value).getStr ns key = some value :=
  getStr_eq_some.mpr (getValue_setValue_self h ns key _)

theorem getStr_setStr_other (s : State) {ns key ns' key' : String} (value : String)
    (hne : ¬ (ns = ns' ∧ key = key')) : (s.setStr ns key value).getStr ns' key' = s.getStr ns' key' := by
  simp only [getStr, setStr, getValue_setValue_other s _ hne]

theorem getStr_congr {s t : State} {ns key : String} (h : t.getValue ns key = s.getValue ns key) :
    t.getStr ns key = s.getStr ns key := by
  simp only [getStr, h]

theorem getStr_none {s : State} {ns key : String} (h : s.getValue ns key = none) :
    s.getStr ns key = none := by
  simp [getStr, h]

/-! ## Frames -/

/-- Over the protected keys `P`, every namespace is as it was or has none of
them left. Issue time and the wish to clear the cookie stay. -/
structure Tame (P : String → String → Prop) (s t : State) : Prop where
  objects : s.Objects → t.Objects
  value : ∀ ns, (∀ key, P ns key → t.getValue ns key = s.getValue ns key) ∨
    (∀ key, P ns key → t.getValue ns key = none)
  delete : t.delete = s.delete
  issuedAt : t.issuedAt = s.issuedAt

variable {P Q : String → String → Prop} {s t u : State}

theorem Tame.refl (s : State) : Tame P s s := ⟨id, fun _ => .inl fun _ _ => rfl, rfl, rfl⟩

theorem Tame.trans (h₁ : Tame P s t) (h₂ : Tame P t u) : Tame P s u := by
  refine ⟨fun h => h₂.objects (h₁.objects h), fun ns => ?_, h₂.delete.trans h₁.delete,
    h₂.issuedAt.trans h₁.issuedAt⟩
  rcases h₂.value ns with hu | hu
  · rcases h₁.value ns with ht | ht
    · exact .inl fun key hk => (hu key hk).trans (ht key hk)
    · exact .inr fun key hk => (hu key hk).trans (ht key hk)
  · exact .inr hu

theorem Tame.mono (h : Tame P s t) (hPQ : ∀ ns key, Q ns key → P ns key) : Tame Q s t :=
  ⟨h.objects, fun ns => (h.value ns).imp (fun hv key hk => hv key (hPQ ns key hk))
    (fun hv key hk => hv key (hPQ ns key hk)), h.delete, h.issuedAt⟩

theorem Tame.setValue (s : State) {ns key : String} (value : Json) (hP : ¬ P ns key) :
    Tame P s (s.setValue ns key value) := by
  refine ⟨fun h => h.setValue ns key value, fun ns' => .inl fun key' hk => ?_, rfl, rfl⟩
  exact getValue_setValue_other s value (by rintro ⟨rfl, rfl⟩; exact hP hk)

theorem Tame.setStr (s : State) {ns key : String} (value : String) (hP : ¬ P ns key) :
    Tame P s (s.setStr ns key value) := Tame.setValue s _ hP

theorem Tame.clearNamespace (s : State) (ns : String) : Tame P s (s.clearNamespace ns) := by
  refine ⟨fun h => h.clearNamespace ns, fun ns' => ?_, rfl, rfl⟩
  by_cases hns : ns = ns'
  · exact .inr fun key _ => by rw [getValue_clearNamespace, if_pos hns]
  · exact .inl fun key _ => by rw [getValue_clearNamespace, if_neg hns]

theorem Tame.getValue_of_some (h : Tame P s t) {ns key : String} (hP : P ns key) {v : Json}
    (hv : t.getValue ns key = some v) : s.getValue ns key = some v := by
  rcases h.value ns with he | he
  · rw [← he key hP, hv]
  · rw [he key hP] at hv; cases hv

theorem Tame.getStr_of_some (h : Tame P s t) {ns key : String} (hP : P ns key) {v : String}
    (hv : t.getStr ns key = some v) : s.getStr ns key = some v :=
  getStr_eq_some.mpr (h.getValue_of_some hP (getStr_eq_some.mp hv))

/-! ## Writes -/

/-- At most these keys of one namespace are written. -/
structure Writes (ns : String) (keys : List String) (s t : State) : Prop where
  objects : s.Objects → t.Objects
  value : ∀ ns' key, ¬ (ns = ns' ∧ key ∈ keys) → t.getValue ns' key = s.getValue ns' key
  delete : t.delete = s.delete
  issuedAt : t.issuedAt = s.issuedAt

variable {ns : String} {keys keys' : List String}

theorem Writes.refl (s : State) : Writes ns keys s s := ⟨id, fun _ _ _ => rfl, rfl, rfl⟩

theorem Writes.trans (h₁ : Writes ns keys s t) (h₂ : Writes ns keys t u) : Writes ns keys s u :=
  ⟨fun h => h₂.objects (h₁.objects h), fun ns' key hk => (h₂.value ns' key hk).trans (h₁.value ns' key hk),
    h₂.delete.trans h₁.delete, h₂.issuedAt.trans h₁.issuedAt⟩

theorem Writes.mono (h : Writes ns keys s t) (hk : ∀ key ∈ keys, key ∈ keys') : Writes ns keys' s t :=
  ⟨h.objects, fun ns' key hn => h.value ns' key fun hm => hn ⟨hm.1, hk key hm.2⟩, h.delete, h.issuedAt⟩

theorem Writes.setValue (s : State) {key : String} (value : Json) (hk : key ∈ keys) :
    Writes ns keys s (s.setValue ns key value) := by
  refine ⟨fun h => h.setValue ns key value, fun ns' key' hn => ?_, rfl, rfl⟩
  refine getValue_setValue_other s value fun he => hn ⟨he.1, ?_⟩
  rw [← he.2]
  exact hk

theorem Writes.setStr (s : State) {key : String} (value : String) (hk : key ∈ keys) :
    Writes ns keys s (s.setStr ns key value) := Writes.setValue s _ hk

theorem Writes.andSetValue (h : Writes ns keys s t) {key : String} (value : Json) (hk : key ∈ keys) :
    Writes ns keys s (t.setValue ns key value) := h.trans (Writes.setValue t value hk)

theorem Writes.andSetStr (h : Writes ns keys s t) {key : String} (value : String) (hk : key ∈ keys) :
    Writes ns keys s (t.setStr ns key value) := h.trans (Writes.setStr t value hk)

theorem Writes.getValue (h : Writes ns keys s t) {key : String} (hk : key ∉ keys) :
    t.getValue ns key = s.getValue ns key := h.value ns key fun hm => hk hm.2

theorem Writes.getStr (h : Writes ns keys s t) {key : String} (hk : key ∉ keys) :
    t.getStr ns key = s.getStr ns key := getStr_congr (h.getValue hk)

theorem Writes.tame (h : Writes ns keys s t) (hP : ∀ key ∈ keys, ¬ P ns key) : Tame P s t := by
  refine ⟨h.objects, fun ns' => .inl fun key hk => h.value ns' key fun hm => ?_, h.delete, h.issuedAt⟩
  obtain ⟨rfl, hmem⟩ := hm
  exact hP key hmem hk

/-! ## One namespace -/

/-- No other namespace is touched. -/
structure Within (ns : String) (s t : State) : Prop where
  objects : s.Objects → t.Objects
  value : ∀ ns' key, ns ≠ ns' → t.getValue ns' key = s.getValue ns' key
  delete : t.delete = s.delete
  issuedAt : t.issuedAt = s.issuedAt

theorem Within.refl (s : State) : Within ns s s := ⟨id, fun _ _ _ => rfl, rfl, rfl⟩

theorem Within.trans (h₁ : Within ns s t) (h₂ : Within ns t u) : Within ns s u :=
  ⟨fun h => h₂.objects (h₁.objects h), fun ns' key hn => (h₂.value ns' key hn).trans (h₁.value ns' key hn),
    h₂.delete.trans h₁.delete, h₂.issuedAt.trans h₁.issuedAt⟩

theorem Writes.within (h : Writes ns keys s t) : Within ns s t :=
  ⟨h.objects, fun ns' key hn => h.value ns' key fun hm => hn hm.1, h.delete, h.issuedAt⟩

theorem Within.andSetValue (h : Within ns s t) (key : String) (value : Json) :
    Within ns s (t.setValue ns key value) :=
  h.trans (Writes.setValue t value (List.mem_singleton.mpr rfl)).within

theorem Within.andSetStr (h : Within ns s t) (key value : String) : Within ns s (t.setStr ns key value) :=
  h.andSetValue key _

theorem Within.clearNamespace (s : State) (ns : String) : Within ns s (s.clearNamespace ns) := by
  refine ⟨fun h => h.clearNamespace ns, fun ns' key hn => ?_, rfl, rfl⟩
  rw [getValue_clearNamespace, if_neg hn]

theorem Within.getStr (h : Within ns s t) {ns' : String} (hn : ns ≠ ns') (key : String) :
    t.getStr ns' key = s.getStr ns' key := getStr_congr (h.value ns' key hn)

end State

end Tunnelbana
