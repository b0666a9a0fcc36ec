/-
Tables filled by inserting entries under keys that are not taken yet: when
every entry finds its key free (`Fresh`), and what the table answers then
(`lookup_insertAll`).
-/
import Mathlib.Data.List.AList

namespace Basis.FreshTable

abbrev Table (κ α : Type) := AList fun _ : κ => α

variable {κ α : Type} [DecidableEq κ]

def insertAll (t : Table κ α) (entries : List (κ × α)) : Table κ α := entries.foldl (fun t e => t.insert e.1 e.2) t

/-- The keys are distinct, and none is taken. -/
def Fresh (t : Table κ α) (entries : List (κ × α)) : Prop := (entries.map (·.1)).Nodup ∧ ∀ e ∈ entries, e.1 ∉ t

@[simp] theorem insertAll_nil (t : Table κ α) : insertAll t [] = t := rfl

theorem insertAll_append (t : Table κ α) (xs ys : List (κ × α)) :
    insertAll t (xs ++ ys) = insertAll (insertAll t xs) ys := List.foldl_append

omit [DecidableEq κ] in
@[simp] theorem fresh_nil (t : Table κ α) : Fresh t [] := ⟨List.nodup_nil, by simp⟩

theorem fresh_cons {t : Table κ α} {e : κ × α} {es : List (κ × α)} :
    Fresh t (e :: es) ↔ e.1 ∉ t ∧ Fresh (t.insert e.1 e.2) es := by
  have hbehind : (∀ e' ∈ es, e'.1 ∉ t.insert e.1 e.2) ↔ e.1 ∉ es.map (·.1) ∧ ∀ e' ∈ es, e'.1 ∉ t := by
    simp only [AList.mem_insert, not_or, List.mem_map, not_exists, not_and]
    constructor
    · intro h
      exact ⟨fun e' he' heq => (h e' he').1 heq, fun e' he' => (h e' he').2⟩
    · rintro ⟨hkeys, htable⟩ e' he'
      exact ⟨hkeys e' he', htable e' he'⟩
  unfold Fresh
  rw [hbehind, List.map_cons, List.nodup_cons, List.forall_mem_cons]
  tauto

theorem fresh_append {t : Table κ α} {xs ys : List (κ × α)} :
    Fresh t (xs ++ ys) ↔ Fresh t xs ∧ Fresh (insertAll t xs) ys := by
  induction xs generalizing t with
  | nil => simp
  | cons x xs ih =>
    rw [List.cons_append, fresh_cons, fresh_cons, ih, and_assoc]
    exact Iff.rfl

/-- **The table answers what was inserted, and what it answered before.** -/
theorem lookup_insertAll {t : Table κ α} {entries : List (κ × α)} (h : Fresh t entries) {k : κ} {v : α} :
    (insertAll t entries).lookup k = some v ↔ t.lookup k = some v ∨ (k, v) ∈ entries := by
  induction entries generalizing t with
  | nil => simp
  | cons e es ih =>
    obtain ⟨k', v'⟩ := e
    obtain ⟨hfree, hes⟩ := fresh_cons.mp h
    have hrest : (insertAll t ((k', v') :: es)).lookup k = some v ↔
        (t.insert k' v').lookup k = some v ∨ (k, v) ∈ es := ih hes
    rw [hrest, List.mem_cons, ← or_assoc]
    refine or_congr_left ?_
    by_cases hk : k = k'
    · subst hk
      have hnone : t.lookup k = none := AList.lookup_eq_none.mpr hfree
      simp [AList.lookup_insert, hnone, eq_comm]
    · simp [AList.lookup_insert_ne hk, hk]

end Basis.FreshTable
