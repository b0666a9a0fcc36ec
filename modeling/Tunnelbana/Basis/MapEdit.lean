/-
Changes of a keyed map and what they touch. An edit has a footprint: the keys
it may write, and the keys its writes depend on (`Edits`). Edits whose footprints
do not meet commute (`Edits.comm`): a sequence may be reordered as long as edits
that meet keep their order (`foldl_reordered`).
-/
import Tunnelbana.Basis.SortedMapFacts

namespace Basis

/-! ## Maps by their keys -/

namespace SortedMap

variable {α : Type}

/-- **A sorted map is what its keys have.** -/
theorem ext_get {m n : SortedMap α} (h : ∀ k, m.get k = n.get k) : m = n := by
  have hperm : m.entries.Perm n.entries := entries_perm_of_get h
  refine ext (hperm.eq_of_pairwise (fun p q hp hq hpq hqp => ?_) m.sorted n.sorted)
  exact absurd hqp (String.lt_asymm hpq)

/-- The keys a predicate keeps. -/
def retain (keep : String → Bool) (m : SortedMap α) : SortedMap α :=
  ⟨m.entries.filter fun p => keep p.1, m.sorted.filter _⟩

theorem mem_of_get_extend {xs : List (String × α)} {m : SortedMap α} {k : String} {v : α}
    (h : (m.extend xs).get k = some v) : (k, v) ∈ xs ∨ m.get k = some v := by
  induction xs generalizing m with
  | nil => exact .inr h
  | cons x xs ih =>
    rcases ih h with hmem | hget
    · exact .inl (List.mem_cons_of_mem _ hmem)
    · rw [get_insert] at hget
      split at hget
      next hk =>
        cases hget
        exact .inl (List.mem_cons.mpr (.inl (by rw [← hk])))
      next => exact .inr hget

theorem mem_of_get_ofList {xs : List (String × α)} {k : String} {v : α} (h : (ofList xs).get k = some v) :
    (k, v) ∈ xs := by
  rcases mem_of_get_extend h with hmem | hget
  · exact hmem
  · cases hget

@[simp] theorem get_retain (keep : String → Bool) (m : SortedMap α) (k : String) :
    (m.retain keep).get k = if keep k then m.get k else none := by
  show Assoc.get k (List.filter _ m.entries) = _
  rw [Assoc.get_filter m.distinct_entries]
  show (m.get k).filter _ = _
  cases hkeep : keep k <;> cases m.get k <;> simp [hkeep]

theorem contains_iff {m : SortedMap α} {k : String} : m.contains k = true ↔ ∃ v, m.get k = some v := by
  unfold contains
  exact Option.isSome_iff_exists

end SortedMap

/-! ## Footprints -/

/-- Outside `writes` nothing changes, and what is written there depends on the
keys in `reads` alone. -/
structure Edits {α : Type} (reads writes : String → Prop) (f : SortedMap α → SortedMap α) : Prop where
  frame : ∀ m k, ¬ writes k → (f m).get k = m.get k
  reading : ∀ m n, (∀ k, reads k → m.get k = n.get k) → ∀ k, writes k → (f m).get k = (f n).get k

namespace Edits

variable {α : Type} {reads writes reads' writes' : String → Prop} {f g : SortedMap α → SortedMap α}

/-- **Edits that do not meet commute**: neither writes what the other reads or
writes. -/
theorem comm (h : Edits reads writes f) (h' : Edits reads' writes' g) (hw : ∀ k, writes k → ¬ writes' k)
    (hr : ∀ k, writes k → ¬ reads' k) (hr' : ∀ k, writes' k → ¬ reads k) (m : SortedMap α) : g (f m) = f (g m) := by
  refine SortedMap.ext_get fun k => ?_
  by_cases hk : writes k
  · rw [h'.frame (f m) k (hw k hk)]
    refine (h.reading (g m) m (fun k' hk' => ?_) k hk).symm
    exact h'.frame m k' fun hw' => hr' k' hw' hk'
  · rw [h.frame (g m) k hk]
    by_cases hk' : writes' k
    · exact h'.reading (f m) m (fun k'' hk'' => h.frame m k'' fun hw'' => hr k'' hw'' hk'') k hk'
    · rw [h'.frame (f m) k hk', h'.frame m k hk', h.frame m k hk]

end Edits

/-! ## Sequences -/

section
variable {σ ι : Type}

/-- Neighbours that are apart swapped, any number of times. -/
inductive Reordered (apart : ι → ι → Prop) : List ι → List ι → Prop
  | refl (is : List ι) : Reordered apart is is
  | swap (before : List ι) (i j : ι) (after : List ι) {js : List ι} : apart i j →
      Reordered apart (before ++ j :: i :: after) js → Reordered apart (before ++ i :: j :: after) js

/-- **Steps that commute may be reordered.** -/
theorem foldl_reordered {step : σ → ι → σ} {apart : ι → ι → Prop} {is js : List ι} (h : Reordered apart is js)
    (hcomm : ∀ s i j, apart i j → step (step s i) j = step (step s j) i) (s : σ) :
    is.foldl step s = js.foldl step s := by
  induction h with
  | refl is => rfl
  | swap before i j after hapart hrest ih =>
    rw [← ih]
    simp only [List.foldl_append, List.foldl_cons]
    rw [hcomm _ i j hapart]

end

end Basis
