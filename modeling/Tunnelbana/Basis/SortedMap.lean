/-
Maps with string keys kept in key order, as an ordered tree map iterates.
The order is a field of the type, so a map is determined by its entries and
rebuilding it from them gives it back (`ofList_entries`).
-/
import Tunnelbana.Basis.Assoc

namespace Basis

/-- Strictly increasing keys. -/
def Assoc.Sorted {α : Type} (m : Assoc α) : Prop := m.Pairwise fun p q => p.1 < q.1

instance {α : Type} (m : Assoc α) : Decidable m.Sorted := inferInstanceAs (Decidable (m.Pairwise _))

namespace Assoc

variable {α : Type}

/-- Overwrite the entry of the key, or insert one where it belongs. -/
def insert (k : String) (v : α) : Assoc α → Assoc α
  | [] => [(k, v)]
  | (k', w) :: m =>
    if k < k' then (k, v) :: (k', w) :: m
    else if k = k' then (k, v) :: m
    else (k', w) :: insert k v m

theorem get_insert (m : Assoc α) (k k' : String) (v : α) :
    get k' (insert k v m) = if k = k' then some v else get k' m := by
  induction m with
  | nil => simp [insert, get]
  | cons p m ih =>
    obtain ⟨a, w⟩ := p
    simp only [insert]
    split
    · rfl
    · split
      next hk =>
        subst hk
        by_cases hk' : k = k' <;> simp [get, hk']
      next hk =>
        by_cases ha : a = k'
        · subst ha
          simp [get, hk]
        · simp [get, ha, ih]

theorem mem_insert {m : Assoc α} {k : String} {v : α} {p : String × α} (h : p ∈ insert k v m) :
    p = (k, v) ∨ p ∈ m := by
  induction m with
  | nil => simpa [insert] using h
  | cons q m ih =>
    obtain ⟨a, w⟩ := q
    simp only [insert] at h
    split at h
    · exact List.mem_cons.mp h
    · split at h
      · rcases List.mem_cons.mp h with h | h
        · exact .inl h
        · exact .inr (List.mem_cons_of_mem _ h)
      · rcases List.mem_cons.mp h with h | h
        · exact .inr (by rw [h]; exact List.mem_cons_self)
        · exact (ih h).imp id (List.mem_cons_of_mem _)

theorem Sorted.insert {m : Assoc α} (h : m.Sorted) (k : String) (v : α) : (m.insert k v).Sorted := by
  induction m with
  | nil => exact List.pairwise_singleton _ _
  | cons q m ih =>
    obtain ⟨a, w⟩ := q
    have hm : Sorted m := (List.pairwise_cons.mp h).2
    have ha : ∀ p ∈ m, a < p.1 := (List.pairwise_cons.mp h).1
    simp only [Assoc.insert]
    split
    next hlt =>
      refine List.pairwise_cons.mpr ⟨fun p hp => ?_, h⟩
      rcases List.mem_cons.mp hp with rfl | hp
      · exact hlt
      · exact String.lt_trans hlt (ha p hp)
    next hlt =>
      split
      next heq =>
        subst heq
        exact List.pairwise_cons.mpr ⟨ha, hm⟩
      next hne =>
        have hak : a < k := by
          have hle : a ≤ k := String.not_lt.mp hlt
          rcases Decidable.em (k ≤ a) with hge | hge
          · exact absurd (String.le_antisymm hge hle) hne
          · exact String.not_le.mp hge
        refine List.pairwise_cons.mpr ⟨fun p hp => ?_, ih hm⟩
        rcases mem_insert hp with rfl | hp
        · exact hak
        · exact ha p hp

theorem Sorted.erase {m : Assoc α} (h : m.Sorted) (k : String) : Sorted (Assoc.erase k m) := by
  induction m with
  | nil => exact List.Pairwise.nil
  | cons q m ih =>
    obtain ⟨a, w⟩ := q
    have hm : Sorted m := (List.pairwise_cons.mp h).2
    have ha : ∀ p ∈ m, a < p.1 := (List.pairwise_cons.mp h).1
    by_cases hak : a = k
    · simpa only [Assoc.erase, if_pos hak] using ih hm
    · simp only [Assoc.erase, if_neg hak]
      exact List.pairwise_cons.mpr ⟨fun p hp => ha p (mem_erase hp), ih hm⟩

theorem insert_above {m : Assoc α} {k : String} {v : α} (h : ∀ p ∈ m, p.1 < k) :
    m.insert k v = m ++ [(k, v)] := by
  induction m with
  | nil => rfl
  | cons q m ih =>
    obtain ⟨a, w⟩ := q
    have hak : a < k := h (a, w) List.mem_cons_self
    have hm : Assoc.insert k v m = m ++ [(k, v)] := ih fun p hp => h p (List.mem_cons_of_mem _ hp)
    have hne : k ≠ a := fun he => String.lt_irrefl k (by rwa [← he] at hak)
    rw [Assoc.insert, if_neg (String.lt_asymm hak), if_neg hne, hm]
    rfl

end Assoc

/-- A map iterated in key order. -/
structure SortedMap (α : Type) where
  entries : Assoc α
  sorted : entries.Sorted
deriving DecidableEq

namespace SortedMap

variable {α β : Type}

def empty : SortedMap α := ⟨[], List.Pairwise.nil⟩

instance : Inhabited (SortedMap α) := ⟨empty⟩

def get (m : SortedMap α) (k : String) : Option α := m.entries.get k

def contains (m : SortedMap α) (k : String) : Bool := (m.get k).isSome

def insert (m : SortedMap α) (k : String) (v : α) : SortedMap α := ⟨m.entries.insert k v, m.sorted.insert k v⟩

def erase (m : SortedMap α) (k : String) : SortedMap α := ⟨Assoc.erase k m.entries, m.sorted.erase k⟩

/-- Insert entries in turn, a later one overwriting an earlier one of its key. -/
def extend (m : SortedMap α) (xs : List (String × α)) : SortedMap α :=
  xs.foldl (fun m p => m.insert p.1 p.2) m

def ofList (xs : List (String × α)) : SortedMap α := empty.extend xs

@[simp] theorem get_empty (k : String) : (empty : SortedMap α).get k = none := rfl

theorem get_insert (m : SortedMap α) (k k' : String) (v : α) :
    (m.insert k v).get k' = if k = k' then some v else m.get k' := Assoc.get_insert m.entries k k' v

theorem ext {m n : SortedMap α} (h : m.entries = n.entries) : m = n := by
  cases m; cases n; cases h; rfl

theorem extend_above (m : SortedMap α) (xs : List (String × α)) (h : Assoc.Sorted (m.entries ++ xs)) :
    (m.extend xs).entries = m.entries ++ xs := by
  induction xs generalizing m with
  | nil => exact (List.append_nil _).symm
  | cons p xs ih =>
    have hlt : ∀ q ∈ m.entries, q.1 < p.1 := fun q hq =>
      (List.pairwise_append.mp h).2.2 q hq p List.mem_cons_self
    have hins : (m.insert p.1 p.2).entries = m.entries ++ [p] := Assoc.insert_above hlt
    have happ : (m.insert p.1 p.2).entries ++ xs = m.entries ++ p :: xs := by rw [hins]; simp
    have := ih (m.insert p.1 p.2) (by rw [happ]; exact h)
    rw [happ] at this
    exact this

/-- **A map is what its entries build.** -/
@[simp] theorem ofList_entries (m : SortedMap α) : ofList m.entries = m :=
  ext (extend_above empty m.entries m.sorted)

theorem distinct_entries (m : SortedMap α) : m.entries.Distinct := by
  refine List.pairwise_map.mpr (m.sorted.imp fun {p q} hlt => ?_)
  intro he
  rw [he] at hlt
  exact String.lt_irrefl _ hlt

theorem get_eq_some {m : SortedMap α} {k : String} {v : α} : m.get k = some v ↔ (k, v) ∈ m.entries :=
  ⟨Assoc.get_mem, m.distinct_entries.get_of_mem⟩

theorem get_extend {xs : Assoc α} (h : xs.Distinct) (m : SortedMap α) (k : String) :
    (m.extend xs).get k = (Assoc.get k xs).or (m.get k) := by
  induction xs generalizing m with
  | nil => rfl
  | cons p xs ih =>
    obtain ⟨a, w⟩ := p
    obtain ⟨hnot, hxs⟩ := List.nodup_cons.mp h
    have hextend : (m.extend ((a, w) :: xs)).get k = (Assoc.get k xs).or ((m.insert a w).get k) := ih hxs (m.insert a w)
    rw [hextend, get_insert]
    by_cases ha : a = k
    · subst ha
      have hnone : Assoc.get a xs = none := Assoc.get_of_notMem_keys hnot
      rw [hnone, if_pos rfl, Assoc.get_cons_self]
      rfl
    · rw [if_neg ha, Assoc.get_cons_other _ _ ha]

/-- Turned around, a map without repeated values answers the key of a value. -/
theorem get_ofList_swap {m : SortedMap String} (h : (m.entries.map (·.2)).Nodup) {k v : String} :
    (ofList (m.entries.map fun p => (p.2, p.1))).get v = some k ↔ m.get k = some v := by
  have hdistinct : Assoc.Distinct (m.entries.map fun p => (p.2, p.1)) := by
    unfold Assoc.Distinct Assoc.keys
    rw [List.map_map]
    exact h
  unfold ofList
  rw [get_extend hdistinct, get_empty, Option.or_none, get_eq_some]
  constructor
  · intro hget
    obtain ⟨p, hp, he⟩ := List.mem_map.mp (Assoc.get_mem hget)
    cases he
    exact hp
  · intro hmem
    exact hdistinct.get_of_mem (List.mem_map.mpr ⟨(k, v), hmem, rfl⟩)

end SortedMap

end Basis
