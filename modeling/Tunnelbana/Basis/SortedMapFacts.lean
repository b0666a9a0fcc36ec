/-
What a sorted map holds, its order aside: dropping and inserting a key change
its entries by that key's alone (`entries_perm_erase`, `entries_insert_perm`),
its keys are those inserted (`mem_keys_ofList`), and values are changed in place
with `mapValues`. What a function keeps of a map
is built entry by entry, in order (`foldl_put`, `foldl_insert`).
-/
import Mathlib.Logic.Function.Iterate
import Tunnelbana.Basis.SortedMap

namespace Basis

theorem Assoc.get_map {α β : Type} (f : String → α → β) (m : Assoc α) (k : String) :
    get k (m.map fun p => (p.1, f p.1 p.2)) = (get k m).map (f k) := by
  induction m with
  | nil => rfl
  | cons p m ih =>
    obtain ⟨a, w⟩ := p
    by_cases ha : a = k
    · subst ha
      simp [get_cons_self]
    · simp [get_cons_other, ha, ih]

namespace SortedMap

variable {α β γ : Type} {m n : SortedMap α} {k : String} {v : α}

theorem get_erase (m : SortedMap α) (k k' : String) : (m.erase k).get k' = if k = k' then none else m.get k' :=
  Assoc.get_erase m.entries k k'

theorem nodup_entries (m : SortedMap α) : m.entries.Nodup := List.Pairwise.of_map (·.1)
  (fun _ _ hne he => hne (congrArg Prod.fst he)) m.distinct_entries

/-! ## Entries, in any order -/

/-- Maps that agree on every key hold the same entries. -/
theorem entries_perm_of_get (h : ∀ k', m.get k' = n.get k') : m.entries.Perm n.entries := by
  refine (List.perm_ext_iff_of_nodup m.nodup_entries n.nodup_entries).mpr fun ⟨a, w⟩ => ?_
  rw [← get_eq_some, ← get_eq_some, h a]

theorem entries_perm_cons (hnone : n.get k = none) (h : ∀ k', m.get k' = if k = k' then some v else n.get k') :
    m.entries.Perm ((k, v) :: n.entries) := by
  have hnot : ∀ w, (k, w) ∉ n.entries := by
    intro w hmem
    rw [get_eq_some.mpr hmem] at hnone
    cases hnone
  refine (List.perm_ext_iff_of_nodup m.nodup_entries (List.nodup_cons.mpr ⟨hnot v, n.nodup_entries⟩)).mpr
    fun ⟨a, w⟩ => ?_
  rw [← get_eq_some, h a, List.mem_cons]
  by_cases ha : k = a
  · subst ha
    simp [hnot w, eq_comm]
  · have ha' : a ≠ k := fun he => ha he.symm
    simp [ha, ha', get_eq_some]

theorem entries_perm_erase (h : m.get k = some v) : m.entries.Perm ((k, v) :: (m.erase k).entries) := by
  refine entries_perm_cons ((get_erase m k k).trans (if_pos rfl)) fun k' => ?_
  rw [get_erase]
  by_cases hk : k = k'
  · subst hk
    rw [if_pos rfl, h]
  · rw [if_neg hk, if_neg hk]

theorem entries_insert_perm (m : SortedMap α) (k : String) (v : α) :
    (m.insert k v).entries.Perm ((k, v) :: (m.erase k).entries) := by
  refine entries_perm_cons ((get_erase m k k).trans (if_pos rfl)) fun k' => ?_
  rw [get_insert, get_erase]
  by_cases hk : k = k'
  · rw [if_pos hk, if_pos hk]
  · rw [if_neg hk, if_neg hk, if_neg hk]

theorem entries_perm_erase_of_none (h : m.get k = none) : m.entries.Perm (m.erase k).entries := by
  refine entries_perm_of_get fun k' => ?_
  rw [get_erase]
  by_cases hk : k = k'
  · subst hk
    rw [if_pos rfl, h]
  · rw [if_neg hk]

/-! ## Keys -/

theorem mem_keys (m : SortedMap α) (k : String) : k ∈ m.entries.keys ↔ (m.get k).isSome = true := by
  constructor
  · intro h
    obtain ⟨p, hp, rfl⟩ := List.mem_map.mp h
    rw [get_eq_some.mpr hp]
    rfl
  · intro h
    obtain ⟨v, hv⟩ := Option.isSome_iff_exists.mp h
    exact List.mem_map.mpr ⟨(k, v), get_eq_some.mp hv, rfl⟩

theorem mem_keys_extend (xs : List (String × α)) (m : SortedMap α) (k : String) :
    k ∈ (m.extend xs).entries.keys ↔ k ∈ xs.map (·.1) ∨ k ∈ m.entries.keys := by
  induction xs generalizing m with
  | nil => simp [extend]
  | cons p xs ih =>
    have hfirst : k ∈ (m.insert p.1 p.2).entries.keys ↔ k = p.1 ∨ k ∈ m.entries.keys := by
      rw [mem_keys, mem_keys, get_insert]
      by_cases hp : p.1 = k
      · simp [hp]
      · simp [hp, Ne.symm hp]
    have hrest : k ∈ (m.extend (p :: xs)).entries.keys ↔ k ∈ xs.map (·.1) ∨ k ∈ (m.insert p.1 p.2).entries.keys :=
      ih (m.insert p.1 p.2)
    rw [hrest, hfirst, List.map_cons, List.mem_cons]
    exact or_left_comm.trans or_assoc.symm

theorem mem_keys_ofList {xs : List (String × α)} {k : String} : k ∈ (ofList xs).entries.keys ↔ k ∈ xs.map (·.1) := by
  unfold ofList
  rw [mem_keys_extend]
  simp [empty, Assoc.keys]

theorem sorted_keys (m : SortedMap α) : m.entries.keys.Pairwise (· < ·) := List.pairwise_map.mpr m.sorted

/-! ## Values changed in place -/

def mapValues (f : String → α → β) (m : SortedMap α) : SortedMap β :=
  ⟨m.entries.map fun p => (p.1, f p.1 p.2), List.pairwise_map.mpr (m.sorted.imp fun h => h)⟩

def modify (k : String) (f : α → α) (m : SortedMap α) : SortedMap α :=
  m.mapValues fun k' v => if k' = k then f v else v

theorem keys_mapValues (f : String → α → β) (m : SortedMap α) : (m.mapValues f).entries.keys = m.entries.keys := by
  simp [mapValues, Assoc.keys, Function.comp_def]

theorem get_mapValues (f : String → α → β) (m : SortedMap α) (k : String) :
    (m.mapValues f).get k = (m.get k).map (f k) := Assoc.get_map f m.entries k

theorem get_modify (f : α → α) (m : SortedMap α) (k k' : String) :
    (m.modify k f).get k' = if k' = k then (m.get k').map f else m.get k' := by
  unfold modify
  rw [get_mapValues]
  by_cases hk : k' = k <;> simp [hk]

/-- Of keys changed in turn, each is changed as often as it is listed. -/
theorem get_foldl_modify (f : α → α) (ks : List String) (m : SortedMap α) (k : String) :
    (ks.foldl (fun m k => m.modify k f) m).get k = (m.get k).map f^[ks.count k] := by
  induction ks generalizing m with
  | nil => simp
  | cons own ks ih =>
    rw [List.foldl_cons, ih, get_modify]
    by_cases hown : k = own
    · subst hown
      simp [Function.comp_def]
    · simp [hown, List.count_cons_of_ne (Ne.symm hown)]

theorem mapValues_mapValues (f : String → α → β) (g : String → β → γ) (m : SortedMap α) :
    (m.mapValues f).mapValues g = m.mapValues fun k v => g k (f k v) := by
  apply ext
  simp [mapValues, Function.comp_def]

theorem mapValues_congr {f g : String → α → β} (h : ∀ k v, f k v = g k v) : m.mapValues f = m.mapValues g := by
  have hfg : f = g := funext fun k => funext fun v => h k v
  rw [hfg]

@[simp] theorem mapValues_id (m : SortedMap α) : (m.mapValues fun _ v => v) = m := by
  apply ext
  simp [mapValues]

end SortedMap

/-! ## Values kept -/

namespace Assoc

variable {α β γ : Type} {m : Assoc α}

/-- The keys a function keeps, with the values it gives them. -/
def filterMapValues (f : String → α → Option β) (m : Assoc α) : Assoc β :=
  m.filterMap fun p => (f p.1 p.2).map fun v => (p.1, v)

theorem filterMapValues_cons (f : String → α → Option β) (k : String) (v : α) (m : Assoc α) :
    filterMapValues f ((k, v) :: m) = ((f k v).map fun w => (k, w)).toList ++ filterMapValues f m := by
  cases hf : f k v <;> simp [filterMapValues, hf]

theorem filterMapValues_some (m : Assoc α) : filterMapValues (fun _ v => some v) m = m :=
  List.filterMap_some

theorem filterMapValues_filterMapValues (f : String → α → Option β) (g : String → β → Option γ) (m : Assoc α) :
    filterMapValues g (filterMapValues f m) = filterMapValues (fun k v => (f k v).bind (g k)) m := by
  unfold filterMapValues
  rw [List.filterMap_filterMap]
  congr 1
  funext p
  cases hf : f p.1 p.2 <;> simp [hf]

theorem mem_keys_filterMapValues {f : String → α → Option β} {k : String} (h : k ∈ keys (filterMapValues f m)) :
    k ∈ keys m := by
  obtain ⟨⟨a, w⟩, hp, rfl⟩ := List.mem_map.mp h
  obtain ⟨q, hq, hkept⟩ := List.mem_filterMap.mp hp
  obtain ⟨v, -, heq⟩ := Option.map_eq_some_iff.mp hkept
  cases heq
  exact List.mem_map_of_mem hq

theorem Distinct.filterMapValues (h : m.Distinct) (f : String → α → Option β) : (filterMapValues f m).Distinct := by
  induction m with
  | nil => exact List.nodup_nil
  | cons p m ih =>
    obtain ⟨k, v⟩ := p
    obtain ⟨hnot, hrest⟩ := List.nodup_cons.mp h
    rw [filterMapValues_cons]
    cases f k v with
    | none => exact ih hrest
    | some w => exact List.nodup_cons.mpr ⟨fun hk => hnot (mem_keys_filterMapValues hk), ih hrest⟩

theorem get_filterMapValues (h : m.Distinct) (f : String → α → Option β) (k : String) :
    get k (filterMapValues f m) = (get k m).bind (f k) := by
  induction m with
  | nil => rfl
  | cons p m ih =>
    obtain ⟨a, v⟩ := p
    obtain ⟨hnot, hrest⟩ := List.nodup_cons.mp h
    rw [filterMapValues_cons]
    by_cases ha : a = k
    · subst ha
      rw [get_cons_self, Option.bind_some]
      cases hf : f a v with
      | none => exact get_of_notMem_keys fun hk => hnot (mem_keys_filterMapValues hk)
      | some w => exact get_cons_self _ _ _
    · rw [get_cons_other _ _ ha, ← ih hrest]
      cases hf : f a v with
      | none => rfl
      | some w => exact get_cons_other _ _ ha

theorem foldl_put_append (f : String → α → Option β) (h : m.Distinct) {acc : Assoc β} (hacc : ∀ k ∈ m.keys, k ∉ acc.keys) :
    m.foldl (fun acc p => (f p.1 p.2).elim acc fun v => acc.put p.1 v) acc = acc ++ filterMapValues f m := by
  induction m generalizing acc with
  | nil => exact (List.append_nil acc).symm
  | cons p m ih =>
    obtain ⟨k, v⟩ := p
    obtain ⟨hnot, hrest⟩ := List.nodup_cons.mp h
    rw [List.foldl_cons, filterMapValues_cons]
    cases f k v with
    | none => exact ih hrest fun k' hk' => hacc k' (List.mem_cons_of_mem _ hk')
    | some w =>
      have hput : put k w acc = acc ++ [(k, w)] := put_of_not_mem w (hacc k List.mem_cons_self)
      have hfresh : ∀ k' ∈ keys m, k' ∉ keys (put k w acc) := by
        intro k' hk' hmem
        obtain rfl | hmem := mem_keys_put.mp hmem
        · exact hnot hk'
        · exact hacc k' (List.mem_cons_of_mem _ hk') hmem
      show List.foldl _ (put k w acc) m = _
      rw [ih hrest hfresh, hput, List.append_assoc]
      rfl

/-- **What is kept, put in turn.** -/
theorem foldl_put (f : String → α → Option β) (h : m.Distinct) :
    m.foldl (fun (acc : Assoc β) p => (f p.1 p.2).elim acc fun v => acc.put p.1 v) [] = filterMapValues f m :=
  foldl_put_append f h fun _ _ hmem => absurd hmem List.not_mem_nil

theorem foldl_insert_append (f : String → α → Option β) (h : m.Sorted) {acc : SortedMap β}
    (hacc : ∀ p ∈ acc.entries, ∀ q ∈ m, p.1 < q.1) :
    (m.foldl (fun acc p => (f p.1 p.2).elim acc fun v => acc.insert p.1 v) acc).entries =
      acc.entries ++ filterMapValues f m := by
  induction m generalizing acc with
  | nil => exact (List.append_nil acc.entries).symm
  | cons p m ih =>
    obtain ⟨k, v⟩ := p
    obtain ⟨habove, hrest⟩ := List.pairwise_cons.mp h
    rw [List.foldl_cons, filterMapValues_cons]
    cases f k v with
    | none => exact ih hrest fun p hp q hq => hacc p hp q (List.mem_cons_of_mem _ hq)
    | some w =>
      have hinsert : (acc.insert k w).entries = acc.entries ++ [(k, w)] :=
        insert_above fun p hp => hacc p hp _ List.mem_cons_self
      have hbelow : ∀ p ∈ (acc.insert k w).entries, ∀ q ∈ m, p.1 < q.1 := by
        intro p hp q hq
        rw [hinsert, List.mem_append, List.mem_singleton] at hp
        obtain hp | rfl := hp
        · exact hacc p hp q (List.mem_cons_of_mem _ hq)
        · exact habove q hq
      show (List.foldl _ (acc.insert k w) m).entries = _
      rw [ih hrest hbelow, hinsert, List.append_assoc]
      rfl

/-- **What is kept, inserted in turn.** -/
theorem foldl_insert (f : String → α → Option β) (h : m.Sorted) :
    (m.foldl (fun (acc : SortedMap β) p => (f p.1 p.2).elim acc fun v => acc.insert p.1 v) .empty).entries =
      filterMapValues f m :=
  foldl_insert_append f h fun _ hp => absurd hp List.not_mem_nil

end Assoc

end Basis
