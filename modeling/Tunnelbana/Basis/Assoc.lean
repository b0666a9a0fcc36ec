/-
Insertion-ordered maps with string keys: `put` overwrites in place or
appends, as an index map does, and `erase` drops the key. `get` reads
the first entry, the only one where keys are distinct, which `put` and
`erase` keep.
-/

namespace Basis

/-- A map as the list of its entries, in insertion order. -/
abbrev Assoc (α : Type) := List (String × α)

namespace Assoc

variable {α : Type}

def get (k : String) : Assoc α → Option α
  | [] => none
  | (k', v) :: m => if k' = k then some v else get k m

/-- Overwrite the value in place, or append the entry. -/
def put (k : String) (v : α) : Assoc α → Assoc α
  | [] => [(k, v)]
  | (k', w) :: m => if k' = k then (k, v) :: m else (k', w) :: put k v m

def erase (k : String) : Assoc α → Assoc α
  | [] => []
  | (k', w) :: m => if k' = k then erase k m else (k', w) :: erase k m

def keys (m : Assoc α) : List String := m.map (·.1)

@[simp] theorem get_nil (k : String) : get k ([] : Assoc α) = none := rfl

/-! Reading a map given by its entries. -/

theorem get_cons_self (k : String) (v : α) (m : Assoc α) : get k ((k, v) :: m) = some v := if_pos rfl

theorem get_cons_other {k k' : String} (v : α) (m : Assoc α) (h : k' ≠ k) : get k ((k', v) :: m) = get k m := if_neg h

theorem get_put (m : Assoc α) (k k' : String) (v : α) :
    get k' (put k v m) = if k = k' then some v else get k' m := by
  induction m with
  | nil => simp [put, get]
  | cons p m ih =>
    obtain ⟨a, w⟩ := p
    by_cases hak : a = k
    · subst hak
      by_cases hk : a = k' <;> simp [put, get, hk]
    · by_cases hk : k = k'
      · subst hk
        simp [put, get, hak, ih]
      · by_cases ha : a = k' <;> simp_all [put, get]

@[simp] theorem get_put_self (m : Assoc α) (k : String) (v : α) : get k (put k v m) = some v := by
  simp [get_put]

theorem get_put_other (m : Assoc α) {k k' : String} (v : α) (hne : k ≠ k') :
    get k' (put k v m) = get k' m := by
  simp [get_put, hne]

theorem get_erase (m : Assoc α) (k k' : String) :
    get k' (erase k m) = if k = k' then none else get k' m := by
  induction m with
  | nil => simp [erase]
  | cons p m ih =>
    obtain ⟨a, w⟩ := p
    by_cases hak : a = k
    · subst hak
      by_cases hk : a = k' <;> simp_all [erase, get]
    · by_cases ha : a = k'
      · subst ha
        have hka : ¬ k = a := fun h => hak h.symm
        simp [erase, get, hak, hka]
      · simp [erase, get, hak, ha, ih]

theorem get_mem {m : Assoc α} {k : String} {v : α} (h : get k m = some v) : (k, v) ∈ m := by
  induction m with
  | nil => simp at h
  | cons p m ih =>
    obtain ⟨a, w⟩ := p
    by_cases hak : a = k
    · simp only [get, hak, if_true, Option.some.injEq] at h
      simp [hak, h]
    · simp only [get, hak, if_false] at h
      exact List.mem_cons_of_mem _ (ih h)

theorem get_of_notMem_keys {m : Assoc α} {k : String} (h : k ∉ keys m) : get k m = none := by
  cases hget : get k m with
  | none => rfl
  | some v => exact absurd (List.mem_map_of_mem (get_mem hget)) h

theorem mem_put {m : Assoc α} {k : String} {v : α} {p : String × α} (h : p ∈ put k v m) :
    p = (k, v) ∨ p ∈ m := by
  induction m with
  | nil => simpa [put] using h
  | cons q m ih =>
    obtain ⟨a, w⟩ := q
    by_cases hak : a = k
    · simp only [put, hak, if_true, List.mem_cons] at h
      rcases h with h | h
      · exact .inl h
      · exact .inr (List.mem_cons_of_mem _ h)
    · simp only [put, hak, if_false, List.mem_cons] at h
      rcases h with h | h
      · exact .inr (by simp [h])
      · rcases ih h with h | h
        · exact .inl h
        · exact .inr (List.mem_cons_of_mem _ h)

theorem mem_erase {m : Assoc α} {k : String} {p : String × α} (h : p ∈ erase k m) : p ∈ m := by
  induction m with
  | nil => simp [erase] at h
  | cons q m ih =>
    obtain ⟨a, w⟩ := q
    by_cases hak : a = k
    · simp only [erase, hak, if_true] at h
      exact List.mem_cons_of_mem _ (ih h)
    · simp only [erase, hak, if_false, List.mem_cons] at h
      rcases h with h | h
      · simp [h]
      · exact List.mem_cons_of_mem _ (ih h)

/-! ## Distinct keys -/

/-- Every key has one entry. -/
def Distinct (m : Assoc α) : Prop := m.keys.Nodup

theorem mem_keys_put {m : Assoc α} {k k' : String} {v : α} :
    k' ∈ keys (put k v m) ↔ k' = k ∨ k' ∈ keys m := by
  induction m with
  | nil => simp [put, keys]
  | cons p m ih =>
    obtain ⟨a, w⟩ := p
    by_cases hak : a = k
    · subst hak; simp [put, keys]
    · simp only [keys] at ih
      simp [put, hak, keys, ih]
      grind

theorem Distinct.put {m : Assoc α} (h : m.Distinct) (k : String) (v : α) :
    Distinct (Assoc.put k v m) := by
  induction m with
  | nil => simp [Assoc.put, Distinct, keys]
  | cons p m ih =>
    obtain ⟨a, w⟩ := p
    simp only [Distinct, keys, List.map_cons, List.nodup_cons] at h
    by_cases hak : a = k
    · subst hak
      simpa [Assoc.put, Distinct, keys] using h
    · have hrest : Distinct (Assoc.put k v m) := ih h.2
      have hnot : a ∉ keys (Assoc.put k v m) := by
        rw [mem_keys_put]
        rintro (he | he)
        · exact hak he
        · exact h.1 he
      simp only [Assoc.put, hak, if_false, Distinct, keys, List.map_cons, List.nodup_cons]
      exact ⟨hnot, hrest⟩

theorem Distinct.filter {m : Assoc α} (h : m.Distinct) (p : String × α → Bool) : Distinct (List.filter p m) :=
  h.sublist (List.filter_sublist.map _)

/-- Where keys are distinct, dropping entries drops their values. -/
theorem get_filter {m : Assoc α} (h : m.Distinct) (p : String × α → Bool) (k : String) :
    get k (List.filter p m) = (get k m).filter fun v => p (k, v) := by
  induction m with
  | nil => rfl
  | cons q m ih =>
    obtain ⟨a, w⟩ := q
    simp only [Distinct, keys, List.map_cons, List.nodup_cons] at h
    have hrest := ih h.2
    by_cases hak : a = k
    · subst hak
      have hnone : get a m = none := get_of_notMem_keys h.1
      cases hp : p (a, w) with
      | true =>
        rw [List.filter_cons_of_pos hp]
        simp [get, Option.filter_some, hp]
      | false =>
        rw [List.filter_cons_of_neg (by simp [hp]), hrest, hnone]
        simp [get, Option.filter_some, hp]
    · cases hp : p (a, w) with
      | true =>
        rw [List.filter_cons_of_pos hp]
        simp only [get, if_neg hak, hrest]
      | false =>
        rw [List.filter_cons_of_neg (by simp [hp])]
        simp only [get, if_neg hak, hrest]

theorem put_of_not_mem {m : Assoc α} {k : String} (v : α) (h : k ∉ keys m) :
    put k v m = m ++ [(k, v)] := by
  induction m with
  | nil => rfl
  | cons p m ih =>
    obtain ⟨a, w⟩ := p
    simp only [keys, List.map_cons, List.mem_cons, not_or] at h
    have hne : ¬ a = k := fun he => h.1 he.symm
    simp [put, hne, ih h.2]

theorem length_put_le (m : Assoc α) (k : String) (v : α) : (put k v m).length ≤ m.length + 1 := by
  induction m with
  | nil => simp [put]
  | cons p m ih =>
    obtain ⟨a, w⟩ := p
    by_cases hak : a = k
    · simp [put, hak]
    · simp only [put, if_neg hak, List.length_cons]
      omega

/-- Where the key has a value, it adds none. -/
theorem length_put_of_mem {m : Assoc α} {k : String} (v : α) {w : α} (h : get k m = some w) :
    (put k v m).length = m.length := by
  induction m with
  | nil => cases h
  | cons p m ih =>
    obtain ⟨a, u⟩ := p
    by_cases hak : a = k
    · simp [put, hak]
    · simp only [get, if_neg hak] at h
      simp only [put, if_neg hak, List.length_cons, ih h]

/-- With distinct keys, an entry is what its key reads. -/
theorem Distinct.get_of_mem {m : Assoc α} (h : m.Distinct) {k : String} {v : α} (hm : (k, v) ∈ m) :
    get k m = some v := by
  induction m with
  | nil => simp at hm
  | cons p m ih =>
    obtain ⟨a, w⟩ := p
    simp only [Distinct, keys, List.map_cons, List.nodup_cons] at h
    rcases List.mem_cons.mp hm with he | hm
    · simp only [Prod.mk.injEq] at he
      obtain ⟨rfl, rfl⟩ := he
      simp [get]
    · have hne : a ≠ k := fun he => h.1 (he ▸ List.mem_map_of_mem hm)
      simp [get, hne, ih h.2 hm]

end Assoc

/-- Items that are each read back as what they were written from are read back as the list. -/
theorem mapM_readBack {α β : Type} {read : β → Option α} {write : α → β} {xs : List α}
    (h : ∀ x ∈ xs, read (write x) = some x) : (xs.map write).mapM read = some xs := by
  induction xs with
  | nil => rfl
  | cons x xs ih =>
    have hrest := ih fun y hy => h y (List.mem_cons_of_mem _ hy)
    simp [h x List.mem_cons_self, hrest]

end Basis
