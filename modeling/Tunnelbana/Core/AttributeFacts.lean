/-
What the attribute mapper reads of external attributes: an internal attribute
gets the values of every external key of its mapping (`get_toInternal`,
`mem_collect`), and a subject id the first values of its sources
(`composeSubjectId_eq`).
-/
import Mathlib.Data.List.Basic
import Tunnelbana.Basis.SortedMapFacts
import Tunnelbana.Core.Attributes

namespace Tunnelbana

open Basis

theorem appendNew_nil (values : List String) : appendNew values [] = values := rfl

theorem appendNew_cons (values : List String) (v : String) (vals : List String) :
    appendNew values (v :: vals) = appendNew (if v ∈ values then values else values ++ [v]) vals := rfl

@[simp] theorem mem_appendNew {values vals : List String} {v : String} :
    v ∈ appendNew values vals ↔ v ∈ values ∨ v ∈ vals := by
  induction vals generalizing values with
  | nil => simp [appendNew_nil]
  | cons u vals ih =>
    rw [appendNew_cons, ih]
    by_cases hu : u ∈ values
    · rw [if_pos hu]
      constructor
      · rintro (h | h)
        · exact .inl h
        · exact .inr (List.mem_cons_of_mem _ h)
      · rintro (h | h)
        · exact .inl h
        · rcases List.mem_cons.mp h with rfl | h
          · exact .inl hu
          · exact .inr h
    · rw [if_neg hu]
      simp [or_assoc]

theorem prefix_appendNew (values vals : List String) : ∃ more, appendNew values vals = values ++ more := by
  induction vals generalizing values with
  | nil => exact ⟨[], (List.append_nil values).symm⟩
  | cons u vals ih =>
    rw [appendNew_cons]
    by_cases hu : u ∈ values
    · rw [if_pos hu]
      exact ih values
    · obtain ⟨more, hmore⟩ := ih (values ++ [u])
      rw [if_neg hu, hmore]
      exact ⟨[u] ++ more, List.append_assoc values [u] more⟩

theorem head?_appendNew_nil (vals : List String) : (appendNew [] vals).head? = vals.head? := by
  cases vals with
  | nil => rfl
  | cons v vals =>
    obtain ⟨more, hmore⟩ := prefix_appendNew [v] vals
    have hfirst : appendNew [] (v :: vals) = [v] ++ more := hmore
    rw [hfirst]
    rfl

theorem appendNew_of_subset {values vals : List String} (h : ∀ v ∈ vals, v ∈ values) : appendNew values vals = values := by
  induction vals with
  | nil => rfl
  | cons v vals ih =>
    rw [appendNew_cons, if_pos (h v List.mem_cons_self)]
    exact ih fun u hu => h u (List.mem_cons_of_mem _ hu)

section

variable {lookup : String → List String}

theorem mem_foldl_appendNew {keys acc : List String} {v : String} :
    v ∈ keys.foldl (fun values k => appendNew values (lookup k)) acc ↔ v ∈ acc ∨ ∃ k ∈ keys, v ∈ lookup k := by
  induction keys generalizing acc with
  | nil => simp
  | cons k keys ih =>
    rw [List.foldl_cons, ih, mem_appendNew, or_assoc]
    simp

/-- **A repeated key adds nothing**: what its values are is there already. -/
theorem foldl_appendNew_keys (seen keys acc : List String) :
    (appendNew seen keys).foldl (fun values k => appendNew values (lookup k)) acc =
      keys.foldl (fun values k => appendNew values (lookup k))
        (seen.foldl (fun values k => appendNew values (lookup k)) acc) := by
  induction keys generalizing seen with
  | nil => rfl
  | cons k keys ih =>
    rw [appendNew_cons, ih, List.foldl_cons]
    by_cases hk : k ∈ seen
    · have hthere : ∀ v ∈ lookup k, v ∈ seen.foldl (fun values k => appendNew values (lookup k)) acc :=
        fun v hv => mem_foldl_appendNew.mpr (.inr ⟨k, hk, hv⟩)
      rw [if_pos hk, appendNew_of_subset hthere]
    · rw [if_neg hk, List.foldl_append]
      rfl

end

/-- **Every matching external key is collected.** -/
theorem ProfileAttribute.mem_collect {p : ProfileAttribute} {external : SortedMap (List String)} {v : String} :
    v ∈ p.collect external ↔ ∃ k ∈ p.keys, ∃ values, external.get k = some values ∧ v ∈ values := by
  have hkey : ∀ k, v ∈ (external.get k).getD [] ↔ ∃ values, external.get k = some values ∧ v ∈ values := by
    intro k
    cases external.get k <;> simp
  unfold collect
  rw [mem_foldl_appendNew]
  simp [hkey]

namespace AttributeMapper

variable {m : AttributeMapper} {profile n : String} {external : SortedMap (List String)}

/-- The values of an internal attribute; none when no key of it is there. -/
def mapped (m : AttributeMapper) (profile : String) (external : SortedMap (List String)) (n : String) :
    Option (List String) :=
  ((m.profileAttribute profile n).map fun mapping => mapping.collect external).filter (· ≠ [])

/-- **The internal attributes, in order**, each with what its mapping collects. -/
theorem entries_toInternal (m : AttributeMapper) (profile : String) (external : SortedMap (List String)) :
    (m.toInternal profile external).entries =
      Assoc.filterMapValues (fun _ profiles =>
        ((profiles.get profile).map fun mapping => mapping.collect external).filter (· ≠ [])) m.attributes.entries := by
  refine Eq.trans (congrArg SortedMap.entries ?_) (Assoc.foldl_insert _ m.attributes.sorted)
  unfold toInternal
  congr 1
  funext internal p
  cases p.2.get profile with
  | none => rfl
  | some mapping => by_cases hempty : mapping.collect external = [] <;> simp [hempty, Option.filter]

/-- **An internal attribute gets what its mapping collects.** -/
theorem get_toInternal (m : AttributeMapper) (profile : String) (external : SortedMap (List String)) (n : String) :
    (m.toInternal profile external).get n = m.mapped profile external n := by
  show Assoc.get n (m.toInternal profile external).entries = _
  rw [entries_toInternal, Assoc.get_filterMapValues m.attributes.distinct_entries]
  unfold mapped profileAttribute
  show (Assoc.get n m.attributes.entries).bind _ = _
  cases hn : Assoc.get n m.attributes.entries <;> simp [SortedMap.get, hn]

theorem mapped_ne_nil {values : List String} (h : m.mapped profile external n = some values) : values ≠ [] := by
  unfold mapped at h
  have hkept := Option.filter_eq_some_iff.mp h
  simpa using hkept.2

theorem composeSubjectId_eq {internal : SortedMap (List String)} (h : m.userIdFromAttrs ≠ []) :
    m.composeSubjectId internal =
      (m.userIdFromAttrs.mapM fun name => (internal.get name).bind List.head?).map (String.intercalate ":") := by
  unfold composeSubjectId
  rw [if_neg h]

end AttributeMapper

end Tunnelbana
