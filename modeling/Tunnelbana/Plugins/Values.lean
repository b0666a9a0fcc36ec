/-
`filter_attribute_values` and `rename_attributes`. Filtering keeps of every
attribute the values all applicable patterns match, however the rules are
visited (`processResponse_intersection`); renaming moves values and loses none
(`processResponse_conserves`).
-/
import Tunnelbana.Basis.SortedMapFacts
import Tunnelbana.Basis.Text
import Tunnelbana.Core.Plugin

namespace Tunnelbana

open Basis

/-! ## `filter_attribute_values` -/

/-- A bare pattern, or a table that names the kind of filter. -/
inductive FilterSpec where
  | pattern (p : String)
  | typed (kinds : SortedMap String)

/-- Whether a pattern matches somewhere in a value. -/
abbrev Regex := String → Bool

/-- Provider to requester to attribute to filter; `""` is a default that applies
besides the specific entries. -/
abbrev Filters (F : Type) := SortedMap (SortedMap (SortedMap F))

def FilterSpec.patternOf (name : String) : FilterSpec → Except Error String
  | .pattern p => .ok p
  | .typed kinds =>
    match kinds.entries with
    | [(kind, value)] =>
      if kind = "regexp" then .ok value
      else .error (.config ("filter_attribute_values " ++ name ++ ": unsupported filter type " ++ Text.debug kind))
    | (kind, _) :: _ :: _ =>
      if kind ≠ "regexp" then
        .error (.config ("filter_attribute_values " ++ name ++ ": unsupported filter type " ++ Text.debug kind))
      else .error (.config ("filter_attribute_values " ++ name ++ ": a filter needs exactly one regexp"))
    | [] => .error (.config ("filter_attribute_values " ++ name ++ ": a filter needs exactly one regexp"))

/-- Each value compiled, in key order; the first failure ends it. -/
def compileMap {α β : Type} (f : α → Except Error β) (m : SortedMap α) : Except Error (SortedMap β) := do
  let entries ← m.entries.mapM fun p => (f p.2).map fun v => (p.1, v)
  return .ofList entries

/-- `newRegex` compiles a pattern. -/
def compileFilters (newRegex : String → Except String Regex) (name : String) (raw : Filters FilterSpec) :
    Except Error (Filters Regex) :=
  compileMap (compileMap (compileMap fun spec => do
    let pattern ← spec.patternOf name
    (newRegex pattern).mapError fun e =>
      Error.config ("filter_attribute_values " ++ name ++ ": bad pattern " ++ Text.debug pattern ++ ": " ++ e))) raw

structure FilterAttributeValues where
  name : String
  filters : Filters Regex

namespace FilterAttributeValues

def build (newRegex : String → Except String Regex) (name : String) (raw : Filters FilterSpec) :
    Except Error FilterAttributeValues := do
  let filters ← compileFilters newRegex name raw
  return { name, filters }

/-- One rule; `""` is every attribute. -/
def visit (attributes : SortedMap (List String)) (rule : String × Regex) : SortedMap (List String) :=
  if rule.1 = "" then attributes.mapValues fun _ values => values.filter rule.2
  else attributes.modify rule.1 fun values => values.filter rule.2

def apply (attributes : SortedMap (List String)) (filters : SortedMap Regex) : SortedMap (List String) :=
  filters.entries.foldl visit attributes

def keysFor (k : String) : List String := if k = "" then [""] else ["", k]

variable (p : FilterAttributeValues)

/-- The default provider before the specific one; within each, the default
requester before the specific one. -/
def filtered (provider requester : String) (attributes : SortedMap (List String)) : SortedMap (List String) :=
  (keysFor provider).foldl (fun attributes pk =>
    match p.filters.get pk with
    | none => attributes
    | some byRequester =>
      (keysFor requester).foldl (fun attributes rk =>
        match byRequester.get rk with
        | some filters => apply attributes filters
        | none => attributes) attributes) attributes

def processResponse (data : InternalData) : Flow InternalData :=
  return { data with
    attributes := p.filtered (data.authInfo.issuer.getD "") (data.requester.getD "") data.attributes }

def microService {W : Type} : MicroService W where
  name := p.name
  processResponse _ data := p.processResponse data

/-! ### The rules of a response -/

/-- The rules visited for a provider and a requester, in the order of the visits. -/
def rules (provider requester : String) : List (String × Regex) :=
  (keysFor provider).flatMap fun pk => (p.filters.get pk).toList.flatMap fun byRequester =>
    (keysFor requester).flatMap fun rk => (byRequester.get rk).toList.flatMap (·.entries)

def filterAt (pk rk ak : String) : Option Regex :=
  ((p.filters.get pk).bind fun byRequester => byRequester.get rk).bind fun filters => filters.get ak

def applicable (provider requester name : String) : List Regex :=
  ["", provider].flatMap fun pk => ["", requester].flatMap fun rk => ["", name].filterMap fun ak =>
    p.filterAt pk rk ak

theorem filtered_eq_foldl (provider requester : String) (attributes : SortedMap (List String)) :
    p.filtered provider requester attributes = (p.rules provider requester).foldl visit attributes := by
  unfold filtered rules
  rw [List.foldl_flatMap]
  congr 1
  funext attributes pk
  cases p.filters.get pk with
  | none => rfl
  | some byRequester =>
    simp only [Option.toList_some, List.flatMap_cons, List.flatMap_nil, List.append_nil]
    rw [List.foldl_flatMap]
    congr 1
    funext attributes rk
    cases byRequester.get rk with
    | none => rfl
    | some filters => simp [apply]

def passes (name v : String) (rule : String × Regex) : Bool := !(rule.1 = "" || rule.1 = name) || rule.2 v

theorem passes_iff {name v : String} {rule : String × Regex} :
    passes name v rule = true ↔ (rule.1 = "" ∨ rule.1 = name → rule.2 v = true) := by
  unfold passes
  by_cases hall : rule.1 = "" <;> by_cases hname : rule.1 = name <;> simp [hall, hname]

/-- A rule filters the attributes it is for. -/
theorem visit_eq (attributes : SortedMap (List String)) (rule : String × Regex) :
    visit attributes rule = attributes.mapValues fun name values =>
      values.filter fun v => passes name v rule := by
  unfold visit passes
  by_cases hall : rule.1 = ""
  · rw [if_pos hall]
    simp [hall]
  · rw [if_neg hall]
    unfold SortedMap.modify
    refine SortedMap.mapValues_congr fun name values => ?_
    by_cases hname : name = rule.1
    · subst hname
      simp
    · have hname' : rule.1 ≠ name := fun he => hname he.symm
      rw [if_neg hname]
      exact (List.filter_eq_self.mpr fun _ _ => by simp [hall, hname']).symm

theorem foldl_visit (rules : List (String × Regex)) (attributes : SortedMap (List String)) :
    rules.foldl visit attributes = attributes.mapValues fun name values =>
      values.filter fun v => rules.all (passes name v) := by
  induction rules generalizing attributes with
  | nil =>
    refine (SortedMap.mapValues_id attributes).symm.trans (SortedMap.mapValues_congr fun name values => ?_)
    exact (List.filter_eq_self.mpr fun _ _ => rfl).symm
  | cons rule rules ih =>
    rw [List.foldl_cons, ih, visit_eq, SortedMap.mapValues_mapValues]
    refine SortedMap.mapValues_congr fun name values => ?_
    rw [List.filter_filter]
    refine List.filter_congr fun v _ => ?_
    simp only [List.all_cons]
    rw [Bool.and_comm]

theorem mem_keysFor {k key : String} : k ∈ keysFor key ↔ k ∈ ["", key] := by
  unfold keysFor
  by_cases hkey : key = "" <;> simp [hkey]

theorem mem_rules {provider requester : String} {rule : String × Regex} :
    rule ∈ p.rules provider requester ↔
      ∃ pk ∈ ["", provider], ∃ rk ∈ ["", requester], p.filterAt pk rk rule.1 = some rule.2 := by
  simp only [rules, List.mem_flatMap, mem_keysFor, Option.mem_toList, filterAt, Option.bind_eq_some_iff]
  constructor
  · rintro ⟨pk, hpk, byRequester, hby, rk, hrk, filters, hfilters, hmem⟩
    exact ⟨pk, hpk, rk, hrk, filters, ⟨byRequester, hby, hfilters⟩, SortedMap.get_eq_some.mpr hmem⟩
  · rintro ⟨pk, hpk, rk, hrk, filters, ⟨byRequester, hby, hfilters⟩, hget⟩
    exact ⟨pk, hpk, byRequester, hby, rk, hrk, filters, hfilters, SortedMap.get_eq_some.mp hget⟩

theorem mem_applicable {provider requester name : String} {regex : Regex} :
    regex ∈ p.applicable provider requester name ↔
      ∃ pk ∈ ["", provider], ∃ rk ∈ ["", requester], ∃ ak ∈ ["", name], p.filterAt pk rk ak = some regex := by
  simp only [applicable, List.mem_flatMap, List.mem_filterMap]

/-- The rules for an attribute are the applicable patterns. -/
theorem all_rules (provider requester name v : String) :
    (p.rules provider requester).all (passes name v) = (p.applicable provider requester name).all fun regex => regex v := by
  rw [Bool.eq_iff_iff, List.all_eq_true, List.all_eq_true]
  constructor
  · intro hrules regex hregex
    obtain ⟨pk, hpk, rk, hrk, ak, hak, hat⟩ := p.mem_applicable.mp hregex
    exact passes_iff.mp (hrules (ak, regex) (p.mem_rules.mpr ⟨pk, hpk, rk, hrk, hat⟩)) (by simpa using hak)
  · intro happlicable rule hrule
    obtain ⟨pk, hpk, rk, hrk, hat⟩ := p.mem_rules.mp hrule
    refine passes_iff.mpr fun hfor => ?_
    exact happlicable rule.2 (p.mem_applicable.mpr ⟨pk, hpk, rk, hrk, rule.1, by simpa using hfor, hat⟩)

/-- **Filtering is an intersection.** -/
theorem filtered_eq (provider requester : String) (attributes : SortedMap (List String)) :
    p.filtered provider requester attributes = attributes.mapValues fun name values =>
      values.filter fun v => (p.applicable provider requester name).all fun regex => regex v := by
  rw [filtered_eq_foldl, foldl_visit]
  refine SortedMap.mapValues_congr fun name values => List.filter_congr fun v _ => ?_
  exact p.all_rules provider requester name v

theorem filtered_filtered (provider requester : String) (attributes : SortedMap (List String)) :
    p.filtered provider requester (p.filtered provider requester attributes) =
      p.filtered provider requester attributes := by
  rw [filtered_eq, filtered_eq, SortedMap.mapValues_mapValues]
  refine SortedMap.mapValues_congr fun name values => ?_
  rw [List.filter_filter]
  refine List.filter_congr fun v _ => ?_
  rw [Bool.and_self]

/-- In any order the rules filter alike. -/
theorem foldl_visit_perm {rules rules' : List (String × Regex)} (h : rules.Perm rules')
    (attributes : SortedMap (List String)) : rules.foldl visit attributes = rules'.foldl visit attributes := by
  rw [foldl_visit, foldl_visit]
  refine SortedMap.mapValues_congr fun name values => List.filter_congr fun v _ => ?_
  rw [Bool.eq_iff_iff, List.all_eq_true, List.all_eq_true]
  exact ⟨fun hall rule hrule => hall rule (h.mem_iff.mpr hrule), fun hall rule hrule => hall rule (h.mem_iff.mp hrule)⟩

/-- **The service keeps of every attribute exactly the values that all
applicable patterns match**, in order; once more changes nothing, and neither
does another order of the rules. -/
theorem processResponse_intersection (p : FilterAttributeValues) (data : InternalData) (ctx : Context) :
    ∃ next, p.processResponse data ctx = (.ok next, ctx) ∧ next = { data with attributes := next.attributes } ∧
      next.attributes.entries.keys = data.attributes.entries.keys ∧
      (∀ name, next.attributes.get name = (data.attributes.get name).map fun values => values.filter fun v =>
        (p.applicable (data.authInfo.issuer.getD "") (data.requester.getD "") name).all fun regex => regex v) ∧
      p.processResponse next ctx = (.ok next, ctx) ∧
      ∀ rules : List (String × Regex), rules.Perm (p.rules (data.authInfo.issuer.getD "") (data.requester.getD "")) →
        rules.foldl visit data.attributes = next.attributes := by
  refine ⟨{ data with attributes := p.filtered (data.authInfo.issuer.getD "") (data.requester.getD "") data.attributes },
    rfl, rfl, ?_, fun name => ?_, ?_, fun rules hperm => ?_⟩
  · simp only [filtered_eq, SortedMap.keys_mapValues]
  · simp only [filtered_eq, SortedMap.get_mapValues]
  · unfold processResponse
    simp only [filtered_filtered]
    rfl
  · rw [foldl_visit_perm hperm, ← filtered_eq_foldl]

end FilterAttributeValues

/-! ## `rename_attributes` -/

structure RenameAttributes where
  name : String
  /-- Old internal name to new one. -/
  rename : SortedMap String := .empty

namespace RenameAttributes

/-- Move the values of one attribute behind those of another. -/
def move (attributes : SortedMap (List String)) (rule : String × String) : SortedMap (List String) :=
  match attributes.get rule.1 with
  | none => attributes
  | some values =>
    let rest := attributes.erase rule.1
    rest.insert rule.2 ((rest.get rule.2).getD [] ++ values)

variable (p : RenameAttributes)

def renamed (attributes : SortedMap (List String)) : SortedMap (List String) :=
  p.rename.entries.foldl move attributes

def processResponse (data : InternalData) : Flow InternalData :=
  return { data with attributes := p.renamed data.attributes }

def microService {W : Type} : MicroService W where
  name := p.name
  processResponse _ data := p.processResponse data

/-! ### One move -/

variable {attributes : SortedMap (List String)} {rule : String × String} {values : List String} {n : String}

def allValues (attributes : SortedMap (List String)) : List String := attributes.entries.flatMap (·.2)

/-- A move loses no value and adds none. -/
theorem move_conserves (attributes : SortedMap (List String)) (rule : String × String) :
    (allValues (move attributes rule)).Perm (allValues attributes) := by
  unfold move
  cases hvalues : attributes.get rule.1 with
  | none => exact List.Perm.refl _
  | some values =>
    have hold : (allValues attributes).Perm (values ++ allValues (attributes.erase rule.1)) :=
      (SortedMap.entries_perm_erase hvalues).flatMap_right _
    generalize attributes.erase rule.1 = rest at hold ⊢
    have hinsert : (allValues (rest.insert rule.2 ((rest.get rule.2).getD [] ++ values))).Perm
        (((rest.get rule.2).getD [] ++ values) ++ allValues (rest.erase rule.2)) :=
      (SortedMap.entries_insert_perm rest rule.2 _).flatMap_right _
    have hheld : (allValues rest).Perm ((rest.get rule.2).getD [] ++ allValues (rest.erase rule.2)) := by
      cases hget : rest.get rule.2 with
      | none => exact (SortedMap.entries_perm_erase_of_none hget).flatMap_right _
      | some held => exact (SortedMap.entries_perm_erase hget).flatMap_right _
    have hswap : (((rest.get rule.2).getD [] ++ values) ++ allValues (rest.erase rule.2)).Perm
        (values ++ ((rest.get rule.2).getD [] ++ allValues (rest.erase rule.2))) := by
      rw [← List.append_assoc]
      exact List.perm_append_comm.append_right _
    exact hinsert.trans (hswap.trans ((hheld.symm.append_left values).trans hold.symm))

/-- Values behind those held; none are held where there are none. -/
def behind : Option (List String) → Option (List String) → Option (List String)
  | held, none => held
  | held, some values => some (held.getD [] ++ values)

/-- Moved onto itself an attribute stays. -/
theorem get_move_self (h : rule.1 = rule.2) : (move attributes rule).get n = attributes.get n := by
  unfold move
  cases hvalues : attributes.get rule.1 with
  | none => rfl
  | some values =>
    simp only [SortedMap.get_insert, SortedMap.get_erase, if_pos h, Option.getD_none, List.nil_append]
    by_cases hn : rule.2 = n
    · subst hn
      rw [if_pos rfl, ← h, hvalues]
    · rw [if_neg hn, if_neg (h ▸ hn)]

/-- Moved elsewhere, it is gone, and its values stand behind those held there. -/
theorem get_move (h : rule.1 ≠ rule.2) :
    (move attributes rule).get n =
      if n = rule.1 then none
      else if n = rule.2 then behind (attributes.get n) (attributes.get rule.1)
      else attributes.get n := by
  unfold move
  cases hvalues : attributes.get rule.1 with
  | none =>
    by_cases hold : n = rule.1
    · rw [if_pos hold, hold, hvalues]
    · rw [if_neg hold]
      simp [behind]
  | some values =>
    simp only [SortedMap.get_insert, SortedMap.get_erase, if_neg h]
    by_cases hold : n = rule.1
    · subst hold
      have hne : rule.2 ≠ rule.1 := fun he => h he.symm
      rw [if_neg hne, if_pos rfl, if_pos rfl]
    · have hold' : rule.1 ≠ n := fun he => hold he.symm
      rw [if_neg hold, if_neg hold']
      by_cases hnew : n = rule.2
      · subst hnew
        rw [if_pos rfl, if_pos rfl]
        rfl
      · have hnew' : rule.2 ≠ n := fun he => hnew he.symm
        rw [if_neg hnew, if_neg hnew']

theorem get_move_other (hold : rule.1 ≠ n) (hnew : rule.2 ≠ n) : (move attributes rule).get n = attributes.get n := by
  by_cases h : rule.1 = rule.2
  · exact get_move_self h
  · have hold' : n ≠ rule.1 := fun he => hold he.symm
    have hnew' : n ≠ rule.2 := fun he => hnew he.symm
    rw [get_move h, if_neg hold', if_neg hnew']

/-- What an attribute that is not moved holds stays in front. -/
theorem move_keeps_front (hold : rule.1 ≠ n) (hvalues : attributes.get n = some values) :
    ∃ merged, (move attributes rule).get n = some (values ++ merged) := by
  by_cases hnew : rule.2 = n
  · have h : rule.1 ≠ rule.2 := fun he => hold (he.trans hnew)
    have hold' : n ≠ rule.1 := fun he => hold he.symm
    rw [get_move h, if_neg hold', if_pos hnew.symm, hvalues]
    cases attributes.get rule.1 with
    | none => exact ⟨[], by simp [behind]⟩
    | some moved => exact ⟨moved, rfl⟩
  · refine ⟨[], ?_⟩
    rw [get_move_other hold hnew, hvalues, List.append_nil]

/-! ### The whole table -/

theorem notMem_sources_cons {rules : List (String × String)} :
    n ∉ (rule :: rules).map (·.1) ↔ n ≠ rule.1 ∧ n ∉ rules.map (·.1) := by
  rw [List.map_cons, List.mem_cons, not_or]

theorem foldl_move_conserves (rules : List (String × String)) (attributes : SortedMap (List String)) :
    (allValues (rules.foldl move attributes)).Perm (allValues attributes) := by
  induction rules generalizing attributes with
  | nil => exact List.Perm.refl _
  | cons rule rules ih => exact (ih _).trans (move_conserves attributes rule)

theorem foldl_move_keeps_front {rules : List (String × String)} (hnot : n ∉ rules.map (·.1))
    (hvalues : attributes.get n = some values) :
    ∃ merged, (rules.foldl move attributes).get n = some (values ++ merged) := by
  induction rules generalizing attributes values with
  | nil => exact ⟨[], by simpa using hvalues⟩
  | cons rule rules ih =>
    obtain ⟨hrule, hrules⟩ := notMem_sources_cons.mp hnot
    obtain ⟨merged, hmerged⟩ := move_keeps_front (show rule.1 ≠ n from fun he => hrule he.symm) hvalues
    obtain ⟨more, hmore⟩ := ih hrules hmerged
    exact ⟨merged ++ more, by rw [List.foldl_cons, hmore, List.append_assoc]⟩

theorem foldl_move_other {rules : List (String × String)} (hold : n ∉ rules.map (·.1)) (hnew : n ∉ rules.map (·.2)) :
    (rules.foldl move attributes).get n = attributes.get n := by
  induction rules generalizing attributes with
  | nil => rfl
  | cons rule rules ih =>
    obtain ⟨hold₁, hold₂⟩ := notMem_sources_cons.mp hold
    rw [List.map_cons, List.mem_cons, not_or] at hnew
    obtain ⟨hnew₁, hnew₂⟩ := hnew
    rw [List.foldl_cons, ih hold₂ hnew₂, get_move_other (fun he => hold₁ he.symm) fun he => hnew₁ he.symm]

/-- An attribute after all its sources were renamed onto it at once: none when
it is a source itself. -/
def simultaneous (rules : List (String × String)) (attributes : SortedMap (List String)) (n : String) :
    Option (List String) :=
  if n ∈ rules.map (·.1) then none
  else ((rules.filter (·.2 = n)).map fun rule => attributes.get rule.1).foldl behind (attributes.get n)

/-- **Where no target is a source, the moves in turn are one renaming.** -/
theorem foldl_move_simultaneous {rules : List (String × String)} (hdistinct : (rules.map (·.1)).Nodup)
    (hfree : ∀ rule ∈ rules, rule.2 ∉ rules.map (·.1)) :
    (rules.foldl move attributes).get n = simultaneous rules attributes n := by
  induction rules generalizing attributes with
  | nil => rfl
  | cons rule rules ih =>
    obtain ⟨hnot, hrest⟩ := List.nodup_cons.mp hdistinct
    have hapart : ∀ r ∈ rule :: rules, r.2 ≠ rule.1 ∧ r.2 ∉ rules.map (·.1) := fun r hr =>
      notMem_sources_cons.mp (hfree r hr)
    have hself : rule.1 ≠ rule.2 := fun he => (hapart rule List.mem_cons_self).1 he.symm
    rw [List.foldl_cons, ih hrest fun r hr => (hapart r (List.mem_cons_of_mem _ hr)).2]
    -- The sources still to be moved are where they were.
    have hsources : ∀ r ∈ rules, (move attributes rule).get r.1 = attributes.get r.1 := by
      intro r hr
      have hmem : r.1 ∈ rules.map (·.1) := List.mem_map_of_mem hr
      refine get_move_other (fun he => ?_) fun he => ?_
      · rw [← he] at hmem
        exact hnot hmem
      · rw [← he] at hmem
        exact (hapart rule List.mem_cons_self).2 hmem
    unfold simultaneous
    by_cases hold : n = rule.1
    · subst hold
      have hnone : rules.filter (fun r => decide (r.2 = rule.1)) = [] := by
        refine List.filter_eq_nil_iff.mpr fun r hr => ?_
        simpa using (hapart r (List.mem_cons_of_mem _ hr)).1
      have hsource : rule.1 ∈ (rule :: rules).map (·.1) := List.mem_cons_self
      rw [if_neg hnot, if_pos hsource, hnone, get_move hself, if_pos rfl]
      rfl
    · by_cases hmem : n ∈ rules.map (·.1)
      · have hmem' : n ∈ (rule :: rules).map (·.1) := List.mem_cons_of_mem _ hmem
        rw [if_pos hmem, if_pos hmem']
      · have hmem' : n ∉ (rule :: rules).map (·.1) := notMem_sources_cons.mpr ⟨hold, hmem⟩
        rw [if_neg hmem, if_neg hmem']
        have hmoved : (rules.filter (·.2 = n)).map (fun r => (move attributes rule).get r.1) =
            (rules.filter (·.2 = n)).map fun r => attributes.get r.1 :=
          List.map_congr_left fun r hr => hsources r (List.mem_filter.mp hr).1
        rw [hmoved, get_move hself, if_neg hold]
        by_cases hnew : rule.2 = n
        · rw [if_pos hnew.symm, List.filter_cons_of_pos (by simpa using hnew)]
          rfl
        · rw [if_neg fun he => hnew he.symm, List.filter_cons_of_neg (by simpa using hnew)]

def newName (table : SortedMap String) (n : String) : String := (table.get n).getD n

theorem foldl_behind_some (os : List (Option (List String))) (held : List String) :
    ∃ more, os.foldl behind (some held) = some (held ++ more) := by
  induction os generalizing held with
  | nil => exact ⟨[], by simp⟩
  | cons o os ih =>
    cases o with
    | none => exact ih held
    | some values =>
      obtain ⟨more, hmore⟩ := ih (held ++ values)
      exact ⟨values ++ more, by rw [← List.append_assoc]; exact hmore⟩

theorem foldl_behind_mem {os : List (Option (List String))} {start : Option (List String)} (h : some values ∈ os) :
    ∃ before after, os.foldl behind start = some (before ++ values ++ after) := by
  induction os generalizing start with
  | nil => cases h
  | cons o os ih =>
    rcases List.mem_cons.mp h with rfl | h
    · obtain ⟨after, hafter⟩ := foldl_behind_some os (start.getD [] ++ values)
      exact ⟨start.getD [], after, hafter⟩
    · exact ih h

/-- The values of an attribute end up under its new name. -/
theorem simultaneous_newName {table : SortedMap String}
    (hfree : ∀ rule ∈ table.entries, rule.2 ∉ table.entries.map (·.1)) (hvalues : attributes.get n = some values) :
    ∃ before after,
      simultaneous table.entries attributes (newName table n) = some (before ++ values ++ after) := by
  unfold simultaneous newName
  cases hget : table.get n with
  | some new =>
    have hmem : (n, new) ∈ table.entries := SortedMap.get_eq_some.mp hget
    rw [Option.getD_some, if_neg (hfree _ hmem)]
    refine foldl_behind_mem (List.mem_map.mpr ⟨(n, new), List.mem_filter.mpr ⟨hmem, by simp⟩, hvalues⟩)
  | none =>
    have hnot : n ∉ table.entries.map (·.1) := by
      intro hmem
      obtain ⟨⟨old, new⟩, hentry, rfl⟩ := List.mem_map.mp hmem
      rw [SortedMap.get_eq_some.mpr hentry] at hget
      cases hget
    rw [Option.getD_none, if_neg hnot, hvalues]
    obtain ⟨after, hafter⟩ := foldl_behind_some
      ((table.entries.filter (·.2 = n)).map fun rule => attributes.get rule.1) values
    exact ⟨[], after, by simpa using hafter⟩

/-- **Renaming conserves values, whatever the table**: none is lost or added,
values held stay in front of those moved behind them, and what is neither a
source nor a target stays. Where no target is a source, it is one renaming of
all sources at once. -/
theorem processResponse_conserves (p : RenameAttributes) (data : InternalData) (ctx : Context) :
    ∃ next, p.processResponse data ctx = (.ok next, ctx) ∧ next = { data with attributes := next.attributes } ∧
      (allValues next.attributes).Perm (allValues data.attributes) ∧
      (∀ done rule rest, p.rename.entries = done ++ rule :: rest → rule.1 ≠ rule.2 →
        (move (done.foldl move data.attributes) rule).get rule.2 =
          behind ((done.foldl move data.attributes).get rule.2) ((done.foldl move data.attributes).get rule.1)) ∧
      (∀ n values, n ∉ p.rename.entries.map (·.1) → data.attributes.get n = some values →
        ∃ merged, next.attributes.get n = some (values ++ merged)) ∧
      (∀ n, n ∉ p.rename.entries.map (·.1) → n ∉ p.rename.entries.map (·.2) →
        next.attributes.get n = data.attributes.get n) ∧
      ((∀ rule ∈ p.rename.entries, rule.2 ∉ p.rename.entries.map (·.1)) →
        (∀ n, next.attributes.get n = simultaneous p.rename.entries data.attributes n) ∧
        (∀ n ∈ p.rename.entries.map (·.1), next.attributes.get n = none) ∧
        ∀ n values, data.attributes.get n = some values →
          ∃ before after, next.attributes.get (newName p.rename n) = some (before ++ values ++ after)) := by
  refine ⟨{ data with attributes := p.renamed data.attributes }, rfl, rfl, foldl_move_conserves _ _,
    fun done rule rest _ hself => ?_, fun n values hnot hvalues => foldl_move_keeps_front hnot hvalues,
    fun n hold hnew => foldl_move_other hold hnew, fun hfree => ?_⟩
  · rw [get_move hself, if_neg fun he => hself he.symm, if_pos rfl]
  · have hdistinct : (p.rename.entries.map (·.1)).Nodup := p.rename.distinct_entries
    have hall : ∀ n, (p.renamed data.attributes).get n = simultaneous p.rename.entries data.attributes n :=
      fun n => foldl_move_simultaneous hdistinct hfree
    refine ⟨hall, fun n hn => ?_, fun n values hvalues => ?_⟩
    · show (p.renamed data.attributes).get n = none
      rw [hall n, simultaneous, if_pos hn]
    · obtain ⟨before, after, hnew⟩ := simultaneous_newName hfree hvalues
      exact ⟨before, after, (hall _).trans hnew⟩

end RenameAttributes

end Tunnelbana
