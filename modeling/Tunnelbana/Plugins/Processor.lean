/-
`attribute_processor`: chains of value transforms, one chain a rule. Every step
of a chain rewrites the values of its attribute in place, one by one, or sets
another attribute to the scope it finds (`Processor.apply_edits`). So an
attribute nothing is extracted into keeps its number of values and their order
(`processed_attribute`), and steps that do not meet may be configured in any
order (`processed_reordered`).
-/
import Tunnelbana.Basis.MapEdit
import Tunnelbana.Basis.TextSplit
import Tunnelbana.Core.Plugin

namespace Tunnelbana

open Basis

structure ProcessorSpec where
  name : String
  matchPattern : Option String := none
  replacePattern : Option String := none
  hashAlgo : Option String := none
  allowLegacyMd5 : Bool := false
  salt : Option String := none
  scope : Option String := none
  mappedAttribute : Option String := none

structure ProcessRule where
  attributeName : String
  processors : List ProcessorSpec

inductive HashAlgo where
  | md5
  | sha256
  | sha512
deriving DecidableEq, Repr

def HashAlgo.parse (s pluginName : String) (allowLegacyMd5 : Bool) : Except Error HashAlgo :=
  if s = "md5" then
    if allowLegacyMd5 then .ok .md5
    else .error (.config ("attribute_processor " ++ pluginName ++ ": hash_algo=md5 requires allow_legacy_md5 = true"))
  else if s = "sha256" then .ok .sha256
  else if s = "sha512" then .ok .sha512
  else .error (.config ("attribute_processor " ++ pluginName ++ ": unsupported hash_algo: " ++ s))

structure ProcessorLibrary where
  /-- Compile a pattern: every match of a value replaced by the expanded replacement. -/
  newRegex : String → Except String (String → String → String)
  /-- The digest of the bytes of a text, in lower-case hex. -/
  digest : HashAlgo → String → String

/-- A compiled processor. Salts, scopes and targets are not empty. -/
inductive Processor where
  | regexSub (replaceAll : String → String → String) (replacement : String)
  | hash (algo : HashAlgo) (salt : String) (salted : salt ≠ "")
  | scope (scope : String) (given : scope ≠ "")
  | scopeExtractor (mappedAttribute : String) (given : mappedAttribute ≠ "")
  | scopeRemover
  | gender

def genderToSchac (value : String) : String :=
  if value = "" then "9"
  else
    let normalized := String.ofList (value.toList.map fun c => if c.toUpper = ' ' then '_' else c.toUpper)
    if normalized = "MALE" then "1"
    else if normalized = "FEMALE" then "2"
    else if normalized = "NOT_SPECIFIED" then "9"
    else "0"

/-- What follows the first `@`. -/
def scopePart (value : String) : Option String := (Text.splitOnce '@' value.toList).map fun p => String.ofList p.2

/-- What stands before the first `@`; all of it without one. -/
def localPart (value : String) : String :=
  match Text.splitOnce '@' value.toList with
  | some (before, _) => String.ofList before
  | none => value

namespace Processor

variable (lib : ProcessorLibrary)

/-- A processor that rewrites each value; the extractor leaves them. -/
def rewrite (value : String) : Processor → String
  | .regexSub replaceAll replacement => replaceAll value replacement
  | .hash algo salt _ => lib.digest algo (value ++ salt)
  | .scope s _ => value ++ "@" ++ s
  | .scopeExtractor _ _ => value
  | .scopeRemover => localPart value
  | .gender => genderToSchac value

/-- Apply the processor to an attribute; a missing one is skipped. -/
def apply (attributes : SortedMap (List String)) (attr : String) : Processor → SortedMap (List String)
  | .scopeExtractor mappedAttribute _ =>
    match ((attributes.get attr).getD []).findSome? scopePart with
    | some s => attributes.insert mappedAttribute [s]
    | none => attributes
  | processor => attributes.modify attr fun values => values.map fun v => processor.rewrite lib v

end Processor

/-- Python-style `\1` references as `${1}`; the rest as it is. -/
def convertBackrefs : List Char → List Char
  | [] => []
  | c :: rest =>
    if c = '\\' ∧ rest.takeWhile Char.isDigit ≠ [] then
      "$\x7b".toList ++ rest.takeWhile Char.isDigit ++ "\x7d".toList ++ convertBackrefs (rest.dropWhile Char.isDigit)
    else c :: convertBackrefs rest
termination_by cs => cs.length
decreasing_by
  · have hle := (List.dropWhile_suffix (l := rest) Char.isDigit).length_le
    simp only [List.length_cons]
    omega
  · simp

def requiredField (field : Option String) (pluginName processor fieldName : String) :
    Except Error (Subtype fun s : String => s ≠ "") :=
  match field with
  | some s =>
    if h : s ≠ "" then .ok ⟨s, h⟩
    else .error (.config ("attribute_processor " ++ pluginName ++ ": " ++ processor ++ " needs " ++ fieldName))
  | none => .error (.config ("attribute_processor " ++ pluginName ++ ": " ++ processor ++ " needs " ++ fieldName))

structure CompiledRule where
  attributeName : String
  processors : List Processor

structure AttributeProcessor where
  name : String
  rules : List CompiledRule

namespace AttributeProcessor

variable (lib : ProcessorLibrary)

def compile (name : String) (spec : ProcessorSpec) : Except Error Processor :=
  if spec.name = "regex_sub" then do
    let pattern ← requiredField spec.matchPattern name "regex_sub" "match_pattern"
    let regex ← (lib.newRegex pattern.1).mapError fun e =>
      Error.config ("attribute_processor " ++ name ++ ": bad match_pattern: " ++ e)
    let replacement ← requiredField spec.replacePattern name "regex_sub" "replace_pattern"
    return .regexSub regex (String.ofList (convertBackrefs replacement.1.toList))
  else if spec.name = "hash" then do
    let algo ← HashAlgo.parse (spec.hashAlgo.getD "sha256") name spec.allowLegacyMd5
    let salt ← requiredField spec.salt name "hash" "salt"
    return .hash algo salt.1 salt.2
  else if spec.name = "scope" then do
    let scope ← requiredField spec.scope name "scope" "scope"
    return .scope scope.1 scope.2
  else if spec.name = "scope_extractor" then do
    let mapped ← requiredField spec.mappedAttribute name "scope_extractor" "mapped_attribute"
    return .scopeExtractor mapped.1 mapped.2
  else if spec.name = "scope_remover" then return .scopeRemover
  else if spec.name = "gender" then return .gender
  else .error (.config ("attribute_processor " ++ name ++ ": unknown processor: " ++ spec.name))

def build (name : String) (process : List ProcessRule) : Except Error AttributeProcessor := do
  let rules ← process.mapM fun rule => do
    let processors ← rule.processors.mapM (compile lib name)
    return { attributeName := rule.attributeName, processors : CompiledRule }
  return { name, rules }

variable (p : AttributeProcessor)

def processed (attributes : SortedMap (List String)) : SortedMap (List String) :=
  p.rules.foldl (fun attributes rule =>
    rule.processors.foldl (fun attributes processor => processor.apply lib attributes rule.attributeName) attributes) attributes

def processResponse (data : InternalData) : Flow InternalData :=
  return { data with attributes := p.processed lib data.attributes }

def microService {W : Type} : MicroService W where
  name := p.name
  processResponse _ data := p.processResponse lib data

end AttributeProcessor

/-! ## Steps -/

/-- One processor with the attribute it works on. -/
structure ProcessorStep where
  attributeName : String
  processor : Processor

namespace ProcessorStep

variable (lib : ProcessorLibrary)

def run (attributes : SortedMap (List String)) (step : ProcessorStep) : SortedMap (List String) :=
  step.processor.apply lib attributes step.attributeName

def target (step : ProcessorStep) : String :=
  match step.processor with
  | .scopeExtractor mappedAttribute _ => mappedAttribute
  | _ => step.attributeName

/-- The step sets its target instead of rewriting it. -/
def Extracts (step : ProcessorStep) : Prop := ∃ mapped given, step.processor = .scopeExtractor mapped given

/-- Steps that do not meet: neither writes what the other reads or writes. -/
def Apart (a b : ProcessorStep) : Prop :=
  a.target ≠ b.target ∧ a.target ≠ b.attributeName ∧ b.target ≠ a.attributeName

variable {lib}

theorem run_rewrites {step : ProcessorStep} (h : ¬ step.Extracts) (attributes : SortedMap (List String)) :
    step.target = step.attributeName ∧ step.run lib attributes =
      attributes.modify step.attributeName fun values => values.map fun v => step.processor.rewrite lib v := by
  obtain ⟨attr, processor⟩ := step
  cases processor with
  | scopeExtractor mapped given => exact absurd ⟨mapped, given, rfl⟩ h
  | regexSub => exact ⟨rfl, rfl⟩
  | hash => exact ⟨rfl, rfl⟩
  | scope => exact ⟨rfl, rfl⟩
  | scopeRemover => exact ⟨rfl, rfl⟩
  | gender => exact ⟨rfl, rfl⟩

/-- **A step reads its attribute and writes its target.** -/
theorem run_edits (lib : ProcessorLibrary) (step : ProcessorStep) :
    Edits (fun k => k = step.attributeName ∨ k = step.target) (fun k => k = step.target) (step.run lib · ) := by
  by_cases hextracts : step.Extracts
  · obtain ⟨attr, processor⟩ := step
    obtain ⟨mapped, given, rfl⟩ := hextracts
    have hrun : ∀ m : SortedMap (List String), run lib m ⟨attr, .scopeExtractor mapped given⟩ =
        ((((m.get attr).getD []).findSome? scopePart).elim m fun scope => m.insert mapped [scope]) := by
      intro m
      unfold run Processor.apply
      cases ((m.get attr).getD []).findSome? scopePart <;> rfl
    constructor
    · intro m k hk
      have hne : ¬ mapped = k := fun he => hk he.symm
      rw [hrun]
      cases ((m.get attr).getD []).findSome? scopePart with
      | none => rfl
      | some scope => simp [SortedMap.get_insert, hne]
    · intro m n hmn k hk
      have hattr : m.get attr = n.get attr := hmn attr (.inl rfl)
      rw [hrun, hrun, hattr]
      cases ((n.get attr).getD []).findSome? scopePart with
      | none => exact hmn k (.inr hk)
      | some scope =>
        have hmapped : mapped = k := hk.symm
        simp [SortedMap.get_insert, hmapped]
  · constructor
    · intro m k hk
      obtain ⟨htarget, hrun⟩ := @run_rewrites lib _ hextracts m
      have hne : ¬ k = step.attributeName := fun he => hk (he.trans htarget.symm)
      show (step.run lib m).get k = _
      rw [hrun]
      unfold SortedMap.modify
      simp [SortedMap.get_mapValues, hne]
    · intro m n hmn k hk
      obtain ⟨_, hrun⟩ := @run_rewrites lib _ hextracts m
      obtain ⟨_, hrun'⟩ := @run_rewrites lib _ hextracts n
      show (step.run lib m).get k = (step.run lib n).get k
      rw [hrun, hrun']
      unfold SortedMap.modify
      simp only [SortedMap.get_mapValues, hmn k (.inr hk)]

theorem run_comm {a b : ProcessorStep} (h : a.Apart b) (attributes : SortedMap (List String)) :
    b.run lib (a.run lib attributes) = a.run lib (b.run lib attributes) := by
  obtain ⟨htargets, hab, hba⟩ := h
  refine Edits.comm (a.run_edits lib) (b.run_edits lib) (fun k hk hk' => htargets (hk.symm.trans hk'))
    (fun k hk hk' => ?_) (fun k hk hk' => ?_) attributes
  · rcases hk' with hk' | hk'
    · exact hab (hk.symm.trans hk')
    · exact htargets (hk.symm.trans hk')
  · rcases hk' with hk' | hk'
    · exact hba (hk.symm.trans hk')
    · exact htargets (hk'.symm.trans hk)

end ProcessorStep

namespace AttributeProcessor

variable (lib : ProcessorLibrary) (p : AttributeProcessor)

def steps : List ProcessorStep := p.rules.flatMap fun rule => rule.processors.map fun processor => ⟨rule.attributeName, processor⟩

theorem processed_eq_foldl (attributes : SortedMap (List String)) :
    p.processed lib attributes = p.steps.foldl (fun attributes step => step.run lib attributes) attributes := by
  unfold processed steps
  rw [List.foldl_flatMap]
  congr 1
  funext attributes rule
  rw [List.foldl_map]
  rfl

/-- **Steps that do not meet may be configured in any order.** -/
theorem processed_reordered (lib : ProcessorLibrary) (p q : AttributeProcessor)
    (h : Reordered ProcessorStep.Apart p.steps q.steps) (attributes : SortedMap (List String)) :
    p.processed lib attributes = q.processed lib attributes := by
  rw [processed_eq_foldl, processed_eq_foldl]
  exact foldl_reordered h (fun attributes a b hapart => ProcessorStep.run_comm hapart attributes) attributes

/-! ## One attribute -/

def chained (name value : String) : String :=
  (p.steps.filter fun step => step.attributeName = name).foldl (fun v step => step.processor.rewrite lib v) value

theorem foldl_rewrites {lib : ProcessorLibrary} {name : String} (steps : List ProcessorStep)
    (h : ∀ step ∈ steps, step.Extracts → step.target ≠ name) (attributes : SortedMap (List String)) :
    (steps.foldl (fun attributes step => step.run lib attributes) attributes).get name =
      (attributes.get name).map fun values => values.map fun value =>
        (steps.filter fun step => step.attributeName = name).foldl (fun v step => step.processor.rewrite lib v) value := by
  induction steps generalizing attributes with
  | nil => simp
  | cons step steps ih =>
    rw [List.foldl_cons, ih fun s hs => h s (List.mem_cons_of_mem _ hs)]
    have hstep : (step.run lib attributes).get name = (attributes.get name).map fun values => values.map fun value =>
        if step.attributeName = name then step.processor.rewrite lib value else value := by
      by_cases hextracts : step.Extracts
      · have hne : name ≠ step.target := fun he => h step List.mem_cons_self hextracts he.symm
        rw [(step.run_edits lib).frame attributes name hne]
        obtain ⟨attr, processor⟩ := step
        obtain ⟨mapped, given, rfl⟩ := hextracts
        have hsame : ∀ value : String, (if attr = name then (Processor.scopeExtractor mapped given).rewrite lib value
            else value) = value := fun value => by split <;> rfl
        simp [hsame]
      · rw [(ProcessorStep.run_rewrites hextracts attributes).2]
        unfold SortedMap.modify
        rw [SortedMap.get_mapValues]
        by_cases hname : name = step.attributeName
        · subst hname
          simp
        · have hname' : ¬ step.attributeName = name := fun he => hname he.symm
          simp [hname, hname']
    rw [hstep, Option.map_map]
    congr 1
    funext values
    simp only [Function.comp_apply, List.map_map]
    refine List.map_congr_left fun value _ => ?_
    by_cases hname : step.attributeName = name <;> simp [hname]

/-- **An attribute nothing is extracted into has its values rewritten one by
one**, by its own chain: none is lost, none added, none moved; a missing
attribute stays missing. -/
theorem processed_attribute (name : String) (h : ∀ step ∈ p.steps, step.Extracts → step.target ≠ name)
    (attributes : SortedMap (List String)) :
    (p.processed lib attributes).get name = (attributes.get name).map fun values => values.map (p.chained lib name) := by
  rw [processed_eq_foldl, foldl_rewrites p.steps h]
  rfl

end AttributeProcessor

/-! ## Scopes -/

theorem localPart_scoped {v : String} (s : String) (h : '@' ∉ v.toList) : localPart (v ++ "@" ++ s) = v := by
  have hsplit : Text.splitOnce '@' (v ++ "@" ++ s).toList = some (v.toList, s.toList) := by
    rw [← Text.splitOnce_append h]
    simp [String.toList_append]
  unfold localPart
  rw [hsplit]
  exact String.ofList_toList

theorem scopePart_scoped {v : String} (s : String) (h : '@' ∉ v.toList) : scopePart (v ++ "@" ++ s) = some s := by
  have hsplit : Text.splitOnce '@' (v ++ "@" ++ s).toList = some (v.toList, s.toList) := by
    rw [← Text.splitOnce_append h]
    simp [String.toList_append]
  unfold scopePart
  rw [hsplit]
  simp

/-- What stands before the first `@` of a scoped value has none. -/
theorem not_mem_localPart (v s : String) : '@' ∉ (localPart (v ++ "@" ++ s)).toList := by
  unfold localPart
  cases hsplit : Text.splitOnce '@' (v ++ "@" ++ s).toList with
  | none =>
    have hnot := Text.splitOnce_eq_none.mp hsplit
    simp [String.toList_append] at hnot
  | some p =>
    obtain ⟨before, after⟩ := p
    have hbefore := (Text.splitOnce_eq_some.mp hsplit).2
    simpa using hbefore

namespace AttributeProcessor

/-- **Scoping, extracting the scope and removing it again gives the values back
and the scope, exactly where no value had an `@` of its own.** -/
theorem scope_roundtrip_iff (lib : ProcessorLibrary) (p : AttributeProcessor) {attr mapped s : String} (hs : s ≠ "")
    (hmapped : mapped ≠ "") (hsteps : p.steps = [⟨attr, .scope s hs⟩, ⟨attr, .scopeExtractor mapped hmapped⟩,
      ⟨attr, .scopeRemover⟩]) (hne : mapped ≠ attr) {attributes : SortedMap (List String)} {v : String} {vs : List String}
    (hget : attributes.get attr = some (v :: vs)) :
    p.processed lib attributes = attributes.insert mapped [s] ↔ ∀ value ∈ v :: vs, '@' ∉ value.toList := by
  -- after the first step every value has a scope, so the second finds one
  have hscoped : ∃ found, scopePart (v ++ "@" ++ s) = some found ∧ ('@' ∉ v.toList → found = s) := by
    unfold scopePart
    cases hsplit : Text.splitOnce '@' (v ++ "@" ++ s).toList with
    | none =>
      have hnot := Text.splitOnce_eq_none.mp hsplit
      simp [String.toList_append] at hnot
    | some parts =>
      refine ⟨_, rfl, fun hv => ?_⟩
      have hfound := scopePart_scoped s hv
      unfold scopePart at hfound
      rw [hsplit] at hfound
      simpa using hfound
  obtain ⟨found, hfound, hfoundIs⟩ := hscoped
  have hattr : ∀ k, (p.processed lib attributes).get k =
      if k = attr then some ((v :: vs).map fun value => localPart (value ++ "@" ++ s))
      else if k = mapped then some [found] else attributes.get k := by
    intro k
    rw [processed_eq_foldl, hsteps]
    simp only [List.foldl_cons, List.foldl_nil, ProcessorStep.run, Processor.apply, Processor.rewrite, SortedMap.modify,
      SortedMap.get_mapValues, hget, Option.map_some, if_true, Option.getD_some, List.map_cons, List.findSome?_cons, hfound,
      SortedMap.get_insert]
    by_cases hk : k = attr
    · subst hk
      simp [hne, hget]
    · by_cases hkm : mapped = k
      · subst hkm
        simp [hne]
      · have hkm' : ¬ k = mapped := fun he => hkm he.symm
        simp [hk, hkm, hkm']
  constructor
  · intro h value hvalue
    have hback := congrArg (fun m => SortedMap.get m attr) h
    simp only [hattr, if_true, SortedMap.get_insert, if_neg hne, hget, Option.some.injEq] at hback
    have hsame : localPart (value ++ "@" ++ s) = value := by
      have hid : (v :: vs).map (fun value => localPart (value ++ "@" ++ s)) = (v :: vs).map id := by simpa using hback
      exact List.map_inj_left.mp hid value hvalue
    rw [← hsame]
    exact not_mem_localPart value s
  · intro h
    refine SortedMap.ext_get fun k => ?_
    rw [hattr, SortedMap.get_insert]
    by_cases hk : k = attr
    · subst hk
      have hid : (v :: vs).map (fun value => localPart (value ++ "@" ++ s)) = v :: vs :=
        (List.map_congr_left fun value hvalue => localPart_scoped s (h value hvalue)).trans (List.map_id _)
      rw [if_pos rfl, if_neg hne, hget, hid]
    · rw [if_neg hk]
      by_cases hkm : mapped = k
      · rw [if_pos hkm.symm, if_pos hkm, hfoundIs (h v List.mem_cons_self)]
      · rw [if_neg (fun he => hkm he.symm), if_neg hkm]

/-! ### The scope of an eppn, and a scoped uid -/

/-- Nothing compiles, and a digest is the text. -/
def plainProcessors : ProcessorLibrary where
  newRegex _ := .error "no regex"
  digest _ text := text

/-- The eppn is split, the uid scoped. -/
def splitEppn : AttributeProcessor where
  name := "proc"
  rules := [⟨"eppn", [.scopeExtractor "domain" (by decide)]⟩, ⟨"eppn", [.scopeRemover]⟩,
    ⟨"uid", [.scope "example.org" (by decide)]⟩]

/-- The same, the uid before the scope is removed. -/
def splitEppnLast : AttributeProcessor where
  name := "proc"
  rules := [⟨"eppn", [.scopeExtractor "domain" (by decide)]⟩, ⟨"uid", [.scope "example.org" (by decide)]⟩,
    ⟨"eppn", [.scopeRemover]⟩]

def thereAndBack : AttributeProcessor where
  name := "proc"
  rules := [⟨"uid", [.scope "example.org" (by decide), .scopeExtractor "domain" (by decide), .scopeRemover]⟩]

theorem processed_reordered_demo :
    splitEppn.processed plainProcessors (.ofList [("eppn", ["anna@example.org"]), ("uid", ["anna"])]) =
      splitEppnLast.processed plainProcessors (.ofList [("eppn", ["anna@example.org"]), ("uid", ["anna"])]) := by
  let extract : ProcessorStep := ⟨"eppn", .scopeExtractor "domain" (by decide)⟩
  let remove : ProcessorStep := ⟨"eppn", .scopeRemover⟩
  let qualify : ProcessorStep := ⟨"uid", .scope "example.org" (by decide)⟩
  have hswap : Reordered ProcessorStep.Apart [extract, remove, qualify] [extract, qualify, remove] :=
    .swap [extract] remove qualify [] ⟨by decide, by decide, by decide⟩ (.refl _)
  exact processed_reordered plainProcessors splitEppn splitEppnLast hswap _

theorem processed_attribute_demo :
    (splitEppn.processed plainProcessors (.ofList [("eppn", ["anna@example.org", "anna"])])).get "eppn" =
      some ["anna", "anna"] := by
  rw [processed_attribute plainProcessors splitEppn "eppn" (fun step hstep hextracts => ?_)]
  · decide +kernel
  · obtain ⟨mapped, given, hprocessor⟩ := hextracts
    simp only [steps, splitEppn, List.flatMap_cons, List.flatMap_nil, List.map_cons, List.map_nil, List.mem_append,
      List.mem_cons, List.not_mem_nil, or_false] at hstep
    rcases hstep with rfl | rfl | rfl
    · decide
    · cases hprocessor
    · cases hprocessor

theorem scope_roundtrip_iff_demo :
    thereAndBack.processed plainProcessors (.ofList [("uid", ["anna", "a.b"])]) =
      (SortedMap.ofList [("uid", ["anna", "a.b"])]).insert "domain" ["example.org"] :=
  (scope_roundtrip_iff plainProcessors thereAndBack (by decide) (by decide) rfl (by decide) rfl).mpr (by decide)

end AttributeProcessor

end Tunnelbana
