/-
Embedded Python micro-services. Each call gets copies of the context and the
data, and what it hands back is checked in full before any of it is written.

`execute_cases` says what a call leaves: the context as it was, or the context
with its target backend and decorations replaced by ones that passed every
check. `PolicyKept` is what follows for the decorations and composes along a
chain of services.
-/
import Tunnelbana.Core.Proxy

namespace Tunnelbana

open Basis

/-! ## The boundary -/

def CONTEXT_KEYS : List String :=
  ["path", "method", "query", "form", "requester", "target_backend", "target_frontend", "decorations"]

def DATA_KEYS : List String :=
  ["auth_info", "requester", "requester_name", "subject_id", "subject_type", "attributes", "force_authn",
    "is_passive"]

def AUTH_INFO_KEYS : List String := ["auth_class_ref", "timestamp", "issuer"]

/-- Python may publish these when absent, and may not change them. -/
def FIRST_WRITER_DECORATION_KEYS : List String :=
  [KEY_TARGET_ENTITYID, KEY_TARGET_AUTHN_CONTEXT_CLASS_REF, KEY_TARGET_ACCR_COMPARISON, KEY_MFA_STEPUP_ACCOUNTS]

def READ_ONLY_DECORATION_KEYS : List String :=
  [KEY_PROVIDER_SCOPES, KEY_PROVIDER_ASSURANCE_CERTIFICATIONS, KEY_PROVIDER_ENTITY_CATEGORIES,
    KEY_REQUESTER_ENTITY_CATEGORIES, KEY_REQUESTER_ASSURANCE_CERTIFICATIONS, KEY_STEPUP_INITIAL_POLICY]

/-- A Python object, as far as the boundary looks into one. -/
inductive PyValue where
  | none
  | bool (b : Bool)
  | int (n : Int)
  | str (s : String)
  | list (items : List PyValue)
  | dict (entries : List (PyValue × PyValue))
  | object (id : Nat)

namespace PyValue

def isStr (k : String) : PyValue → Bool
  | .str s => s = k
  | _ => false

def asDict : PyValue → Option (List (PyValue × PyValue))
  | .dict entries => some entries
  | _ => Option.none

def getItem (k : String) (entries : List (PyValue × PyValue)) : Option PyValue :=
  (entries.find? fun e => e.1.isStr k).map (·.2)

end PyValue

def requireExactKeys (value : PyValue) (expected : List String) : Bool :=
  match value.asDict with
  | some entries => entries.length = expected.length && expected.all fun k => (PyValue.getItem k entries).isSome
  | none => false

structure ContextSnapshot where
  path : String
  method : String
  query : SortedMap String
  form : SortedMap String
  requester : Option String
  targetBackend : Option String
  targetFrontend : Option String
  decorations : Assoc Json

/-- The conversion library, and the equality of its dynamic values. The data
crosses with the fields of `InternalData`. -/
structure Pythonize where
  pythonizeContext : ContextSnapshot → Option PyValue
  pythonizeData : InternalData → Option PyValue
  depythonizeContext : PyValue → Option ContextSnapshot
  depythonizeData : PyValue → Option InternalData
  valueEq : Json → Json → Bool
  valueEq_refl : ∀ v, valueEq v v = true
  valueEq_trans : ∀ u v w, valueEq u v = true → valueEq v w = true → valueEq u w = true

/-- What a decoration reads is the same, absence included. -/
def Pythonize.sameValue (lib : Pythonize) : Option Json → Option Json → Bool
  | none, none => true
  | some v, some w => lib.valueEq v w
  | _, _ => false

@[simp] theorem Pythonize.sameValue_refl (lib : Pythonize) (o : Option Json) : lib.sameValue o o = true := by
  cases o with
  | none => rfl
  | some v => exact lib.valueEq_refl v

theorem Pythonize.sameValue_trans {lib : Pythonize} {a b c : Option Json} (hab : lib.sameValue a b = true)
    (hbc : lib.sameValue b c = true) : lib.sameValue a c = true := by
  cases a <;> cases b <;> cases c <;> simp_all [sameValue]
  exact lib.valueEq_trans _ _ _ hab hbc

namespace ContextSnapshot

def fromContext (ctx : Context) : ContextSnapshot :=
  { path := ctx.request.path
    method := ctx.request.method
    query := SortedMap.ofList ctx.request.query
    form := SortedMap.ofList ctx.request.form
    requester := ctx.requester
    targetBackend := ctx.targetBackend
    targetFrontend := ctx.targetFrontend
    decorations := ctx.decorations }

def validateReadOnly (s original : ContextSnapshot) : Bool :=
  s.path = original.path && s.method = original.method && s.query = original.query && s.form = original.form
    && s.requester = original.requester && s.targetFrontend = original.targetFrontend

/-- A reserved decoration that was published comes back unchanged. -/
def validateReservedDecorations (lib : Pythonize) (s original : ContextSnapshot) : Bool :=
  FIRST_WRITER_DECORATION_KEYS.all fun key =>
    match Assoc.get key original.decorations with
    | some existing => lib.sameValue (Assoc.get key s.decorations) (some existing)
    | none => true

/-- A read-only decoration is neither created nor changed nor removed. -/
def validateReadOnlyDecorations (lib : Pythonize) (s original : ContextSnapshot) : Bool :=
  READ_ONLY_DECORATION_KEYS.all fun key =>
    lib.sameValue (Assoc.get key s.decorations) (Assoc.get key original.decorations)

end ContextSnapshot

/-! ## A service -/

inductive Phase where
  | request
  | response
deriving DecidableEq

/-- What a call does: it raises, or returns a value and leaves its arguments
changed in place. -/
inductive PyReturn where
  | raised
  | returned (context value : PyValue) (awaitable : Bool)

inductive CallFate where
  /-- The deadline cannot be represented. -/
  | noDeadline
  /-- The deadline passes before a permit is free. -/
  | noPermit
  | closed
  /-- The deadline passes while Python runs. -/
  | timedOut
  | taskFailed
  | finished

structure CallOutput where
  context : ContextSnapshot
  data : InternalData

/-- A configured service; `call` is its class, `fate` the runtime. -/
structure PythonMicroService (W : Type) where
  name : String
  hasRequest : Bool
  hasResponse : Bool
  /-- The configured backend names. -/
  backends : List String
  call : W → Phase → PyValue → PyValue → PyReturn
  fate : W → Phase → CallFate

namespace PythonMicroService

variable {W : Type} (lib : Pythonize) (s : PythonMicroService W) (w : W)

def invalidOutput : Error := .internal "python microservice returned invalid output"
def sanitizedTimeout : Error := .internal "python microservice call timed out"
def controlUnavailable : Error := .internal "python execution control unavailable"

def hasMethod : Phase → Bool
  | .request => s.hasRequest
  | .response => s.hasResponse

/-- The call and the conversion of all it hands back; `none` on any failure. -/
def pythonCall (phase : Phase) (context : ContextSnapshot) (data : InternalData) : Option CallOutput := do
  let pyContext ← lib.pythonizeContext context
  let pyData ← lib.pythonizeData data
  match s.call w phase pyContext pyData with
  | .raised => none
  | .returned pyContext returned awaitable => do
    guard (!awaitable)
    guard (requireExactKeys pyContext CONTEXT_KEYS)
    guard (requireExactKeys returned DATA_KEYS)
    let entries ← returned.asDict
    let authInfo ← PyValue.getItem "auth_info" entries
    guard (requireExactKeys authInfo AUTH_INFO_KEYS)
    let context ← lib.depythonizeContext pyContext
    let data ← lib.depythonizeData returned
    return { context, data }

def runPythonCall (phase : Phase) (context : ContextSnapshot) (data : InternalData) : Except Error CallOutput :=
  match s.pythonCall lib w phase context data with
  | some output => .ok output
  | none => .error invalidOutput

def controlled (phase : Phase) (context : ContextSnapshot) (data : InternalData) : Except Error CallOutput :=
  match s.fate w phase with
  | .noDeadline => .error controlUnavailable
  | .noPermit => .error sanitizedTimeout
  | .closed => .error controlUnavailable
  | .timedOut => .error sanitizedTimeout
  | .taskFailed => .error (.internal "python microservice execution failed")
  | .finished => s.runPythonCall lib w phase context data

def knownBackend : Option String → Bool
  | some backend => s.backends.contains backend
  | none => true

def execute (phase : Phase) (data : InternalData) : Flow InternalData :=
  if s.hasMethod phase then do
    let ctx ← Flow.context
    let original := ContextSnapshot.fromContext ctx
    let output ← Action.lift (s.controlled lib w phase original data)
    Flow.require (output.context.validateReadOnly original = true) invalidOutput
    Flow.require (output.context.validateReservedDecorations lib original = true) invalidOutput
    Flow.require (output.context.validateReadOnlyDecorations lib original = true) invalidOutput
    Flow.require (s.knownBackend output.context.targetBackend = true) invalidOutput
    Flow.modify fun ctx =>
      { ctx with targetBackend := output.context.targetBackend, decorations := output.context.decorations }
    return output.data
  else
    pure data

def microService : MicroService W where
  name := s.name
  processRequest w data := s.execute lib w .request data
  processResponse w data := s.execute lib w .response data

/-! ## What one call leaves -/

/-- Every check the result of a call passes before it is written. -/
structure Validated (ctx : Context) (output : CallOutput) : Prop where
  readOnly : output.context.validateReadOnly (.fromContext ctx) = true
  reserved : output.context.validateReservedDecorations lib (.fromContext ctx) = true
  readOnlyDecorations : output.context.validateReadOnlyDecorations lib (.fromContext ctx) = true
  backend : output.context.targetBackend = none ∨ ∃ b ∈ s.backends, output.context.targetBackend = some b

def commit (output : CallOutput) (ctx : Context) : Context :=
  { ctx with targetBackend := output.context.targetBackend, decorations := output.context.decorations }

inductive Executed (phase : Phase) (data : InternalData) (ctx : Context) : Except Error InternalData × Context → Prop
  | absent (h : s.hasMethod phase = false) : Executed phase data ctx (.ok data, ctx)
  | failed (e : Error) (h : s.hasMethod phase = true) : Executed phase data ctx (.error e, ctx)
  | committed (output : CallOutput) (h : s.hasMethod phase = true)
      (hcall : s.controlled lib w phase (.fromContext ctx) data = .ok output) (hvalid : s.Validated lib ctx output) :
      Executed phase data ctx (.ok output.data, commit output ctx)

theorem knownBackend_iff (o : Option String) :
    s.knownBackend o = true ↔ o = none ∨ ∃ b ∈ s.backends, o = some b := by
  cases o with
  | none => simp [knownBackend]
  | some b => simp [knownBackend]

theorem execute_cases (phase : Phase) (data : InternalData) (ctx : Context) :
    s.Executed lib w phase data ctx (s.execute lib w phase data ctx) := by
  unfold execute
  cases hmethod : s.hasMethod phase with
  | false => exact .absent hmethod
  | true =>
    simp only [if_true, Flow.context, Action.read_bind_run]
    cases hcall : s.controlled lib w phase (.fromContext ctx) data with
    | error e => exact .failed e hmethod
    | ok output =>
      rw [Action.lift_ok_bind_run]
      by_cases hread : output.context.validateReadOnly (.fromContext ctx) = true
      · by_cases hres : output.context.validateReservedDecorations lib (.fromContext ctx) = true
        · by_cases hdec : output.context.validateReadOnlyDecorations lib (.fromContext ctx) = true
          · by_cases hback : s.knownBackend output.context.targetBackend = true
            · simp only [Flow.require, hread, hres, hdec, hback, if_true]
              exact .committed output hmethod hcall ⟨hread, hres, hdec, (s.knownBackend_iff _).mp hback⟩
            · simp only [Flow.require, hread, hres, hdec, if_true, if_neg hback]
              exact .failed _ hmethod
          · simp only [Flow.require, hread, hres, if_true, if_neg hdec]
            exact .failed _ hmethod
        · simp only [Flow.require, hread, if_true, if_neg hres]
          exact .failed _ hmethod
      · simp only [Flow.require, if_neg hread]
        exact .failed _ hmethod

/-! ## What a chain leaves -/

/-- What Python may not touch, between two contexts of one request. -/
structure PolicyKept (before after : Context) : Prop where
  request : after.request = before.request
  state : after.state = before.state
  targetFrontend : after.targetFrontend = before.targetFrontend
  readOnly : ∀ (key : String), key ∈ READ_ONLY_DECORATION_KEYS →
    lib.sameValue (after.decoration key) (before.decoration key) = true
  firstWriter : ∀ (key : String) (v : Json), key ∈ FIRST_WRITER_DECORATION_KEYS → before.decoration key = some v →
    lib.sameValue (after.decoration key) (some v) = true

instance policyKept_frame : Action.Frame (PolicyKept lib) where
  refl ctx := ⟨rfl, rfl, rfl, fun _ _ => lib.sameValue_refl _, fun _ v _ h => by rw [h]; exact lib.sameValue_refl _⟩
  trans {ctx ctx' ctx''} h h' := by
    refine ⟨h'.request.trans h.request, h'.state.trans h.state, h'.targetFrontend.trans h.targetFrontend, ?_, ?_⟩
    · intro key hkey
      exact Pythonize.sameValue_trans (h'.readOnly key hkey) (h.readOnly key hkey)
    · intro key v hkey hv
      have hmid := h.firstWriter key v hkey hv
      cases hread : ctx'.decoration key with
      | none => simp [hread, Pythonize.sameValue] at hmid
      | some v' => exact Pythonize.sameValue_trans (h'.firstWriter key v' hkey hread) (hread ▸ hmid)

theorem Validated.policyKept {lib : Pythonize} {s : PythonMicroService W} {ctx : Context} {output : CallOutput}
    (h : s.Validated lib ctx output) : PolicyKept lib ctx (commit output ctx) := by
  refine ⟨rfl, rfl, rfl, ?_, ?_⟩
  · intro key hkey
    exact List.all_eq_true.mp h.readOnlyDecorations key hkey
  · intro key v hkey hv
    have hall := List.all_eq_true.mp h.reserved key hkey
    have hget : Assoc.get key (ContextSnapshot.fromContext ctx).decorations = some v := hv
    rw [hget] at hall
    exact hall

theorem execute_keeps (phase : Phase) (data : InternalData) :
    Action.Keeps (PolicyKept lib) (s.execute lib w phase data) := by
  intro ctx
  have hcases := s.execute_cases lib w phase data ctx
  revert hcases
  generalize s.execute lib w phase data ctx = out
  intro hcases
  cases hcases with
  | absent h => exact Action.Frame.refl ctx
  | failed e h => exact Action.Frame.refl ctx
  | committed output h hcall hvalid => exact hvalid.policyKept

theorem requestServices_keeps (services : List (PythonMicroService W)) (data : InternalData) :
    Action.Keeps (PolicyKept lib) (Proxy.requestServices w (services.map (microService lib)) data) := by
  induction services generalizing data with
  | nil => exact Action.keeps_pure data
  | cons s services ih =>
    have hfirst := s.execute_keeps lib w .request data
    exact hfirst.bind fun next => ih next

theorem responseServices_keeps (services : List (PythonMicroService W)) (data : InternalData) :
    Action.Keeps (PolicyKept lib) (Proxy.responseServices w (services.map (microService lib)) data) := by
  induction services generalizing data with
  | nil => exact Action.keeps_pure (MicroServiceResponseAction.continue data)
  | cons s services ih =>
    have hfirst := s.execute_keeps lib w .response data
    have hnext : Action.Keeps (PolicyKept lib)
        ((microService lib s).processResponseAction w data) :=
      hfirst.bind fun next => Action.keeps_pure (MicroServiceResponseAction.continue next)
    refine hnext.bind fun action => ?_
    cases action with
    | «continue» next => exact ih next
    | respond r => exact Action.keeps_pure (MicroServiceResponseAction.respond r)

/-- What a call left of the context it was given: on an error all of it; with
data, all of it where the class has no such method, else all but a target
backend and decorations out of a result that passed every check. -/
def LeavesContext (phase : Phase) (data : InternalData) (ctx : Context) : Except Error InternalData × Context → Prop
  | (.error _, after) => after = ctx
  | (.ok next, after) =>
    s.hasMethod phase = false ∧ after = ctx ∧ next = data ∨
      ∃ output, s.controlled lib w phase (.fromContext ctx) data = .ok output ∧ s.Validated lib ctx output ∧
        after = commit output ctx ∧ next = output.data

/-- **The Python boundary.** A call leaves the context unchanged, or replaces
its target backend and decorations once the whole result has been checked; and
along a chain of services on either leg the read-only decorations are neither
created nor changed nor removed, and a published first-writer decoration
keeps its value. -/
theorem python_boundary :
    (∀ (s : PythonMicroService W) (phase : Phase) (data : InternalData) (ctx : Context),
      s.LeavesContext lib w phase data ctx (s.execute lib w phase data ctx)) ∧
    ∀ (services : List (PythonMicroService W)) (data : InternalData) (ctx : Context),
      PolicyKept lib ctx (Proxy.requestServices w (services.map (microService lib)) data ctx).2 ∧
        PolicyKept lib ctx (Proxy.responseServices w (services.map (microService lib)) data ctx).2 := by
  constructor
  · intro s phase data ctx
    have hcases := s.execute_cases lib w phase data ctx
    revert hcases
    generalize s.execute lib w phase data ctx = out
    intro hcases
    cases hcases with
    | absent h => exact .inl ⟨h, rfl, rfl⟩
    | failed e h => exact rfl
    | committed output h hcall hvalid => exact .inr ⟨output, hcall, hvalid, rfl, rfl⟩
  · intro services data ctx
    exact ⟨requestServices_keeps lib w services data ctx, responseServices_keeps lib w services data ctx⟩

end PythonMicroService

end Tunnelbana
