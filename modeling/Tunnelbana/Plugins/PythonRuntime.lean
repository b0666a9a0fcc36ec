/-
The runtime the Python micro-services of a deployment share. Their calls run in
threads, at most so many at once; a request that gives up at its deadline leaves
the thread it started behind, with its permit, until Python returns.

`PythonMicroService.execute` is one call on its own, under a fate. Here requests
interleave: `Sound` accounts for every permit, thread and request of a run, and
`calls_isolated` says that each answer is that of the request's own call under the
fate the run gave it.
-/
import Tunnelbana.Basis.Run
import Tunnelbana.Plugins.PythonStartup

namespace Tunnelbana

open Basis

/-! ## Requests -/

/-- A call that a request makes, with the context it makes it in. -/
structure PyCall (W : Type) where
  service : PythonMicroService W
  phase : Phase
  ctx : Context
  data : InternalData

inductive TaskOutcome where
  | failed
  | returned (output : Except Error CallOutput)

namespace PyCall

variable {W : Type} (lib : Pythonize) (call : PyCall W)

def run (w : W) : TaskOutcome :=
  .returned (call.service.runPythonCall lib w call.phase (.fromContext call.ctx) call.data)

/-- The checks of an output, and what passes them written to the context. -/
def commitOutput (output : CallOutput) : Flow InternalData := do
  let original := ContextSnapshot.fromContext call.ctx
  Flow.require (output.context.validateReadOnly original = true) PythonMicroService.invalidOutput
  Flow.require (output.context.validateReservedDecorations lib original = true) PythonMicroService.invalidOutput
  Flow.require (output.context.validateReadOnlyDecorations lib original = true) PythonMicroService.invalidOutput
  Flow.require (call.service.knownBackend output.context.targetBackend = true) PythonMicroService.invalidOutput
  Flow.modify fun ctx =>
    { ctx with targetBackend := output.context.targetBackend, decorations := output.context.decorations }
  return output.data

def conclude : TaskOutcome → Except Error InternalData × Context
  | .failed => (.error (.internal "python microservice execution failed"), call.ctx)
  | .returned (.error e) => (.error e, call.ctx)
  | .returned (.ok output) => call.commitOutput lib output call.ctx

def alone (w : W) (fate : CallFate) : Except Error InternalData × Context :=
  { call.service with fate := fun _ _ => fate }.execute lib w call.phase call.data call.ctx

variable {lib call}

theorem conclude_failed (h : call.service.hasMethod call.phase = true) (w : W) :
    call.conclude lib .failed = call.alone lib w .taskFailed := by
  unfold alone PythonMicroService.execute
  rw [if_pos (by simpa [PythonMicroService.hasMethod] using h)]
  rfl

/-- What the request makes of a thread that returned is what the call makes of it on
its own. -/
theorem conclude_run (h : call.service.hasMethod call.phase = true) (w : W) :
    call.conclude lib (call.run lib w) = call.alone lib w .finished := by
  unfold alone PythonMicroService.execute
  rw [if_pos (by simpa [PythonMicroService.hasMethod] using h)]
  unfold run
  cases hrun : call.service.runPythonCall lib w call.phase (.fromContext call.ctx) call.data with
  | error e =>
    have hcontrolled : { call.service with fate := fun _ _ => CallFate.finished }.controlled lib w call.phase
        (.fromContext call.ctx) call.data = .error e := hrun
    simp [conclude, Flow.context, hcontrolled]
  | ok output =>
    have hcontrolled : { call.service with fate := fun _ _ => CallFate.finished }.controlled lib w call.phase
        (.fromContext call.ctx) call.data = .ok output := hrun
    simp only [conclude, Flow.context, Action.read_bind_run, hcontrolled, Action.lift_ok_bind_run]
    rfl

theorem alone_absent (h : call.service.hasMethod call.phase = false) (w : W) (fate : CallFate) :
    call.alone lib w fate = (.ok call.data, call.ctx) := by
  unfold alone PythonMicroService.execute
  exact congrFun (if_neg (by simpa [PythonMicroService.hasMethod] using h)) call.ctx

theorem alone_noDeadline (h : call.service.hasMethod call.phase = true) (w : W) :
    call.alone lib w .noDeadline = (.error PythonMicroService.controlUnavailable, call.ctx) := by
  unfold alone PythonMicroService.execute
  rw [if_pos (by simpa [PythonMicroService.hasMethod] using h)]
  rfl

theorem alone_noPermit (h : call.service.hasMethod call.phase = true) (w : W) :
    call.alone lib w .noPermit = (.error PythonMicroService.sanitizedTimeout, call.ctx) := by
  unfold alone PythonMicroService.execute
  rw [if_pos (by simpa [PythonMicroService.hasMethod] using h)]
  rfl

theorem alone_timedOut (h : call.service.hasMethod call.phase = true) (w : W) :
    call.alone lib w .timedOut = (.error PythonMicroService.sanitizedTimeout, call.ctx) := by
  unfold alone PythonMicroService.execute
  rw [if_pos (by simpa [PythonMicroService.hasMethod] using h)]
  rfl

end PyCall

/-- Where a request in flight is: without a permit, with its thread running, or
with what the thread ended with. -/
inductive CallStage where
  | waiting
  | running
  | ended (outcome : TaskOutcome)

structure InFlight (W : Type) where
  call : PyCall W
  deadline : Nat
  stage : CallStage

/-- The permits left, the threads that hold the others, and the requests in
flight. A thread whose request is gone goes on. -/
structure RuntimeState (W : Type) where
  next : Nat := 0
  available : Nat
  tasks : List (Nat × PyCall W) := []
  requests : Nat → Option (InFlight W) := fun _ => none

inductive RuntimeAct (W : Type) where
  | begin (call : PyCall W)
  | granted (id : Nat)
  | returned (id : Nat)
  | panicked (id : Nat)
  | delivered (id : Nat)
  | expired (id : Nat)
  | dropped (id : Nat)

structure RuntimeStep (W : Type) where
  now : Nat
  world : W
  act : RuntimeAct W

inductive RuntimeOutcome where
  | began (id : Nat)
  | started (id : Nat)
  | ended (id : Nat)
  | answered (id : Nat) (result : Except Error InternalData × Context)
  | gone (id : Nat)
  | idle

namespace RuntimeState

variable {W : Type} (s : RuntimeState W)

/-- The thread ends: its permit is free again, and its request, if there is one
still, finds how it ended. -/
def endTask (id : Nat) (outcome : PyCall W → TaskOutcome) : RuntimeOutcome × RuntimeState W :=
  match s.tasks.lookup id with
  | none => (.idle, s)
  | some call =>
    (.ended id,
      { s with
        available := s.available + 1
        tasks := s.tasks.eraseP fun task => task.1 == id
        requests := Function.update s.requests id
          ((s.requests id).map fun r => { r with stage := .ended (outcome call) }) })

def close (id : Nat) : RuntimeState W := { s with requests := Function.update s.requests id none }

end RuntimeState

section

variable {W : Type} (rt : PythonRuntime) (lib : Pythonize) (lastInstant : Nat)

def RuntimeState.apply (s : RuntimeState W) (step : RuntimeStep W) : RuntimeOutcome × RuntimeState W :=
  match step.act with
  | .begin call =>
    if call.service.hasMethod call.phase then
      if step.now + rt.callTimeout ≤ lastInstant then
        (.began s.next,
          { s with
            next := s.next + 1
            requests := Function.update s.requests s.next
              (some { call, deadline := step.now + rt.callTimeout, stage := .waiting }) })
      else (.answered s.next (.error PythonMicroService.controlUnavailable, call.ctx), { s with next := s.next + 1 })
    else (.answered s.next (.ok call.data, call.ctx), { s with next := s.next + 1 })
  | .granted id =>
    match s.requests id with
    | some ⟨call, deadline, .waiting⟩ =>
      if s.available = 0 then (.idle, s)
      else
        (.started id,
          { s with
            available := s.available - 1
            tasks := (id, call) :: s.tasks
            requests := Function.update s.requests id (some ⟨call, deadline, .running⟩) })
    | _ => (.idle, s)
  | .returned id => s.endTask id fun call => call.run lib step.world
  | .panicked id => s.endTask id fun _ => .failed
  | .delivered id =>
    match s.requests id with
    | some ⟨call, _, .ended outcome⟩ => (.answered id (call.conclude lib outcome), s.close id)
    | _ => (.idle, s)
  | .expired id =>
    match s.requests id with
    | some r =>
      if r.deadline ≤ step.now then
        (.answered id (.error PythonMicroService.sanitizedTimeout, r.call.ctx), s.close id)
      else (.idle, s)
    | none => (.idle, s)
  | .dropped id =>
    match s.requests id with
    | some _ => (.gone id, s.close id)
    | none => (.idle, s)

def EndsBy (step : RuntimeStep W) (id : Nat) (call : PyCall W) (outcome : TaskOutcome) : Prop :=
  step.act = .returned id ∧ outcome = call.run lib step.world ∨ step.act = .panicked id ∧ outcome = .failed

inductive RuntimeState.Does (s : RuntimeState W) (step : RuntimeStep W) : RuntimeOutcome × RuntimeState W → Prop
  | absent {call} : step.act = .begin call → call.service.hasMethod call.phase = false →
    Does s step (.answered s.next (.ok call.data, call.ctx), { s with next := s.next + 1 })
  | unrepresented {call} : step.act = .begin call → call.service.hasMethod call.phase = true →
    lastInstant < step.now + rt.callTimeout →
    Does s step (.answered s.next (.error PythonMicroService.controlUnavailable, call.ctx),
      { s with next := s.next + 1 })
  | began {call} : step.act = .begin call → call.service.hasMethod call.phase = true →
    Does s step (.began s.next,
      { s with
        next := s.next + 1
        requests := Function.update s.requests s.next
          (some { call, deadline := step.now + rt.callTimeout, stage := .waiting }) })
  | started {id call deadline} : s.requests id = some ⟨call, deadline, .waiting⟩ → s.available ≠ 0 →
    Does s step (.started id,
      { s with
        available := s.available - 1
        tasks := (id, call) :: s.tasks
        requests := Function.update s.requests id (some ⟨call, deadline, .running⟩) })
  | ended {id call outcome} : s.tasks.lookup id = some call → EndsBy lib step id call outcome →
    Does s step (.ended id,
      { s with
        available := s.available + 1
        tasks := s.tasks.eraseP fun task => task.1 == id
        requests := Function.update s.requests id ((s.requests id).map fun r => { r with stage := .ended outcome }) })
  | delivered {id call deadline outcome} : s.requests id = some ⟨call, deadline, .ended outcome⟩ →
    Does s step (.answered id (call.conclude lib outcome), s.close id)
  | expired {id r} : s.requests id = some r → r.deadline ≤ step.now →
    Does s step (.answered id (.error PythonMicroService.sanitizedTimeout, r.call.ctx), s.close id)
  | gone {id r} : s.requests id = some r → Does s step (.gone id, s.close id)
  | idle : Does s step (.idle, s)

theorem RuntimeState.endTask_does {s : RuntimeState W} {step : RuntimeStep W} {id : Nat}
    {outcome : PyCall W → TaskOutcome} (h : ∀ call, EndsBy lib step id call (outcome call)) :
    s.Does rt lib lastInstant step (s.endTask id outcome) := by
  unfold endTask
  cases htask : s.tasks.lookup id with
  | none => exact .idle
  | some call => exact .ended htask (h call)

theorem RuntimeState.apply_does (s : RuntimeState W) (step : RuntimeStep W) :
    s.Does rt lib lastInstant step (s.apply rt lib lastInstant step) := by
  unfold apply
  cases hact : step.act with
  | begin call =>
    simp only
    split
    next hmethod =>
      split
      next => exact .began hact hmethod
      next hlate => exact .unrepresented hact hmethod (Nat.lt_of_not_le hlate)
    next hmethod => exact .absent hact (Bool.eq_false_iff.mpr hmethod)
  | granted id =>
    simp only
    split
    next hr =>
      split
      next => exact .idle
      next havailable => exact .started hr havailable
    next => exact .idle
  | returned id => exact endTask_does rt lib lastInstant fun call => .inl ⟨hact, rfl⟩
  | panicked id => exact endTask_does rt lib lastInstant fun call => .inr ⟨hact, rfl⟩
  | delivered id =>
    simp only
    split
    next hr => exact .delivered hr
    next => exact .idle
  | expired id =>
    simp only
    split
    next hr =>
      split
      next hdeadline => exact .expired hr hdeadline
      next => exact .idle
    next => exact .idle
  | dropped id =>
    simp only
    split
    next hr => exact .gone hr
    next => exact .idle

/-! ## Runs -/

def RuntimeOutcome.id : RuntimeOutcome → Option Nat
  | .began id | .started id | .ended id | .answered id _ | .gone id => some id
  | .idle => none

abbrev RuntimeEvent (W : Type) : Type := RuntimeStep W × RuntimeOutcome

def startedId : RuntimeEvent W → Option Nat
  | (_, .started id) => some id
  | _ => none

def endedId : RuntimeEvent W → Option Nat
  | (_, .ended id) => some id
  | _ => none

def answeredId : RuntimeEvent W → Option Nat
  | (_, .answered id _) => some id
  | _ => none

/-- The request is over: it has its answer, or nobody waits for one. -/
def RuntimeOutcome.Over (id : Nat) : RuntimeOutcome → Prop
  | .answered other _ | .gone other => other = id
  | _ => False

/-- The state with everything that happened, the latest first. -/
structure RuntimeLedger (W : Type) where
  state : RuntimeState W
  history : List (RuntimeEvent W) := []

def BegunBy (history : List (RuntimeEvent W)) (id : Nat) (call : PyCall W) (begun : RuntimeStep W) : Prop :=
  begun.act = .begin call ∧ ∃ outcome, (begun, outcome) ∈ history ∧ outcome.id = some id

/-- What a run made of a call that was answered: its fate, and the step that
decided it. -/
inductive Decided (history : List (RuntimeEvent W)) (id : Nat) (call : PyCall W) (begun answered : RuntimeStep W) :
    CallFate → RuntimeStep W → Prop
  | absent {fate} : call.service.hasMethod call.phase = false → Decided history id call begun answered fate answered
  | noDeadline : lastInstant < begun.now + rt.callTimeout → Decided history id call begun answered .noDeadline answered
  | noPermit : begun.now + rt.callTimeout ≤ answered.now → (∀ e ∈ history, e.2 ≠ .started id) →
    Decided history id call begun answered .noPermit answered
  | timedOut : begun.now + rt.callTimeout ≤ answered.now → (∃ e ∈ history, e.2 = .started id) →
    Decided history id call begun answered .timedOut answered
  | taskFailed {step} : (step, .ended id) ∈ history → step.act = .panicked id →
    Decided history id call begun answered .taskFailed step
  | finished {step} : (step, .ended id) ∈ history → step.act = .returned id →
    Decided history id call begun answered .finished step

/-- An answer is that of the request's own call, alone, under the fate the run gave
it and in the world of the step that decided it. -/
def Explained (history : List (RuntimeEvent W)) (id : Nat) (answered : RuntimeStep W)
    (result : Except Error InternalData × Context) : Prop :=
  ∃ call begun fate decider, BegunBy history id call begun ∧
    Decided rt lastInstant history id call begun answered fate decider ∧ result = call.alone lib decider.world fate

namespace RuntimeLedger

def start : RuntimeLedger W where
  state := { available := rt.permits }

def step (l : RuntimeLedger W) (s : RuntimeStep W) : RuntimeLedger W where
  state := (l.state.apply rt lib lastInstant s).2
  history := (s, (l.state.apply rt lib lastInstant s).1) :: l.history

inductive StageTold (history : List (RuntimeEvent W)) (tasks : List (Nat × PyCall W)) (id : Nat) (call : PyCall W) :
    CallStage → Prop
  | waiting : (∀ e ∈ history, e.2 ≠ .started id) → StageTold history tasks id call .waiting
  | running : (∃ e ∈ history, e.2 = .started id) → (id, call) ∈ tasks → StageTold history tasks id call .running
  | ended {outcome} : (∃ e ∈ history, e.2 = .started id) →
    (∃ step, (step, .ended id) ∈ history ∧ EndsBy lib step id call outcome) →
    StageTold history tasks id call (.ended outcome)

structure Tracked (history : List (RuntimeEvent W)) (tasks : List (Nat × PyCall W)) (id : Nat) (r : InFlight W) :
    Prop where
  hasMethod : r.call.service.hasMethod r.call.phase = true
  begun : ∃ step, (step, .began id) ∈ history
  same : ∀ step, (step, .began id) ∈ history → step.act = .begin r.call ∧ r.deadline = step.now + rt.callTimeout
  stage : StageTold lib history tasks id r.call r.stage

/-- What a ledger tells of one id. -/
structure Account (l : RuntimeLedger W) (id : Nat) : Prop where
  tracked : ∀ r, l.state.requests id = some r → Tracked rt lib l.history l.state.tasks id r
  task : ∀ call r, (id, call) ∈ l.state.tasks → l.state.requests id = some r → r.stage = .running ∧ r.call = call
  fresh : l.state.next ≤ id → l.state.requests id = none ∧ (∀ e ∈ l.history, e.2.id ≠ some id) ∧
    ∀ call, (id, call) ∉ l.state.tasks
  answered : ∀ step result, (step, .answered id result) ∈ l.history →
    l.state.requests id = none ∧ Explained rt lib lastInstant l.history id step result
  pending : ∀ step, (step, .began id) ∈ l.history → l.state.requests id ≠ none ∨ ∃ e ∈ l.history, e.2.Over id

/-- **Every permit, thread and request of a run is accounted for.** -/
structure Sound (l : RuntimeLedger W) : Prop where
  permits : l.state.available + l.state.tasks.length = rt.permits
  counted : (l.history.filterMap startedId).length = (l.history.filterMap endedId).length + l.state.tasks.length
  distinct : (l.state.tasks.map Prod.fst).Nodup
  startsOnce : (l.history.filterMap startedId).Nodup
  answersOnce : (l.history.filterMap answeredId).Nodup
  account : ∀ id, Account rt lib lastInstant l id

theorem sound_start : Sound rt lib lastInstant (start rt : RuntimeLedger W) where
  permits := rfl
  counted := rfl
  distinct := List.nodup_nil
  startsOnce := List.nodup_nil
  answersOnce := List.nodup_nil
  account id := by
    constructor <;> simp [start]

variable {rt lib lastInstant}

section elsewhere

variable {history : List (RuntimeEvent W)} {s : RuntimeStep W} {o : RuntimeOutcome} {id : Nat}

/-- An event of another request tells nothing new of this one. -/
theorem mem_cons_elsewhere (ho : o.id ≠ some id) {step : RuntimeStep W} {outcome : RuntimeOutcome}
    (h : outcome.id = some id) : (step, outcome) ∈ (s, o) :: history ↔ (step, outcome) ∈ history := by
  constructor
  · intro hmem
    rcases List.mem_cons.mp hmem with heq | hmem
    · cases heq
      exact absurd h ho
    · exact hmem
  · exact List.mem_cons_of_mem _

theorem exists_started_elsewhere (ho : o.id ≠ some id) :
    (∃ e ∈ (s, o) :: history, e.2 = .started id) ↔ ∃ e ∈ history, e.2 = .started id := by
  constructor
  · rintro ⟨⟨step, outcome⟩, hmem, h⟩
    cases h
    exact ⟨(step, .started id), (mem_cons_elsewhere ho rfl).mp hmem, rfl⟩
  · rintro ⟨e, hmem, h⟩
    exact ⟨e, List.mem_cons_of_mem _ hmem, h⟩

end elsewhere

variable {l : RuntimeLedger W} {s : RuntimeStep W} {o : RuntimeOutcome} {t : RuntimeState W}

/-- A step leaves the other requests, and their threads, alone. -/
theorem Does.elsewhere {state : RuntimeState W} (h : state.Does rt lib lastInstant s (o, t)) {id : Nat}
    (ho : o.id ≠ some id) : t.requests id = state.requests id ∧
      (∀ call, (id, call) ∈ t.tasks ↔ (id, call) ∈ state.tasks) := by
  generalize hout : (o, t) = out at h
  cases h with
  | absent | unrepresented | idle =>
    cases hout
    exact ⟨rfl, fun _ => Iff.rfl⟩
  | began | gone | delivered | expired =>
    cases hout
    exact ⟨Function.update_of_ne (fun h => ho (congrArg some h.symm)) _ _, fun _ => Iff.rfl⟩
  | started =>
    cases hout
    refine ⟨Function.update_of_ne (fun h => ho (congrArg some h.symm)) _ _, fun call => ?_⟩
    have hne : id ≠ _ := fun h => ho (congrArg some h.symm)
    simp [hne]
  | ended =>
    cases hout
    refine ⟨Function.update_of_ne (fun h => ho (congrArg some h.symm)) _ _, fun call => ?_⟩
    have hne : id ≠ _ := fun h => ho (congrArg some h.symm)
    exact List.mem_eraseP_of_neg (by simp [hne])

theorem Does.next_le {state : RuntimeState W} (h : state.Does rt lib lastInstant s (o, t)) : state.next ≤ t.next := by
  generalize hout : (o, t) = out at h
  cases h with
  | absent | unrepresented | began =>
    cases hout
    exact Nat.le_succ _
  | started | ended | delivered | expired | gone | idle =>
    cases hout
    exact Nat.le_refl _

def after (l : RuntimeLedger W) (s : RuntimeStep W) (o : RuntimeOutcome) (t : RuntimeState W) : RuntimeLedger W where
  state := t
  history := (s, o) :: l.history

theorem StageTold.elsewhere {history : List (RuntimeEvent W)} {tasks tasks' : List (Nat × PyCall W)} {id : Nat}
    {call : PyCall W} {stage : CallStage} (ho : o.id ≠ some id) (htasks : ∀ call, (id, call) ∈ tasks' ↔ (id, call) ∈ tasks)
    (h : StageTold lib history tasks id call stage) : StageTold lib ((s, o) :: history) tasks' id call stage := by
  have hstarts : (∃ e ∈ (s, o) :: history, e.2 = .started id) ↔ ∃ e ∈ history, e.2 = .started id :=
    exists_started_elsewhere ho
  cases h with
  | waiting h =>
    refine .waiting fun e he hstart => ?_
    obtain ⟨e', he', hstart'⟩ := hstarts.mp ⟨e, he, hstart⟩
    exact h e' he' hstart'
  | running h htask => exact .running (hstarts.mpr h) ((htasks call).mpr htask)
  | ended h hend =>
    obtain ⟨step, hmem, hby⟩ := hend
    exact .ended (hstarts.mpr h) ⟨step, List.mem_cons_of_mem _ hmem, hby⟩

/-- What explains an answer still does, as long as the call has not started since. -/
theorem Explained.later {history : List (RuntimeEvent W)} {id : Nat} {answered : RuntimeStep W}
    {result : Except Error InternalData × Context} (ho : o ≠ .started id)
    (h : Explained rt lib lastInstant history id answered result) :
    Explained rt lib lastInstant ((s, o) :: history) id answered result := by
  obtain ⟨call, begun, fate, decider, ⟨hact, outcome, hmem, hid⟩, hdecided, hresult⟩ := h
  refine ⟨call, begun, fate, decider, ⟨hact, outcome, List.mem_cons_of_mem _ hmem, hid⟩, ?_, hresult⟩
  cases hdecided with
  | absent h => exact .absent h
  | noDeadline h => exact .noDeadline h
  | noPermit h hnever =>
    refine .noPermit h fun e he => ?_
    rcases List.mem_cons.mp he with rfl | he
    · exact ho
    · exact hnever e he
  | timedOut h hstart =>
    obtain ⟨e, he, heq⟩ := hstart
    exact .timedOut h ⟨e, List.mem_cons_of_mem _ he, heq⟩
  | taskFailed h hby => exact .taskFailed (List.mem_cons_of_mem _ h) hby
  | finished h hby => exact .finished (List.mem_cons_of_mem _ h) hby

theorem Account.elsewhere {id : Nat} (h : Account rt lib lastInstant l id)
    (hdoes : l.state.Does rt lib lastInstant s (o, t)) (ho : o.id ≠ some id) :
    Account rt lib lastInstant (l.after s o t) id := by
  obtain ⟨hrequests, htasks⟩ := Does.elsewhere hdoes ho
  constructor
  · intro r hr
    obtain ⟨hmethod, ⟨step, hbegun⟩, hsame, hstage⟩ := h.tracked r (hrequests ▸ hr)
    refine ⟨hmethod, ⟨step, List.mem_cons_of_mem _ hbegun⟩, ?_, hstage.elsewhere ho htasks⟩
    intro step hstep
    exact hsame step ((mem_cons_elsewhere ho rfl).mp hstep)
  · intro call r hcall hr
    exact h.task call r ((htasks call).mp hcall) (hrequests ▸ hr)
  · intro hnext
    obtain ⟨hnone, hevents, hnotask⟩ := h.fresh ((Does.next_le hdoes).trans hnext)
    refine ⟨hrequests.trans hnone, ?_, fun call hcall => hnotask call ((htasks call).mp hcall)⟩
    intro e he
    rcases List.mem_cons.mp he with rfl | he
    · exact ho
    · exact hevents e he
  · intro step result hmem
    obtain ⟨hnone, hexplained⟩ := h.answered step result ((mem_cons_elsewhere ho rfl).mp hmem)
    have hstarted : o ≠ .started id := by
      rintro rfl
      exact ho rfl
    exact ⟨hrequests.trans hnone, Explained.later hstarted hexplained⟩
  · intro step hmem
    rcases h.pending step ((mem_cons_elsewhere ho rfl).mp hmem) with hopen | ⟨e, he, hover⟩
    · exact .inl (hrequests ▸ hopen)
    · exact .inr ⟨e, List.mem_cons_of_mem _ he, hover⟩

theorem Account.atOnce (h : Account rt lib lastInstant l l.state.next) {result : Except Error InternalData × Context}
    (hexplained : ∀ history, Explained rt lib lastInstant ((s, .answered l.state.next result) :: history)
      l.state.next s result) :
    Account rt lib lastInstant (l.after s (.answered l.state.next result) { l.state with next := l.state.next + 1 })
      l.state.next := by
  obtain ⟨hnone, hevents, hnotask⟩ := h.fresh (Nat.le_refl _)
  constructor
  · intro r hr
    cases hnone.symm.trans hr
  · intro call r hcall
    exact absurd hcall (hnotask call)
  · intro hnext
    exact absurd hnext (Nat.not_succ_le_self _)
  · intro step result' hmem
    refine ⟨hnone, ?_⟩
    rcases List.mem_cons.mp hmem with heq | hmem
    · cases heq
      exact hexplained _
    · exact absurd rfl (hevents _ hmem)
  · intro step hmem
    rcases List.mem_cons.mp hmem with heq | hmem
    · cases heq
    · exact absurd rfl (hevents _ hmem)

/-- A request that is over; where it is answered, the answer is explained. -/
theorem Account.close {id : Nat} (h : Account rt lib lastInstant l id) {r : InFlight W}
    (hr : l.state.requests id = some r) (hover : o.Over id)
    (hexplained : ∀ result, o = .answered id result →
      Explained rt lib lastInstant ((s, o) :: l.history) id s result) :
    Account rt lib lastInstant (l.after s o (l.state.close id)) id := by
  have hnone : (l.state.close id).requests id = none := Function.update_self ..
  constructor
  · intro r hr
    cases hnone.symm.trans hr
  · intro call r _ hr
    cases hnone.symm.trans hr
  · intro hnext
    cases (h.fresh hnext).1.symm.trans hr
  · intro step result hmem
    refine ⟨hnone, ?_⟩
    rcases List.mem_cons.mp hmem with heq | hmem
    · cases heq
      exact hexplained result rfl
    · cases (h.answered step result hmem).1.symm.trans hr
  · intro step hmem
    exact .inr ⟨(s, o), List.mem_cons_self, hover⟩

theorem Account.begin (h : Account rt lib lastInstant l l.state.next) {call : PyCall W} (hact : s.act = .begin call)
    (hmethod : call.service.hasMethod call.phase = true) :
    Account rt lib lastInstant (l.after s (.began l.state.next)
      { l.state with
        next := l.state.next + 1
        requests := Function.update l.state.requests l.state.next
          (some { call, deadline := s.now + rt.callTimeout, stage := .waiting }) }) l.state.next := by
  obtain ⟨hnone, hevents, hnotask⟩ := h.fresh (Nat.le_refl _)
  constructor
  · intro r hr
    cases (Function.update_self ..).symm.trans hr
    refine ⟨hmethod, ⟨s, List.mem_cons_self⟩, ?_, .waiting ?_⟩
    · intro step hmem
      rcases List.mem_cons.mp hmem with heq | hmem
      · cases heq
        exact ⟨hact, rfl⟩
      · exact absurd rfl (hevents _ hmem)
    · intro e he hstart
      rcases List.mem_cons.mp he with rfl | he
      · cases hstart
      · exact hevents e he (congrArg RuntimeOutcome.id hstart)
  · intro call r hcall
    exact absurd hcall (hnotask call)
  · intro hnext
    exact absurd hnext (Nat.not_succ_le_self _)
  · intro step result hmem
    rcases List.mem_cons.mp hmem with heq | hmem
    · cases heq
    · exact absurd rfl (hevents _ hmem)
  · intro step _
    refine .inl fun hno => ?_
    cases (Function.update_self ..).symm.trans hno

theorem Account.start {id : Nat} (h : Account rt lib lastInstant l id) {call : PyCall W} {deadline : Nat}
    (hr : l.state.requests id = some ⟨call, deadline, .waiting⟩) :
    Account rt lib lastInstant (l.after s (.started id)
      { l.state with
        available := l.state.available - 1
        tasks := (id, call) :: l.state.tasks
        requests := Function.update l.state.requests id (some ⟨call, deadline, .running⟩) }) id := by
  obtain ⟨hmethod, ⟨begun, hbegun⟩, hsame, -⟩ := h.tracked _ hr
  constructor
  · intro r hnew
    cases (Function.update_self ..).symm.trans hnew
    refine ⟨hmethod, ⟨begun, List.mem_cons_of_mem _ hbegun⟩, ?_, ?_⟩
    · intro step hmem
      rcases List.mem_cons.mp hmem with heq | hmem
      · cases heq
      · exact hsame step hmem
    · exact .running ⟨(s, .started id), List.mem_cons_self, rfl⟩ List.mem_cons_self
  · intro call' r hcall hnew
    cases (Function.update_self ..).symm.trans hnew
    rcases List.mem_cons.mp hcall with heq | hcall
    · cases heq
      exact ⟨rfl, rfl⟩
    · cases (h.task call' _ hcall hr).1
  · intro hnext
    cases (h.fresh ((Nat.le_refl _).trans hnext)).1.symm.trans hr
  · intro step result hmem
    rcases List.mem_cons.mp hmem with heq | hmem
    · cases heq
    · cases (h.answered step result hmem).1.symm.trans hr
  · intro step _
    refine .inl fun hno => ?_
    cases (Function.update_self ..).symm.trans hno

/-- A thread that ended has no other under its id. -/
theorem not_mem_eraseP {tasks : List (Nat × PyCall W)} (h : (tasks.map Prod.fst).Nodup) (id : Nat) (call : PyCall W) :
    (id, call) ∉ tasks.eraseP fun task => task.1 == id := by
  induction tasks with
  | nil => exact List.not_mem_nil
  | cons task tasks ih =>
    obtain ⟨hnotMem, hnodup⟩ := List.nodup_cons.mp h
    intro hmem
    by_cases htask : task.1 = id
    · rw [List.eraseP_cons_of_pos (by simpa using htask)] at hmem
      exact hnotMem (htask ▸ List.mem_map_of_mem (f := Prod.fst) hmem)
    · rw [List.eraseP_cons_of_neg (by simpa using htask)] at hmem
      rcases List.mem_cons.mp hmem with rfl | hmem
      · exact htask rfl
      · exact ih hnodup hmem

theorem length_eraseP {tasks : List (Nat × PyCall W)} {id : Nat} {call : PyCall W} (h : (id, call) ∈ tasks) :
    (tasks.eraseP fun task => task.1 == id).length + 1 = tasks.length :=
  List.length_eraseP_add_one h (beq_self_eq_true id)

theorem mem_of_lookup {tasks : List (Nat × PyCall W)} {id : Nat} {call : PyCall W} (h : tasks.lookup id = some call) :
    (id, call) ∈ tasks := by
  obtain ⟨before, after, rfl, -⟩ := List.lookup_eq_some_iff.mp h
  simp

theorem Account.finish {id : Nat} (h : Account rt lib lastInstant l id) (hdistinct : (l.state.tasks.map Prod.fst).Nodup)
    {call : PyCall W} {outcome : TaskOutcome} (htask : (id, call) ∈ l.state.tasks)
    (hby : EndsBy lib s id call outcome) :
    Account rt lib lastInstant (l.after s (.ended id)
      { l.state with
        available := l.state.available + 1
        tasks := l.state.tasks.eraseP fun task => task.1 == id
        requests := Function.update l.state.requests id
          ((l.state.requests id).map fun r => { r with stage := .ended outcome }) }) id := by
  have hreads : Function.update l.state.requests id
      ((l.state.requests id).map fun r => { r with stage := .ended outcome }) id =
        (l.state.requests id).map fun r => { r with stage := .ended outcome } := Function.update_self ..
  constructor
  · intro r hnew
    obtain ⟨old, hold, hr⟩ := Option.map_eq_some_iff.mp (hreads.symm.trans hnew)
    subst hr
    obtain ⟨hrunning, hcall⟩ := h.task call old htask hold
    obtain ⟨hmethod, ⟨begun, hbegun⟩, hsame, hstage⟩ := h.tracked old hold
    refine ⟨hmethod, ⟨begun, List.mem_cons_of_mem _ hbegun⟩, ?_, ?_⟩
    · intro step hmem
      rcases List.mem_cons.mp hmem with heq | hmem
      · cases heq
      · exact hsame step hmem
    · rw [hrunning] at hstage
      cases hstage with
      | running hstart _ =>
        obtain ⟨e, he, heq⟩ := hstart
        exact .ended ⟨e, List.mem_cons_of_mem _ he, heq⟩ ⟨s, List.mem_cons_self, hcall ▸ hby⟩
  · intro call' r hcall'
    exact absurd hcall' (not_mem_eraseP hdistinct id call')
  · intro hnext
    exact absurd htask ((h.fresh hnext).2.2 call)
  · intro step result hmem
    rcases List.mem_cons.mp hmem with heq | hmem
    · cases heq
    · obtain ⟨hnone, hexplained⟩ := h.answered step result hmem
      have hstarted : RuntimeOutcome.ended id ≠ .started id := fun h => RuntimeOutcome.noConfusion h
      exact ⟨hreads.trans (by rw [hnone]; rfl), Explained.later hstarted hexplained⟩
  · intro step hmem
    rcases List.mem_cons.mp hmem with heq | hmem
    · cases heq
    · rcases h.pending step hmem with hopen | ⟨e, he, hover⟩
      · exact .inl fun hno => hopen (Option.map_eq_none_iff.mp (hreads.symm.trans hno))
      · exact .inr ⟨e, List.mem_cons_of_mem _ he, hover⟩

theorem Tracked.begunBy {history : List (RuntimeEvent W)} {tasks : List (Nat × PyCall W)} {id : Nat} {r : InFlight W}
    (h : Tracked rt lib history tasks id r) (e : RuntimeEvent W) :
    ∃ begun, BegunBy (e :: history) id r.call begun ∧ r.deadline = begun.now + rt.callTimeout := by
  obtain ⟨begun, hmem⟩ := h.begun
  obtain ⟨hact, hdeadline⟩ := h.same begun hmem
  exact ⟨begun, ⟨hact, .began id, List.mem_cons_of_mem _ hmem, rfl⟩, hdeadline⟩

theorem Tracked.delivered {history : List (RuntimeEvent W)} {tasks : List (Nat × PyCall W)} {id deadline : Nat}
    {call : PyCall W} {outcome : TaskOutcome}
    (h : Tracked rt lib history tasks id ⟨call, deadline, .ended outcome⟩) (e : RuntimeEvent W) :
    Explained rt lib lastInstant (e :: history) id s (call.conclude lib outcome) := by
  obtain ⟨begun, hbegun, -⟩ := h.begunBy e
  have hstage := h.stage
  cases hstage with
  | ended _ hend =>
    obtain ⟨step, hmem, ⟨hact, hrun⟩ | ⟨hact, hrun⟩⟩ := hend
    · refine ⟨call, begun, .finished, step, hbegun, .finished (List.mem_cons_of_mem _ hmem) hact, ?_⟩
      rw [hrun]
      exact PyCall.conclude_run h.hasMethod step.world
    · refine ⟨call, begun, .taskFailed, step, hbegun, .taskFailed (List.mem_cons_of_mem _ hmem) hact, ?_⟩
      rw [hrun]
      exact PyCall.conclude_failed h.hasMethod step.world

theorem Tracked.expired {history : List (RuntimeEvent W)} {tasks : List (Nat × PyCall W)} {id : Nat} {r : InFlight W}
    (h : Tracked rt lib history tasks id r) (hdeadline : r.deadline ≤ s.now) (ho : o ≠ .started id) :
    Explained rt lib lastInstant ((s, o) :: history) id s
      (.error PythonMicroService.sanitizedTimeout, r.call.ctx) := by
  obtain ⟨begun, hbegun, hsame⟩ := h.begunBy (s, o)
  have hlate : begun.now + rt.callTimeout ≤ s.now := hsame ▸ hdeadline
  have hstarted : (∃ e ∈ history, e.2 = .started id) →
      Explained rt lib lastInstant ((s, o) :: history) id s
        (.error PythonMicroService.sanitizedTimeout, r.call.ctx) := by
    rintro ⟨e, he, hstart⟩
    exact ⟨r.call, begun, .timedOut, s, hbegun, .timedOut hlate ⟨e, List.mem_cons_of_mem _ he, hstart⟩,
      (PyCall.alone_timedOut h.hasMethod s.world).symm⟩
  have hstage := h.stage
  revert hstage
  generalize r.stage = stage
  intro hstage
  cases hstage with
  | running hstart _ => exact hstarted hstart
  | ended hstart _ => exact hstarted hstart
  | waiting hnever =>
    refine ⟨r.call, begun, .noPermit, s, hbegun, .noPermit hlate ?_, (PyCall.alone_noPermit h.hasMethod s.world).symm⟩
    intro e he
    rcases List.mem_cons.mp he with rfl | he
    · exact ho
    · exact hnever e he

theorem Account.step {id : Nat} (h : Sound rt lib lastInstant l) (hdoes : l.state.Does rt lib lastInstant s (o, t)) :
    Account rt lib lastInstant (l.after s o t) id := by
  by_cases ho : o.id = some id
  swap
  · exact (h.account id).elsewhere hdoes ho
  have haccount := h.account id
  generalize hout : (o, t) = out at hdoes
  cases hdoes with
  | absent hact hmethod =>
    cases hout
    cases ho
    refine haccount.atOnce fun history => ?_
    exact ⟨_, s, .noDeadline, s, ⟨hact, _, List.mem_cons_self, rfl⟩, .absent hmethod,
      (PyCall.alone_absent hmethod s.world _).symm⟩
  | unrepresented hact hmethod hlate =>
    cases hout
    cases ho
    refine haccount.atOnce fun history => ?_
    exact ⟨_, s, .noDeadline, s, ⟨hact, _, List.mem_cons_self, rfl⟩, .noDeadline hlate,
      (PyCall.alone_noDeadline hmethod s.world).symm⟩
  | began hact hmethod =>
    cases hout
    cases ho
    exact haccount.begin hact hmethod
  | started hr =>
    cases hout
    cases ho
    exact haccount.start hr
  | ended htask hby =>
    cases hout
    cases ho
    exact haccount.finish h.distinct (mem_of_lookup htask) hby
  | delivered hr =>
    cases hout
    cases ho
    refine haccount.close hr rfl fun result hresult => ?_
    cases hresult
    exact (haccount.tracked _ hr).delivered _
  | expired hr hdeadline =>
    cases hout
    cases ho
    refine haccount.close hr rfl fun result hresult => ?_
    cases hresult
    exact (haccount.tracked _ hr).expired hdeadline fun h => RuntimeOutcome.noConfusion h
  | gone hr =>
    cases hout
    cases ho
    exact haccount.close hr rfl fun result hresult => RuntimeOutcome.noConfusion hresult
  | idle =>
    cases hout
    cases ho

theorem Sound.step (h : Sound rt lib lastInstant l) (hdoes : l.state.Does rt lib lastInstant s (o, t)) :
    Sound rt lib lastInstant (l.after s o t) := by
  have haccount : ∀ id, Account rt lib lastInstant (l.after s o t) id := fun id => Account.step h hdoes
  -- An id that has an answer or a thread is neither free nor waiting.
  have hunanswered : ∀ id, (l.state.requests id ≠ none ∨ l.state.next ≤ id) →
      id ∉ l.history.filterMap answeredId := by
    intro id hid hmem
    obtain ⟨⟨step, outcome⟩, he, heq⟩ := List.mem_filterMap.mp hmem
    cases outcome with
    | answered other result =>
      cases heq
      rcases hid with hopen | hnext
      · exact hopen ((h.account id).answered step result he).1
      · exact ((h.account id).fresh hnext).2.1 _ he rfl
    | began | started | ended | gone | idle => cases heq
  generalize hout : (o, t) = out at hdoes
  cases hdoes with
  | absent | unrepresented =>
    cases hout
    exact ⟨h.permits, h.counted, h.distinct, h.startsOnce,
      List.nodup_cons.mpr ⟨hunanswered _ (.inr (Nat.le_refl _)), h.answersOnce⟩, haccount⟩
  | began | idle | gone =>
    cases hout
    exact ⟨h.permits, h.counted, h.distinct, h.startsOnce, h.answersOnce, haccount⟩
  | delivered hr =>
    cases hout
    exact ⟨h.permits, h.counted, h.distinct, h.startsOnce,
      List.nodup_cons.mpr ⟨hunanswered _ (.inl fun hno => by cases hno.symm.trans hr), h.answersOnce⟩, haccount⟩
  | expired hr =>
    cases hout
    exact ⟨h.permits, h.counted, h.distinct, h.startsOnce,
      List.nodup_cons.mpr ⟨hunanswered _ (.inl fun hno => by cases hno.symm.trans hr), h.answersOnce⟩, haccount⟩
  | started hr havailable =>
    rename_i id call deadline
    cases hout
    have hnever : ∀ e ∈ l.history, e.2 ≠ .started id := by
      have hstage := ((h.account id).tracked _ hr).stage
      cases hstage with
      | waiting hnever => exact hnever
    have hpermits := h.permits
    have hcounted := h.counted
    refine ⟨?_, ?_, ?_, ?_, h.answersOnce, haccount⟩
    · simp only [after, List.length_cons]
      omega
    · simp only [after, startedId, endedId, List.filterMap_cons, List.length_cons]
      omega
    · refine List.nodup_cons.mpr ⟨fun hmem => ?_, h.distinct⟩
      obtain ⟨⟨_, call'⟩, htask, rfl⟩ := List.mem_map.mp hmem
      cases ((h.account _).task call' _ htask hr).1
    · refine List.nodup_cons.mpr ⟨fun hmem => ?_, h.startsOnce⟩
      obtain ⟨⟨step, outcome⟩, he, heq⟩ := List.mem_filterMap.mp hmem
      cases outcome with
      | started other =>
        cases heq
        exact hnever _ he rfl
      | began | ended | answered | gone | idle => cases heq
  | ended htask hby =>
    cases hout
    have hlength := length_eraseP (mem_of_lookup htask)
    have hpermits := h.permits
    have hcounted := h.counted
    refine ⟨?_, ?_, ?_, h.startsOnce, h.answersOnce, haccount⟩
    · simp only [after]
      omega
    · simp only [after, startedId, endedId, List.filterMap_cons, List.length_cons]
      omega
    · exact h.distinct.sublist (List.eraseP_sublist.map _)

theorem sound_run (steps : List (RuntimeStep W)) :
    Sound rt lib lastInstant (steps.foldl (RuntimeLedger.step rt lib lastInstant) (start rt)) := by
  have hkeeps : ∀ (l : RuntimeLedger W) s, Sound rt lib lastInstant l → True →
      Sound rt lib lastInstant (l.step rt lib lastInstant s) :=
    fun l s h _ => h.step (l.state.apply_does rt lib lastInstant s)
  exact Along.invariant_end hkeeps (sound_start rt lib lastInstant)
    (Along.of_forall (P := fun _ _ => True) (fun _ _ => trivial) steps)

theorem Sound.inFlight (h : Sound rt lib lastInstant l) {id : Nat} {begun : RuntimeStep W}
    (hbegun : (begun, .began id) ∈ l.history) (hopen : ∀ e ∈ l.history, ¬ e.2.Over id) :
    ∃ r, l.state.requests id = some r ∧ Tracked rt lib l.history l.state.tasks id r := by
  rcases (h.account id).pending begun hbegun with hsome | ⟨e, he, hover⟩
  · obtain ⟨r, hr⟩ := Option.ne_none_iff_exists'.mp hsome
    exact ⟨r, hr, (h.account id).tracked r hr⟩
  · exact absurd hover (hopen e he)

/-- From its deadline on a request can be answered, whatever its thread does. -/
theorem Sound.expires (h : Sound rt lib lastInstant l) {id : Nat} {begun : RuntimeStep W}
    (hbegun : (begun, .began id) ∈ l.history) (hopen : ∀ e ∈ l.history, ¬ e.2.Over id) (hact : s.act = .expired id)
    (hlate : begun.now + rt.callTimeout ≤ s.now) :
    ∃ result, (l.state.apply rt lib lastInstant s).1 = .answered id result := by
  obtain ⟨r, hr, htracked⟩ := h.inFlight hbegun hopen
  have hdeadline : r.deadline ≤ s.now := (htracked.same begun hbegun).2 ▸ hlate
  refine ⟨(.error PythonMicroService.sanitizedTimeout, r.call.ctx), ?_⟩
  unfold RuntimeState.apply
  simp [hact, hr, hdeadline]

/-- While fewer threads run than there are permits, a request that waits can have
one. -/
theorem Sound.grants (h : Sound rt lib lastInstant l) {id : Nat} {begun : RuntimeStep W}
    (hbegun : (begun, .began id) ∈ l.history) (hopen : ∀ e ∈ l.history, ¬ e.2.Over id)
    (hnever : ∀ e ∈ l.history, e.2 ≠ .started id) (hfree : l.state.tasks.length < rt.permits)
    (hact : s.act = .granted id) : (l.state.apply rt lib lastInstant s).1 = .started id := by
  obtain ⟨r, hr, htracked⟩ := h.inFlight hbegun hopen
  have hpermits := h.permits
  have havailable : l.state.available ≠ 0 := by omega
  have hstage : r.stage = .waiting := by
    have hstage := htracked.stage
    revert hstage
    generalize r.stage = stage
    intro hstage
    cases hstage with
    | waiting => rfl
    | running hstart | ended hstart =>
      obtain ⟨e, he, heq⟩ := hstart
      exact absurd heq (hnever e he)
  obtain ⟨call, deadline, stage⟩ := r
  cases hstage
  unfold RuntimeState.apply
  simp [hact, hr, havailable]

/-- **Concurrent calls are isolated.** In every run of the requests that share the
runtime, the permits are those of the threads Python has not returned from, the
abandoned ones included. No call is given to Python twice and none is answered
twice. An answer is what the request's own call makes of its own context, alone,
under the fate the run gave it: a timeout not before its deadline, without a
permit only if Python was never given the call, and an output only from the
thread that was started for it. A request that is not over can be answered from
its deadline on, and while a permit is free it can have it. -/
theorem calls_isolated (steps : List (RuntimeStep W)) :
    let l := steps.foldl (RuntimeLedger.step rt lib lastInstant) (start rt)
    l.state.available + (l.history.filterMap startedId).length =
        (l.history.filterMap endedId).length + rt.permits ∧
      (l.history.filterMap startedId).Nodup ∧ (l.history.filterMap answeredId).Nodup ∧
      (∀ step id result, (step, .answered id result) ∈ l.history →
        Explained rt lib lastInstant l.history id step result) ∧
      ∀ id begun, (begun, .began id) ∈ l.history → (∀ e ∈ l.history, ¬ e.2.Over id) →
        (∀ s : RuntimeStep W, s.act = .expired id → begun.now + rt.callTimeout ≤ s.now →
          ∃ result, (l.state.apply rt lib lastInstant s).1 = .answered id result) ∧
        ((∀ e ∈ l.history, e.2 ≠ .started id) →
          (l.history.filterMap startedId).length < (l.history.filterMap endedId).length + rt.permits →
          ∀ s : RuntimeStep W, s.act = .granted id → (l.state.apply rt lib lastInstant s).1 = .started id) := by
  intro l
  have h : Sound rt lib lastInstant l := sound_run steps
  have hpermits := h.permits
  have hcounted := h.counted
  refine ⟨by omega, h.startsOnce, h.answersOnce, ?_, ?_⟩
  · intro step id result hmem
    exact ((h.account id).answered step result hmem).2
  · intro id begun hbegun hopen
    refine ⟨fun s hact hlate => h.expires hbegun hopen hact hlate, fun hnever hfree s hact => ?_⟩
    exact h.grants hbegun hopen hnever (by omega) hact

/-- A call that times out keeps its permit until Python returns. -/
example (call : PyCall W) (h : call.service.hasMethod call.phase = true) (w : W) :
    let rt : PythonRuntime := { permits := 1, callTimeout := 5 }
    let l := [⟨0, w, .begin call⟩, ⟨0, w, .granted 0⟩, ⟨5, w, .expired 0⟩, ⟨6, w, .begin call⟩, ⟨7, w, .granted 1⟩].foldl
      (RuntimeLedger.step rt lib 100) (start rt)
    l.history.filterMap startedId = [0] ∧ l.state.available = 0 ∧
      (l.step rt lib 100 ⟨8, w, .returned 0⟩).state.available = 1 := by
  simp [RuntimeLedger.step, start, RuntimeState.apply, RuntimeState.close, RuntimeState.endTask, Function.update, h,
    startedId, List.filterMap_cons]

end RuntimeLedger

end

end Tunnelbana
