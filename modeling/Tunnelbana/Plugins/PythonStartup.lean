/-
Starting CPython for the micro-services of a deployment. It is started once in a
process, from the virtual environment asked for first, and only one directory of
operator modules is ever added to what it imports from.

`initializeRuntime_run` says what one attempt leaves of the process, granted or
not; `Claimed` holds along any number of them.
-/
import Tunnelbana.Basis.Run
import Tunnelbana.Core.Config
import Tunnelbana.Plugins.PythonService

namespace Tunnelbana

open Basis

def MAX_PERMITS : Nat := (2 ^ 64 - 1) / 2 ^ 3

/-- What the calls share; the time is in nanoseconds. -/
structure PythonRuntime where
  permits : Nat
  callTimeout : Nat
deriving DecidableEq

/-- What the process can learn of its files, and of CPython started from them. -/
structure PythonHost where
  canonicalize : String → Option String
  isDir : String → Bool
  isFile : String → Bool
  join : String → String → String
  /-- The `sys.path` of an interpreter started with that executable. -/
  start : Option String → Option (List String)
  /-- The `sys.path` of the interpreter can be read and changed. -/
  configurable : Bool

/-- What outlives one call: the paths claimed, and the `sys.path` of the
interpreter once it runs. -/
structure PythonProcess where
  modulePath : Option String := none
  venvPath : Option (Option String) := none
  sysPath : Option (List String) := none

abbrev Startup := Action PythonProcess Error

def PythonHost.adoptableVenv (host : PythonHost) : Option String → Except Error (Option String)
  | none => .ok none
  | some venv =>
    match host.canonicalize venv with
    | none => .error (.config "python.venv is not an accessible directory")
    | some canonical => do
      demand (host.isFile (host.join canonical "pyvenv.cfg") = true) "python.venv does not contain a pyvenv.cfg"
      demand (host.isFile (host.join canonical "bin/python") = true) "python.venv does not contain bin/python"
      return some canonical

def PythonHost.executable (host : PythonHost) (venv : Option String) : Option String :=
  venv.map fun venv => host.join venv "bin/python"

def PythonHost.initializeIsolatedCpython (host : PythonHost) (venv : Option String) : Startup Unit := do
  let process ← Action.read
  match process.sysPath with
  | some _ => pure ()
  | none => do
    let sysPath ← Action.orFail (host.start (host.executable venv)) (.config "failed to initialize embedded CPython")
    Action.update fun process => { process with sysPath := some sysPath }

/-- Put the operator directory in front of what CPython imports from. -/
def PythonHost.configureImports (host : PythonHost) (canonical : String) : Startup Unit := do
  Action.lift (demand (host.configurable = true) "failed to configure embedded CPython imports")
  Action.update fun process =>
    { process with
      sysPath := process.sysPath.map fun path => if canonical ∈ path then path else canonical :: path }

namespace PythonRuntime

def checkControls (lastInstant now maxConcurrentCalls callTimeout : Nat) : Except Error Unit := do
  demand (maxConcurrentCalls ≠ 0) "python.max_concurrent_calls must be greater than zero"
  demand (maxConcurrentCalls ≤ MAX_PERMITS) "python.max_concurrent_calls exceeds the supported limit"
  demand (callTimeout ≠ 0) "python.call_timeout_seconds must be greater than zero"
  demand (now + callTimeout ≤ lastInstant) "python.call_timeout_seconds exceeds the supported limit"

/-- What the runtime claims: it has to be what the process claimed before. -/
def checkClaims (canonical : String) (venv : Option String) (process : PythonProcess) : Except Error Unit := do
  demand (∀ existing ∈ process.modulePath, existing = canonical)
    "CPython was already initialized with a different module path"
  demand (∀ existing ∈ process.venvPath, existing = venv)
    "CPython was already initialized with a different virtual environment"

def initializeRuntime (host : PythonHost) (lastInstant now : Nat) (modulePath : String) (venv : Option String)
    (maxConcurrentCalls callTimeout : Nat) : Startup PythonRuntime := do
  Action.lift (checkControls lastInstant now maxConcurrentCalls callTimeout)
  let canonical ← Action.orFail (host.canonicalize modulePath)
    (.config "python.module_path is not an accessible directory")
  Action.lift (demand (host.isDir canonical = true) "python.module_path is not an accessible directory")
  let venv ← Action.lift (host.adoptableVenv venv)
  let process ← Action.read
  Action.lift (checkClaims canonical venv process)
  host.initializeIsolatedCpython venv
  host.configureImports canonical
  Action.update fun process =>
    { process with
      modulePath := process.modulePath.or (some canonical)
      venvPath := process.venvPath.or (some venv) }
  return { permits := maxConcurrentCalls, callTimeout }

structure Usable (rt : PythonRuntime) : Prop where
  permits_pos : 0 < rt.permits
  permits_le : rt.permits ≤ MAX_PERMITS
  callTimeout_pos : 0 < rt.callTimeout

inductive Initialized (host : PythonHost) (modulePath : String) (venv : Option String) (process : PythonProcess) :
    Except Error PythonRuntime × PythonProcess → Prop
  | refused (e : Error) : Initialized host modulePath venv process (.error e, process)
  /-- CPython started, but its imports could not be configured. -/
  | unconfigured (e : Error) {canonical adopted base} : host.canonicalize modulePath = some canonical →
    host.adoptableVenv venv = .ok adopted → process.sysPath = none → host.start (host.executable adopted) = some base →
    Initialized host modulePath venv process (.error e, { process with sysPath := some base })
  | claimed {rt canonical adopted base} : rt.Usable → host.canonicalize modulePath = some canonical →
    host.adoptableVenv venv = .ok adopted →
    (∀ existing ∈ process.modulePath, existing = canonical) → (∀ existing ∈ process.venvPath, existing = adopted) →
    (process.sysPath = some base ∨ process.sysPath = none ∧ host.start (host.executable adopted) = some base) →
    Initialized host modulePath venv process
      (.ok rt, {
        modulePath := some canonical
        venvPath := some adopted
        sysPath := some (if canonical ∈ base then base else canonical :: base) })

theorem checkControls_ok {lastInstant now maxConcurrentCalls callTimeout : Nat} :
    checkControls lastInstant now maxConcurrentCalls callTimeout = .ok () ↔
      maxConcurrentCalls ≠ 0 ∧ maxConcurrentCalls ≤ MAX_PERMITS ∧ callTimeout ≠ 0 ∧
        now + callTimeout ≤ lastInstant := by
  simp [checkControls, ProxyConfig.andThen_ok, ProxyConfig.demand_ok]

theorem checkClaims_ok {canonical : String} {venv : Option String} {process : PythonProcess} :
    checkClaims canonical venv process = .ok () ↔
      (∀ existing ∈ process.modulePath, existing = canonical) ∧ ∀ existing ∈ process.venvPath, existing = venv := by
  simp [checkClaims, ProxyConfig.andThen_ok, ProxyConfig.demand_ok]

/-- CPython runs, as it did or as it was started, or could not be started. -/
theorem initializeIsolatedCpython_run (host : PythonHost) (venv : Option String) (process : PythonProcess) :
    (∃ e, process.sysPath = none ∧ host.initializeIsolatedCpython venv process = (.error e, process)) ∨
      ∃ base, (process.sysPath = some base ∨ process.sysPath = none ∧ host.start (host.executable venv) = some base) ∧
        host.initializeIsolatedCpython venv process = (.ok (), { process with sysPath := some base }) := by
  obtain ⟨modulePath, venvPath, sysPath⟩ := process
  unfold PythonHost.initializeIsolatedCpython
  rw [Action.read_bind_run]
  cases sysPath with
  | some base => exact .inr ⟨base, .inl rfl, rfl⟩
  | none =>
    cases hstart : host.start (host.executable venv) with
    | none => exact .inl ⟨.config "failed to initialize embedded CPython", rfl, rfl⟩
    | some base => exact .inr ⟨base, .inr ⟨rfl, rfl⟩, rfl⟩

theorem initializeRuntime_run (host : PythonHost) (lastInstant now : Nat) (modulePath : String) (venv : Option String)
    (maxConcurrentCalls callTimeout : Nat) (process : PythonProcess) :
    Initialized host modulePath venv process
      (initializeRuntime host lastInstant now modulePath venv maxConcurrentCalls callTimeout process) := by
  unfold initializeRuntime
  cases hcontrols : checkControls lastInstant now maxConcurrentCalls callTimeout with
  | error e => exact .refused e
  | ok u =>
    obtain ⟨hpermits, hmost, htimeout, -⟩ := checkControls_ok.mp hcontrols
    rw [Action.lift_ok_bind_run]
    cases hcanonical : host.canonicalize modulePath with
    | none => exact .refused _
    | some canonical =>
      rw [Action.orFail_some, Action.pure_bind_run]
      cases hdir : demand (host.isDir canonical = true) "python.module_path is not an accessible directory" with
      | error e => exact .refused e
      | ok u =>
        rw [Action.lift_ok_bind_run]
        cases hvenv : host.adoptableVenv venv with
        | error e => exact .refused e
        | ok adopted =>
          rw [Action.lift_ok_bind_run, Action.read_bind_run]
          cases hclaims : checkClaims canonical adopted process with
          | error e => exact .refused e
          | ok u =>
            obtain ⟨hmodule, hvenvs⟩ := checkClaims_ok.mp hclaims
            rw [Action.lift_ok_bind_run]
            rcases initializeIsolatedCpython_run host adopted process with ⟨e, -, hrun⟩ | ⟨base, hbase, hrun⟩
            · rw [Action.bind_of_error hrun]
              exact .refused e
            · rw [Action.bind_of_ok hrun]
              unfold PythonHost.configureImports
              cases hconfigurable :
                  demand (host.configurable = true) "failed to configure embedded CPython imports" with
              | error e =>
                rcases hbase with hsome | ⟨hnone, hstart⟩
                · have hsame : { process with sysPath := some base } = process := by rw [← hsome]
                  rw [hsame]
                  exact .refused e
                · exact .unconfigured e hcanonical hvenv hnone hstart
              | ok u =>
                have hmodule' : process.modulePath.or (some canonical) = some canonical := by
                  cases hm : process.modulePath with
                  | none => rfl
                  | some existing => rw [hmodule existing hm]; rfl
                have hvenv' : process.venvPath.or (some adopted) = some adopted := by
                  cases hv : process.venvPath with
                  | none => rfl
                  | some existing => rw [hvenvs existing hv]; rfl
                have hdone : Initialized host modulePath venv process
                    (.ok { permits := maxConcurrentCalls, callTimeout }, _) :=
                  .claimed ⟨Nat.pos_of_ne_zero hpermits, hmost, Nat.pos_of_ne_zero htimeout⟩ hcanonical hvenv hmodule
                    hvenvs hbase
                rw [← hmodule', ← hvenv'] at hdone
                exact hdone

/-- A runtime that is asked for, and what the process learns of its files then. -/
structure StartupStep where
  host : PythonHost
  lastInstant : Nat
  now : Nat
  modulePath : String
  venv : Option String
  maxConcurrentCalls : Nat
  callTimeout : Nat

/-- The process with every runtime asked for so far, the latest first, and the
attempt that started CPython. -/
structure StartupLedger where
  process : PythonProcess := {}
  history : List (StartupStep × Except Error PythonRuntime) := []
  starter : Option StartupStep := none

namespace StartupLedger

def step (l : StartupLedger) (s : StartupStep) : StartupLedger :=
  let out := initializeRuntime s.host s.lastInstant s.now s.modulePath s.venv s.maxConcurrentCalls s.callTimeout
    l.process
  { process := out.2
    history := (s, out.1) :: l.history
    starter := l.starter.or (if out.2.sysPath.isSome then some s else none) }

def Claims (s : StartupStep) (canonical : String) (adopted : Option String) : Prop :=
  s.host.canonicalize s.modulePath = some canonical ∧ s.host.adoptableVenv s.venv = .ok adopted

/-- The `sys.path` the one attempt that started CPython started it with, from the
virtual environment asked for then. -/
def StartedWith (l : StartupLedger) (base : List String) : Prop :=
  ∃ s result canonical adopted, l.starter = some s ∧ (s, result) ∈ l.history ∧ Claims s canonical adopted ∧
    s.host.start (s.host.executable adopted) = some base

/-- Before the first runtime nothing is claimed and nothing added to `sys.path`; after
it all runtimes claim the same, and its directory alone is added. -/
inductive Claimed (l : StartupLedger) : Prop
  | fresh : l.process = {} → l.starter = none → (∀ s rt, (s, .ok rt) ∉ l.history) → Claimed l
  | free {base} : l.process.modulePath = none → l.process.venvPath = none →
    (∀ s rt, (s, .ok rt) ∉ l.history) → l.StartedWith base → l.process.sysPath = some base → Claimed l
  | taken {canonical adopted base} : l.process.modulePath = some canonical → l.process.venvPath = some adopted →
    (∃ s rt, (s, .ok rt) ∈ l.history) →
    (∀ s rt, (s, .ok rt) ∈ l.history → Claims s canonical adopted ∧ rt.Usable) → l.StartedWith base →
    l.process.sysPath = some (if canonical ∈ base then base else canonical :: base) → Claimed l

theorem StartedWith.step {l : StartupLedger} {base : List String} (h : l.StartedWith base) (s : StartupStep) :
    (l.step s).StartedWith base := by
  obtain ⟨s', result, canonical, adopted, hstarter, hmem, hstart⟩ := h
  refine ⟨s', result, canonical, adopted, ?_, List.mem_cons_of_mem _ hmem, hstart⟩
  unfold StartupLedger.step
  rw [hstarter]
  rfl

/-- Putting the directory in front a second time changes nothing. -/
theorem inFront_again (canonical : String) (base : List String) :
    (if canonical ∈ (if canonical ∈ base then base else canonical :: base) then
        (if canonical ∈ base then base else canonical :: base)
      else canonical :: (if canonical ∈ base then base else canonical :: base)) =
      if canonical ∈ base then base else canonical :: base := by
  by_cases h : canonical ∈ base
  · simp [h]
  · simp [h]

theorem Claimed.step {l : StartupLedger} (h : Claimed l) (s : StartupStep) : Claimed (l.step s) := by
  have hrun := initializeRuntime_run s.host s.lastInstant s.now s.modulePath s.venv s.maxConcurrentCalls s.callTimeout
    l.process
  have hlater : ∀ {base}, l.StartedWith base → (l.step s).StartedWith base := fun h => h.step s
  unfold StartupLedger.step at hlater ⊢
  revert hrun hlater
  generalize initializeRuntime s.host s.lastInstant s.now s.modulePath s.venv s.maxConcurrentCalls s.callTimeout
    l.process = out
  intro hrun hlater
  have hfailed : ∀ {e s' rt}, (s', Except.ok rt) ∈ (s, Except.error e) :: l.history →
      (s', Except.ok rt) ∈ l.history := by
    intro e s' rt hmem
    rcases List.mem_cons.mp hmem with heq | hmem
    · cases heq
    · exact hmem
  cases hrun with
  | refused e =>
    cases h with
    | fresh hprocess hstarter hnone =>
      refine .fresh hprocess ?_ fun s' rt hmem => hnone s' rt (hfailed hmem)
      rw [hprocess, hstarter]
      rfl
    | free hmodule hvenv hnone hbase hpath =>
      exact .free hmodule hvenv (fun s' rt hmem => hnone s' rt (hfailed hmem)) (hlater hbase) hpath
    | taken hmodule hvenv hsome hclaims hbase hpath =>
      exact .taken hmodule hvenv (hsome.imp fun s' ⟨rt, hmem⟩ => ⟨rt, List.mem_cons_of_mem _ hmem⟩)
        (fun s' rt hmem => hclaims s' rt (hfailed hmem)) (hlater hbase) hpath
  | unconfigured e hcanonical hadopted hnopath hstart =>
    cases h with
    | fresh hprocess hstarter hnone =>
      refine .free (by rw [hprocess]) (by rw [hprocess]) (fun s' rt hmem => hnone s' rt (hfailed hmem)) ?_ rfl
      refine ⟨s, _, _, _, ?_, List.mem_cons_self, ⟨hcanonical, hadopted⟩, hstart⟩
      rw [hstarter]
      rfl
    | free hmodule hvenv hnone hbase hpath => cases hnopath.symm.trans hpath
    | taken hmodule hvenv hsome hclaims hbase hpath => cases hnopath.symm.trans hpath
  | @claimed granted canonical adopted base husable hcanonical hadopted hmodule' hvenv' hpath' =>
    have hfirst : (∀ s rt, (s, .ok rt) ∉ l.history) → ∀ s' rt,
        (s', Except.ok rt) ∈ (s, Except.ok granted) :: l.history → Claims s' canonical adopted ∧ rt.Usable := by
      intro hnone s' rt hmem
      rcases List.mem_cons.mp hmem with heq | hmem
      · cases heq
        exact ⟨⟨hcanonical, hadopted⟩, husable⟩
      · exact absurd hmem (hnone s' rt)
    cases h with
    | fresh hprocess hstarter hnone =>
      rcases hpath' with hsome | ⟨-, hstart⟩
      · rw [hprocess] at hsome
        cases hsome
      · refine .taken rfl rfl ⟨s, granted, List.mem_cons_self⟩ (hfirst hnone) ?_ rfl
        refine ⟨s, _, _, _, ?_, List.mem_cons_self, ⟨hcanonical, hadopted⟩, hstart⟩
        rw [hstarter]
        rfl
    | free hmodule hvenv hnone hbase hpath =>
      refine .taken rfl rfl ⟨s, granted, List.mem_cons_self⟩ (hfirst hnone) (hlater hbase) ?_
      rcases hpath' with hsome | ⟨hnopath, -⟩
      · cases hpath.symm.trans hsome
        rfl
      · cases hnopath.symm.trans hpath
    | taken hmodule hvenv hsome hclaims hbase hpath =>
      cases hmodule' _ hmodule
      cases hvenv' _ hvenv
      refine .taken rfl rfl ⟨s, granted, List.mem_cons_self⟩ (fun s' rt hmem => ?_) (hlater hbase) ?_
      · rcases List.mem_cons.mp hmem with heq | hmem
        · cases heq
          exact ⟨⟨hcanonical, hadopted⟩, husable⟩
        · exact hclaims s' rt hmem
      · rcases hpath' with hsome | ⟨hnone, -⟩
        · cases hpath.symm.trans hsome
          exact congrArg some (inFront_again _ _)
        · cases hnone.symm.trans hpath

theorem claimed_run (steps : List StartupStep) : Claimed (steps.foldl step {}) := by
  have hkeeps : ∀ l s, Claimed l → True → Claimed (step l s) := fun l s h _ => h.step s
  have hstart : Claimed {} := .fresh rfl rfl fun _ _ => List.not_mem_nil
  exact Along.invariant_end hkeeps hstart (Along.of_forall (P := fun _ _ => True) (fun _ _ => trivial) steps)

/-- **One operator directory, one virtual environment.** However often runtimes are
asked for in a process, all it grants have the same module directory and the same
virtual environment, and can run some calls. What CPython imports from is what the
one attempt that started it started it with; once a runtime is granted, with its
directory in front, unless that is among it already. -/
theorem operator_directory (steps : List StartupStep) :
    let l := steps.foldl step {}
    (∀ s rt s' rt', (s, .ok rt) ∈ l.history → (s', .ok rt') ∈ l.history →
      s.host.canonicalize s.modulePath = s'.host.canonicalize s'.modulePath ∧
        s.host.adoptableVenv s.venv = s'.host.adoptableVenv s'.venv) ∧
    (∀ s rt, (s, .ok rt) ∈ l.history → rt.Usable) ∧
    ∀ path, l.process.sysPath = some path → ∃ base, l.StartedWith base ∧
      ((∀ s rt, (s, .ok rt) ∉ l.history) → path = base) ∧
      ∀ s rt, (s, .ok rt) ∈ l.history → ∃ canonical, s.host.canonicalize s.modulePath = some canonical ∧
        path = if canonical ∈ base then base else canonical :: base := by
  intro l
  have h : Claimed l := claimed_run steps
  cases h with
  | fresh hprocess hstarter hnone =>
    refine ⟨fun s rt s' rt' hs => absurd hs (hnone s rt), fun s rt hs => absurd hs (hnone s rt), fun path hp => ?_⟩
    rw [hprocess] at hp
    cases hp
  | free hmodule hvenv hnone hbase hpath =>
    refine ⟨fun s rt s' rt' hs => absurd hs (hnone s rt), fun s rt hs => absurd hs (hnone s rt), fun path hp => ?_⟩
    cases hp.symm.trans hpath
    exact ⟨_, hbase, fun _ => rfl, fun s rt hs => absurd hs (hnone s rt)⟩
  | @taken canonical adopted base hmodule hvenv hsome hclaims hbase hpath =>
    refine ⟨fun s rt s' rt' hs hs' => ?_, fun s rt hs => (hclaims s rt hs).2, fun path hp => ?_⟩
    · obtain ⟨⟨hc, ha⟩, -⟩ := hclaims s rt hs
      obtain ⟨⟨hc', ha'⟩, -⟩ := hclaims s' rt' hs'
      exact ⟨hc.trans hc'.symm, ha.trans ha'.symm⟩
    · cases hp.symm.trans hpath
      obtain ⟨s, rt, hs⟩ := hsome
      exact ⟨base, hbase, fun hnone => absurd hs (hnone s rt), fun s rt hs => ⟨canonical, (hclaims s rt hs).1.1, rfl⟩⟩

end StartupLedger

end PythonRuntime

end Tunnelbana
