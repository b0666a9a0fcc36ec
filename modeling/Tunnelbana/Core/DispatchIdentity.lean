/-
Which instance answers a path. The router keeps the name of the plugin that
registered a route, first come first served; dispatch finds an instance by that
name, the last of its name among the frontends and the backends, the first
among the micro-services.

`resolve_registered` finds the registration behind a match (`resolve_scans`
compares it with a linear scan), `dispatch_invoked` the instance dispatch goes
to. They are the same instance as long as none later on the list of its kind has
its name (`dispatch_identity`), which the configuration checks of the
micro-services alone.
-/
import Tunnelbana.Core.Config
import Tunnelbana.Core.ProxyFacts
import Tunnelbana.Core.SealFacts

namespace Tunnelbana

open Basis

/-! ## The registrations behind a router -/

/-- One route, and the instance it is of: its kind, and its position among them. -/
structure Registration where
  kind : ModuleKind
  position : Nat
  moduleName : String
  route : Route

namespace Registration

def toMatch (g : Registration) : Match := { kind := g.kind, moduleName := g.moduleName, routeId := g.route.id }

/-- It is for this path and no other. -/
def isExact (path : String) (g : Registration) : Bool :=
  match g.route.matcher with
  | .exact p => p = path
  | .regex _ => false

/-- It is for all paths of a pattern that this one fits. -/
def isPattern (path : String) (g : Registration) : Bool :=
  match g.route.matcher with
  | .exact _ => false
  | .regex isMatch => isMatch path

def register (r : Router) (g : Registration) : Router := r.addRoute g.kind g.moduleName g.route

def ofInstances {α : Type} (kind : ModuleKind) (name : α → String) (routes : α → List Route) (first : Nat)
    (plugins : List α) : List Registration :=
  (plugins.zipIdx first).flatMap fun (p, i) =>
    (routes p).map fun route => { kind, position := i, moduleName := name p, route }

/-- The registration that answers a path: the first for the path itself, else
the first whose pattern fits. -/
def answering (path : String) (registrations : List Registration) : Option Registration :=
  (registrations.find? (isExact path)).or (registrations.find? (isPattern path))

end Registration

namespace Router

open Registration

theorem add_eq (kind : ModuleKind) (moduleName : String) (position : Nat) (routes : List Route) (r : Router) :
    r.add kind moduleName routes =
      (routes.map fun route => ({ kind, position, moduleName, route } : Registration)).foldl register r := by
  rw [List.foldl_map]
  rfl

theorem addAll_eq {α : Type} (kind : ModuleKind) (name : α → String) (routes : α → List Route) (plugins : List α)
    (first : Nat) (r : Router) :
    r.addAll kind name routes plugins = (ofInstances kind name routes first plugins).foldl register r := by
  induction plugins generalizing r first with
  | nil => rfl
  | cons p plugins ih =>
    show (r.add kind (name p) (routes p)).addAll kind name routes plugins = _
    rw [ih (first + 1), add_eq kind (name p) first, ← List.foldl_append]
    rfl

variable {path : String}

/-- A registration adds nothing to a path that has one, and its own otherwise. -/
theorem exact_register (r : Router) (g : Registration) :
    (register r g).exact.get path = (r.exact.get path).or (if g.isExact path then some g.toMatch else none) := by
  obtain ⟨kind, position, moduleName, matcher, id⟩ := g
  cases matcher with
  | regex isMatch => simp [register, addRoute, isExact]
  | exact p =>
    simp only [register, addRoute, isExact, decide_eq_true_eq]
    cases hget : r.exact.get p with
    | some data =>
      by_cases hp : p = path
      · subst hp
        simp [hget]
      · simp [hp]
    | none =>
      rw [Assoc.get_put]
      by_cases hp : p = path
      · subst hp
        simp [hget, toMatch]
      · simp [hp]

theorem exact_registered (registrations : List Registration) (r : Router) :
    (registrations.foldl register r).exact.get path =
      (r.exact.get path).or ((registrations.find? (isExact path)).map toMatch) := by
  induction registrations generalizing r with
  | nil => simp
  | cons g rest ih =>
    rw [List.foldl_cons, ih, exact_register, Option.or_assoc, List.find?_cons]
    by_cases hg : g.isExact path = true <;> simp [hg]

/-- The pattern the router scans for a path. -/
def scanned (path : String) (r : Router) : Option Match := (r.regexes.find? fun e => e.isMatch path).map (·.data)

theorem scanned_register (r : Router) (g : Registration) :
    (register r g).scanned path = (r.scanned path).or (if g.isPattern path then some g.toMatch else none) := by
  obtain ⟨kind, position, moduleName, matcher, id⟩ := g
  cases matcher with
  | exact p =>
    simp only [register, addRoute, isPattern, scanned]
    cases r.exact.get p <;> simp
  | regex isMatch =>
    simp only [register, addRoute, isPattern, scanned, List.find?_append, List.find?_cons, List.find?_nil]
    cases hfind : r.regexes.find? fun e => e.isMatch path with
    | some e => simp
    | none => by_cases hpath : isMatch path = true <;> simp [hpath, toMatch]

theorem scanned_registered (registrations : List Registration) (r : Router) :
    (registrations.foldl register r).scanned path =
      (r.scanned path).or ((registrations.find? (isPattern path)).map toMatch) := by
  induction registrations generalizing r with
  | nil => simp
  | cons g rest ih =>
    rw [List.foldl_cons, ih, scanned_register, Option.or_assoc, List.find?_cons]
    by_cases hg : g.isPattern path = true <;> simp [hg]

/-- **The router resolves a path to the registration that answers it.** -/
theorem resolve_registered (registrations : List Registration) :
    (registrations.foldl register {}).resolve path = (answering path registrations).map toMatch := by
  have hresolve : ∀ r : Router, r.resolve path = (r.exact.get path).or (r.scanned path) := by
    intro r
    unfold resolve scanned
    cases r.exact.get path <;> rfl
  rw [hresolve, exact_registered, scanned_registered]
  unfold answering
  cases registrations.find? (isExact path) <;> rfl

end Router

/-! ## A linear scan -/

/-- One `add`: a module of a kind, with its routes. -/
structure AddCall where
  kind : ModuleKind
  moduleName : String
  routes : List Route

namespace AddCall

def registrations (calls : List AddCall) : List Registration :=
  calls.zipIdx.flatMap fun (c, i) =>
    c.routes.map fun route => { kind := c.kind, position := i, moduleName := c.moduleName, route }

def router (calls : List AddCall) : Router := calls.foldl (fun r c => r.add c.kind c.moduleName c.routes) {}

end AddCall

namespace Registration

/-- The first registration a path matches, of whatever kind of route. -/
def scan (path : String) (registrations : List Registration) : Option Registration :=
  registrations.find? fun g => g.route.matchesPath path

def isLiteral (g : Registration) : Bool :=
  match g.route.matcher with
  | .exact _ => true
  | .regex _ => false

/-- The same registrations, those for one path before the patterns. -/
def exactFirst (registrations : List Registration) : List Registration :=
  registrations.filter isLiteral ++ registrations.filter fun g => !g.isLiteral

variable {path : String} {registrations : List Registration}

theorem isExact_eq (g : Registration) : g.isExact path = (g.isLiteral && g.route.matchesPath path) := by
  obtain ⟨kind, position, moduleName, matcher, id⟩ := g
  cases matcher <;> simp [isExact, isLiteral, Route.matchesPath]

theorem isPattern_eq (g : Registration) : g.isPattern path = (!g.isLiteral && g.route.matchesPath path) := by
  obtain ⟨kind, position, moduleName, matcher, id⟩ := g
  cases matcher <;> simp [isPattern, isLiteral, Route.matchesPath]

/-- Among the registrations of one kind a match is looked for. -/
theorem find?_filter_matches {p q : Registration → Bool} (h : ∀ g, q g = (p g && g.route.matchesPath path)) :
    (registrations.filter p).find? (fun g => g.route.matchesPath path) = registrations.find? q := by
  rw [List.find?_filter]
  congr 1
  funext g
  simp [h]

/-- What answers a path is what a scan finds that has the registrations for one
path first. -/
theorem answering_eq_scan : answering path registrations = scan path (exactFirst registrations) := by
  unfold answering scan exactFirst
  rw [List.find?_append, find?_filter_matches isExact_eq, find?_filter_matches isPattern_eq]

theorem mem_exactFirst {g : Registration} : g ∈ exactFirst registrations ↔ g ∈ registrations := by
  unfold exactFirst
  rw [List.mem_append, List.mem_filter, List.mem_filter]
  cases g.isLiteral <;> simp

theorem scan_eq_none : scan path registrations = none ↔ ∀ g ∈ registrations, g.route.matchesPath path = false := by
  simp [scan]

/-- A path goes unanswered exactly when no registration matches it. -/
theorem answering_eq_none :
    answering path registrations = none ↔ ∀ g ∈ registrations, g.route.matchesPath path = false := by
  rw [answering_eq_scan, scan_eq_none]
  constructor
  · intro h g hg
    exact h g (mem_exactFirst.mpr hg)
  · intro h g hg
    exact h g (mem_exactFirst.mp hg)

/-- A scan of all registrations finds what answers the path, or comes upon a
pattern ahead of the registration for the path itself. -/
theorem answering_or_scan :
    answering path registrations = scan path registrations ∨
      ∃ g g', scan path registrations = some g ∧ g.isPattern path = true ∧
        answering path registrations = some g' ∧ g'.isExact path = true := by
  induction registrations with
  | nil => exact .inl rfl
  | cons g rest ih =>
    by_cases hexact : g.isExact path = true
    · have hmatch : g.route.matchesPath path = true := by
        rw [isExact_eq, Bool.and_eq_true] at hexact
        exact hexact.2
      left
      simp [answering, scan, hexact, hmatch]
    by_cases hpattern : g.isPattern path = true
    · have hmatch : g.route.matchesPath path = true := by
        rw [isPattern_eq, Bool.and_eq_true] at hpattern
        exact hpattern.2
      have hscan : scan path (g :: rest) = some g := by simp [scan, hmatch]
      -- a later registration for the path itself is answered ahead of it
      cases hfind : rest.find? (isExact path) with
      | none =>
        left
        rw [hscan]
        simp [answering, hexact, hpattern, hfind]
      | some g' =>
        right
        refine ⟨g, g', hscan, hpattern, ?_, by simpa using List.find?_some hfind⟩
        simp [answering, hexact, hfind]
    · have hmatch : g.route.matchesPath path = false := by
        rw [isExact_eq] at hexact
        rw [isPattern_eq] at hpattern
        cases hl : g.isLiteral <;> simp_all
      have hanswering : answering path (g :: rest) = answering path rest := by
        simp [answering, hexact, hpattern]
      have hscan : scan path (g :: rest) = scan path rest := by simp [scan, hmatch]
      rw [hanswering, hscan]
      exact ih

end Registration

namespace Router

open Registration

theorem foldl_add_eq (calls : List AddCall) (first : Nat) (r : Router) :
    calls.foldl (fun r c => r.add c.kind c.moduleName c.routes) r =
      ((calls.zipIdx first).flatMap fun (c, i) => c.routes.map fun route =>
        ({ kind := c.kind, position := i, moduleName := c.moduleName, route } : Registration)).foldl register r := by
  induction calls generalizing r first with
  | nil => rfl
  | cons c calls ih =>
    rw [List.foldl_cons, ih (first + 1), add_eq c.kind c.moduleName first, ← List.foldl_append]
    rfl

/-- **The router is a linear scan of what was registered**: the first
registration for the path itself answers it, else the first whose pattern fits.
A scan of all in turn differs only in coming upon a pattern ahead of the
registration for the path. -/
theorem resolve_scans (calls : List AddCall) (path : String) :
    (AddCall.router calls).resolve path =
        (((AddCall.registrations calls).find? (isExact path)).or
          ((AddCall.registrations calls).find? (isPattern path))).map toMatch ∧
      ((AddCall.router calls).resolve path = none ↔
        ∀ g ∈ AddCall.registrations calls, g.route.matchesPath path = false) ∧
      (AddCall.router calls).resolve path = (scan path (exactFirst (AddCall.registrations calls))).map toMatch ∧
      ((AddCall.router calls).resolve path = (scan path (AddCall.registrations calls)).map toMatch ∨
        ∃ g g' : Registration, scan path (AddCall.registrations calls) = some g ∧ g.isPattern path = true ∧
          (AddCall.router calls).resolve path = some g'.toMatch ∧ g'.isExact path = true) := by
  have hrouter : (AddCall.router calls).resolve path = (answering path (AddCall.registrations calls)).map toMatch := by
    have hfold : AddCall.router calls = (AddCall.registrations calls).foldl register {} := foldl_add_eq calls 0 {}
    rw [hfold, resolve_registered]
  rw [hrouter]
  refine ⟨rfl, ?_, by rw [answering_eq_scan], ?_⟩
  · rw [Option.map_eq_none_iff, answering_eq_none]
  · obtain hsame | ⟨g, g', hscan, hpattern, hanswering, hexact⟩ :=
      @answering_or_scan path (AddCall.registrations calls)
    · exact .inl (by rw [hsame])
    · exact .inr ⟨g, g', hscan, hpattern, by rw [hanswering]; rfl, hexact⟩

end Router

/-! ## Instances by name -/

def lastPosition (key : String) : List String → Option Nat
  | [] => none
  | name :: names =>
    match lastPosition key names with
    | some i => some (i + 1)
    | none => if name = key then some 0 else none

theorem lastPosition_eq_none {key : String} {names : List String} : lastPosition key names = none ↔ key ∉ names := by
  induction names with
  | nil => simp [lastPosition]
  | cons name names ih =>
    cases hlast : lastPosition key names with
    | some i =>
      have hmem : key ∈ names := by
        refine Decidable.byContradiction fun hnot => ?_
        rw [ih.mpr hnot] at hlast
        cases hlast
      simp [lastPosition, hlast, hmem]
    | none =>
      have hnot : key ∉ names := ih.mp hlast
      simp [lastPosition, hlast, hnot, eq_comm]

theorem lastPosition_eq_some {key : String} {names : List String} {i : Nat} :
    lastPosition key names = some i ↔ names[i]? = some key ∧ ∀ j, i < j → names[j]? ≠ some key := by
  induction names generalizing i with
  | nil => simp [lastPosition]
  | cons name names ih =>
    cases hlast : lastPosition key names with
    | some k =>
      obtain ⟨hk, hafter⟩ := ih.mp hlast
      simp only [lastPosition, hlast, Option.some.injEq]
      constructor
      · rintro rfl
        refine ⟨hk, fun j hj => ?_⟩
        cases j with
        | zero => omega
        | succ j => exact hafter j (by omega)
      · rintro ⟨hi, hlater⟩
        cases i with
        | zero => exact absurd hk (hlater (k + 1) (by omega))
        | succ i =>
          have hik : lastPosition key names = some i := ih.mpr ⟨hi, fun j hj => hlater (j + 1) (by omega)⟩
          rw [hlast] at hik
          cases hik
          rfl
    | none =>
      have hnot : key ∉ names := lastPosition_eq_none.mp hlast
      have hnever : ∀ j, names[j]? ≠ some key := fun j hj => hnot (List.mem_of_getElem? hj)
      simp only [lastPosition, hlast]
      by_cases hname : name = key
      · rw [if_pos hname]
        constructor
        · rintro ⟨⟩
          refine ⟨by simp [hname], fun j hj => ?_⟩
          cases j with
          | zero => omega
          | succ j => exact hnever j
        · rintro ⟨hi, _⟩
          cases i with
          | zero => rfl
          | succ i => exact absurd hi (hnever i)
      · rw [if_neg hname]
        constructor
        · rintro ⟨⟩
        · rintro ⟨hi, _⟩
          cases i with
          | zero => exact absurd (Option.some.inj hi) hname
          | succ i => exact absurd hi (hnever i)

/-- Of several plugins with one name, the table holds the last. -/
theorem get_byName_eq {α : Type} (name : α → String) (plugins : List α) (key : String) :
    (byName name plugins).get key = (lastPosition key (plugins.map name)).bind (plugins[·]?) := by
  have hfold : ∀ (plugins : List α) (m : Assoc α),
      (plugins.foldl (fun m p => m.put (name p) p) m).get key =
        match lastPosition key (plugins.map name) with
        | some i => plugins[i]?
        | none => m.get key := by
    intro plugins
    induction plugins with
    | nil => exact fun _ => rfl
    | cons p rest ih =>
      intro m
      rw [List.foldl_cons, ih, List.map_cons, lastPosition]
      cases hlast : lastPosition key (rest.map name) with
      | some i => rfl
      | none =>
        simp only [Assoc.get_put]
        by_cases hp : name p = key <;> simp [hp]
  unfold byName
  rw [hfold plugins []]
  cases lastPosition key (plugins.map name) <;> rfl

/-! ## The configured plugins -/

structure PluginSet (W : Type) where
  frontends : List (Frontend W)
  microservices : List (MicroService W)
  backends : List (Backend W)

namespace PluginSet

open Registration Proxy

variable {W : Type} (ps : PluginSet W)

def NamesAccepted : Prop := ProxyConfig.validateNames [] (ps.microservices.map (·.name)) = .ok ()

def assemble (sealer : StateSealer) : Proxy W := Proxy.new ps.frontends ps.backends ps.microservices sealer

def registrations : List Registration :=
  ofInstances .frontend (·.name) (fun f => f.registerEndpoints (ps.backends.map (·.name))) 0 ps.frontends ++
    (ofInstances .microService (·.name) (·.registerEndpoints) 0 ps.microservices ++
      ofInstances .backend (·.name) (·.registerEndpoints) 0 ps.backends)

/-- The registration whose route a path takes. -/
def registrant (path : String) : Option Registration := answering path ps.registrations

theorem resolve_assemble (sealer : StateSealer) (path : String) :
    (ps.assemble sealer).router.resolve path = (ps.registrant path).map toMatch := by
  have hrouter : (ps.assemble sealer).router = ps.registrations.foldl register {} := by
    unfold registrations
    rw [List.foldl_append, List.foldl_append, ← Router.addAll_eq, ← Router.addAll_eq, ← Router.addAll_eq]
    rfl
  rw [hrouter, Router.resolve_registered]
  rfl

def names : ModuleKind → List String
  | .frontend => ps.frontends.map (·.name)
  | .microService => ps.microservices.map (·.name)
  | .backend => ps.backends.map (·.name)

/-- The position of the instance dispatch finds under a match's name. -/
def invoked (m : Match) : Option Nat :=
  match m.kind with
  | .frontend => lastPosition m.moduleName (ps.names .frontend)
  | .microService => (ps.names .microService).findIdx? fun name => name = m.moduleName
  | .backend => lastPosition m.moduleName (ps.names .backend)

/-! ## What dispatch does with an instance -/

def afterFrontend (moduleName : String) : FrontendAction → Flow Stage
  | .respond r => pure (.answered r)
  | .startAuth request targetBackend => do
    recordRequester request
    Flow.setStr STATE_KEY_BASE KEY_TARGET_FRONTEND moduleName
    pure (.request request 0 targetBackend)

def afterBackend : BackendAction → Flow Stage
  | .respond r => pure (.answered r)
  | .authResponse response => do
    let ctx ← Flow.context
    let frontendName ← Action.orFail ((recordedFrontend ctx).or ctx.targetFrontend)
      (.state "no originating frontend in state")
    setTargetFrontend frontendName
    let ctx ← Flow.context
    pure (.response { response with requester := response.requester.or ctx.requester } 0)

def afterMicroService (position : Nat) : MicroServiceAction → Flow Stage
  | .respond r => pure (.answered r)
  | .resumeRequest request => enterResumed position request
  | .resumeResponse response => pure (.response response (position + 1))

/-- Hand a match to the instance at a position: its endpoint runs, and what it
returns goes on through the proxy. -/
def handTo (w : W) (m : Match) (position : Nat) : Flow Stage :=
  match m.kind with
  | .frontend => do
    setTargetFrontend m.moduleName
    let frontend ← Action.orFail ps.frontends[position]? (.unknownModule m.moduleName)
    let action ← frontend.handleEndpoint w m.routeId
    afterFrontend m.moduleName action
  | .microService => do
    let ms ← Action.orFail ps.microservices[position]? (.unknownModule m.moduleName)
    let action ← ms.handleEndpoint w m.routeId
    afterMicroService position action
  | .backend => do
    setTargetBackend m.moduleName
    let backend ← Action.orFail ps.backends[position]? (.unknownModule m.moduleName)
    let action ← backend.handleEndpoint w m.routeId
    afterBackend action

theorem servicePosition_assemble (sealer : StateSealer) (moduleName : String) :
    (ps.assemble sealer).servicePosition moduleName =
      ((ps.names .microService).findIdx? fun name => name = moduleName).bind fun idx =>
        (ps.microservices[idx]?).map (idx, ·) := by
  unfold servicePosition names
  rw [List.findIdx?_map]
  rfl

/-- **Dispatch hands a match to the instance it finds by name.** -/
theorem dispatch_invoked (sealer : StateSealer) (w : W) {m : Match} {position : Nat} (h : ps.invoked m = some position)
    {ctx : Context} (hm : (ps.assemble sealer).router.resolve ctx.path = some m) :
    (ps.assemble sealer).dispatch w ctx = (ps.handTo w m position >>= (ps.assemble sealer).proceed w) ctx := by
  have hstage : (ps.assemble sealer).enterMatch w m = ps.handTo w m position := by
    obtain ⟨kind, moduleName, routeId⟩ := m
    cases kind with
    | frontend =>
      have hget : (ps.assemble sealer).frontends.get moduleName = ps.frontends[position]? := by
        show (byName (·.name) ps.frontends).get moduleName = _
        rw [get_byName_eq]
        show (ps.invoked ⟨.frontend, moduleName, routeId⟩).bind _ = _
        rw [h]
        rfl
      show (ps.assemble sealer).enterFrontend w moduleName routeId = _
      unfold enterFrontend handTo
      rw [hget]
      rfl
    | microService =>
      show (ps.assemble sealer).enterMicroService w moduleName routeId = _
      have hfound : (ps.names .microService).findIdx? (fun name => name = moduleName) = some position := h
      unfold enterMicroService handTo
      rw [servicePosition_assemble, hfound, Option.bind_some]
      cases hms : ps.microservices[position]? with
      | none => rfl
      | some ms => rfl
    | backend =>
      have hget : (ps.assemble sealer).backends.get moduleName = ps.backends[position]? := by
        show (byName (·.name) ps.backends).get moduleName = _
        rw [get_byName_eq]
        show (ps.invoked ⟨.backend, moduleName, routeId⟩).bind _ = _
        rw [h]
        rfl
      show (ps.assemble sealer).enterBackend w moduleName routeId = _
      unfold enterBackend handTo
      rw [hget]
      rfl
  have henter : (ps.assemble sealer).enter w ctx = (ps.assemble sealer).enterMatch w m ctx := by
    unfold enter
    simp only [Flow.context, Action.read_bind_run, hm, Action.orFail_some, Action.pure_bind_run]
  rw [dispatch_eq]
  unfold reach proceed
  rw [Action.bind_assoc, ← hstage, Action.bind_run, Action.bind_run, henter]

/-! ## The registrant's own instance -/

/-- No later instance of its kind has the registrant's name. -/
def Kept (g : Registration) : Prop :=
  g.kind ≠ .microService → ∀ j, g.position < j → (ps.names g.kind)[j]? ≠ some g.moduleName

/-- A registration is under the name of the instance at its position. -/
theorem name_of_registered {α : Type} {kind : ModuleKind} {name : α → String} {routes : α → List Route} {plugins : List α}
    {g : Registration} (h : g ∈ ofInstances kind name routes 0 plugins) :
    g.kind = kind ∧ (plugins.map name)[g.position]? = some g.moduleName := by
  obtain ⟨⟨p, i⟩, hzip, hroutes⟩ := List.mem_flatMap.mp h
  obtain ⟨route, _, rfl⟩ := List.mem_map.mp hroutes
  have hp : plugins[i]? = some p := by
    have := List.mk_mem_zipIdx_iff_getElem?.mp hzip
    simpa using this
  refine ⟨rfl, ?_⟩
  show (plugins.map name)[i]? = some (name p)
  rw [List.getElem?_map, hp]
  rfl

theorem names_registrant {path : String} {g : Registration} (h : ps.registrant path = some g) :
    (ps.names g.kind)[g.position]? = some g.moduleName := by
  have hmem : g ∈ ps.registrations := by
    unfold registrant answering at h
    rcases Option.or_eq_some_iff.mp h with hexact | ⟨_, hpattern⟩
    · exact List.mem_of_find?_eq_some hexact
    · exact List.mem_of_find?_eq_some hpattern
  unfold registrations at hmem
  rcases List.mem_append.mp hmem with hfront | hrest
  · obtain ⟨hkind, hname⟩ := name_of_registered hfront
    rw [hkind]
    exact hname
  · rcases List.mem_append.mp hrest with hms | hback
    · obtain ⟨hkind, hname⟩ := name_of_registered hms
      rw [hkind]
      exact hname
    · obtain ⟨hkind, hname⟩ := name_of_registered hback
      rw [hkind]
      exact hname

/-- The last position of a name that occurs is this one exactly when none comes after. -/
theorem lastPosition_of_mem {names : List String} {i : Nat} {key : String} (h : names[i]? = some key) :
    ∃ last, lastPosition key names = some last ∧ (last = i ↔ ∀ j, i < j → names[j]? ≠ some key) := by
  cases hlast : lastPosition key names with
  | none => exact absurd (List.mem_of_getElem? h) (lastPosition_eq_none.mp hlast)
  | some last =>
    refine ⟨last, rfl, ?_⟩
    constructor
    · rintro rfl
      exact (lastPosition_eq_some.mp hlast).2
    · intro hafter
      have hi := lastPosition_eq_some.mpr ⟨h, hafter⟩
      rw [hlast] at hi
      exact Option.some.inj hi

theorem invoked_registrant (hnames : ps.NamesAccepted) {path : String} {g : Registration}
    (h : ps.registrant path = some g) :
    ∃ position, ps.invoked g.toMatch = some position ∧ (position = g.position ↔ ps.Kept g) := by
  have hname := ps.names_registrant h
  obtain ⟨kind, i, moduleName, route⟩ := g
  cases kind with
  | frontend =>
    obtain ⟨last, hlast, hiff⟩ := lastPosition_of_mem hname
    exact ⟨last, hlast, hiff.trans ⟨fun hafter _ => hafter, fun hkept => hkept (fun hkind => by cases hkind)⟩⟩
  | microService =>
    have hnodup := ((ProxyConfig.validateNames_ok _ _).mp hnames).1
    exact ⟨i, findIdx?_of_nodup hnodup hname, fun _ habsurd => absurd rfl habsurd, fun _ => rfl⟩
  | backend =>
    obtain ⟨last, hlast, hiff⟩ := lastPosition_of_mem hname
    exact ⟨last, hlast, hiff.trans ⟨fun hafter _ => hafter, fun hkept => hkept (fun hkind => by cases hkind)⟩⟩

/-- **A path is answered by the instance that registered its route exactly when
no later frontend, or no later backend, has that instance's name.** What a path
resolves to was registered by an instance; dispatch hands it to one, and the two
are the same under that condition. -/
theorem dispatch_identity (sealer : StateSealer) (hnames : ps.NamesAccepted) (path : String) (m : Match)
    (hm : (ps.assemble sealer).router.resolve path = some m) :
    ∃ g position, ps.registrant path = some g ∧ m = g.toMatch ∧ ps.invoked m = some position ∧
      (∀ w ctx, ctx.path = path → (ps.assemble sealer).dispatch w ctx =
        (ps.handTo w m position >>= (ps.assemble sealer).proceed w) ctx) ∧
      (position = g.position ↔ ps.Kept g) := by
  have hresolve := ps.resolve_assemble sealer path
  rw [hm] at hresolve
  obtain ⟨g, hg, hmatch⟩ := Option.map_eq_some_iff.mp hresolve.symm
  obtain ⟨position, hinvoked, hiff⟩ := ps.invoked_registrant hnames hg
  rw [hmatch] at hinvoked
  refine ⟨g, position, hg, hmatch.symm, hinvoked, fun w ctx hpath => ?_, hiff⟩
  exact ps.dispatch_invoked sealer w hinvoked (hpath ▸ hm)

/-- Distinct names in every kind are enough. -/
theorem kept_of_nodup (h : ∀ kind, (ps.names kind).Nodup) {path : String} {g : Registration}
    (hg : ps.registrant path = some g) : ps.Kept g := by
  intro _ j hj hsame
  obtain ⟨hlt, hi⟩ := List.getElem?_eq_some_iff.mp (ps.names_registrant hg)
  obtain ⟨hltj, hj'⟩ := List.getElem?_eq_some_iff.mp hsame
  have hne := List.pairwise_iff_getElem.mp (h g.kind) g.position j hlt hltj hj
  rw [hi, hj'] at hne
  exact hne rfl

/-! A SAML and an OIDC frontend, and a micro-service. -/

/-- A frontend with one endpoint, which answers with a text of its own. -/
def teller (name path text : String) : Frontend Unit where
  name
  registerEndpoints := fun _ => [.exact path text]
  handleEndpoint := fun _ _ => pure (.respond (.text 200 text))
  handleAuthnResponse := fun _ _ => Flow.fail (.internal "unused")
  handleBackendError := fun _ e => Flow.fail e

def twoFrontends (saml oidc : String) : PluginSet Unit where
  frontends := [teller saml "sso/redirect" "saml", teller oidc "authorization" "oidc"]
  microservices := [{ name := "consent" }]
  backends := []

theorem twoFrontends_accepted (saml oidc : String) : (twoFrontends saml oidc).NamesAccepted := rfl

/-- Under two names the SAML frontend answers its own path. -/
theorem dispatch_identity_apart :
    (twoFrontends "Saml2" "Oidc").invoked ⟨.frontend, "Saml2", "saml"⟩ = some 0 ∧
    ∀ ctx, ctx.path = "sso/redirect" →
      (((twoFrontends "Saml2" "Oidc").assemble demoSealer).dispatch () ctx).1.toOption.map (·.status) = some 200 := by
  obtain ⟨g, position, hg, _, hinvoked, hdispatch, hiff⟩ :=
    dispatch_identity (twoFrontends "Saml2" "Oidc") demoSealer (twoFrontends_accepted _ _) "sso/redirect"
      ⟨.frontend, "Saml2", "saml"⟩ (by decide)
  have hfirst : (twoFrontends "Saml2" "Oidc").registrant "sso/redirect" =
      some ⟨.frontend, 0, "Saml2", .exact "sso/redirect" "saml"⟩ := rfl
  rw [hfirst] at hg
  cases hg
  have hposition : position = 0 := hiff.mpr (kept_of_nodup _ (fun kind => by cases kind <;> decide) hfirst)
  subst hposition
  refine ⟨hinvoked, fun ctx hpath => ?_⟩
  rw [hdispatch () ctx hpath]
  rfl

/-- Under one name the path the SAML frontend registered is answered by the
OIDC frontend. -/
theorem dispatch_identity_shared :
    (twoFrontends "SUNET" "SUNET").NamesAccepted ∧
    (twoFrontends "SUNET" "SUNET").registrant "sso/redirect" =
      some ⟨.frontend, 0, "SUNET", .exact "sso/redirect" "saml"⟩ ∧
    (((twoFrontends "SUNET" "SUNET").assemble demoSealer).router.resolve "sso/redirect") =
      some ⟨.frontend, "SUNET", "saml"⟩ ∧
    (twoFrontends "SUNET" "SUNET").invoked ⟨.frontend, "SUNET", "saml"⟩ = some 1 ∧
    ∀ ctx, ctx.path = "sso/redirect" → ∃ ctx',
      ((twoFrontends "SUNET" "SUNET").assemble demoSealer).dispatch () ctx = (.ok (.text 200 "oidc"), ctx') := by
  refine ⟨rfl, rfl, by decide, by decide, fun ctx hpath => ?_⟩
  have hm : ((twoFrontends "SUNET" "SUNET").assemble demoSealer).router.resolve ctx.path =
      some ⟨.frontend, "SUNET", "saml"⟩ := by
    rw [hpath]
    decide
  have hinvoked : (twoFrontends "SUNET" "SUNET").invoked ⟨.frontend, "SUNET", "saml"⟩ = some 1 := by decide
  exact ⟨_, dispatch_invoked _ demoSealer () hinvoked hm⟩

end PluginSet

end Tunnelbana
