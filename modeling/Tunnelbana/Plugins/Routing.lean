/-
`custom_routing` and `idp_hinting`: which backend a request is sent to. A hint
is a parameter of the query, and so is chosen by whoever wrote the link; what it
may select is bounded by the rules. An issuer rule lists its requesters, and a
table of rules is accepted exactly when no issuer and requester are listed twice
(`CustomRouting.build_table`). However a flow gets to a backend, its requester is
named for that backend (`Deployment.routing_authorized`).
-/
import Tunnelbana.Basis.FreshTable
import Tunnelbana.Plugins.ResponseGate

namespace Tunnelbana

open Basis Basis.FreshTable

/-! ## `custom_routing` -/

structure RoutingRule where
  requester : String
  backend : String

structure IssuerRule where
  issuer : String
  /-- The requesters authorized to select this issuer. -/
  requesters : List String
  backend : String

def IssuerRule.entries (rule : IssuerRule) : List ((String × String) × String) :=
  rule.requesters.map fun requester => ((rule.issuer, requester), rule.backend)

structure CustomRoutingConfig where
  rule : List RoutingRule := []
  issuerRule : List IssuerRule := []
  defaultBackend : Option String := none

structure CustomRouting where
  name : String
  rules : SortedMap String
  issuerRules : Table (String × String) String
  defaultBackend : Option String

namespace CustomRouting

/-- One requester of an issuer rule; its pair must be free. -/
def insertPair (name : String) (rule : IssuerRule) (table : Table (String × String) String) (requester : String) :
    Except Error (Table (String × String) String) :=
  if (rule.issuer, requester) ∈ table then
    .error (.config ("custom_routing " ++ name ++ ": duplicate issuer_rule for issuer " ++ rule.issuer
      ++ " and requester " ++ requester))
  else .ok (table.insert (rule.issuer, requester) rule.backend)

def insertRule (name : String) (table : Table (String × String) String) (rule : IssuerRule) :
    Except Error (Table (String × String) String) :=
  if rule.requesters = [] then
    .error (.config ("custom_routing " ++ name ++ ": issuer_rule for " ++ rule.issuer
      ++ " must list authorized requesters"))
  else rule.requesters.foldlM (insertPair name rule) table

def build (name : String) (cfg : CustomRoutingConfig) : Except Error CustomRouting := do
  let issuerRules ← cfg.issuerRule.foldlM (insertRule name) ∅
  return { name
           rules := .ofList (cfg.rule.map fun r => (r.requester, r.backend))
           issuerRules
           defaultBackend := cfg.defaultBackend }

variable (p : CustomRouting)

def byIssuer (issuer requester : Option String) : Option String :=
  issuer.bind fun issuer => requester.bind fun requester => p.issuerRules.lookup (issuer, requester)

def byRequester (requester : Option String) : Option String := requester.bind p.rules.get

def processRequest (data : InternalData) : Flow InternalData := do
  let ctx ← Flow.context
  let issuer := (ctx.decoration KEY_TARGET_ENTITYID).bind Json.asStr
  match (p.byIssuer issuer data.requester).or (p.byRequester data.requester) with
  | some backend => Flow.modify fun ctx => { ctx with targetBackend := some backend }
  | none =>
    if (data.requester.isSome || issuer.isSome) && p.defaultBackend.isSome then
      Flow.modify fun ctx => { ctx with targetBackend := p.defaultBackend }
  return data

def microService {W : Type} : MicroService W where
  name := p.name
  processRequest _ data := p.processRequest data

end CustomRouting

/-! ## `idp_hinting` -/

structure IdpHinting where
  name : String
  /-- The query parameters that may carry a hint, the first one present is read. -/
  allowedParams : List String
  someParam : allowedParams ≠ []

namespace IdpHinting

def build (name : String) (allowedParams : List String) : Except Error IdpHinting :=
  if someParam : allowedParams = [] then
    .error (.config ("idp_hinting " ++ name ++ ": allowed_params must not be empty"))
  else .ok { name, allowedParams, someParam }

variable (p : IdpHinting)

def hint (ctx : Context) : Option String :=
  (p.allowedParams.findSome? ctx.request.query.get).filter fun v => v ≠ ""

def processRequest (data : InternalData) : Flow InternalData := do
  let ctx ← Flow.context
  if (ctx.decoration KEY_TARGET_ENTITYID).isSome then return data
  match p.hint ctx with
  | some hint => Flow.decorate KEY_TARGET_ENTITYID (.str hint)
  | none => pure ()
  return data

def microService {W : Type} : MicroService W where
  name := p.name
  processRequest _ data := p.processRequest data

end IdpHinting

/-! ## The table of issuer rules -/

namespace CustomRoutingConfig

def Lists (cfg : CustomRoutingConfig) (issuer requester backend : String) : Prop :=
  ∃ rule ∈ cfg.issuerRule, rule.issuer = issuer ∧ requester ∈ rule.requesters ∧ rule.backend = backend

/-- Every rule lists requesters, and no pair is listed twice. -/
structure Unambiguous (cfg : CustomRoutingConfig) : Prop where
  authorized : ∀ rule ∈ cfg.issuerRule, rule.requesters ≠ []
  pairs : ((cfg.issuerRule.flatMap IssuerRule.entries).map (·.1)).Nodup

/-- The operator names the backend for the requester. -/
def Names (cfg : CustomRoutingConfig) (requester : Option String) (backend : String) : Prop :=
  (∃ rule ∈ cfg.rule, requester = some rule.requester ∧ rule.backend = backend) ∨
    (∃ issuer r, requester = some r ∧ cfg.Lists issuer r backend) ∨ cfg.defaultBackend = some backend

theorem mem_entries {cfg : CustomRoutingConfig} {issuer requester backend : String} :
    ((issuer, requester), backend) ∈ cfg.issuerRule.flatMap IssuerRule.entries ↔ cfg.Lists issuer requester backend := by
  unfold Lists
  simp only [List.mem_flatMap, IssuerRule.entries, List.mem_map, Prod.mk.injEq]
  constructor
  · rintro ⟨rule, hrule, requester', hrequester, ⟨rfl, rfl⟩, rfl⟩
    exact ⟨rule, hrule, rfl, hrequester, rfl⟩
  · rintro ⟨rule, hrule, rfl, hrequester, rfl⟩
    exact ⟨rule, hrule, requester, hrequester, ⟨rfl, rfl⟩, rfl⟩

end CustomRoutingConfig

namespace CustomRouting

/-- The requesters of a rule are taken in when their pairs are free. -/
theorem insertPairs_ok {name : String} {rule : IssuerRule} (requesters : List String)
    {table table' : Table (String × String) String} :
    requesters.foldlM (insertPair name rule) table = .ok table' ↔
      Fresh table (requesters.map fun r => ((rule.issuer, r), rule.backend)) ∧
        table' = insertAll table (requesters.map fun r => ((rule.issuer, r), rule.backend)) := by
  induction requesters generalizing table with
  | nil => simp [pure, Except.pure, eq_comm]
  | cons requester requesters ih =>
    rw [List.foldlM_cons, List.map_cons, fresh_cons]
    unfold insertPair
    by_cases htaken : (rule.issuer, requester) ∈ table
    · simp [htaken, bind, Except.bind]
    · simp only [htaken, if_false, not_false_eq_true, true_and]
      exact ih

theorem insertRule_ok {name : String} {rule : IssuerRule} {table table' : Table (String × String) String} :
    insertRule name table rule = .ok table' ↔
      rule.requesters ≠ [] ∧ Fresh table rule.entries ∧ table' = insertAll table rule.entries := by
  unfold insertRule IssuerRule.entries
  by_cases hempty : rule.requesters = []
  · simp [hempty]
  · simp only [hempty, if_false, ne_eq, not_false_eq_true, true_and]
    exact insertPairs_ok rule.requesters

theorem insertRules_ok {name : String} (rules : List IssuerRule) {table table' : Table (String × String) String} :
    rules.foldlM (insertRule name) table = .ok table' ↔
      (∀ rule ∈ rules, rule.requesters ≠ []) ∧ Fresh table (rules.flatMap IssuerRule.entries) ∧
        table' = insertAll table (rules.flatMap IssuerRule.entries) := by
  induction rules generalizing table with
  | nil => simp [pure, Except.pure, eq_comm]
  | cons rule rules ih =>
    rw [List.foldlM_cons, except_bind_ok, List.flatMap_cons, fresh_append, insertAll_append, List.forall_mem_cons]
    constructor
    · rintro ⟨table₁, hrule, hrules⟩
      obtain ⟨hsome, hfresh, rfl⟩ := insertRule_ok.mp hrule
      obtain ⟨hrest, hfree, rfl⟩ := ih.mp hrules
      exact ⟨⟨hsome, hrest⟩, ⟨hfresh, hfree⟩, rfl⟩
    · rintro ⟨⟨hsome, hrest⟩, ⟨hfresh, hfree⟩, rfl⟩
      exact ⟨_, insertRule_ok.mpr ⟨hsome, hfresh, rfl⟩, ih.mpr ⟨hrest, hfree, rfl⟩⟩

theorem build_ok {name : String} {cfg : CustomRoutingConfig} {p : CustomRouting} :
    build name cfg = .ok p ↔ cfg.Unambiguous ∧
      p = { name
            rules := .ofList (cfg.rule.map fun r => (r.requester, r.backend))
            issuerRules := insertAll ∅ (cfg.issuerRule.flatMap IssuerRule.entries)
            defaultBackend := cfg.defaultBackend } := by
  unfold build
  rw [except_bind_ok]
  constructor
  · rintro ⟨table, htable, hret⟩
    obtain ⟨hsome, hfresh, rfl⟩ := (insertRules_ok _).mp htable
    cases hret
    exact ⟨⟨hsome, hfresh.1⟩, rfl⟩
  · rintro ⟨hcfg, rfl⟩
    exact ⟨_, (insertRules_ok _).mpr ⟨hcfg.authorized, ⟨hcfg.pairs, fun _ _ => AList.notMem_empty _⟩, rfl⟩, rfl⟩

/-- The table of a built service is the one configured. -/
theorem lookup_built {name : String} {cfg : CustomRoutingConfig} {p : CustomRouting} (h : build name cfg = .ok p)
    (issuer requester backend : String) :
    p.issuerRules.lookup (issuer, requester) = some backend ↔ cfg.Lists issuer requester backend := by
  obtain ⟨hcfg, rfl⟩ := build_ok.mp h
  have hfresh : Fresh ∅ (cfg.issuerRule.flatMap IssuerRule.entries) := ⟨hcfg.pairs, fun _ _ => AList.notMem_empty _⟩
  rw [lookup_insertAll hfresh, ← CustomRoutingConfig.mem_entries]
  simp

/-! ## What is selected -/

variable {p : CustomRouting}

/-- The backend of a request with a target issuer; `none` leaves it open. -/
def selected (p : CustomRouting) (issuer requester : Option String) : Option String :=
  ((p.byIssuer issuer requester).or (p.byRequester requester)).or
    (if requester.isSome || issuer.isSome then p.defaultBackend else none)

def issuerOf (ctx : Context) : Option String := (ctx.decoration KEY_TARGET_ENTITYID).bind Json.asStr

/-- **A request passes through unchanged, sent to the backend selected for it.** -/
theorem processRequest_run (p : CustomRouting) (data : InternalData) (ctx : Context) :
    p.processRequest data ctx =
      (.ok data, { ctx with targetBackend := (p.selected (issuerOf ctx) data.requester).or ctx.targetBackend }) := by
  unfold processRequest selected issuerOf
  simp only [Flow.context, Action.read_bind_run]
  cases (p.byIssuer ((ctx.decoration KEY_TARGET_ENTITYID).bind Json.asStr) data.requester).or
      (p.byRequester data.requester) with
  | some backend => rfl
  | none =>
    cases hdefault : p.defaultBackend with
    | none => cases data.requester.isSome || ((ctx.decoration KEY_TARGET_ENTITYID).bind Json.asStr).isSome <;> rfl
    | some backend =>
      cases data.requester.isSome || ((ctx.decoration KEY_TARGET_ENTITYID).bind Json.asStr).isSome <;> rfl

/-- Only the rules answer: the one of the issuer that lists the requester, the
one of the requester, or the default. -/
theorem selected_names {name : String} {cfg : CustomRoutingConfig} (h : build name cfg = .ok p)
    {issuer requester : Option String} {backend : String} (hselected : p.selected issuer requester = some backend) :
    cfg.Names requester backend := by
  unfold selected at hselected
  rcases Option.or_eq_some_iff.mp hselected with hrule | ⟨_, hdefault⟩
  · rcases Option.or_eq_some_iff.mp hrule with hissuer | ⟨_, hrequester⟩
    · unfold byIssuer at hissuer
      obtain ⟨issuer, _, hissuer⟩ := Option.bind_eq_some_iff.mp hissuer
      obtain ⟨r, hr, hlookup⟩ := Option.bind_eq_some_iff.mp hissuer
      exact .inr (.inl ⟨issuer, r, hr, (lookup_built h issuer r backend).mp hlookup⟩)
    · unfold byRequester at hrequester
      obtain ⟨r, hr, hget⟩ := Option.bind_eq_some_iff.mp hrequester
      obtain ⟨_, rfl⟩ := build_ok.mp h
      obtain ⟨rule, hmem, he⟩ := List.mem_map.mp (SortedMap.mem_of_get_ofList hget)
      cases he
      exact .inl ⟨rule, hmem, hr, rfl⟩
  · split at hdefault
    · obtain ⟨_, rfl⟩ := build_ok.mp h
      exact .inr (.inr hdefault)
    · cases hdefault

/-- **The table of issuer rules is accepted exactly when every rule lists
requesters and no pair is listed twice; it answers what is listed, and the order
of the rules makes no difference to any request.** -/
theorem build_table (name : String) (cfg : CustomRoutingConfig) :
    ((∃ p, build name cfg = .ok p) ↔ cfg.Unambiguous) ∧
      (∀ p, build name cfg = .ok p → ∀ issuer requester backend,
        p.byIssuer (some issuer) (some requester) = some backend ↔ cfg.Lists issuer requester backend) ∧
      (∀ rules p p', cfg.issuerRule.Perm rules → build name cfg = .ok p →
        build name { cfg with issuerRule := rules } = .ok p' →
        ∀ data ctx, p.processRequest data ctx = p'.processRequest data ctx) := by
  refine ⟨⟨?_, fun hcfg => ⟨_, build_ok.mpr ⟨hcfg, rfl⟩⟩⟩, fun p h => lookup_built h, ?_⟩
  · rintro ⟨p, h⟩
    exact (build_ok.mp h).1
  · intro rules p p' hperm h h' data ctx
    have hsame : p.byIssuer = p'.byIssuer := by
      funext issuer requester
      cases issuer with
      | none => rfl
      | some issuer =>
        cases requester with
        | none => rfl
        | some requester =>
          refine Option.ext fun backend => ?_
          show p.issuerRules.lookup (issuer, requester) = _ ↔ p'.issuerRules.lookup (issuer, requester) = _
          rw [lookup_built h, lookup_built h']
          unfold CustomRoutingConfig.Lists
          simp only [hperm.mem_iff]
    obtain ⟨_, hp⟩ := build_ok.mp h
    obtain ⟨_, hp'⟩ := build_ok.mp h'
    have hrules : p.byRequester = p'.byRequester := by rw [hp, hp']; rfl
    have hdefault : p.defaultBackend = p'.defaultBackend := by rw [hp, hp']
    rw [processRequest_run, processRequest_run]
    unfold selected
    rw [hsame, hrules, hdefault]

end CustomRouting

/-! ## Selections on a run -/

/-- A backend is selected only where the relation names it for the requester. -/
structure Selects (Names : Option String → String → Prop) (data next : InternalData) (ctx ctx' : Context) : Prop where
  requester : next.requester = data.requester
  backend : ctx'.targetBackend = ctx.targetBackend ∨
    ∃ name, ctx'.targetBackend = some name ∧ Names data.requester name

theorem Selects.trans {Names : Option String → String → Prop} {data next last : InternalData} {ctx ctx' ctx'' : Context}
    (h : Selects Names data next ctx ctx') (h' : Selects Names next last ctx' ctx'') : Selects Names data last ctx ctx'' where
  requester := h'.requester.trans h.requester
  backend := by
    rcases h'.backend with hsame | ⟨name, hname, hnames⟩
    · rw [hsame]
      exact h.backend
    · exact .inr ⟨name, hname, h.requester ▸ hnames⟩

theorem Selects.mono {Names Names' : Option String → String → Prop} {data next : InternalData} {ctx ctx' : Context}
    (h : Selects Names data next ctx ctx') (hsub : ∀ requester name, Names requester name → Names' requester name) :
    Selects Names' data next ctx ctx' :=
  ⟨h.requester, h.backend.imp_right fun ⟨name, hname, hnames⟩ => ⟨name, hname, hsub _ _ hnames⟩⟩

def Transform.Routes {W : Type} (t : Transform W) (Names : Option String → String → Prop) : Prop :=
  ∀ w data ctx next ctx', t.processRequest w data ctx = (.ok next, ctx') → Selects Names data next ctx ctx'

def Transform.onRequest {W : Type} (name : String) (processRequest : InternalData → Flow InternalData)
    (h : ∀ data, Action.Keeps Untouched (processRequest data)) : Transform W where
  name
  processRequest _ data := processRequest data
  requestUntouched _ data := h data
  responseUntouched _ data := Action.keeps_pure data

def CustomRouting.transform (W : Type) (p : CustomRouting) : Transform W :=
  .onRequest p.name p.processRequest fun data ctx => by
    rw [p.processRequest_run]
    exact ⟨rfl, rfl, rfl⟩

/-- A hint sets the target issuer, once. -/
theorem IdpHinting.processRequest_run (p : IdpHinting) (data : InternalData) (ctx : Context) :
    p.processRequest data ctx = (.ok data, ctx) ∨
      ∃ hint, ctx.decoration KEY_TARGET_ENTITYID = none ∧ p.hint ctx = some hint ∧
        p.processRequest data ctx = (.ok data, ctx.decorate KEY_TARGET_ENTITYID (.str hint)) := by
  unfold processRequest
  simp only [Flow.context, Action.read_bind_run]
  cases hset : ctx.decoration KEY_TARGET_ENTITYID with
  | some v => exact .inl rfl
  | none =>
    cases hhint : p.hint ctx with
    | none => exact .inl rfl
    | some hint => exact .inr ⟨hint, rfl, rfl, rfl⟩

def IdpHinting.transform (W : Type) (p : IdpHinting) : Transform W :=
  .onRequest p.name p.processRequest fun data ctx => by
    rcases p.processRequest_run data ctx with hrun | ⟨_, _, _, hrun⟩ <;> rw [hrun] <;> exact ⟨rfl, rfl, rfl⟩

section
variable {W : Type} {Names : Option String → String → Prop}

/-- A service of the response leg selects nothing. -/
theorem Transform.onResponse_routes {name : String} {processResponse : InternalData → Flow InternalData}
    {h : ∀ data, Action.Keeps Untouched (processResponse data)} :
    (Transform.onResponse name processResponse h : Transform W).Routes Names := by
  intro w data ctx next ctx' hrun
  cases hrun
  exact ⟨rfl, .inl rfl⟩

theorem IdpHinting.routes (p : IdpHinting) : (p.transform W).Routes Names := by
  intro w data ctx next ctx' h
  have hrun : p.processRequest data ctx = (.ok next, ctx') := h
  rcases p.processRequest_run data ctx with hown | ⟨hint, _, _, hown⟩
  · cases hown.symm.trans hrun
    exact ⟨rfl, .inl rfl⟩
  · cases hown.symm.trans hrun
    exact ⟨rfl, .inl rfl⟩

/-- **A built service selects only what its configuration names.** -/
theorem CustomRouting.routes {name : String} {cfg : CustomRoutingConfig} {p : CustomRouting}
    (hbuild : CustomRouting.build name cfg = .ok p) : (p.transform W).Routes cfg.Names := by
  intro w data ctx next ctx' h
  have hrun : p.processRequest data ctx = (.ok next, ctx') := h
  cases (p.processRequest_run data ctx).symm.trans hrun
  refine ⟨rfl, ?_⟩
  cases hselected : p.selected (CustomRouting.issuerOf ctx) data.requester with
  | none => exact .inl rfl
  | some backend => exact .inr ⟨backend, rfl, CustomRouting.selected_names hbuild hselected⟩

def SameBackend (ctx ctx' : Context) : Prop := ctx'.targetBackend = ctx.targetBackend

instance : Action.Frame SameBackend where
  refl _ := rfl
  trans h h' := h'.trans h

theorem sameBackend_permits (ns : String) (keys decorations : List String) : Permits SameBackend ns keys decorations :=
  ⟨fun _ _ _ _ => rfl, fun _ => rfl, fun _ _ _ _ => rfl, fun _ _ _ => rfl⟩

namespace Deployment

variable {d : Deployment W} {w : W}

theorem service_selects {s : Service W} (hs : ∀ t, s = .transform t → t.Routes Names) {data next : InternalData}
    {ctx ctx' : Context} (h : s.microService.processRequest w data ctx = (.ok next, ctx')) :
    Selects Names data next ctx ctx' := by
  cases s with
  | transform t => exact hs t rfl w data ctx next ctx' h
  | disco disco =>
    have hrun : disco.processRequest data ctx = (.ok next, ctx') := h
    rcases disco.processRequest_cases data ctx with hok | ⟨_, hfail⟩
    · cases hok.symm.trans hrun
      exact ⟨rfl, .inl rfl⟩
    · cases hfail.symm.trans hrun
  | stepup p view =>
    have hrun : p.processRequest data ctx = (.ok next, ctx') := h
    obtain ⟨_, hown, _, _, hbackend⟩ := p.processRequest_run data ctx
    cases hown.symm.trans hrun
    exact ⟨rfl, .inl hbackend⟩
  | accr a =>
    have hrun : a.processRequest data ctx = (.ok next, ctx') := h
    have hbackend : SameBackend ctx ctx' := (a.processRequest_keeps (sameBackend_permits _ _ _) data).apply hrun
    unfold Accr.processRequest at hrun
    simp only [Flow.context, Action.read_bind_run] at hrun
    obtain ⟨_, _, hrun⟩ := Action.lift_bind_ok.mp hrun
    simp only [Flow.modify, Flow.setValue, Action.update_bind_run] at hrun
    cases hrun
    exact ⟨rfl, .inl hbackend⟩

theorem requestServices_select (hroutes : ∀ t, .transform t ∈ d.services → t.Routes Names) {services : List (MicroService W)}
    (hmem : ∀ ms ∈ services, ms ∈ d.proxy.microservices) {data last : InternalData} {ctx ctx' : Context}
    (h : Proxy.requestServices w services data ctx = (.ok last, ctx')) : Selects Names data last ctx ctx' := by
  induction services generalizing data ctx with
  | nil =>
    cases h
    exact ⟨rfl, .inl rfl⟩
  | cons ms rest ih =>
    obtain ⟨next, ctx₁, hfirst, hrest⟩ := Action.bind_ok.mp h
    obtain ⟨s, hs, rfl⟩ := service_found (hmem ms List.mem_cons_self)
    have hselects : Selects Names data next ctx ctx₁ := service_selects (fun t ht => hroutes t (ht ▸ hs)) hfirst
    exact hselects.trans (ih (fun ms' hms' => hmem ms' (List.mem_cons_of_mem _ hms')) hrest)

theorem enter_unselected {s : State} {r : Exchange W} {request : InternalData} {startIndex : Nat} {pin : Option String}
    {ctx₁ : Context} (h : d.proxy.enter r.world (r.context s) = (.ok (.request request startIndex pin), ctx₁)) :
    ctx₁.targetBackend = none := by
  have hentered := d.proxy.enter_entered r.world (r.context s)
  rw [h] at hentered
  have hnoted : ∀ ctx : Context, (Proxy.noteRequester request ctx).targetBackend = ctx.targetBackend := by
    intro ctx
    unfold Proxy.noteRequester
    cases request.requester <;> rfl
  cases hentered with
  | @frontendStarts name routeId f _ _ ctx' hroute hget hstarts =>
    obtain ⟨down, _, rfl, _⟩ := frontend_found hget
    have hpermits : down.Permitted SameBackend := by
      cases down <;> exact sameBackend_permits _ _ _
    have hkeeps : SameBackend (Proxy.toFrontend name (r.context s)) ctx' :=
      (endpoint_keeps hpermits (fun _ _ => rfl) d.lib r.world routeId).apply hstarts
    exact (hnoted ctx').trans hkeeps
  | @serviceResumesRequest name routeId origin idx ms _ ctx' hroute hfound hresumes horigin =>
    obtain ⟨svc, hsvc, rfl⟩ := service_found (List.mem_of_getElem? (Proxy.servicePosition_mem hfound).1)
    obtain ⟨disco, rfl, hdisco⟩ := service_resumesRequest hresumes
    refine (hnoted _).trans ?_
    rcases disco.handleEndpoint_cases routeId (r.context s) with ⟨_, _, _, _, _, hrun, _, _, hbackend⟩ | ⟨_, _, hfail, _⟩
    · cases hrun.symm.trans hdisco
      exact hbackend
    · cases hfail.symm.trans hdisco

/-- A flow is started at a backend the frontend pinned it to, one named for its
requester, or the default one of the proxy. -/
def StartsNamed (d : Deployment W) (Names : Option String → String → Prop) (s : State) (r : Exchange W) : Prop :=
  ∀ backend request ctx', d.proxy.reach r.world (r.context s) = (.ok (.start backend request), ctx') →
    ∃ name, ctx'.targetBackend = some name ∧ d.proxy.backends.get name = some backend ∧
      ((∃ entered ctx₁, d.proxy.enter r.world (r.context s) = (.ok (.request entered 0 (some name)), ctx₁)) ∨
        Names request.requester name ∨ d.proxy.defaultBackend = some name)

theorem starts_named (hroutes : ∀ t, .transform t ∈ d.services → t.Routes Names) (s : State) (r : Exchange W) :
    d.StartsNamed Names s r := by
  intro backend request ctx' hreach
  obtain ⟨entered, startIndex, pin, ctx₁, ctx₂, name, henter, hservices, hname, hget, rfl⟩ := Proxy.reach_start hreach
  refine ⟨name, rfl, hget, ?_⟩
  have hselects := requestServices_select hroutes (fun ms hms => List.mem_of_mem_drop hms) hservices
  rcases Option.or_eq_some_iff.mp hname with hchosen | ⟨_, hdefault⟩
  · rcases Option.or_eq_some_iff.mp hchosen with hpin | ⟨_, hselected⟩
    · -- only a frontend pins
      rcases Proxy.enter_pin henter with hzero | ⟨_, hnone⟩
      · subst hzero hpin
        exact .inl ⟨entered, ctx₁, henter⟩
      · rw [hnone] at hpin
        cases hpin
    · rcases hselects.backend with hsame | ⟨selected, hbackend, hnames⟩
      · rw [hsame, enter_unselected henter] at hselected
        cases hselected
      · rw [hbackend] at hselected
        cases hselected
        rw [hselects.requester]
        exact .inr (.inl hnames)
  · exact .inr (.inr hdefault)

/-- **A flow gets only to backends the configuration names for its requester**,
whatever hint, discovery return or recorded state carries it, on every run of a
proxy where `custom_routing` alone selects backends. -/
theorem routing_authorized (d : Deployment W) (statusHint : Error → Nat) {name : String} {cfg : CustomRoutingConfig}
    {router : CustomRouting} (hbuild : CustomRouting.build name cfg = .ok router)
    (hroutes : ∀ t, .transform t ∈ d.services → t = router.transform W ∨ t.Routes fun _ _ => False) (s : State)
    (rs : List (Exchange W)) : Along (d.proxy.serve statusHint) (d.StartsNamed cfg.Names) s rs := by
  refine Along.of_forall (fun s r => starts_named (fun t ht => ?_) s r) rs
  rcases hroutes t ht with rfl | hnothing
  · exact CustomRouting.routes hbuild
  · intro w data ctx next ctx' h
    exact (hnothing w data ctx next ctx' h).mono fun _ _ hfalse => hfalse.elim

end Deployment

end

/-! ## A hint in front of the rules -/

def hintParams : IdpHinting where
  name := "hint"
  allowedParams := ["idphint"]
  someParam := by simp

/-- A backend for one requester, and another for those that may name an issuer. -/
def labAndCampus : CustomRoutingConfig where
  rule := [{ requester := "rp-lab", backend := "lab" }]
  issuerRule := [{ issuer := "https://idp.example", requesters := ["rp-campus"], backend := "campus" }]

def hintedRouting : CustomRouting where
  name := "route"
  rules := .ofList (labAndCampus.rule.map fun r => (r.requester, r.backend))
  issuerRules := insertAll ∅ (labAndCampus.issuerRule.flatMap IssuerRule.entries)
  defaultBackend := none

theorem labAndCampus_unambiguous : labAndCampus.Unambiguous := ⟨by decide, by decide⟩

example : hintedRouting.selected (some "https://idp.example") (some "rp-campus") = some "campus" := by decide
example : hintedRouting.selected (some "https://idp.example") (some "rp-lab") = some "lab" := by decide

namespace Deployment

/-- The hint, the routing, then the filter of the release, before three backends. -/
def routedProxy : Deployment (OpWorld × OidcWorld) :=
  { oidcProxy "up" with
    backends := (oidcProxy "up").backends ++ (oidcProxy "lab").backends ++ (oidcProxy "campus").backends
    services := [.transform (hintParams.transform _), .transform (hintedRouting.transform _),
      .transform (mailOnly.transform _)] }

def hintedLogin (client : String) : Exchange (OpWorld × OidcWorld) where
  world := (clientOnly { clientId := client, redirectUris := ["https://rp.example/cb"] }, RpBackend.oneOp "1")
  request :=
    { path := "OIDC/authorization"
      query := [("idphint", "https://idp.example")]
      queryPairs := [("client_id", client), ("redirect_uri", "https://rp.example/cb"), ("state", "af0")] }
  envelope := none

/-- The backend a request in a fresh session is sent to. -/
def routedTo (client : String) : Option String :=
  (routedProxy.proxy.reach (hintedLogin client).world ((hintedLogin client).context State.new)).2.targetBackend

/-- One requester may name the issuer, another has a rule of its own, and the third
gets the default backend. -/
theorem routing_authorized_demo :
    Along (routedProxy.proxy.serve fun _ => 500) (routedProxy.StartsNamed labAndCampus.Names) State.new
        (["rp-campus", "rp-lab", "rp"].map hintedLogin) ∧
      ["rp-campus", "rp-lab", "rp"].map routedTo = [some "campus", some "lab", some "up"] := by
  refine ⟨routing_authorized routedProxy (fun _ => 500)
    (CustomRouting.build_ok.mpr ⟨labAndCampus_unambiguous, rfl⟩ : CustomRouting.build "route" labAndCampus = .ok hintedRouting)
    (fun t ht => ?_) State.new _, by decide +kernel⟩
  have hcases : t = hintParams.transform _ ∨ t = hintedRouting.transform _ ∨ t = mailOnly.transform _ := by
    simpa [routedProxy] using ht
  rcases hcases with rfl | rfl | rfl
  · exact .inr hintParams.routes
  · exact .inl rfl
  · exact .inr Transform.onResponse_routes

end Deployment

end Tunnelbana
