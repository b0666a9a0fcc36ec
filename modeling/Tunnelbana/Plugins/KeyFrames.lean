/-
Frames on a few keys, in whichever namespace. Backends and services write keys
of their own and clear namespaces; where a frame is about other keys, each of
their calls leaves every namespace as it was in them or takes them with it, and
a whole request does but for the flow it starts or resumes (`serve_served`).
-/
import Tunnelbana.Plugins.ErrorIsolation
import Tunnelbana.Plugins.StepUpGuarantee

namespace Tunnelbana

open Basis

/-- These keys stay, or go with their namespace, whatever becomes of the cookie. -/
structure State.Retains (ks : List String) (s t : State) : Prop where
  objects : s.Objects → t.Objects
  value : ∀ ns, (∀ key ∈ ks, t.getValue ns key = s.getValue ns key) ∨ (∀ key ∈ ks, t.getValue ns key = none)

namespace State.Retains

variable {ks : List String} {s t u : State}

theorem of_tame (h : s.Tame (fun _ key => key ∈ ks) t) : s.Retains ks t := ⟨h.objects, h.value⟩

theorem trans (h : s.Retains ks t) (h' : t.Retains ks u) : s.Retains ks u := by
  refine ⟨fun hs => h'.objects (h.objects hs), fun ns => ?_⟩
  rcases h'.value ns with hu | hu
  · rcases h.value ns with ht | ht
    · exact .inl fun key hk => (hu key hk).trans (ht key hk)
    · exact .inr fun key hk => (hu key hk).trans (ht key hk)
  · exact .inr hu

theorem carried (s : State) (envelope : Option Nat) : s.Retains ks (s.carried envelope) := by
  refine ⟨fun hs => hs.carried envelope, fun ns => ?_⟩
  rcases s.getValue_carried_cases envelope with hsame | hnone
  · exact .inl fun key _ => hsame ns key
  · exact .inr fun key _ => hnone ns key

theorem getValue_of_some (h : s.Retains ks t) {ns key : String} (hk : key ∈ ks) {v : Json}
    (hv : t.getValue ns key = some v) : s.getValue ns key = some v := by
  rcases h.value ns with hsame | hnone
  · rw [← hsame key hk, hv]
  · rw [hnone key hk] at hv
    cases hv

theorem getStr_of_some (h : s.Retains ks t) {ns key : String} (hk : key ∈ ks) {v : String}
    (hv : t.getStr ns key = some v) : s.getStr ns key = some v :=
  getStr_eq_some.mpr (h.getValue_of_some hk (getStr_eq_some.mp hv))

/-- A key goes only with the others of its namespace. -/
theorem getStr_beside (h : s.Retains ks t) {ns key key' : String} (hk : key ∈ ks) (hk' : key' ∈ ks) {v : String}
    (hv : t.getStr ns key = some v) : t.getStr ns key' = s.getStr ns key' := by
  rcases h.value ns with hsame | hnone
  · exact getStr_congr (hsame key' hk')
  · rw [getStr_none (hnone key hk)] at hv
    cases hv

end State.Retains

def KeyTame (ks : List String) (ctx ctx' : Context) : Prop := ctx.state.Tame (fun _ key => key ∈ ks) ctx'.state

structure KeyKept (ks : List String) (ctx ctx' : Context) : Prop where
  tame : KeyTame ks ctx ctx'
  targetFrontend : ctx'.targetFrontend = ctx.targetFrontend

def NamespaceKept (ns : String) (ctx ctx' : Context) : Prop :=
  ∀ key, ctx'.state.getValue ns key = ctx.state.getValue ns key

instance (ks : List String) : Action.Frame (KeyTame ks) where
  refl ctx := State.Tame.refl ctx.state
  trans h h' := State.Tame.trans h h'

instance (ks : List String) : Action.Frame (KeyKept ks) where
  refl ctx := ⟨State.Tame.refl ctx.state, rfl⟩
  trans h h' := ⟨h.tame.trans h'.tame, h'.targetFrontend.trans h.targetFrontend⟩

instance (ns : String) : Action.Frame (NamespaceKept ns) where
  refl _ _ := rfl
  trans h h' key := (h' key).trans (h key)

/-- What the backends and the services write of a namespace. -/
def pluginKeys : List String :=
  Saml2Backend.stateKeys ++ RELYING_PARTY_KEYS ++ DiscoToTargetIssuer.stateKeys ++ Accr.stateKeys ++ StepUp.stateKeys

/-- A frame that lets every key be written but these. -/
def SparesKeys (ks : List String) (R : Context → Context → Prop) : Prop :=
  ∀ ns keys decorations, (∀ key ∈ keys, key ∉ ks) → Permits R ns keys decorations

section
variable {ks : List String}

theorem keyTame_spares : SparesKeys ks (KeyTame ks) := fun ns _ _ h =>
  { setValue := fun ctx _ value hk => State.Tame.setValue ctx.state value (h _ hk)
    clear := fun ctx => State.Tame.clearNamespace ctx.state ns
    decorate := fun ctx _ _ _ => State.Tame.refl ctx.state
    undecorate := fun ctx _ _ => State.Tame.refl ctx.state }

theorem keyKept_spares : SparesKeys ks (KeyKept ks) := fun ns _ _ h =>
  { setValue := fun ctx _ value hk => ⟨State.Tame.setValue ctx.state value (h _ hk), rfl⟩
    clear := fun ctx => ⟨State.Tame.clearNamespace ctx.state ns, rfl⟩
    decorate := fun ctx _ _ _ => ⟨State.Tame.refl ctx.state, rfl⟩
    undecorate := fun ctx _ _ => ⟨State.Tame.refl ctx.state, rfl⟩ }

theorem keyTame_untouched {ctx ctx' : Context} (h : Untouched ctx ctx') : KeyTame ks ctx ctx' := by
  unfold KeyTame
  rw [h.state]
  exact State.Tame.refl ctx.state

theorem keyKept_untouched {ctx ctx' : Context} (h : Untouched ctx ctx') : KeyKept ks ctx ctx' :=
  ⟨keyTame_untouched h, h.targetFrontend⟩

theorem keyTame_reroutes : Reroutes (KeyTame ks) := fun ctx _ _ _ => State.Tame.refl ctx.state

theorem keyTame_targets : Proxy.TargetsKeep (KeyTame ks) where
  targetFrontend ctx _ := State.Tame.refl ctx.state
  targetBackend ctx _ := State.Tame.refl ctx.state

variable {R : Context → Context → Prop} (h : SparesKeys ks R) (hks : ∀ key ∈ pluginKeys, key ∉ ks)
include h hks

theorem SparesKeys.upstream {W : Type} (b : UpstreamPlugin W) : b.Permitted R := by
  cases b with
  | saml b own ordinary view => exact h _ _ _ fun key hk => hks key (by simp [pluginKeys, hk])
  | oidc b view => exact h _ _ _ fun key hk => hks key (by simp [pluginKeys, hk])
  | federation b view => exact h _ _ _ fun key hk => hks key (by simp [pluginKeys, hk])

theorem SparesKeys.service {W : Type} (s : Service W) : s.Permitted R := by
  cases s with
  | disco s => exact h _ _ _ fun key hk => hks key (by simp [pluginKeys, hk])
  | accr s => exact h _ _ _ fun key hk => hks key (by simp [pluginKeys, hk])
  | stepup s view =>
    exact ⟨h _ _ _ fun key hk => hks key (by simp [pluginKeys, hk]), h _ _ _ fun key hk => hks key (by simp [pluginKeys, hk])⟩
  | transform t => exact trivial

end

/-! ## The namespaces of the services -/

theorem namespaceKept_permits {ns ns' : String} (hne : ns ≠ ns') (keys decorations : List String) :
    Permits (NamespaceKept ns') ns keys decorations where
  setValue ctx key value _ key' := State.getValue_setValue_other ctx.state value fun he => hne he.1
  clear ctx key := by
    show (ctx.state.clearNamespace ns).getValue ns' key = _
    rw [State.getValue_clearNamespace, if_neg hne]
  decorate _ _ _ _ _ := rfl
  undecorate _ _ _ _ := rfl

theorem namespaceKept_untouched {ns : String} {ctx ctx' : Context} (h : Untouched ctx ctx') :
    NamespaceKept ns ctx ctx' := fun key => by rw [h.state]

theorem namespaceKept_reroutes {ns : String} : Reroutes (NamespaceKept ns) := fun _ _ _ _ _ => rfl

/-- A service's namespaces are under its kind, the core's is not. -/
theorem Service.namespaces_ne_base {W : Type} (s : Service W) : ∀ ns ∈ s.namespaces, ns ≠ STATE_KEY_BASE := by
  have hprefixed : ∀ (first : Char) (rest : List Char) (kind name : String), kind.toList = first :: rest →
      first ≠ 'T' → kind ++ name ≠ STATE_KEY_BASE := by
    intro first rest kind name hkind hfirst h
    have hlist := congrArg String.toList h
    rw [String.toList_append, hkind] at hlist
    exact hfirst (List.cons.inj hlist).1
  cases s with
  | transform t => exact fun ns hns => by cases hns
  | disco s =>
    intro ns hns
    rw [List.mem_singleton.mp hns]
    exact hprefixed 'd' _ "disco_to_target_issuer:" s.name rfl (by decide)
  | accr s =>
    intro ns hns
    rw [List.mem_singleton.mp hns]
    exact hprefixed 'a' _ "accr:" s.name rfl (by decide)
  | stepup s view =>
    intro ns hns
    rcases List.mem_cons.mp hns with rfl | hsaml
    · exact hprefixed 's' _ "stepup:" s.name rfl (by decide)
    · rw [List.mem_singleton.mp hsaml, s.samlNamespace]
      exact hprefixed 's' _ "stepup_saml:" s.name rfl (by decide)

/-- A service leaves a namespace that is none of its own. -/
theorem Service.namespaceKept_permitted {W : Type} {s : Service W} {ns : String} (h : ns ∉ s.namespaces) :
    s.Permitted (NamespaceKept ns) := by
  have hne : ∀ ns' ∈ s.namespaces, ns' ≠ ns := fun ns' hmem he => h (he ▸ hmem)
  cases s with
  | disco s => exact namespaceKept_permits (hne _ List.mem_cons_self) _ _
  | accr s => exact namespaceKept_permits (hne _ List.mem_cons_self) _ _
  | stepup s view =>
    exact ⟨namespaceKept_permits (hne _ List.mem_cons_self) _ _, namespaceKept_permits (hne _ (by simp [namespaces])) _ _⟩
  | transform t => exact trivial

theorem Service.namespaceKept_base {W : Type} (s : Service W) : s.Permitted (NamespaceKept STATE_KEY_BASE) :=
  s.namespaceKept_permitted fun hmem => s.namespaces_ne_base _ hmem rfl

/-! ## The deployment -/

namespace Deployment

variable {W : Type} {d : Deployment W} {R : Context → Context → Prop} [Action.Frame R]

/-- A frame the backends and services keep, without regard to the frontends. -/
theorem headless_keeps (huntouched : ∀ ctx ctx', Untouched ctx ctx' → R ctx ctx') (hreroute : Reroutes R)
    (hbackends : ∀ b ∈ d.backends, b.Permitted R) (hservices : ∀ s ∈ d.services, s.Permitted R) :
    d.headless.proxy.PluginsKeep R where
  frontendEndpoint name f hf w routeId := by cases hf
  authnResponse name f hf w response := by cases hf
  backendError name f hf w e := by cases hf
  startAuth name b hb w request := by
    obtain ⟨up, hmem, rfl, _⟩ := backend_found hb
    exact startAuth_keeps (hbackends up hmem) w request
  backendEndpoint name b hb w routeId := by
    obtain ⟨up, hmem, rfl, _⟩ := backend_found hb
    exact backendEndpoint_keeps (hbackends up hmem) w routeId
  processRequest ms hms w request := by
    obtain ⟨s, hmem, rfl⟩ := service_found hms
    exact processRequest_keeps huntouched (hservices s hmem) w request
  processResponse ms hms w response := by
    obtain ⟨s, hmem, rfl⟩ := service_found hms
    exact processResponse_keeps huntouched (hservices s hmem) w response
  serviceEndpoint ms hms w routeId := by
    obtain ⟨s, hmem, rfl⟩ := service_found hms
    exact serviceEndpoint_keeps hreroute (hservices s hmem) w routeId

/-- **No call of a backend or a service writes the keys.** -/
theorem others_keyTame {ks : List String} (d : Deployment W) (hks : ∀ key ∈ pluginKeys, key ∉ ks) :
    d.headless.proxy.PluginsKeep (KeyTame ks) :=
  headless_keeps (fun _ _ hu => keyTame_untouched hu) keyTame_reroutes (fun b _ => keyTame_spares.upstream hks b)
    fun s _ => keyTame_spares.service hks s

theorem responseServices_keeps (huntouched : ∀ ctx ctx', Untouched ctx ctx' → R ctx ctx')
    (hservices : ∀ s ∈ d.services, s.Permitted R) {services : List (MicroService W)}
    (hmem : ∀ ms ∈ services, ms ∈ d.proxy.microservices) (w : W) (response : InternalData) :
    Action.Keeps R (Proxy.responseServices w services response) := by
  induction services generalizing response with
  | nil => exact Action.keeps_pure _
  | cons ms rest ih =>
    obtain ⟨s, hs, rfl⟩ := service_found (hmem ms List.mem_cons_self)
    refine (processResponse_keeps huntouched (hservices s hs) w response).bind fun action => ?_
    cases action with
    | «continue» next => exact ih (fun ms' hms' => hmem ms' (List.mem_cons_of_mem _ hms')) next
    | respond http => exact Action.keeps_pure _

/-! ## A whole request -/

variable (d)

def Calls (r : Exchange W) (name : String) : Prop :=
  ∃ routeId, d.proxy.router.resolve r.request.path = some { kind := .microService, moduleName := name, routeId }

def startedAt (s : State) (r : Exchange W) : Option (String × DownstreamPlugin W) :=
  match d.proxy.enter r.world (r.context s) with
  | (.ok (.request _ 0 _), ctx₁) => ctx₁.targetFrontend.bind fun name => (d.frontendNamed name).map (name, ·)
  | _ => none

/-- What a request leaves of the keys: a frontend starts a flow, a return from
discovery resumes one, or they stay as they were found. -/
inductive Served (ks : List String) (s : State) (r : Exchange W) (t : State) : Prop
  | quiet : d.startedAt s r = none → (r.context s).state.Retains ks t → Served ks s r t
  | started {name routeId : String} {f : DownstreamPlugin W} {request : InternalData} {pin : Option String}
      {ctx₁ : Context} :
      d.proxy.router.resolve r.request.path = some { kind := .frontend, moduleName := name, routeId } →
      d.frontendNamed name = some f →
      (f.frontend d.lib).handleEndpoint r.world routeId (Proxy.toFrontend name (r.context s)) =
        (.ok (.startAuth request pin), ctx₁) →
      d.startedAt s r = some (name, f) →
      (Proxy.noteFrontend name (Proxy.noteRequester request ctx₁)).state.Retains ks t → Served ks s r t
  | resumed {disco : DiscoToTargetIssuer} {issuer name : String} {snapshot : Json} {request : InternalData} :
      .disco disco ∈ d.services → d.Calls r disco.name → r.request.query.get "entityID" = some issuer →
      isValidEntityId issuer = true → disco.allows request issuer = true →
      (r.context s).state.getValue disco.stateNamespace KEY_SNAPSHOT = some snapshot →
      DiscoToTargetIssuer.snapshotRequest snapshot = some request →
      ((snapshot.field "target_frontend").bind Json.asStr).or (Proxy.recordedFrontend (r.context s)) = some name →
      d.startedAt s r = none →
      (r.context s).state.Retains ks (disco.resumed issuer snapshot (r.context s)).state →
      NamespaceKept STATE_KEY_BASE (r.context s) (disco.resumed issuer snapshot (r.context s)) →
      (Proxy.noteRequester request (Proxy.noteFrontend name
        (Proxy.toFrontend name (disco.resumed issuer snapshot (r.context s))))).state.Retains ks t → Served ks s r t

variable {d} {ks : List String} {s t u : State} {r : Exchange W}

/-- A frontend's endpoint leaves the frontend of the request, and a state of
objects. -/
theorem endpoint_kept (f : DownstreamPlugin W) (lib : OpLibrary) (w : W) (routeId : String) :
    Action.Keeps (KeyKept []) ((f.frontend lib).handleEndpoint w routeId) := by
  have hall : ∀ ns keys decorations, Permits (KeyKept []) ns keys decorations := fun ns keys decorations =>
    keyKept_spares ns keys decorations fun _ _ hmem => by cases hmem
  exact endpoint_keeps (downstream_free hall f)
    (fun ctx v => ⟨State.Tame.setStr ctx.state v (by simp), rfl⟩) lib w routeId

theorem noted_retains (hrequester : KEY_REQUESTER ∉ ks) (htarget : KEY_TARGET_FRONTEND ∉ ks) (name : String)
    (request : InternalData) (ctx : Context) :
    ctx.state.Retains ks (Proxy.noteFrontend name (Proxy.noteRequester request ctx)).state ∧
      ctx.state.Retains ks (Proxy.noteRequester request (Proxy.noteFrontend name ctx)).state := by
  have hnote : ∀ ctx : Context, ctx.state.Retains ks (Proxy.noteRequester request ctx).state := by
    intro ctx
    unfold Proxy.noteRequester
    cases request.requester with
    | none => exact .of_tame (.refl _)
    | some requester => exact .of_tame (.setStr ctx.state requester hrequester)
  have hname : ∀ ctx : Context, ctx.state.Retains ks (Proxy.noteFrontend name ctx).state := fun ctx =>
    .of_tame (.setStr ctx.state name htarget)
  exact ⟨(hnote ctx).trans (hname _), (hname ctx).trans (hnote _)⟩

theorem startedAt_named {name : String} {f : DownstreamPlugin W} (h : d.startedAt s r = some (name, f)) :
    d.frontendNamed name = some f := by
  unfold startedAt at h
  split at h
  · obtain ⟨name', _, hnamed⟩ := Option.bind_eq_some_iff.mp h
    obtain ⟨f', hf', hpair⟩ := Option.map_eq_some_iff.mp hnamed
    cases hpair
    exact hf'
  · cases h

theorem Served.trans (h : d.Served ks s r t) (h' : t.Retains ks u) : d.Served ks s r u := by
  cases h with
  | quiet hstarted hkept => exact .quiet hstarted (hkept.trans h')
  | started hroute hnamed hrun hstarted hkept => exact .started hroute hnamed hrun hstarted (hkept.trans h')
  | resumed hmem hcalls hquery hvalid hallows hsnapshot hrequest hname hstarted hleft hbase hkept =>
    exact .resumed hmem hcalls hquery hvalid hallows hsnapshot hrequest hname hstarted hleft hbase (hkept.trans h')

/-- A service that resumes a request is one the browser returns to from discovery. -/
theorem resume_served (hks : ∀ key ∈ pluginKeys, key ∉ ks) (hnone : d.startedAt s r = none)
    {name routeId origin : String} {idx : Nat} {ms : MicroService W} {request : InternalData} {ctx' : Context}
    (hroute : d.proxy.router.resolve r.request.path = some { kind := .microService, moduleName := name, routeId })
    (hfound : d.proxy.servicePosition name = some (idx, ms))
    (hresumes : ms.handleEndpoint r.world routeId (r.context s) = (.ok (.resumeRequest request), ctx'))
    (horigin : ctx'.targetFrontend.or (Proxy.recordedFrontend ctx') = some origin) :
    d.Served ks s r
      (Proxy.noteRequester request (Proxy.noteFrontend origin (Proxy.toFrontend origin ctx'))).state := by
  have hmem := Proxy.servicePosition_mem hfound
  have hms : ms ∈ d.proxy.microservices := List.mem_of_getElem? hmem.1
  have hleft : KeyTame ks (r.context s) ctx' :=
    ((d.others_keyTame hks).serviceEndpoint ms hms r.world routeId).apply hresumes
  obtain ⟨svc, hsvc, rfl⟩ := service_found hms
  obtain ⟨disco, rfl, hdisco⟩ := service_resumesRequest hresumes
  rcases disco.handleEndpoint_run routeId (r.context s) with
    ⟨issuer, snapshot, request', hquery, hvalid, hsnapshot, hrequest, hallows, hrun'⟩ | ⟨_, hrun'⟩ | ⟨_, _, _, _, hrun'⟩
  · rw [hrun'] at hdisco
    cases hdisco
    have hretains : (r.context s).state.Retains ks (disco.resumed issuer snapshot (r.context s)).state := .of_tame hleft
    have hcalls : d.Calls r disco.name := ⟨routeId, by
      have hname : disco.name = name := hmem.2
      rw [hname]
      exact hroute⟩
    have hbase : NamespaceKept STATE_KEY_BASE (r.context s) (disco.resumed issuer snapshot (r.context s)) :=
      (serviceEndpoint_keeps namespaceKept_reroutes (Service.namespaceKept_base _) r.world routeId).apply hresumes
    have hrecorded : Proxy.recordedFrontend (disco.resumed issuer snapshot (r.context s)) =
        Proxy.recordedFrontend (r.context s) := State.getStr_congr (hbase KEY_TARGET_FRONTEND)
    have horigin' : ((snapshot.field "target_frontend").bind Json.asStr).or
        (Proxy.recordedFrontend (r.context s)) = some origin := by
      rw [← hrecorded]
      exact horigin
    exact .resumed hsvc hcalls hquery hvalid hallows hsnapshot hrequest horigin' hnone hretains hbase
      ⟨id, fun _ => .inl fun _ _ => rfl⟩
  · rw [hrun'] at hdisco
    cases hdisco
  · rw [hrun'] at hdisco
    cases hdisco

theorem enter_served (d : Deployment W) (hks : ∀ key ∈ pluginKeys, key ∉ ks) (s : State) (r : Exchange W) :
    d.Served ks s r (d.proxy.enter r.world (r.context s)).2.state := by
  have hentered := d.proxy.enter_entered r.world (r.context s)
  have hothers := d.others_keyTame hks
  have hquiet : ∀ {out : Except Error Stage} {ctx' : Context}, d.proxy.enter r.world (r.context s) = (out, ctx') →
      (∀ request pin, out ≠ .ok (.request request 0 pin)) → KeyTame ks (r.context s) ctx' →
      d.Served ks s r ctx'.state := by
    intro out ctx' hrun hout htame
    refine .quiet ?_ (.of_tame htame)
    unfold startedAt
    rw [hrun]
    split
    next request pin ctx₁ heq => exact absurd (congrArg Prod.fst heq) (hout request pin)
    next => rfl
  have hbackend : ∀ {name routeId : String} {b : Backend W} {result : Except Error BackendAction} {ctx' : Context},
      d.proxy.backends.get name = some b →
      b.handleEndpoint r.world routeId (Proxy.toBackend name (r.context s)) = (result, ctx') →
      KeyTame ks (r.context s) ctx' := by
    intro name routeId b result ctx' hget hb
    have htame : KeyTame ks (Proxy.toBackend name (r.context s)) ctx' :=
      (hothers.backendEndpoint name b hget r.world routeId).apply hb
    exact htame
  have hservice : ∀ {name routeId : String} {idx : Nat} {ms : MicroService W}
      {result : Except Error MicroServiceAction} {ctx' : Context},
      d.proxy.servicePosition name = some (idx, ms) →
      ms.handleEndpoint r.world routeId (r.context s) = (result, ctx') → KeyTame ks (r.context s) ctx' := by
    intro name routeId idx ms result ctx' hfound hms
    have hmem : ms ∈ d.proxy.microservices := List.mem_of_getElem? (Proxy.servicePosition_mem hfound).1
    exact (hothers.serviceEndpoint ms hmem r.world routeId).apply hms
  have hrefl : KeyTame ks (r.context s) (r.context s) := Action.Frame.refl _
  generalize hrun : d.proxy.enter r.world (r.context s) = out at hentered
  cases hentered with
  | unrouted => exact hquiet hrun (fun _ _ h => by cases h) hrefl
  | unknownFrontend => exact hquiet hrun (fun _ _ h => by cases h) hrefl
  | unknownBackend => exact hquiet hrun (fun _ _ h => by cases h) hrefl
  | unknownService => exact hquiet hrun (fun _ _ h => by cases h) hrefl
  | @frontendFails name routeId f e ctx' hroute hget hfails =>
    obtain ⟨down, _, rfl, _⟩ := frontend_found hget
    have hleft := down.handleEndpoint_leaves d.lib r.world routeId (Proxy.toFrontend name (r.context s))
    rw [hfails] at hleft
    cases hleft
    exact hquiet hrun (fun _ _ h => by cases h) hrefl
  | @frontendAnswers name routeId f response ctx' hroute hget hanswers =>
    obtain ⟨down, _, rfl, _⟩ := frontend_found hget
    have hleft := down.handleEndpoint_leaves d.lib r.world routeId (Proxy.toFrontend name (r.context s))
    rw [hanswers] at hleft
    obtain ⟨rfl, _⟩ := hleft
    exact hquiet hrun (fun _ _ h => by cases h) hrefl
  | @frontendStarts name routeId f request pin ctx' hroute hget hstarts =>
    rw [d.frontends_get] at hget
    obtain ⟨down, hnamed, rfl⟩ := Option.map_eq_some_iff.mp hget
    have hkept := (endpoint_kept down d.lib r.world routeId).apply hstarts
    refine .started hroute hnamed hstarts ?_ ⟨id, fun _ => .inl fun _ _ => rfl⟩
    have hframe : (Proxy.noteFrontend name (Proxy.noteRequester request ctx')).targetFrontend = some name := by
      have hsame : (Proxy.noteRequester request ctx').targetFrontend = ctx'.targetFrontend := by
        unfold Proxy.noteRequester
        cases request.requester <;> rfl
      exact hsame.trans hkept.targetFrontend
    unfold startedAt
    simp only [hrun, hframe, Option.bind_some, hnamed, Option.map_some]
  | backendFails hroute hget hb => exact hquiet hrun (fun _ _ h => by cases h) (hbackend hget hb)
  | backendAnswers hroute hget hb => exact hquiet hrun (fun _ _ h => by cases h) (hbackend hget hb)
  | backendUnclaimed hroute hget hb => exact hquiet hrun (fun _ _ h => by cases h) (hbackend hget hb)
  | @backendResponds name routeId origin b response ctx' hroute hget hb =>
    have htame : KeyTame ks (r.context s) ctx' := hbackend hget hb
    exact hquiet hrun (fun _ _ h => by cases h) htame
  | serviceFails hroute hfound hms => exact hquiet hrun (fun _ _ h => by cases h) (hservice hfound hms)
  | serviceAnswers hroute hfound hms => exact hquiet hrun (fun _ _ h => by cases h) (hservice hfound hms)
  | serviceUnclaimed hroute hfound hms => exact hquiet hrun (fun _ _ h => by cases h) (hservice hfound hms)
  | serviceResumesResponse hroute hfound hms => exact hquiet hrun (fun _ _ h => by cases h) (hservice hfound hms)
  | @serviceResumesRequest name routeId origin idx ms request ctx' hroute hfound hresumes horigin =>
    have hnone : d.startedAt s r = none := by
      unfold startedAt
      rw [hrun]
      split
      next heq => cases heq
      next => rfl
    exact resume_served hks hnone hroute hfound hresumes horigin

theorem reach_served (d : Deployment W) (hks : ∀ key ∈ pluginKeys, key ∉ ks) (s : State) (r : Exchange W) :
    d.Served ks s r (d.proxy.reach r.world (r.context s)).2.state := by
  have hentered := d.enter_served hks s r
  unfold Proxy.reach
  rcases hrun : d.proxy.enter r.world (r.context s) with ⟨e | stage, ctx⟩
  · rw [Action.bind_of_error hrun]
    rw [hrun] at hentered
    exact hentered
  · rw [Action.bind_of_ok hrun]
    rw [hrun] at hentered
    have htame := (d.others_keyTame hks).advance_services (q := d.proxy) r.world keyTame_targets rfl stage ctx
    exact hentered.trans (.of_tame htame)

theorem serve_served (d : Deployment W) (statusHint : Error → Nat) (hks : ∀ key ∈ pluginKeys, key ∉ ks) (s : State)
    (r : Exchange W) : d.Served ks s r (d.proxy.serve statusHint s r) := by
  have hreached := d.reach_served hks s r
  rw [d.serve_eq, Proxy.dispatch_eq]
  rcases hrun : d.proxy.reach r.world (r.context s) with ⟨e | outcome, ctx⟩
  · rw [Action.bind_of_error hrun]
    rw [hrun] at hreached
    exact hreached
  · rw [Action.bind_of_ok hrun]
    rw [hrun] at hreached
    cases outcome with
    | answered response => exact hreached
    | start backend request =>
      obtain ⟨_, _, _, _, _, name, _, _, _, hget, _⟩ := Proxy.reach_start hrun
      have htame := (d.others_keyTame hks).startAuth name backend hget r.world request ctx
      exact hreached.trans (.of_tame htame)
    | deliver frontend response =>
      obtain ⟨_, _, _, _, name, _, _, _, hget, _⟩ := Proxy.reach_deliver hrun
      obtain ⟨down, _, rfl, _⟩ := frontend_found hget
      have hclears : Permits (KeyTame ks) down.name [] [] := keyTame_spares _ _ _ fun _ hmem => by cases hmem
      have hkeeps : Action.Keeps (KeyTame ks) ((down.frontend d.lib).handleAuthnResponse r.world response) :=
        authnResponse_keeps hclears d.lib r.world response
      show d.Served ks s r (((down.frontend d.lib).handleAuthnResponse r.world response >>= _) ctx).2.state
      rcases hrendered : (down.frontend d.lib).handleAuthnResponse r.world response ctx with ⟨e | rendered, ctx'⟩
      · rw [Action.bind_of_error hrendered]
        exact hreached.trans (.of_tame (hkeeps.apply hrendered))
      · rw [Action.bind_of_ok hrendered]
        have hkept : ctx.state.Retains ks ctx'.state := .of_tame (hkeeps.apply hrendered)
        exact hreached.trans ⟨hkept.objects, hkept.value⟩

/-- **Entering the response leg** leaves the keys, and finds the frontend the
core's namespace records, with the answer of a backend, or the one of the
snapshot of an accepted step-up, with the response kept there. -/
theorem enter_response (d : Deployment W) (ks : List String) (hks : ∀ key ∈ pluginKeys, key ∉ ks) {s : State}
    (hs : s.Objects) {r : Exchange W} {response : InternalData} {startIndex : Nat} {ctx₁ : Context} {name : String}
    (h : d.proxy.enter r.world (r.context s) = (.ok (.response response startIndex), ctx₁))
    (hname : ctx₁.targetFrontend.or (Proxy.recordedFrontend ctx₁) = some name) :
    (r.context s).state.Retains ks ctx₁.state ∧
      ((Proxy.recordedFrontend ctx₁ = some name ∧ ∃ up ∈ d.backends, ∃ routeId ctx ctx' data,
          up.backend.handleEndpoint r.world routeId ctx = (.ok (.authResponse data), ctx') ∧
          response.requester = data.requester.or ctx₁.requester) ∨
        (NamespaceKept STATE_KEY_BASE (r.context s) ctx₁ ∧ ∃ p view snapshot data, .stepup p view ∈ d.services ∧
          d.Calls r p.name ∧ p.snapshot (r.context s) = .ok snapshot ∧
          (p.saml.handleEndpoint (view r.world) "acs" (r.context s)).1 = .ok (.authResponse data) ∧
          snapshot.targetFrontend.or (Proxy.recordedFrontend (r.context s)) = some name ∧
          response.requester = snapshot.response.requester)) := by
  have hentered := d.proxy.enter_entered r.world (r.context s)
  rw [h] at hentered
  cases hentered with
  | @backendResponds moduleName routeId origin b data ctx' hroute hgetb hanswers horigin =>
    obtain ⟨up, hup, rfl, _⟩ := backend_found hgetb
    have hleft : KeyKept ks (Proxy.toBackend moduleName (r.context s)) ctx' :=
      (backendEndpoint_keeps (keyKept_spares.upstream hks up) r.world routeId).apply hanswers
    have hnone : ctx'.targetFrontend = none := hleft.targetFrontend
    rw [hnone, Option.or_none] at horigin
    have hsame : origin = name := Option.some.inj hname
    rw [← hsame]
    exact ⟨.of_tame hleft.tame, .inl ⟨horigin, up, hup, routeId, _, ctx', data, hanswers, rfl⟩⟩
  | @serviceResumesResponse moduleName routeId idx ms _ ctx' hroute hfound hresumes =>
    have hposition := Proxy.servicePosition_mem hfound
    have hmem : ms ∈ d.proxy.microservices := List.mem_of_getElem? hposition.1
    have hleft : KeyTame ks (r.context s) ctx₁ :=
      ((d.others_keyTame hks).serviceEndpoint ms hmem r.world routeId).apply hresumes
    obtain ⟨svc, hsvc, rfl⟩ := service_found hmem
    have hbase : NamespaceKept STATE_KEY_BASE (r.context s) ctx₁ :=
      (serviceEndpoint_keeps namespaceKept_reroutes (Service.namespaceKept_base _) r.world routeId).apply hresumes
    obtain ⟨p, view, rfl, hacs⟩ := service_resumesResponse hresumes
    have hrecorded : Proxy.recordedFrontend ctx₁ = Proxy.recordedFrontend (r.context s) :=
      State.getStr_congr (hbase KEY_TARGET_FRONTEND)
    have hobjects : (r.context s).state.Objects := hs.carried r.envelope
    rcases p.handleAcs_cases (view r.world) hobjects with
      ⟨e, _, hfail, _⟩ | ⟨snapshot, data, internal, assurance, ctx'', hsnapshot, haccepts, _, _, hok, _, _, hfrontend⟩
    · rw [hfail] at hacs
      cases hacs
    · rw [hok] at hacs
      cases hacs
      have hcalls : d.Calls r p.name := ⟨routeId, by
        have hpname : p.name = moduleName := hposition.2
        rw [hpname]
        exact hroute⟩
      rw [hfrontend, hrecorded] at hname
      exact ⟨.of_tame hleft, .inr ⟨hbase, p, view, snapshot, data, hsvc, hcalls, hsnapshot, haccepts, hname, rfl⟩⟩

end Deployment

end Tunnelbana
