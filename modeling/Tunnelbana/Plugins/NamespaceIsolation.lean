/-
What a frontend stored is what it reads back. `Stored` follows a frontend's
namespace as its own calls leave it: its endpoint, and the rendering of a
response. The invariant is that the state holds the same (`Agrees`): no call
of a backend, a service or another frontend touches it (`Elsewhere`), where no
backend and no service keeps its state under the frontend's name.
-/
import Tunnelbana.Basis.Run
import Tunnelbana.Plugins.Deployment

namespace Tunnelbana

open Basis

def Elsewhere (n : String) (ctx ctx' : Context) : Prop := ctx'.state.get n = ctx.state.get n

instance (n : String) : Action.Frame (Elsewhere n) where
  refl _ := rfl
  trans h h' := Eq.trans h' h

theorem State.get_setValue_other (s : State) {ns n key : String} (value : Json) (hne : ns ≠ n) :
    (s.setValue ns key value).get n = s.get n := Assoc.get_put_other _ _ hne

theorem State.get_clearNamespace_other (s : State) {ns n : String} (hne : ns ≠ n) :
    (s.clearNamespace ns).get n = s.get n := by
  show Assoc.get n (Assoc.erase ns s.data) = Assoc.get n s.data
  rw [Assoc.get_erase, if_neg hne]

theorem elsewhere_permits {ns n : String} (hne : ns ≠ n) (keys decorations : List String) :
    Permits (Elsewhere n) ns keys decorations where
  setValue ctx _ value _ := ctx.state.get_setValue_other value hne
  clear ctx := ctx.state.get_clearNamespace_other hne
  decorate _ _ _ _ := rfl
  undecorate _ _ _ := rfl

theorem elsewhere_reroutes (n : String) : Reroutes (Elsewhere n) := fun _ _ _ _ => rfl

theorem elsewhere_own {n : String} (hbase : n ≠ STATE_KEY_BASE) : Proxy.OwnWritesKeep (Elsewhere n) where
  targetFrontend _ _ := rfl
  targetBackend _ _ := rfl
  base ctx _ value := ctx.state.get_setValue_other (.str value) (Ne.symm hbase)

theorem Service.elsewhere_permitted {W : Type} {n : String} {s : Service W}
    (hnone : n ∉ s.namespaces) : s.Permitted (Elsewhere n) := by
  cases s with
  | disco s =>
    have hne : s.stateNamespace ≠ n := fun he => hnone (by simp [Service.namespaces, he])
    exact elsewhere_permits hne _ _
  | accr s =>
    have hne : s.stateNamespace ≠ n := fun he => hnone (by simp [Service.namespaces, he])
    exact elsewhere_permits hne _ _
  | stepup s view =>
    have hown : s.stateNamespace ≠ n := fun he => hnone (by simp [Service.namespaces, he])
    have hsaml : s.saml.stateNamespace ≠ n := fun he => hnone (by simp [Service.namespaces, he])
    exact ⟨elsewhere_permits hown _ _, elsewhere_permits hsaml _ _⟩
  | transform t => exact trivial

namespace Deployment

variable {W : Type} (d : Deployment W) (n : String)

/-- No other plugin keeps its state under the name. -/
structure Separate : Prop where
  base : n ≠ STATE_KEY_BASE
  backends : ∀ b ∈ d.backends, b.name ≠ n
  services : ∀ s ∈ d.services, n ∉ s.namespaces

variable {d n}

theorem Separate.downstream {f : DownstreamPlugin W} (hne : f.name ≠ n) : f.Permitted (Elsewhere n) := by
  cases f with
  | saml f view => exact elsewhere_permits hne _ _
  | oidc f view => exact elsewhere_permits hne _ _
  | federation f view => exact elsewhere_permits hne _ _

/-- **No call of a backend or a service touches the namespace.** -/
theorem Separate.others_keep (h : d.Separate n) : d.headless.proxy.PluginsKeep (Elsewhere n) := by
  refine pluginsKeep (fun ctx ctx' hu => congrArg (State.get · n) hu.state) (elsewhere_reroutes n)
    (fun ctx v => (elsewhere_own h.base).base ctx KEY_NAME_ID_FORMAT v) (fun f hf => by cases hf) (fun b hb => ?_) (fun s hs => ?_)
  · have hne := h.backends b hb
    cases b with
    | saml b own ordinary view => exact elsewhere_permits hne _ _
    | oidc b view => exact elsewhere_permits hne _ _
    | federation b view => exact elsewhere_permits hne _ _
  · exact Service.elsewhere_permitted (h.services s hs)

theorem Separate.frontend_keeps (h : d.Separate n) {name : String} {f : Frontend W}
    (hf : d.proxy.frontends.get name = some f) (hne : name ≠ n) (w : W) :
    (∀ routeId, Action.Keeps (Elsewhere n) (f.handleEndpoint w routeId)) ∧
      ∀ response, Action.Keeps (Elsewhere n) (f.handleAuthnResponse w response) := by
  obtain ⟨down, _, rfl, hname⟩ := frontend_found hf
  have hpermitted : down.Permitted (Elsewhere n) := Separate.downstream (hname ▸ hne)
  exact ⟨fun routeId => endpoint_keeps hpermitted
    (fun ctx v => (elsewhere_own h.base).base ctx KEY_NAME_ID_FORMAT v) d.lib w routeId,
    fun response => authnResponse_keeps hpermitted.clears d.lib w response⟩

end Deployment

/-! ## The ledger -/

/-- The state, and the namespace of a frontend as that frontend last left it. -/
structure Stored where
  state : State
  stored : Option Json := none

namespace Deployment

variable {W : Type} (d : Deployment W) (statusHint : Error → Nat) (n : String)

def opened (l : Stored) (r : Exchange W) : Option Json :=
  match r.envelope with
  | none => none
  | some _ => if l.state.delete then none else l.stored

def lastStored (l : Stored) (r : Exchange W) : Option Json :=
  match d.proxy.router.resolve r.request.path with
  | some { kind := .frontend, moduleName, routeId } =>
    if moduleName = n then
      match d.proxy.frontends.get n with
      | some f => (f.handleEndpoint r.world routeId (Proxy.toFrontend n (r.context l.state))).2.state.get n
      | none => opened l r
    else opened l r
  | _ => opened l r

/-- A request, and what the frontend leaves when it renders the response. -/
def storeStep (l : Stored) (r : Exchange W) : Stored where
  state := d.proxy.serve statusHint l.state r
  stored :=
    match d.proxy.reach r.world (r.context l.state) with
    | (.ok (.deliver frontend _), _) =>
      if frontend.name = n then (d.proxy.serve statusHint l.state r).get n else d.lastStored n l r
    | _ => d.lastStored n l r

/-- A response finds the namespace as the frontend left it, and a request
leaves it so. -/
def ReadsBack (l : Stored) (r : Exchange W) : Prop :=
  (∀ frontend response ctx, d.proxy.reach r.world (r.context l.state) = (.ok (.deliver frontend response), ctx) →
    frontend.name = n → ctx.state.get n = d.lastStored n l r) ∧
  (d.proxy.serve statusHint l.state r).get n = (d.storeStep statusHint n l r).stored

def Agrees (l : Stored) : Prop := l.state.get n = l.stored

variable {d statusHint n}

theorem Agrees.opened {l : Stored} (h : Agrees n l) (r : Exchange W) :
    (r.context l.state).state.get n = Deployment.opened l r := by
  show (l.state.carried r.envelope).get n = _
  unfold Deployment.opened State.carried
  cases r.envelope with
  | none => rfl
  | some iat =>
    simp only
    split
    · rfl
    · exact h

/-- **Entering a request leaves the namespace as the frontend left it.** -/
theorem Separate.enter_stores (hs : d.Separate n) {l : Stored} (h : Agrees n l) (r : Exchange W) :
    (d.proxy.enter r.world (r.context l.state)).2.state.get n = d.lastStored n l r := by
  have hopened := h.opened r
  have own := elsewhere_own hs.base
  unfold lastStored Proxy.enter
  simp only [Flow.context, Action.read_bind_run]
  have hpath : (r.context l.state).path = r.request.path := rfl
  rw [hpath]
  cases d.proxy.router.resolve r.request.path with
  | none => exact hopened
  | some m =>
    obtain ⟨kind, name, routeId⟩ := m
    rw [Action.orFail_some, Action.pure_bind_run]
    cases kind with
    | backend => exact (hs.others_keep.enterBackend r.world own name routeId (r.context l.state)).trans hopened
    | microService =>
      exact (hs.others_keep.enterMicroService r.world own name routeId (r.context l.state)).trans hopened
    | frontend =>
      show (d.proxy.enterFrontend r.world name routeId (r.context l.state)).2.state.get n = _
      cases hget : d.proxy.frontends.get name with
      | none =>
        have hsame : (d.proxy.enterFrontend r.world name routeId (r.context l.state)).2.state =
            (r.context l.state).state := by
          unfold Proxy.enterFrontend
          rw [hget]
          rfl
        rw [hsame, hopened]
        simp only
        by_cases hname : name = n
        · rw [if_pos hname, ← hname, hget]
        · rw [if_neg hname]
      | some f =>
        have hafter := own.enterFrontend r.world hget routeId (r.context l.state)
        simp only
        by_cases hname : name = n
        · rw [if_pos hname, ← hname, hget]
          rw [← hname] at hafter
          exact hafter
        · rw [if_neg hname]
          exact hafter.trans (((hs.frontend_keeps hget hname r.world).1 routeId _).trans hopened)

theorem Separate.reach_stores (hs : d.Separate n) {l : Stored} (h : Agrees n l) (r : Exchange W) :
    (d.proxy.reach r.world (r.context l.state)).2.state.get n = d.lastStored n l r := by
  have hentered := hs.enter_stores h r
  have own := elsewhere_own hs.base
  unfold Proxy.reach
  rcases hrun : d.proxy.enter r.world (r.context l.state) with ⟨e | stage, ctx⟩
  · rw [Action.bind_of_error hrun]
    rw [hrun] at hentered
    exact hentered
  · rw [Action.bind_of_ok hrun]
    rw [hrun] at hentered
    exact (hs.others_keep.advance_services (q := d.proxy) r.world own.targets rfl stage ctx).trans hentered

/-- **So does the request as a whole**, what the frontend renders apart. -/
theorem Separate.readsBack (hs : d.Separate n) {l : Stored} (h : Agrees n l) (r : Exchange W) :
    d.ReadsBack statusHint n l r := by
  have hreached := hs.reach_stores h r
  refine ⟨fun frontend response ctx hreach _ => ?_, ?_⟩
  · rw [hreach] at hreached
    exact hreached
  · show (d.proxy.serve statusHint l.state r).get n = (match d.proxy.reach r.world (r.context l.state) with
      | (.ok (.deliver frontend _), _) =>
        if frontend.name = n then (d.proxy.serve statusHint l.state r).get n else d.lastStored n l r
      | _ => d.lastStored n l r)
    have hserve : d.proxy.serve statusHint l.state r =
        ((d.proxy.reach r.world >>= Proxy.conclude r.world) (r.context l.state)).2.state := by
      rw [d.serve_eq, Proxy.dispatch_eq]
    rcases hrun : d.proxy.reach r.world (r.context l.state) with ⟨e | outcome, ctx⟩
    · rw [hserve, Action.bind_of_error hrun]
      rw [hrun] at hreached
      exact hreached
    · rw [hrun] at hreached
      rw [Action.bind_of_ok hrun] at hserve
      cases outcome with
      | answered response =>
        rw [hserve]
        exact hreached
      | start backend request =>
        rw [hserve]
        obtain ⟨_, _, _, _, _, name, _, _, _, hget, _⟩ := Proxy.reach_start hrun
        exact (hs.others_keep.startAuth name backend hget r.world request ctx).trans hreached
      | deliver frontend response =>
        simp only
        by_cases hname : frontend.name = n
        · rw [if_pos hname]
        · rw [if_neg hname, hserve]
          obtain ⟨_, _, _, _, name, _, _, _, hget, _⟩ := Proxy.reach_deliver hrun
          obtain ⟨down, _, rfl, hdown⟩ := frontend_found hget
          have hne : name ≠ n := by
            rw [← hdown, ← down.frontend_name d.lib]
            exact hname
          have hcomplete : ∀ ctx : Context, Elsewhere n ctx (Proxy.complete ctx) := fun _ => rfl
          have hrendered : Action.Keeps (Elsewhere n) (Proxy.conclude r.world (.deliver (down.frontend d.lib) response)) :=
            ((hs.frontend_keeps hget hne r.world).2 response).bind fun _ =>
              (Action.keeps_update hcomplete).bind fun _ => Action.keeps_pure _
          exact (hrendered ctx).trans hreached

/-- **In every run a frontend finds its namespace as it last left it**, and no
backend or service call ever changes it, where none keeps its state under the
frontend's name. -/
theorem request_data_isolated (d : Deployment W) (statusHint : Error → Nat) (n : String) (h : d.Separate n)
    (s : State) (rs : List (Exchange W)) :
    d.headless.proxy.PluginsKeep (Elsewhere n) ∧
      Along (d.storeStep statusHint n) (d.ReadsBack statusHint n) { state := s, stored := s.get n } rs := by
  refine ⟨h.others_keep, ?_⟩
  have hstart : Agrees n { state := s, stored := s.get n } := rfl
  have hstep : ∀ l r, Agrees n l → True → Agrees n (d.storeStep statusHint n l r) := fun l r hl _ =>
    (h.readsBack hl r).2
  exact Along.of_invariant hstep (fun l r hl _ => h.readsBack hl r) hstart
    (Along.of_forall (fun _ _ => trivial) rs)

theorem request_data_isolated_demo :
    Along ((oidcProxy "Upstream").storeStep (fun _ => 500) "OIDC")
      ((oidcProxy "Upstream").ReadsBack (fun _ => 500) "OIDC") { state := State.new }
      [login "2", loginCallback "Upstream"] := by
  have hseparate : (oidcProxy "Upstream").Separate "OIDC" := by
    refine ⟨by decide, fun b hb => ?_, fun s hs => by cases hs⟩
    obtain rfl := List.mem_singleton.mp hb
    show "Upstream" ≠ "OIDC"
    decide
  exact (request_data_isolated _ (fun _ => 500) "OIDC" hseparate State.new _).2

/-- Behind a backend of its own name the frontend's data is gone when the
response comes back: the callback cleared it. -/
theorem sharedName_clears :
    ¬ Along ((oidcProxy "OIDC").storeStep (fun _ => 500) "OIDC")
      ((oidcProxy "OIDC").ReadsBack (fun _ => 500) "OIDC") { state := State.new }
      [login "2", loginCallback "OIDC"] := by
  intro h
  obtain ⟨_, ⟨hread, _⟩, _⟩ := h
  have hcleared := hread _ _ _ rfl rfl
  cases hcleared

end Deployment

end Tunnelbana
