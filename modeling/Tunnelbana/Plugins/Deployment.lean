/-
A proxy assembled of the built-in plugins. The three services that keep state
of their own are named; every other one transforms the data of one leg, and
is given with the law that it leaves the state and the originating frontend.

A plugin found by name is one of those configured, and a frame every
configured plugin's writes keep is kept by the whole proxy (`pluginsKeep`).
-/
import Tunnelbana.Core.CookieChain
import Tunnelbana.Core.DispatchIdentity
import Tunnelbana.Plugins.Footprint
import Tunnelbana.Plugins.OidcCorrelation

namespace Tunnelbana

open Basis

/-- A frontend, in the part of the world it sees. -/
inductive DownstreamPlugin (W : Type) where
  | saml (f : Saml2Frontend) (view : W → SamlWorld)
  | oidc (f : OidcFrontend) (view : W → OpWorld)
  | federation (f : FederationFrontend) (view : W → FederationWorld)

/-- A backend. A SAML backend keeps its state under its own name, and sends no
subject upstream. -/
inductive UpstreamPlugin (W : Type) where
  | saml (b : Saml2Backend) (own : b.stateNamespace = b.name) (ordinary : b.requestSubject = false)
      (view : W → SamlWorld)
  | oidc (b : OidcBackend) (view : W → OidcWorld)
  | federation (b : FederationBackend) (view : W → OidcWorld)

/-- What a service without state of its own leaves as it is. -/
structure Untouched (ctx ctx' : Context) : Prop where
  request : ctx'.request = ctx.request
  state : ctx'.state = ctx.state
  targetFrontend : ctx'.targetFrontend = ctx.targetFrontend

instance : Action.Frame Untouched where
  refl _ := ⟨rfl, rfl, rfl⟩
  trans h h' := ⟨h'.request.trans h.request, h'.state.trans h.state, h'.targetFrontend.trans h.targetFrontend⟩

/-- A service that transforms the data of a leg. -/
structure Transform (W : Type) where
  name : String
  processRequest : W → InternalData → Flow InternalData := fun _ data => pure data
  processResponse : W → InternalData → Flow InternalData := fun _ data => pure data
  requestUntouched : ∀ w data, Action.Keeps Untouched (processRequest w data)
  responseUntouched : ∀ w data, Action.Keeps Untouched (processResponse w data)

inductive Service (W : Type) where
  | disco (d : DiscoToTargetIssuer)
  | accr (a : Accr)
  | stepup (s : StepUp) (view : W → SamlWorld)
  | transform (t : Transform W)

namespace DownstreamPlugin

variable {W : Type}

def name : DownstreamPlugin W → String
  | .saml f _ => f.name
  | .oidc f _ => f.name
  | .federation f _ => f.name

def frontend (lib : OpLibrary) : DownstreamPlugin W → Frontend W
  | .saml f view => f.frontend view
  | .oidc f view => f.frontend lib view
  | .federation f view => f.frontend lib view

@[simp] theorem frontend_name (lib : OpLibrary) (f : DownstreamPlugin W) : (f.frontend lib).name = f.name := by
  cases f <;> rfl

def Permitted (R : Context → Context → Prop) : DownstreamPlugin W → Prop
  | .saml f _ => Permits R f.name Saml2Frontend.stateKeys Saml2Frontend.decorationKeys
  | .oidc f _ => Permits R f.name OpenidProvider.stateKeys []
  | .federation f _ => Permits R f.name OpenidProvider.stateKeys []

theorem Permitted.clears {R : Context → Context → Prop} {f : DownstreamPlugin W} (h : f.Permitted R) :
    Permits R f.name [] [] := by
  cases f with
  | saml f view => exact Permits.mono h (by simp) (by simp)
  | oidc f view => exact Permits.mono h (by simp) (by simp)
  | federation f view => exact Permits.mono h (by simp) (by simp)

end DownstreamPlugin

namespace UpstreamPlugin

variable {W : Type}

def name : UpstreamPlugin W → String
  | .saml b .. => b.name
  | .oidc b _ => b.name
  | .federation b _ => b.name

def backend : UpstreamPlugin W → Backend W
  | .saml b _ _ view => b.backend view
  | .oidc b view => b.backend view
  | .federation b view => b.backend view

@[simp] theorem backend_name (b : UpstreamPlugin W) : b.backend.name = b.name := by cases b <;> rfl

def Permitted (R : Context → Context → Prop) : UpstreamPlugin W → Prop
  | .saml b .. => Permits R b.name Saml2Backend.stateKeys Saml2Backend.decorationKeys
  | .oidc b _ => Permits R b.name RELYING_PARTY_KEYS RELYING_PARTY_DECORATIONS
  | .federation b _ => Permits R b.name RELYING_PARTY_KEYS RELYING_PARTY_DECORATIONS

end UpstreamPlugin

namespace Transform

variable {W : Type} (t : Transform W)

def microService : MicroService W where
  name := t.name
  processRequest := t.processRequest
  processResponse := t.processResponse

end Transform

namespace Service

variable {W : Type}

def microService : Service W → MicroService W
  | .disco d => d.microService
  | .accr a => a.microService
  | .stepup s view => s.microService view
  | .transform t => t.microService

def namespaces : Service W → List String
  | .disco d => [d.stateNamespace]
  | .accr a => [a.stateNamespace]
  | .stepup s _ => [s.stateNamespace, s.saml.stateNamespace]
  | .transform _ => []

def Permitted (R : Context → Context → Prop) : Service W → Prop
  | .disco d => Permits R d.stateNamespace DiscoToTargetIssuer.stateKeys DiscoToTargetIssuer.decorationKeys
  | .accr a => Permits R a.stateNamespace Accr.stateKeys Accr.decorationKeys
  | .stepup s _ => Permits R s.stateNamespace StepUp.stateKeys StepUp.decorationKeys ∧
      Permits R s.saml.stateNamespace Saml2Backend.stateKeys Saml2Backend.decorationKeys
  | .transform _ => True

end Service

structure Deployment (W : Type) where
  frontends : List (DownstreamPlugin W)
  backends : List (UpstreamPlugin W)
  services : List (Service W)
  lib : OpLibrary
  sealer : StateSealer

/-! ## Sparing keys of the state -/

/-- No protected key has a value it did not have. -/
structure State.Spared (P : String → String → Prop) (s t : State) : Prop where
  objects : s.Objects → t.Objects
  value : ∀ ns key v, P ns key → t.getValue ns key = some v → s.getValue ns key = some v

namespace State

variable {P Q : String → String → Prop} {s t u : State}

theorem Spared.refl (s : State) : Spared P s s := ⟨id, fun _ _ _ _ hv => hv⟩

theorem Spared.trans (h : Spared P s t) (h' : Spared P t u) : Spared P s u :=
  ⟨fun hs => h'.objects (h.objects hs), fun ns key v hk hv => h.value ns key v hk (h'.value ns key v hk hv)⟩

theorem Spared.mono (h : Spared P s t) (hsub : ∀ ns key, Q ns key → P ns key) : Spared Q s t :=
  ⟨h.objects, fun ns key v hk => h.value ns key v (hsub ns key hk)⟩

theorem Tame.spared (h : s.Tame P t) : Spared P s t := ⟨h.objects, fun _ _ _ hk => h.getValue_of_some hk⟩

theorem Spared.getStr (h : Spared P s t) {ns key : String} (hk : P ns key) (hv : t.getStr ns key ≠ none) :
    s.getStr ns key ≠ none := by
  obtain ⟨v, hsome⟩ := Option.ne_none_iff_exists'.mp hv
  have hvalue := h.value ns key _ hk (getStr_eq_some.mp hsome)
  rw [getStr_eq_some.mpr hvalue]
  simp

theorem Spared.kept (h : Spared P s t) {ns key : String} (hk : P ns key) (hv : t.getValue ns key ≠ none) :
    s.getValue ns key ≠ none := by
  obtain ⟨v, hsome⟩ := Option.ne_none_iff_exists'.mp hv
  rw [h.value ns key v hk hsome]
  simp

theorem spared_carried (s : State) (envelope : Option Nat) : Spared P s (s.carried envelope) := by
  refine ⟨fun hs => hs.carried envelope, fun ns key v _ hv => ?_⟩
  rcases s.getValue_carried_cases envelope with hsame | hnone
  · rwa [hsame] at hv
  · rw [hnone] at hv
    cases hv

end State

/-- The frame of the writes that spare them. -/
def Spares (P : String → String → Prop) (ctx ctx' : Context) : Prop := ctx.state.Spared P ctx'.state

instance (P : String → String → Prop) : Action.Frame (Spares P) where
  refl ctx := State.Spared.refl ctx.state
  trans h h' := State.Spared.trans h h'

section
variable {P : String → String → Prop}

theorem spares_permits {ns : String} {keys : List String} (decorations : List String)
    (h : ∀ key ∈ keys, ¬ P ns key) : Permits (Spares P) ns keys decorations where
  setValue ctx _ value hk := (State.Tame.setValue ctx.state value (h _ hk)).spared
  clear ctx := (State.Tame.clearNamespace ctx.state ns).spared
  decorate ctx _ _ _ := State.Spared.refl ctx.state
  undecorate ctx _ _ := State.Spared.refl ctx.state

theorem spares_untouched {ctx ctx' : Context} (h : Untouched ctx ctx') : Spares P ctx ctx' := by
  unfold Spares
  rw [h.state]
  exact State.Spared.refl ctx.state

theorem spares_reroutes : Reroutes (Spares P) := fun ctx _ _ _ => State.Spared.refl ctx.state

theorem spares_targets : Proxy.TargetsKeep (Spares P) :=
  ⟨fun ctx _ => State.Spared.refl ctx.state, fun ctx _ => State.Spared.refl ctx.state⟩

theorem spares_setStr {ns key : String} (h : ¬ P ns key) (ctx : Context) (v : String) :
    Spares P ctx (ctx.mapState fun s => s.setStr ns key v) := (State.Tame.setStr ctx.state v h).spared

theorem spares_complete (ctx : Context) : Spares P ctx (Proxy.complete ctx) := ⟨id, fun _ _ _ _ hv => hv⟩

end

/-! ## Plugins by name -/

theorem get_byName {α : Type} {name : α → String} {plugins : List α} {key : String} {p : α}
    (h : (byName name plugins).get key = some p) : p ∈ plugins ∧ name p = key := by
  rw [get_byName_eq] at h
  obtain ⟨i, hlast, hget⟩ := Option.bind_eq_some_iff.mp h
  have hname := (lastPosition_eq_some.mp hlast).1
  rw [List.getElem?_map, hget] at hname
  exact ⟨List.mem_of_getElem? hget, Option.some.inj hname⟩

namespace Deployment

variable {W : Type} (d : Deployment W)

def proxy : Proxy W :=
  Proxy.new (d.frontends.map (·.frontend d.lib)) (d.backends.map (·.backend)) (d.services.map (·.microService))
    d.sealer

variable {d}

/-- The configured frontend of a name, the later of two. -/
def frontendNamed (d : Deployment W) (name : String) : Option (DownstreamPlugin W) :=
  (byName DownstreamPlugin.name d.frontends).get name

theorem frontends_get (d : Deployment W) (name : String) :
    d.proxy.frontends.get name = (d.frontendNamed name).map (·.frontend d.lib) := by
  have hfold : ∀ (plugins : List (DownstreamPlugin W)) (m : Assoc (DownstreamPlugin W)) (m' : Assoc (Frontend W)),
      (∀ key, Assoc.get key m' = (Assoc.get key m).map (·.frontend d.lib)) →
      ∀ key, Assoc.get key ((plugins.map (·.frontend d.lib)).foldl (fun m p => m.put p.name p) m') =
        (Assoc.get key (plugins.foldl (fun m p => m.put p.name p) m)).map (·.frontend d.lib) := by
    intro plugins
    induction plugins with
    | nil => exact fun m m' h => h
    | cons f rest ih =>
      intro m m' h
      refine ih _ _ fun key => ?_
      rw [Assoc.get_put, Assoc.get_put, DownstreamPlugin.frontend_name]
      by_cases hname : f.name = key
      · rw [if_pos hname, if_pos hname]
        rfl
      · rw [if_neg hname, if_neg hname]
        exact h key
  exact hfold d.frontends [] [] (fun _ => rfl) name

theorem frontend_found {name : String} {f : Frontend W} (h : d.proxy.frontends.get name = some f) :
    ∃ down ∈ d.frontends, f = down.frontend d.lib ∧ down.name = name := by
  obtain ⟨hmem, hname⟩ := get_byName h
  obtain ⟨down, hdown, rfl⟩ := List.mem_map.mp hmem
  exact ⟨down, hdown, rfl, (down.frontend_name d.lib).symm.trans hname⟩

theorem backend_found {name : String} {b : Backend W} (h : d.proxy.backends.get name = some b) :
    ∃ up ∈ d.backends, b = up.backend ∧ up.name = name := by
  obtain ⟨hmem, hname⟩ := get_byName h
  obtain ⟨up, hup, rfl⟩ := List.mem_map.mp hmem
  exact ⟨up, hup, rfl, up.backend_name.symm.trans hname⟩

theorem service_found {ms : MicroService W} (h : ms ∈ d.proxy.microservices) :
    ∃ s ∈ d.services, ms = s.microService := by
  obtain ⟨s, hs, rfl⟩ := List.mem_map.mp h
  exact ⟨s, hs, rfl⟩

/-! ## What resumes -/

/-- Only a return from discovery resumes a request. -/
theorem service_resumesRequest {s : Service W} {w : W} {routeId : String} {ctx ctx' : Context} {request : InternalData}
    (h : s.microService.handleEndpoint w routeId ctx = (.ok (.resumeRequest request), ctx')) :
    ∃ disco, s = .disco disco ∧ disco.handleEndpoint routeId ctx = (.ok (.resumeRequest request), ctx') := by
  cases s with
  | disco disco => exact ⟨disco, rfl, h⟩
  | accr a => cases h
  | transform t => cases h
  | stepup p view =>
    have hrun : p.handleEndpoint (view w) routeId ctx = (.ok (.resumeRequest request), ctx') := h
    unfold StepUp.handleEndpoint at hrun
    split at hrun
    · obtain ⟨action, _, _, hserve⟩ := Action.bind_ok.mp hrun
      cases action <;> cases hserve
    split at hrun
    · unfold StepUp.handleAcs at hrun
      obtain ⟨_, _, _, hrun⟩ := Action.bind_ok.mp hrun
      obtain ⟨_, _, _, hrun⟩ := Action.bind_ok.mp hrun
      obtain ⟨action, _, _, hcomplete⟩ := Action.bind_ok.mp hrun
      cases action with
      | respond r => cases hcomplete
      | authResponse data =>
        obtain ⟨_, _, _, hcomplete⟩ := Action.bind_ok.mp hcomplete
        obtain ⟨_, _, _, hret⟩ := Action.bind_ok.mp hcomplete
        cases hret
    · cases hrun

/-- Only the answer to a step-up resumes a response. -/
theorem service_resumesResponse {s : Service W} {w : W} {routeId : String} {ctx ctx' : Context}
    {response : InternalData}
    (h : s.microService.handleEndpoint w routeId ctx = (.ok (.resumeResponse response), ctx')) :
    ∃ p view, s = .stepup p view ∧ p.handleAcs (view w) ctx = (.ok (.resumeResponse response), ctx') := by
  cases s with
  | accr a => cases h
  | transform t => cases h
  | disco disco =>
    have hrun : disco.handleEndpoint routeId ctx = (.ok (.resumeResponse response), ctx') := h
    rcases disco.handleEndpoint_cases routeId ctx with ⟨_, _, _, _, _, hok, _⟩ | ⟨_, _, hfail, _⟩
    · rw [hok] at hrun
      cases hrun
    · rw [hfail] at hrun
      cases hrun
  | stepup p view =>
    have hrun : p.handleEndpoint (view w) routeId ctx = (.ok (.resumeResponse response), ctx') := h
    unfold StepUp.handleEndpoint at hrun
    split at hrun
    · obtain ⟨action, _, _, hserve⟩ := Action.bind_ok.mp hrun
      cases action <;> cases hserve
    split at hrun
    · exact ⟨p, view, rfl, hrun⟩
    · cases hrun

/-! ## Frames -/

section
variable {R : Context → Context → Prop} [Action.Frame R]

theorem endpoint_keeps {f : DownstreamPlugin W} (hf : f.Permitted R)
    (hformat : ∀ (ctx : Context) (v : String), R ctx (ctx.mapState fun s => s.setStr STATE_KEY_BASE KEY_NAME_ID_FORMAT v))
    (lib : OpLibrary) (w : W) (routeId : String) : Action.Keeps R ((f.frontend lib).handleEndpoint w routeId) := by
  cases f with
  | saml f view => exact f.handleEndpoint_keeps (view w) hf hformat routeId
  | oidc f view => exact f.handleEndpoint_keeps lib (view w) hf routeId
  | federation f view => exact f.handleEndpoint_keeps lib (view w) hf routeId

theorem authnResponse_keeps {f : DownstreamPlugin W} (hf : Permits R f.name [] []) (lib : OpLibrary) (w : W)
    (response : InternalData) : Action.Keeps R ((f.frontend lib).handleAuthnResponse w response) := by
  cases f with
  | saml f view => exact f.handleAuthnResponse_keeps (view w) hf response
  | oidc f view => exact f.provider.handleAuthnResponse_keeps lib (view w) response
  | federation f view => exact f.provider.handleAuthnResponse_keeps lib (view w).op response

theorem backendError_keeps (f : DownstreamPlugin W) (lib : OpLibrary) (w : W) (e : Error) :
    Action.Keeps R ((f.frontend lib).handleBackendError w e) := by
  cases f with
  | saml f view => exact Action.keeps_pure _
  | oidc f view => exact f.provider.handleBackendError_keeps lib (view w) e
  | federation f view => exact f.provider.handleBackendError_keeps lib (view w).op e

theorem startAuth_keeps {b : UpstreamPlugin W} (hb : b.Permitted R) (w : W) (request : InternalData) :
    Action.Keeps R (b.backend.startAuth w request) := by
  cases b with
  | saml b own ordinary view => exact b.startAuth_keeps (view w) (own ▸ hb) request
  | oidc b view => exact b.startAuth_keeps (view w) hb request
  | federation b view => exact b.startAuth_keeps (view w) hb request

theorem backendEndpoint_keeps {b : UpstreamPlugin W} (hb : b.Permitted R) (w : W) (routeId : String) :
    Action.Keeps R (b.backend.handleEndpoint w routeId) := by
  cases b with
  | saml b own ordinary view => exact b.handleEndpoint_keeps (view w) (own ▸ hb) routeId
  | oidc b view => exact b.handleEndpoint_keeps (view w) hb routeId
  | federation b view => exact b.handleEndpoint_keeps (view w) hb routeId

variable (huntouched : ∀ ctx ctx', Untouched ctx ctx' → R ctx ctx') (hreroute : Reroutes R)

section
include huntouched

theorem processRequest_keeps {s : Service W} (hs : s.Permitted R) (w : W) (request : InternalData) :
    Action.Keeps R (s.microService.processRequest w request) := by
  cases s with
  | disco d => exact d.processRequest_keeps (hs.mono (fun _ hk => hk) (by simp)) request
  | accr a => exact a.processRequest_keeps hs request
  | stepup s view =>
    exact s.processRequest_keeps (hs.1.mono (by simp [StepUp.stateKeys]) (by simp [StepUp.decorationKeys])) request
  | transform t => exact (t.requestUntouched w request).weaken huntouched

theorem processResponse_keeps {s : Service W} (hs : s.Permitted R) (w : W) (response : InternalData) :
    Action.Keeps R (s.microService.processResponseAction w response) := by
  cases s with
  | disco d => exact (Action.keeps_pure response).bind fun next => Action.keeps_pure _
  | accr a =>
    have hclear : Permits R a.stateNamespace [] [] := Permits.mono hs (by simp) (by simp)
    exact (a.processResponse_keeps hclear response).bind fun next => Action.keeps_pure _
  | stepup s view =>
    exact s.processResponseAction_keeps (view w) (hs.1.mono (by simp [StepUp.stateKeys]) fun _ hk => hk) hs.2 response
  | transform t =>
    exact ((t.responseUntouched w response).weaken huntouched).bind fun next => Action.keeps_pure _

end

include hreroute in
theorem serviceEndpoint_keeps {s : Service W} (hs : s.Permitted R) (w : W) (routeId : String) :
    Action.Keeps R (s.microService.handleEndpoint w routeId) := by
  cases s with
  | disco d => exact d.handleEndpoint_keeps hs hreroute routeId
  | accr a => exact Action.keeps_fail _
  | stepup s view => exact s.handleEndpoint_keeps (view w) (hs.1.mono (by simp) (by simp)) hs.2 hreroute routeId
  | transform t => exact Action.keeps_fail _

include huntouched hreroute in
/-- **A frame that permits every plugin's writes is kept by every plugin.** -/
theorem pluginsKeep
    (hformat : ∀ (ctx : Context) (v : String), R ctx (ctx.mapState fun s => s.setStr STATE_KEY_BASE KEY_NAME_ID_FORMAT v))
    (hfrontends : ∀ f ∈ d.frontends, f.Permitted R)
    (hbackends : ∀ b ∈ d.backends, b.Permitted R) (hservices : ∀ s ∈ d.services, s.Permitted R) :
    d.proxy.PluginsKeep R where
  frontendEndpoint name f hf w routeId := by
    obtain ⟨down, hmem, rfl, _⟩ := frontend_found hf
    exact endpoint_keeps (hfrontends down hmem) hformat d.lib w routeId
  authnResponse name f hf w response := by
    obtain ⟨down, hmem, rfl, _⟩ := frontend_found hf
    exact authnResponse_keeps (hfrontends down hmem).clears d.lib w response
  backendError name f hf w e := by
    obtain ⟨down, hmem, rfl, _⟩ := frontend_found hf
    exact backendError_keeps down d.lib w e
  startAuth name b hb w request := by
    obtain ⟨up, hmem, rfl, _⟩ := backend_found hb
    exact startAuth_keeps (hbackends up hmem) w request
  backendEndpoint name b hb w routeId := by
    obtain ⟨up, hmem, rfl, _⟩ := backend_found hb
    exact backendEndpoint_keeps (hbackends up hmem) w routeId
  processRequest ms hms w request := by
    obtain ⟨s, hmem, rfl⟩ := service_found hms
    exact processRequest_keeps huntouched (hservices s hmem) w request
  processResponse ms hms w response := by
    obtain ⟨s, hmem, rfl⟩ := service_found hms
    exact processResponse_keeps huntouched (hservices s hmem) w response
  serviceEndpoint ms hms w routeId := by
    obtain ⟨s, hmem, rfl⟩ := service_found hms
    exact serviceEndpoint_keeps hreroute (hservices s hmem) w routeId

end

/-! A frame that permits any write. -/

section
variable {R : Context → Context → Prop} (hall : ∀ ns keys decorations, Permits R ns keys decorations)
include hall

theorem downstream_free (f : DownstreamPlugin W) : f.Permitted R := by
  cases f with
  | saml f view => exact hall _ _ _
  | oidc f view => exact hall _ _ _
  | federation f view => exact hall _ _ _

theorem upstream_free (b : UpstreamPlugin W) : b.Permitted R := by
  cases b with
  | saml b own ordinary view => exact hall _ _ _
  | oidc b view => exact hall _ _ _
  | federation b view => exact hall _ _ _

theorem service_free (s : Service W) : s.Permitted R := by
  cases s with
  | disco disco => exact hall _ _ _
  | accr a => exact hall _ _ _
  | stepup p view => exact ⟨hall _ _ _, hall _ _ _⟩
  | transform t => exact trivial

end

def headless (d : Deployment W) : Deployment W := { d with frontends := [] }

/-! ## What a request leaves -/

instance : Action.Frame (@Eq Context) where
  refl _ := rfl
  trans h h' := h.trans h'

/-- Rendering an error writes nothing. -/
theorem renderError_writes (d : Deployment W) (w : W) (statusHint : Error → Nat) (e : Error) (ctx : Context) :
    (d.proxy.renderError w statusHint e ctx).2 = ctx := by
  unfold Proxy.renderError
  split
  · rfl
  · split
    · rfl
    next frontend hfrontend =>
      obtain ⟨name, _, hget⟩ := Option.bind_eq_some_iff.mp hfrontend
      obtain ⟨f, _, rfl, _⟩ := frontend_found hget
      have hkeeps : Action.Keeps Eq ((f.frontend d.lib).handleBackendError w e) := backendError_keeps f d.lib w e
      split
      next response ctx' hrun => exact (hkeeps.apply hrun).symm
      next e' ctx' hrun => exact (hkeeps.apply hrun).symm

theorem serve_eq (d : Deployment W) (statusHint : Error → Nat) (s : State) (r : Exchange W) :
    d.proxy.serve statusHint s r = (d.proxy.dispatch r.world (r.context s)).2.state := by
  unfold Proxy.serve
  rcases hrun : d.proxy.dispatch r.world (r.context s) with ⟨e | response, ctx⟩
  · rw [Proxy.respond_of_error hrun]
    exact congrArg Context.state (d.renderError_writes r.world statusHint e ctx)
  · rw [Proxy.respond_of_ok hrun]

section
variable {P : String → String → Prop} {w : W} {ctx ctx₂ : Context}

/-- Concluding spares what the frontends and the backend it starts spare. -/
theorem conclude_spares {outcome : Outcome W} (hreach : d.proxy.reach w ctx = (.ok outcome, ctx₂))
    (hdown : ∀ f ∈ d.frontends, f.Permitted (Spares P))
    (hup : ∀ b ∈ d.backends, ∀ request, outcome = .start b.backend request → ctx₂.targetBackend = some b.name →
      b.Permitted (Spares P)) : Spares P ctx₂ (Proxy.conclude w outcome ctx₂).2 := by
  refine Proxy.conclude_keeps w spares_complete (fun backend request houtcome => ?_)
    (fun frontend response houtcome => ?_) ctx₂
  · rw [houtcome] at hreach
    obtain ⟨_, _, _, _, _, name, _, _, _, hget, hctx⟩ := Proxy.reach_start hreach
    obtain ⟨up, hmem, rfl, hname⟩ := backend_found hget
    refine startAuth_keeps (hup up hmem request houtcome ?_) w request
    rw [hctx, hname]
  · rw [houtcome] at hreach
    obtain ⟨_, _, _, _, name, _, _, _, hget, _⟩ := Proxy.reach_deliver hreach
    obtain ⟨f, hmem, rfl, _⟩ := frontend_found hget
    exact authnResponse_keeps (hdown f hmem).clears d.lib w response

/-- What a request leaves, from where its leg ended. -/
theorem serve_spared (statusHint : Error → Nat) {s : State} {r : Exchange W} {result : Except Error (Outcome W)}
    (hreach : d.proxy.reach r.world (r.context s) = (result, ctx₂))
    (hdown : ∀ f ∈ d.frontends, f.Permitted (Spares P))
    (hup : ∀ b ∈ d.backends, ∀ request, result = .ok (.start b.backend request) → ctx₂.targetBackend = some b.name →
      b.Permitted (Spares P)) : ctx₂.state.Spared P (d.proxy.serve statusHint s r) := by
  rw [d.serve_eq, Proxy.dispatch_eq]
  cases result with
  | error e =>
    rw [Action.bind_of_error hreach]
    exact State.Spared.refl _
  | ok outcome =>
    rw [Action.bind_of_ok hreach]
    exact conclude_spares hreach hdown fun b hb request houtcome => hup b hb request (by rw [houtcome])

theorem reach_entered {stage : Stage} {ctx₁ : Context} (henter : d.proxy.enter w ctx = (.ok stage, ctx₁)) :
    d.proxy.reach w ctx = d.proxy.advance w stage ctx₁ := by
  unfold Proxy.reach
  rw [Action.bind_of_ok henter]

theorem reach_fails {e : Error} {ctx₁ : Context} (henter : d.proxy.enter w ctx = (.error e, ctx₁)) :
    d.proxy.reach w ctx = (.error e, ctx₁) := by
  unfold Proxy.reach
  rw [Action.bind_of_error henter]

end

/-! ## An OpenID frontend before an OpenID backend -/

/-- One relying party, one upstream provider; the backend's name is free. -/
def oidcProxy (upstream : String) : Deployment (OpWorld × OidcWorld) where
  frontends := [.oidc { name := "OIDC" } Prod.fst]
  backends := [.oidc { name := upstream, clientId := "proxy", redirectUri := "https://proxy.example/callback"
                       issuer := some "https://op.example", authorizationEndpoint := some "https://op.example/authorize"
                       tokenEndpoint := some "https://op.example/token", jwksUri := some "https://op.example/jwks" }
    Prod.snd]
  services := []
  lib := plainLibrary
  sealer := demoSealer

def oidcWorld (n : String) : OpWorld × OidcWorld :=
  (clientOnly { clientId := "rp", redirectUris := ["https://rp.example/cb"] }, RpBackend.oneOp n)

def login (n : String) : Exchange (OpWorld × OidcWorld) :=
  { world := oidcWorld n
    request := { path := "OIDC/authorization"
                 queryPairs := [("client_id", "rp"), ("redirect_uri", "https://rp.example/cb"), ("state", "af0")] }
    envelope := none }

/-- The provider's answer to the request numbered `2`. -/
def loginCallback (upstream : String) : Exchange (OpWorld × OidcWorld) :=
  { world := oidcWorld "3"
    request := { path := upstream ++ "/callback", query := [("code", "c"), ("state", "state-2")] }
    envelope := some 0 }

end Deployment

end Tunnelbana
