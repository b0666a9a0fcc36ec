/-
Which backend a rendered response comes from. Each backend keeps its pending
exchange in its own namespace of the cookie all frontends share, so an older
flow's exchange may be answered after a newer flow was started elsewhere. The
ledger keeps the backend the recorded flow was started at and, for each
step-up, the backend whose response it keeps; they agree (`Settled`) as long as
a flow is started only where nothing of another backend is pending.
-/
import Tunnelbana.Basis.Run
import Tunnelbana.Core.FrontendPin
import Tunnelbana.Plugins.Deployment
import Tunnelbana.Plugins.SamlCorrelation
import Tunnelbana.Plugins.StepUpGuarantee

namespace Tunnelbana

open Basis

/-! ## Pending exchanges -/

/-- What makes an exchange of a backend answerable: a request id, the state of
an authorization request, the verifier of a discovery. -/
def PENDING_KEYS : List String := ["authn_id", "oidc_state", DISCOVERY_VERIFIER_KEY]

def Pending (s : State) (name : String) : Prop := ∃ key ∈ PENDING_KEYS, s.getStr name key ≠ none

theorem not_pending_cleared (s : State) (name : String) : ¬ Pending (s.clearNamespace name) name := by
  rintro ⟨key, _, hvalue⟩
  refine hvalue (State.getStr_none ?_)
  exact (State.getValue_clearNamespace _ _ _ _).trans (if_pos rfl)

theorem Pending.spared {P : String → String → Prop} {s t : State} {name : String} (h : Pending t name)
    (ht : s.Spared P t) (hP : ∀ key ∈ PENDING_KEYS, P name key) : Pending s name := by
  obtain ⟨key, hkey, hvalue⟩ := h
  exact ⟨key, hkey, ht.getStr (hP key hkey) hvalue⟩

namespace UpstreamPlugin

variable {W : Type}

/-- The backend takes a response nobody asked for, where none is pending. -/
def Unsolicited (s : State) (routeId : String) : UpstreamPlugin W → Prop
  | .saml b .. => routeId = "acs" ∧ b.allowUnsolicited = true ∧ s.getStr b.stateNamespace "authn_id" = none
  | _ => False

variable {b : UpstreamPlugin W} {w : W} {routeId : String} {ctx ctx' : Context}

/-- **Only a pending exchange is answered**, or none where none was asked for. -/
theorem answer_pending {data : InternalData}
    (h : b.backend.handleEndpoint w routeId ctx = (.ok (.authResponse data), ctx')) :
    Pending ctx.state b.name ∨ b.Unsolicited ctx.state routeId := by
  have hcallback : ∀ (p : RelyingParty) (w : OidcWorld), p.handleCallback w ctx = (.ok (.authResponse data), ctx') →
      ctx.state.getStr p.name "oidc_state" ≠ none := by
    intro p w hrun
    rcases p.handleCallback_cases w ctx with ⟨e, _, hfail, _⟩ | ⟨_, hstate, _, _⟩
    · cases hfail.symm.trans hrun
    · obtain ⟨st, hst, _⟩ := RelyingParty.checkState_ok hstate
      simp [hst]
  cases b with
  | saml b own ordinary view =>
    have hrun : b.handleEndpoint (view w) routeId ctx = (.ok (.authResponse data), ctx') := h
    unfold Saml2Backend.handleEndpoint at hrun
    split at hrun
    next hacs =>
      obtain ⟨_, _, _, m, expectedId, _, _, hexpected, _, _⟩ :=
        Saml2Backend.handleAcs_ok (congrArg Prod.fst hrun)
      cases hid : ctx.state.getStr b.stateNamespace "authn_id" with
      | some id =>
        refine .inl ⟨"authn_id", by decide, ?_⟩
        show ctx.state.getStr b.name "authn_id" ≠ none
        rw [← own, hid]
        simp
      | none =>
        refine .inr ⟨hacs, ?_, hid⟩
        simp only [Saml2Backend.expectedRequestId, hid] at hexpected
        split at hexpected
        next hallow => exact hallow
        next => cases hexpected
    next =>
      split at hrun
      · unfold Saml2Backend.handleDisco at hrun
        simp only [Flow.context, Action.read_bind_run] at hrun
        obtain ⟨_, _, hrun⟩ := Action.orFail_bind_ok.mp hrun
        obtain ⟨_, _, _, hret⟩ := Action.bind_ok.mp hrun
        cases hret
      · split at hrun
        · unfold Saml2Backend.handleMetadata at hrun
          obtain ⟨_, _, hrun⟩ := Action.lift_bind_ok.mp hrun
          cases hrun
        · cases hrun
  | oidc b view =>
    have hrun : b.handleEndpoint (view w) routeId ctx = (.ok (.authResponse data), ctx') := h
    unfold OidcBackend.handleEndpoint at hrun
    split at hrun
    · exact .inl ⟨"oidc_state", by decide, hcallback b.relyingParty (view w) hrun⟩
    · cases hrun
  | federation b view =>
    have hrun : b.handleEndpoint (view w) routeId ctx = (.ok (.authResponse data), ctx') := h
    unfold FederationBackend.handleEndpoint at hrun
    split at hrun
    · unfold FederationBackend.handleEntityConfiguration at hrun
      obtain ⟨_, _, hrun⟩ := Action.lift_bind_ok.mp hrun
      cases hrun
    split at hrun
    · unfold FederationBackend.handleInitiate at hrun
      cases hop : b.op with
      | fixed op =>
        rw [hop] at hrun
        cases hrun
      | discovery discovery =>
        rw [hop] at hrun
        simp only [Flow.context, Action.read_bind_run] at hrun
        obtain ⟨_, _, hrun⟩ := Action.lift_bind_ok.mp hrun
        obtain ⟨_, _, _, hrun⟩ := Action.bind_ok.mp hrun
        obtain ⟨_, _, _, hret⟩ := Action.bind_ok.mp hrun
        cases hret
    split at hrun
    · exact .inl ⟨"oidc_state", by decide, hcallback b.relyingParty (view w) hrun⟩
    · cases hrun

/-- **Only a discovery return at a SAML backend makes an exchange pending where
none is.** -/
theorem endpoint_pends (hdisco : routeId ≠ "disco")
    (h : Pending (b.backend.handleEndpoint w routeId ctx).2.state b.name) : Pending ctx.state b.name := by
  have hcallback : ∀ (p : RelyingParty) (w : OidcWorld), p.name = b.name →
      Pending (p.handleCallback w ctx).2.state b.name → Pending ctx.state b.name := by
    intro p w hname hpending
    rcases p.handleCallback_cases w ctx with ⟨e, ctx₁, hfail, hstate⟩ | ⟨_, _, _, hok⟩
    · rw [hfail] at hpending
      exact hstate ▸ hpending
    · rw [hok] at hpending
      exact absurd (hname ▸ hpending) (not_pending_cleared _ _)
  cases b with
  | saml b own ordinary view =>
    have hpending : Pending (b.handleEndpoint (view w) routeId ctx).2.state b.name := h
    unfold Saml2Backend.handleEndpoint at hpending
    rw [if_neg hdisco] at hpending
    split at hpending
    · rcases b.handleAcs_cases (view w) ctx with ⟨e, ctx₁, hfail, hstate⟩ | ⟨data, ctx₁, hok, hstate⟩
      · rw [hfail] at hpending
        exact hstate ▸ hpending
      · rw [hok, hstate, own] at hpending
        exact absurd hpending (not_pending_cleared _ _)
    · split at hpending
      · rcases Saml2Backend.handleMetadata_cases (view w) ctx with ⟨x, hrun, _⟩ | ⟨e, hrun⟩
        · rwa [hrun] at hpending
        · rwa [hrun] at hpending
      · exact hpending
  | oidc b view =>
    have hpending : Pending (b.handleEndpoint (view w) routeId ctx).2.state b.name := h
    unfold OidcBackend.handleEndpoint at hpending
    split at hpending
    · exact hcallback b.relyingParty (view w) rfl hpending
    · exact hpending
  | federation b view =>
    have hpending : Pending (b.handleEndpoint (view w) routeId ctx).2.state b.name := h
    unfold FederationBackend.handleEndpoint at hpending
    split at hpending
    · unfold FederationBackend.handleEntityConfiguration at hpending
      cases hconfig : (view w).entityConfiguration with
      | error e => rwa [hconfig] at hpending
      | ok jwt => rwa [hconfig] at hpending
    split at hpending
    · rcases RpBackend.initiate_state b (view w) ctx with ⟨_, hstate⟩ | ⟨_, verifier, _, hverifier, _⟩
      · exact hstate ▸ hpending
      · refine ⟨DISCOVERY_VERIFIER_KEY, by decide, ?_⟩
        show ctx.state.getStr b.name _ ≠ none
        simp [hverifier]
    split at hpending
    · exact hcallback b.relyingParty (view w) rfl hpending
    · exact hpending

end UpstreamPlugin

theorem StepUp.namespace_ne_disco (p : StepUp) (disco : DiscoToTargetIssuer) :
    p.stateNamespace ≠ disco.stateNamespace := by
  unfold StepUp.stateNamespace DiscoToTargetIssuer.stateNamespace
  intro h
  have hlist := congrArg String.toList h
  simp [String.toList_append] at hlist

theorem StepUp.keptNamespace_ne (p q : StepUp) : p.saml.stateNamespace ≠ q.stateNamespace := by
  rw [p.samlNamespace]
  unfold StepUp.stateNamespace
  intro h
  have hlist := congrArg String.toList h
  simp [String.toList_append] at hlist

/-! ## The ledger -/

/-- The state, the backend the recorded flow was started at, and by namespace
of a step-up the backend that produced the response it keeps. -/
structure BackendLedger where
  state : State
  selected : Option String := none
  producers : String → Option String := fun _ => none

namespace Service

variable {W : Type}

/-- The namespace a response is kept in for a second exchange. -/
def keeps (response : InternalData) (ctx : Context) : Service W → Option String
  | .stepup p _ => if (p.steppedUp response ctx).isSome then some p.stateNamespace else none
  | _ => none

end Service

namespace Deployment

variable {W : Type} (d : Deployment W) (statusHint : Error → Nat)

/-- Where the services of a response leg keep its response. -/
def keeper (w : W) : List (Service W) → InternalData → Context → Option String
  | [], _, _ => none
  | s :: rest, response, ctx =>
    match s.keeps response ctx with
    | some ns => some ns
    | none =>
      match s.microService.processResponseAction w response ctx with
      | (.ok (.continue next), ctx) => keeper w rest next ctx
      | _ => none

/-- The backend whose response a request goes on with: the one that answers, or
the one whose response a step-up kept. -/
def producer (l : BackendLedger) (r : Exchange W) : Option String :=
  (d.proxy.router.resolve r.request.path).bind fun m =>
    match m.kind with
    | .frontend => none
    | .backend => some m.moduleName
    | .microService => l.producers ("stepup:" ++ m.moduleName)

/-- One request. One that enters the request leg, by a start or a resume, is
recorded with the backend it selects, or with none where the leg stops. -/
def backendStep (l : BackendLedger) (r : Exchange W) : BackendLedger where
  state := d.proxy.serve statusHint l.state r
  selected :=
    match d.proxy.enter r.world (r.context l.state) with
    | (.ok (.request _ _ _), _) =>
      match d.proxy.reach r.world (r.context l.state) with
      | (.ok (.start _ _), ctx) => ctx.targetBackend
      | _ => none
    | _ => l.selected
  producers :=
    match d.proxy.enter r.world (r.context l.state) with
    | (.ok (.response response i), ctx) => fun ns =>
      if keeper r.world (d.services.drop i) response ctx = some ns then d.producer l r else l.producers ns
    | _ => l.producers

/-- What a frontend renders was produced by the backend selected for the
recorded flow. -/
def FromSelected (l : BackendLedger) (r : Exchange W) : Prop :=
  ∀ frontend response ctx', d.proxy.reach r.world (r.context l.state) = (.ok (.deliver frontend response), ctx') →
    ∃ name, d.producer l r = some name ∧ l.selected = some name

/-- A flow is started or resumed only where no other backend than the one it
selects is pending, nor a response of another one kept; a discovery returns to
the selected backend, and so does a response nobody asked for. -/
structure Undisturbed (l : BackendLedger) (r : Exchange W) : Prop where
  pending : ∀ request i pin ctx₁, d.proxy.enter r.world (r.context l.state) = (.ok (.request request i pin), ctx₁) →
    ∀ b ∈ d.backends, Pending (r.context l.state).state b.name → (d.backendStep statusHint l r).selected = some b.name
  kept : ∀ request i pin ctx₁, d.proxy.enter r.world (r.context l.state) = (.ok (.request request i pin), ctx₁) →
    ∀ p view, .stepup p view ∈ d.services → (r.context l.state).state.getValue p.stateNamespace KEY_SNAPSHOT ≠ none →
      (d.backendStep statusHint l r).selected = l.producers p.stateNamespace
  discovered : ∀ name, d.proxy.router.resolve r.request.path =
    some { kind := .backend, moduleName := name, routeId := "disco" } → l.selected = some name
  unsolicited : ∀ b ∈ d.backends, ∀ routeId, d.proxy.router.resolve r.request.path =
    some { kind := .backend, moduleName := b.name, routeId } → b.Unsolicited (r.context l.state).state routeId →
      l.selected = some b.name

/-- No backend has the name of the namespace a step-up keeps its own exchange
in. -/
def StepupsApart : Prop :=
  ∀ p view, .stepup p view ∈ d.services → ∀ b ∈ d.backends, b.name ≠ p.saml.stateNamespace

/-! ## What the plugins leave alone -/

/-- The pending exchanges of the backends but the one started. -/
def pendingElsewhere (started : Option String) (ns key : String) : Prop :=
  key ∈ PENDING_KEYS ∧ (∃ b ∈ d.backends, b.name = ns) ∧ started ≠ some ns

def keptResponses (ns key : String) : Prop :=
  key = KEY_SNAPSHOT ∧ ∃ p view, .stepup p view ∈ d.services ∧ p.stateNamespace = ns

def guarded (started : Option String) (ns key : String) : Prop := d.pendingElsewhere started ns key ∨ d.keptResponses ns key

variable {d} {started : Option String}

theorem guarded_none {ns key : String} (h : d.guarded started ns key) : d.guarded none ns key :=
  h.imp_left fun ⟨hkey, hb, _⟩ => ⟨hkey, hb, fun hnone => (by cases hnone)⟩

theorem not_guarded {ns key : String} (hpending : key ∉ PENDING_KEYS) (hkept : key ≠ KEY_SNAPSHOT) :
    ¬ d.guarded started ns key := by
  rintro (⟨hkey, _⟩ | ⟨hkey, _⟩)
  · exact hpending hkey
  · exact hkept hkey

theorem disco_unguarded (disco : DiscoToTargetIssuer) : ¬ d.guarded started disco.stateNamespace KEY_SNAPSHOT := by
  intro h
  rcases h with hpending | hkept
  · exact absurd hpending.1 (by decide)
  · obtain ⟨p, view, _, hns⟩ := hkept.2
    exact p.namespace_ne_disco disco hns

theorem saml_unguarded (h : d.StepupsApart) {p : StepUp} {view : W → SamlWorld} (hp : .stepup p view ∈ d.services) :
    ∀ key ∈ Saml2Backend.stateKeys, ¬ d.guarded started p.saml.stateNamespace key := by
  rintro key hkey (⟨_, ⟨b, hb, hname⟩, _⟩ | ⟨hsnapshot, _⟩)
  · exact h p view hp b hb hname
  · subst hsnapshot
    exact absurd hkey (by decide)

theorem downstream_spares (f : DownstreamPlugin W) : f.Permitted (Spares (d.guarded started)) := by
  have hkeys : ∀ keys : List String, (∀ key ∈ keys, key ∉ PENDING_KEYS ∧ key ≠ KEY_SNAPSHOT) →
      ∀ key ∈ keys, ¬ d.guarded started f.name key := fun keys h key hkey => not_guarded (h key hkey).1 (h key hkey).2
  cases f with
  | saml f view => exact spares_permits _ (hkeys Saml2Frontend.stateKeys (by decide))
  | oidc f view => exact spares_permits _ (hkeys OpenidProvider.stateKeys (by decide))
  | federation f view => exact spares_permits _ (hkeys OpenidProvider.stateKeys (by decide))

theorem upstream_spares (b : UpstreamPlugin W) (h : started = some b.name) :
    b.Permitted (Spares (d.guarded started)) := by
  have hkeys : ∀ keys : List String, KEY_SNAPSHOT ∉ keys → ∀ key ∈ keys, ¬ d.guarded started b.name key := by
    rintro keys hsnapshot key hkey (⟨_, _, hne⟩ | ⟨hkept, _⟩)
    · exact hne h
    · subst hkept
      exact hsnapshot hkey
  cases b with
  | saml b own ordinary view => exact spares_permits _ (hkeys Saml2Backend.stateKeys (by decide))
  | oidc b view => exact spares_permits _ (hkeys RELYING_PARTY_KEYS (by decide))
  | federation b view => exact spares_permits _ (hkeys RELYING_PARTY_KEYS (by decide))

theorem processRequest_spares (s : Service W) (w : W) (request : InternalData) :
    Action.Keeps (Spares (d.guarded started)) (s.microService.processRequest w request) := by
  cases s with
  | disco disco =>
    refine disco.processRequest_keeps (spares_permits _ fun key hkey => ?_) request
    rw [List.mem_singleton.mp hkey]
    exact disco_unguarded disco
  | accr a =>
    refine a.processRequest_keeps (spares_permits _ fun key hkey => ?_) request
    rw [List.mem_singleton.mp hkey]
    exact not_guarded (by decide) (by decide)
  | stepup p view =>
    refine p.processRequest_keeps (spares_permits _ fun key hkey => ?_) request
    rw [List.mem_singleton.mp hkey]
    exact not_guarded (by decide) (by decide)
  | transform t => exact (t.requestUntouched w request).weaken fun _ _ => spares_untouched

theorem serviceEndpoint_spares (h : d.StepupsApart) {s : Service W} (hs : s ∈ d.services) (w : W) (routeId : String) :
    Action.Keeps (Spares (d.guarded started)) (s.microService.handleEndpoint w routeId) := by
  cases s with
  | disco disco =>
    refine disco.handleEndpoint_keeps (spares_permits _ fun key hkey => ?_) spares_reroutes routeId
    rw [List.mem_singleton.mp hkey]
    exact disco_unguarded disco
  | accr a => exact Action.keeps_fail _
  | stepup p view =>
    exact p.handleEndpoint_keeps (view w) (spares_permits _ (by simp)) (spares_permits _ (saml_unguarded h hs))
      spares_reroutes routeId
  | transform t => exact Action.keeps_fail _

theorem processResponse_spares (h : d.StepupsApart) {s : Service W} (hs : s ∈ d.services) (w : W)
    (response : InternalData) :
    Action.Keeps (Spares (d.pendingElsewhere none)) (s.microService.processResponseAction w response) := by
  have hown : ∀ keys : List String, (∀ key ∈ keys, key ∉ PENDING_KEYS) → ∀ ns, ∀ key ∈ keys,
      ¬ d.pendingElsewhere none ns key := fun keys hkeys ns key hkey hp => hkeys key hkey hp.1
  refine processResponse_keeps (fun _ _ => spares_untouched) ?_ w response
  cases s with
  | disco disco => exact spares_permits _ (hown _ (by decide) _)
  | accr a => exact spares_permits _ (hown _ (by decide) _)
  | stepup p view =>
    exact ⟨spares_permits _ (hown _ (by decide) _),
      spares_permits _ fun key hkey hp => saml_unguarded h hs key hkey (Or.inl hp : d.guarded none _ _)⟩
  | transform t => exact trivial

/-! ## What a request leaves alone -/

section
variable {w : W} {ctx ctx₁ ctx₂ : Context}

/-- A request that is not a backend's makes nothing pending, and one that is,
nothing at the others. -/
theorem enter_spares (h : d.StepupsApart) (w : W) (ctx : Context)
    (hstarted : ∀ name routeId, d.proxy.router.resolve ctx.path =
      some { kind := .backend, moduleName := name, routeId } → started = some name) :
    Spares (d.guarded started) ctx (d.proxy.enter w ctx).2 := by
  have hbase : ∀ ctx key v, key = KEY_TARGET_FRONTEND ∨ key = KEY_REQUESTER ∨ key = KEY_NAME_ID_FORMAT →
      Spares (d.guarded started) ctx (ctx.mapState fun s => s.setStr STATE_KEY_BASE key v) := by
    intro ctx key v hkey
    refine spares_setStr (not_guarded ?_ ?_) ctx v
    · rcases hkey with rfl | rfl | rfl <;> decide
    · rcases hkey with rfl | rfl | rfl <;> decide
  refine Proxy.enter_keeps w spares_targets (fun ctx key v hkey => hbase ctx key v (hkey.imp_right .inl))
    (fun name f hget routeId => ?_) (fun name routeId b hroute hget => ?_) fun ms hms routeId => ?_
  · obtain ⟨down, _, rfl, _⟩ := frontend_found hget
    exact endpoint_keeps (downstream_spares down) (fun ctx v => hbase ctx KEY_NAME_ID_FORMAT v (.inr (.inr rfl))) d.lib w
      routeId
  · obtain ⟨up, _, rfl, hname⟩ := backend_found hget
    have hup : started = some up.name := (hstarted name routeId hroute).trans (congrArg some hname.symm)
    exact backendEndpoint_keeps (upstream_spares up hup) w routeId
  · obtain ⟨s, hmem, rfl⟩ := service_found hms
    exact serviceEndpoint_spares h hmem w routeId

theorem enter_backend {name routeId : String}
    (hroute : d.proxy.router.resolve ctx.path = some { kind := .backend, moduleName := name, routeId }) :
    (d.proxy.enter w ctx).2.state = ctx.state ∨ ∃ up ∈ d.backends, up.name = name ∧
      (d.proxy.enter w ctx).2.state = (up.backend.handleEndpoint w routeId (Proxy.toBackend name ctx)).2.state := by
  have hcalled : ∀ {b : Backend W} {result : Except Error BackendAction} {ctx' : Context},
      d.proxy.backends.get name = some b → b.handleEndpoint w routeId (Proxy.toBackend name ctx) = (result, ctx') →
      ∃ up ∈ d.backends, up.name = name ∧
        ctx'.state = (up.backend.handleEndpoint w routeId (Proxy.toBackend name ctx)).2.state := by
    intro b result ctx' hget hrun
    obtain ⟨up, hup, rfl, hname⟩ := backend_found hget
    exact ⟨up, hup, hname, by rw [hrun]⟩
  have hentered := d.proxy.enter_entered w ctx
  generalize d.proxy.enter w ctx = out at hentered
  cases hentered with
  | unrouted => exact .inl rfl
  | unknownFrontend => exact .inl rfl
  | frontendFails hother => cases hroute.symm.trans hother
  | frontendAnswers hother => cases hroute.symm.trans hother
  | frontendStarts hother => cases hroute.symm.trans hother
  | unknownBackend => exact .inl rfl
  | backendFails hsame hget hrun =>
    cases hroute.symm.trans hsame
    exact .inr (hcalled hget hrun)
  | backendAnswers hsame hget hrun =>
    cases hroute.symm.trans hsame
    exact .inr (hcalled hget hrun)
  | backendUnclaimed hsame hget hrun =>
    cases hroute.symm.trans hsame
    exact .inr (hcalled hget hrun)
  | backendResponds hsame hget hrun =>
    cases hroute.symm.trans hsame
    have hanswered := hcalled hget hrun
    exact .inr hanswered
  | unknownService => exact .inl rfl
  | serviceFails hother => cases hroute.symm.trans hother
  | serviceAnswers hother => cases hroute.symm.trans hother
  | serviceUnclaimed hother => cases hroute.symm.trans hother
  | serviceResumesRequest hother => cases hroute.symm.trans hother
  | serviceResumesResponse hother => cases hroute.symm.trans hother

/-- What a request leaves, from where its leg ended: it makes pending only what
it starts. -/
theorem serve_reached {s : State} {r : Exchange W} {result : Except Error (Outcome W)}
    (hreach : d.proxy.reach r.world (r.context s) = (result, ctx₂))
    (hstarted : ∀ backend request, result = .ok (.start backend request) → started = ctx₂.targetBackend) :
    ctx₂.state.Spared (d.guarded started) (d.proxy.serve statusHint s r) := by
  refine serve_spared statusHint hreach (fun f _ => downstream_spares f) fun b _ request hstart htarget => ?_
  exact upstream_spares b ((hstarted _ request hstart).trans htarget)

end

/-! ## What a response leg keeps -/

section
variable {w : W} {ctx : Context} {response : InternalData}

/-- A service keeps a response only where it says so, and stops the leg then. -/
theorem service_keeps {s : Service W} {p : StepUp} {view : W → SamlWorld} (hp : .stepup p view ∈ d.services)
    (hs : ctx.state.Objects)
    (h : (s.microService.processResponseAction w response ctx).2.state.getValue p.stateNamespace KEY_SNAPSHOT ≠ none) :
    ctx.state.getValue p.stateNamespace KEY_SNAPSHOT ≠ none ∨ s.keeps response ctx = some p.stateNamespace := by
  have hkept : d.keptResponses p.stateNamespace KEY_SNAPSHOT := ⟨rfl, p, view, hp, rfl⟩
  have hspares : ∀ {ctx' : Context}, Spares d.keptResponses ctx ctx' →
      ctx'.state.getValue p.stateNamespace KEY_SNAPSHOT ≠ none →
      ctx.state.getValue p.stateNamespace KEY_SNAPSHOT ≠ none := fun hsp hvalue => State.Spared.kept hsp hkept hvalue
  cases s with
  | disco disco => exact .inl h
  | accr a =>
    refine .inl (hspares ?_ h)
    have hkeeps := a.processResponse_keeps (R := Spares d.keptResponses)
      (spares_permits _ (by simp)) response
    exact (hkeeps.bind fun next => Action.keeps_pure _) ctx
  | transform t =>
    refine .inl (hspares ?_ h)
    have hkeeps := (t.responseUntouched w response).weaken fun _ _ => spares_untouched (P := d.keptResponses)
    exact (hkeeps.bind fun next => Action.keeps_pure _) ctx
  | stepup q qview =>
    have hrun : (q.processResponseAction (qview w) response ctx).2.state.getValue p.stateNamespace KEY_SNAPSHOT ≠ none :=
      h
    rcases q.processResponseAction_cases (qview w) response hs with
      ⟨e, ctx', hfail, _, hstate⟩ | ⟨_, _, ctx', _, _, hpass, _, hstate⟩ | ⟨snapshot, _, hstepped, _, hwithin⟩
    · rw [hfail] at hrun
      have hleft : Spares d.keptResponses ctx ctx' := by
        unfold Spares
        rcases hstate with hsame | hcleared
        · rw [hsame]
          exact State.Spared.refl _
        · rw [hcleared]
          exact (State.Tame.clearNamespace _ _).spared
      exact .inl (hspares hleft hrun)
    · rw [hpass] at hrun
      have hleft : Spares d.keptResponses ctx ctx' := by
        unfold Spares
        rw [hstate]
        exact (State.Tame.clearNamespace _ _).spared
      exact .inl (hspares hleft hrun)
    · rw [hwithin.value _ _ (StepUp.keptNamespace_ne q p)] at hrun
      by_cases hsame : q.stateNamespace = p.stateNamespace
      · refine .inr ?_
        simp only [Service.keeps, hstepped, Option.isSome_some, if_true, hsame]
      · rw [State.getValue_setValue_other _ _ (fun he => hsame he.1)] at hrun
        exact .inl hrun

theorem keeps_stops {s : Service W} {ns : String} (hs : ctx.state.Objects) (h : s.keeps response ctx = some ns)
    (next : InternalData) : (s.microService.processResponseAction w response ctx).1 ≠ .ok (.continue next) := by
  cases s with
  | disco disco => cases h
  | accr a => cases h
  | transform t => cases h
  | stepup q qview =>
    show (q.processResponseAction (qview w) response ctx).1 ≠ _
    rcases q.processResponseAction_cases (qview w) response hs with
      ⟨_, _, _, hnone, _⟩ | ⟨_, _, _, _, _, _, hnone, _⟩ | ⟨_, _, _, hstops, _⟩
    · simp [Service.keeps, hnone] at h
    · simp [Service.keeps, hnone] at h
    · exact hstops next

/-- **A leg keeps a response where `keeper` says, and nowhere else.** -/
theorem leg_keeps (hapart : d.StepupsApart) {p : StepUp} {view : W → SamlWorld} (hp : .stepup p view ∈ d.services)
    {services : List (Service W)} (hmem : ∀ s ∈ services, s ∈ d.services) (hs : ctx.state.Objects)
    (h : (Proxy.responseServices w (services.map (·.microService)) response ctx).2.state.getValue p.stateNamespace
      KEY_SNAPSHOT ≠ none) :
    ctx.state.getValue p.stateNamespace KEY_SNAPSHOT ≠ none ∨
      keeper w services response ctx = some p.stateNamespace := by
  induction services generalizing response ctx with
  | nil => exact .inl h
  | cons s rest ih =>
    have hone := processResponse_spares hapart (hmem s List.mem_cons_self) w response ctx
    have hkeeps : (s.microService.processResponseAction w response ctx).2.state.getValue p.stateNamespace KEY_SNAPSHOT ≠
        none → _ := service_keeps hp hs
    have hleg : (Proxy.responseServices w (s.microService :: rest.map (·.microService)) response ctx).2.state.getValue
      p.stateNamespace KEY_SNAPSHOT ≠ none := h
    unfold Proxy.responseServices at hleg
    unfold keeper
    have hstops : ∀ ns, s.keeps response ctx = some ns → ∀ next,
        (s.microService.processResponseAction w response ctx).1 ≠ .ok (.continue next) :=
      fun ns hkept => keeps_stops hs hkept
    rcases hrun : s.microService.processResponseAction w response ctx with ⟨e | action, ctx'⟩
    · rw [Action.bind_of_error hrun] at hleg
      rw [hrun] at hkeeps
      rcases hkeeps hleg with hbefore | hkept
      · exact .inl hbefore
      · rw [hkept]
        exact .inr rfl
    · rw [Action.bind_of_ok hrun] at hleg
      rw [hrun] at hkeeps hone hstops
      cases action with
      | respond http =>
        rcases hkeeps hleg with hbefore | hkept
        · exact .inl hbefore
        · rw [hkept]
          exact .inr rfl
      | «continue» next =>
        cases hkept : s.keeps response ctx with
        | some ns => exact absurd rfl (hstops ns hkept next)
        | none =>
          show _ ∨ keeper w rest next ctx' = some p.stateNamespace
          rcases ih (fun s' hs' => hmem s' (List.mem_cons_of_mem _ hs')) (hone.objects hs) hleg with hbefore | hlater
          · rcases hkeeps hbefore with hfirst | hsome
            · exact .inl hfirst
            · rw [hkept] at hsome
              cases hsome
          · exact .inr hlater

end

/-! ## The invariant -/

/-- What is pending is the selected backend's, and so is every response kept. -/
structure Settled (d : Deployment W) (l : BackendLedger) : Prop where
  objects : l.state.Objects
  pending : ∀ b ∈ d.backends, Pending l.state b.name → l.selected = some b.name
  kept : ∀ p view, .stepup p view ∈ d.services → l.state.getValue p.stateNamespace KEY_SNAPSHOT ≠ none →
    ∃ name, l.producers p.stateNamespace = some name ∧ l.selected = some name

section
variable {l : BackendLedger} {r : Exchange W} {statusHint : Error → Nat}

theorem settled_new : d.Settled { state := State.new } where
  objects := State.objects_new
  pending b _ hpending := by
    obtain ⟨key, _, hvalue⟩ := hpending
    exact absurd (State.getStr_new b.name key) hvalue
  kept p view _ hvalue := absurd (State.getValue_new p.stateNamespace KEY_SNAPSHOT) hvalue

theorem pending_guarded {b : UpstreamPlugin W} (hb : b ∈ d.backends) (hne : started ≠ some b.name) :
    ∀ key ∈ PENDING_KEYS, d.guarded started b.name key := fun _ hkey => .inl ⟨hkey, ⟨b, hb, rfl⟩, hne⟩

theorem kept_guarded {p : StepUp} {view : W → SamlWorld} (hp : .stepup p view ∈ d.services) :
    d.guarded started p.stateNamespace KEY_SNAPSHOT := .inr ⟨rfl, p, view, hp, rfl⟩

theorem Settled.spared {t : State} (h : d.Settled l) (ht : l.state.Spared (d.guarded none) t) :
    d.Settled { l with state := t } where
  objects := ht.objects h.objects
  pending b hb hpending := h.pending b hb (hpending.spared ht (pending_guarded hb (by simp)))
  kept p view hp hvalue := h.kept p view hp (ht.kept (kept_guarded hp) hvalue)

theorem Settled.opened (h : d.Settled l) (r : Exchange W) : d.Settled { l with state := (r.context l.state).state } :=
  h.spared (State.spared_carried l.state r.envelope)

theorem Settled.entered (h : d.Settled l) (hapart : d.StepupsApart) (hc : d.Undisturbed statusHint l r) :
    d.Settled { l with state := (d.proxy.enter r.world (r.context l.state)).2.state } := by
  have hopened := h.opened r
  by_cases hroute : ∃ name routeId, d.proxy.router.resolve r.request.path =
      some { kind := .backend, moduleName := name, routeId }
  · obtain ⟨called, routeId, hroute⟩ := hroute
    have hspares : (r.context l.state).state.Spared (d.guarded (some called))
        (d.proxy.enter r.world (r.context l.state)).2.state := by
      refine enter_spares hapart r.world (r.context l.state) fun name routeId' hother => ?_
      cases hroute.symm.trans hother
      rfl
    refine ⟨hspares.objects hopened.objects, fun b hb hpending => ?_, fun p view hp hvalue =>
      hopened.kept p view hp (hspares.kept (kept_guarded hp) hvalue)⟩
    by_cases hcalled : b.name = called
    · subst hcalled
      have hentered : (d.proxy.enter r.world (r.context l.state)).2.state = (r.context l.state).state ∨
          ∃ up ∈ d.backends, up.name = b.name ∧ (d.proxy.enter r.world (r.context l.state)).2.state =
            (up.backend.handleEndpoint r.world routeId (Proxy.toBackend b.name (r.context l.state))).2.state :=
        enter_backend hroute
      rcases hentered with hsame | ⟨up, hup, hname, hstate⟩
      · exact hopened.pending b hb (hsame ▸ hpending)
      · have hafter : Pending (d.proxy.enter r.world (r.context l.state)).2.state b.name := hpending
        rw [hstate, ← hname] at hafter
        by_cases hdisco : routeId = "disco"
        · subst hdisco
          exact hc.discovered b.name hroute
        · have hbefore := UpstreamPlugin.endpoint_pends hdisco hafter
          exact hopened.pending b hb (hname ▸ hbefore)
    · refine hopened.pending b hb (hpending.spared hspares (pending_guarded hb fun hsame => ?_))
      exact hcalled (Option.some.inj hsame).symm
  · refine hopened.spared (enter_spares hapart r.world (r.context l.state) fun name routeId hother => ?_)
    exact absurd ⟨name, routeId, hother⟩ hroute

/-- **A response leg goes on with the selected backend's response.** -/
theorem Settled.produced (h : d.Settled l) (hc : d.Undisturbed statusHint l r) {response : InternalData} {i : Nat}
    {ctx₁ : Context} (henter : d.proxy.enter r.world (r.context l.state) = (.ok (.response response i), ctx₁)) :
    ∃ name, d.producer l r = some name ∧ l.selected = some name := by
  have hopened := h.opened r
  have hentered := d.proxy.enter_entered r.world (r.context l.state)
  rw [henter] at hentered
  cases hentered with
  | @backendResponds name routeId origin b response' ctx' hroute hget hrun horigin =>
    obtain ⟨up, hup, rfl, hname⟩ := backend_found hget
    subst hname
    have hproducer : d.producer l r = some up.name := by
      unfold producer
      rw [show d.proxy.router.resolve r.request.path = _ from hroute]
      rfl
    refine ⟨up.name, hproducer, ?_⟩
    rcases UpstreamPlugin.answer_pending hrun with hpending | hunsolicited
    · exact hopened.pending up hup hpending
    · exact hc.unsolicited up hup routeId hroute hunsolicited
  | @serviceResumesResponse name routeId idx ms response' _ hroute hfound hrun =>
    obtain ⟨hget, hname⟩ := Proxy.servicePosition_mem hfound
    obtain ⟨s, hmem, rfl⟩ := service_found (List.mem_of_getElem? hget)
    obtain ⟨p, view, rfl, hacs⟩ := service_resumesResponse hrun
    have hproducer : d.producer l r = l.producers p.stateNamespace := by
      unfold producer
      rw [show d.proxy.router.resolve r.request.path = _ from hroute, ← hname]
      rfl
    have hvalue : (r.context l.state).state.getValue p.stateNamespace KEY_SNAPSHOT ≠ none := by
      intro hnone
      have hsnapshot : p.snapshot (r.context l.state) = .error (.authn "no step-up flow in progress") := by
        unfold StepUp.snapshot
        rw [hnone]
      unfold StepUp.handleAcs at hacs
      simp only [Flow.context, Action.read_bind_run, hsnapshot] at hacs
      cases hacs
    rw [hproducer]
    exact hopened.kept p view hmem hvalue

/-- **The request leg settles**: nothing of another backend is pending where it
starts one. -/
theorem Settled.request (h : d.Settled l) (hapart : d.StepupsApart) (hc : d.Undisturbed statusHint l r)
    {request : InternalData} {i : Nat} {pin : Option String} {ctx₁ : Context}
    (henter : d.proxy.enter r.world (r.context l.state) = (.ok (.request request i pin), ctx₁)) :
    d.Settled (d.backendStep statusHint l r) := by
  have hopened := h.opened r
  have hentered : Spares (d.guarded none) (r.context l.state) ctx₁ := by
    have hspares : Spares (d.guarded none) (r.context l.state) (d.proxy.enter r.world (r.context l.state)).2 := by
      refine enter_spares hapart r.world (r.context l.state) fun name routeId hbackend => ?_
      have hentered := d.proxy.enter_entered r.world (r.context l.state)
      rw [henter] at hentered
      cases hentered with
      | frontendStarts hother => cases hbackend.symm.trans hother
      | serviceResumesRequest hother => cases hbackend.symm.trans hother
    rwa [henter] at hspares
  have hadvance : Spares (d.guarded none) ctx₁ (d.proxy.advance r.world (.request request i pin) ctx₁).2 := by
    refine spares_targets.advance_request r.world (fun ms hms request => ?_) request pin ctx₁
    obtain ⟨s, _, rfl⟩ := service_found (List.mem_of_mem_drop hms)
    exact processRequest_spares s r.world request
  rw [← reach_entered henter] at hadvance
  rcases hrun : d.proxy.reach r.world (r.context l.state) with ⟨result, ctx₂⟩
  rw [hrun] at hadvance
  have hselected : ∀ backend request', result = .ok (.start backend request') →
      (d.backendStep statusHint l r).selected = ctx₂.targetBackend := by
    rintro backend request' rfl
    unfold backendStep
    simp only [henter, hrun]
  have hproducers : (d.backendStep statusHint l r).producers = l.producers := by
    unfold backendStep
    simp only [henter]
  have hserved := serve_reached statusHint hrun hselected
  have hall : (r.context l.state).state.Spared (d.guarded (d.backendStep statusHint l r).selected)
      (d.proxy.serve statusHint l.state r) :=
    ((State.Spared.trans hentered hadvance).mono fun _ _ => guarded_none).trans hserved
  refine ⟨hall.objects hopened.objects, fun b hb hpending => ?_, fun p view hp hvalue => ?_⟩
  · refine Decidable.byContradiction fun hne => ?_
    have hbefore : Pending (r.context l.state).state b.name := hpending.spared hall (pending_guarded hb hne)
    exact hne (hc.pending request i pin ctx₁ henter b hb hbefore)
  · have hbefore := hall.kept (kept_guarded hp) hvalue
    obtain ⟨name, hproducer, _⟩ := hopened.kept p view hp hbefore
    have hsame := hc.kept request i pin ctx₁ henter p view hp hbefore
    exact ⟨name, (congrFun hproducers _).trans hproducer, hsame.trans hproducer⟩

/-- **The response leg settles**: a response it keeps is the one it went on
with. -/
theorem Settled.response (h : d.Settled l) (hapart : d.StepupsApart) (hc : d.Undisturbed statusHint l r)
    {response : InternalData} {i : Nat} {ctx₁ : Context}
    (henter : d.proxy.enter r.world (r.context l.state) = (.ok (.response response i), ctx₁)) :
    d.Settled (d.backendStep statusHint l r) := by
  have hentered := h.entered hapart hc
  rw [henter] at hentered
  obtain ⟨name, hproducer, hselected⟩ := h.produced hc henter
  have hadvance : Spares (d.pendingElsewhere none) ctx₁ (d.proxy.advance r.world (.response response i) ctx₁).2 := by
    refine spares_targets.advance_response r.world (fun ms hms response => ?_) response i ctx₁
    obtain ⟨s, hmem, rfl⟩ := service_found hms
    exact processResponse_spares hapart hmem r.world response
  have hleg : Spares d.keptResponses
      (Proxy.responseServices r.world (d.proxy.microservices.drop i) response ctx₁).2
      (d.proxy.advance r.world (.response response i) ctx₁).2 :=
    spares_targets.behind_response r.world response i ctx₁
  rw [← reach_entered henter] at hadvance hleg
  rcases hrun : d.proxy.reach r.world (r.context l.state) with ⟨result, ctx₂⟩
  rw [hrun] at hadvance hleg
  have hserved : ctx₂.state.Spared (d.guarded none) (d.proxy.serve statusHint l.state r) := by
    refine serve_reached statusHint hrun fun backend request hstart => ?_
    rw [hstart] at hrun
    obtain ⟨_, _, _, _, _, _, hrequest, _⟩ := Proxy.reach_start hrun
    cases henter.symm.trans hrequest
  have hsame : (d.backendStep statusHint l r).selected = l.selected := by
    unfold backendStep
    simp only [henter]
  refine ⟨hserved.objects (hadvance.objects hentered.objects), fun b hb hpending => ?_, fun p view hp hvalue => ?_⟩
  · rw [hsame]
    refine hentered.pending b hb (hpending.spared (hadvance.trans (hserved.mono fun _ _ => .inl)) fun key hkey => ?_)
    exact ⟨hkey, ⟨b, hb, rfl⟩, by simp⟩
  · have hkept := hserved.kept (kept_guarded hp) hvalue
    have hafter := hleg.kept ⟨rfl, p, view, hp, rfl⟩ hkept
    have hdrop : d.proxy.microservices.drop i = (d.services.drop i).map (·.microService) := List.map_drop.symm
    rw [hdrop] at hafter
    have hmem : ∀ s ∈ d.services.drop i, s ∈ d.services := fun s hs => List.mem_of_mem_drop hs
    have hproducers : (d.backendStep statusHint l r).producers p.stateNamespace =
        if keeper r.world (d.services.drop i) response ctx₁ = some p.stateNamespace then d.producer l r
        else l.producers p.stateNamespace := by
      unfold backendStep
      simp only [henter]
    rw [hproducers, hsame]
    by_cases hkeeper : keeper r.world (d.services.drop i) response ctx₁ = some p.stateNamespace
    · rw [if_pos hkeeper]
      exact ⟨name, hproducer, hselected⟩
    · rw [if_neg hkeeper]
      rcases leg_keeps hapart hp hmem hentered.objects hafter with hbefore | hnow
      · exact hentered.kept p view hp hbefore
      · exact absurd hnow hkeeper

theorem Settled.step (h : d.Settled l) (hapart : d.StepupsApart) (hc : d.Undisturbed statusHint l r) :
    d.Settled (d.backendStep statusHint l r) := by
  have hentered := h.entered hapart hc
  rcases henter : d.proxy.enter r.world (r.context l.state) with ⟨e | stage, ctx₁⟩
  · have hspares : ctx₁.state.Spared (d.guarded none) (d.proxy.serve statusHint l.state r) :=
      serve_reached statusHint (reach_fails henter) fun _ _ hstart => (by cases hstart)
    rw [henter] at hentered
    have hstep := hentered.spared hspares
    unfold backendStep
    simp only [henter]
    exact hstep
  · cases stage with
    | answered x =>
      have hanswers : d.proxy.reach r.world (r.context l.state) = (.ok (.answered x), ctx₁) := reach_entered henter
      have hspares : ctx₁.state.Spared (d.guarded none) (d.proxy.serve statusHint l.state r) :=
        serve_reached statusHint hanswers fun _ _ hstart => (by cases hstart)
      rw [henter] at hentered
      have hstep := hentered.spared hspares
      unfold backendStep
      simp only [henter]
      exact hstep
    | request request i pin => exact h.request hapart hc henter
    | response response i => exact h.response hapart hc henter

/-- **In a settled state a frontend renders what the selected backend
produced.** -/
theorem Settled.fromSelected (h : d.Settled l) (hc : d.Undisturbed statusHint l r) : d.FromSelected l r := by
  intro frontend response ctx' hreach
  obtain ⟨entered, i, ctx₁, _, _, henter, _, _, _, _⟩ := Proxy.reach_deliver hreach
  exact h.produced hc henter

/-- **On every run every response a frontend renders was produced by the backend
its flow was started at**, as long as nothing of another backend disturbs the
flow. -/
theorem backends_agree (d : Deployment W) (statusHint : Error → Nat) (hapart : d.StepupsApart)
    (rs : List (Exchange W))
    (h : Along (d.backendStep statusHint) (d.Undisturbed statusHint) { state := State.new } rs) :
    Along (d.backendStep statusHint) d.FromSelected { state := State.new } rs :=
  Along.of_invariant (fun _ _ hs hc => hs.step hapart hc) (fun _ _ hs hc => hs.fromSelected hc) settled_new h

end

/-! ## An abandoned flow -/

/-- Two providers, and a frontend pinned to the second. -/
def pinnedSecond : Deployment (OpWorld × OidcWorld) :=
  { oidcProxy "First" with
    frontends := [.oidc { name := "OIDC" } Prod.fst, .oidc { name := "Pinned", backend := some "Second" } Prod.fst]
    backends := (oidcProxy "First").backends ++ (oidcProxy "Second").backends }

def pinnedLogin : Exchange (OpWorld × OidcWorld) :=
  { world := oidcWorld "1"
    request := { (login "1").request with path := "Pinned/authorization" }
    envelope := some 0 }

/-- One browser logs in twice at the first provider, which answers the second
login, and then at the pinned frontend. -/
def bothProviders : List (Exchange (OpWorld × OidcWorld)) :=
  [login "1", { login "2" with envelope := some 0 }, loginCallback "First",
    { pinnedLogin with world := oidcWorld "2" }, loginCallback "Second"]

/-- The second login starts where the first is pending, and nothing is pending
when the pinned frontend starts one. -/
theorem backends_agree_demo :
    Along (pinnedSecond.backendStep fun _ => 500) pinnedSecond.FromSelected { state := State.new } bothProviders := by
  have hstepup : ∀ p view, ¬ (.stepup p view : Service (OpWorld × OidcWorld)) ∈ pinnedSecond.services :=
    fun p view hmem => (by cases hmem)
  have hbackends : ∀ b ∈ pinnedSecond.backends, (b.name = "First" ∨ b.name = "Second") ∧
      ∀ s routeId, ¬ b.Unsolicited s routeId := by
    intro b hb
    rcases List.mem_cons.mp hb with rfl | hb
    · exact ⟨.inl rfl, fun s routeId h => h⟩
    · cases List.mem_singleton.mp hb
      exact ⟨.inr rfl, fun s routeId h => h⟩
  have hdisco : ∀ path m, pinnedSecond.proxy.router.resolve path = some m → m.routeId ≠ "disco" → ∀ name,
      pinnedSecond.proxy.router.resolve path ≠ some { kind := .backend, moduleName := name, routeId := "disco" } := by
    intro path m hroute hne name h
    exact hne (congrArg Match.routeId (Option.some.inj (hroute.symm.trans h)))
  have hlogin := hdisco "OIDC/authorization" { kind := .frontend, moduleName := "OIDC", routeId := "authorization" }
    (by decide) (by decide)
  have hpinned := hdisco "Pinned/authorization" { kind := .frontend, moduleName := "Pinned", routeId := "authorization" }
    (by decide) (by decide)
  have hfirst := hdisco "First/callback" { kind := .backend, moduleName := "First", routeId := "callback" }
    (by decide) (by decide)
  have hsecond := hdisco "Second/callback" { kind := .backend, moduleName := "Second", routeId := "callback" }
    (by decide) (by decide)
  refine backends_agree pinnedSecond (fun _ => 500) (fun p view hmem => absurd hmem (hstepup p view)) _
    ⟨⟨?_, fun _ _ _ _ _ p view hmem => absurd hmem (hstepup p view), fun name h => absurd h (hlogin name),
        fun b hb routeId _ h => absurd h ((hbackends b hb).2 _ _)⟩,
      ⟨?_, fun _ _ _ _ _ p view hmem => absurd hmem (hstepup p view), fun name h => absurd h (hlogin name),
        fun b hb routeId _ h => absurd h ((hbackends b hb).2 _ _)⟩,
      ⟨?_, fun _ _ _ _ _ p view hmem => absurd hmem (hstepup p view), fun name h => absurd h (hfirst name),
        fun b hb routeId _ h => absurd h ((hbackends b hb).2 _ _)⟩,
      ⟨?_, fun _ _ _ _ _ p view hmem => absurd hmem (hstepup p view), fun name h => absurd h (hpinned name),
        fun b hb routeId _ h => absurd h ((hbackends b hb).2 _ _)⟩,
      ⟨?_, fun _ _ _ _ _ p view hmem => absurd hmem (hstepup p view), fun name h => absurd h (hsecond name),
        fun b hb routeId _ h => absurd h ((hbackends b hb).2 _ _)⟩, trivial⟩
  · intro request i pin ctx₁ _ b hb ⟨key, _, hvalue⟩
    exact absurd rfl hvalue
  · intro request i pin ctx₁ _ b hb hpending
    rcases (hbackends b hb).1 with hname | hname
    · rw [hname]
      rfl
    · -- the second provider has seen nothing yet
      obtain ⟨key, _, hvalue⟩ := hpending
      rw [hname] at hvalue
      exact absurd rfl hvalue
  · intro request i pin ctx₁ henter
    cases henter
  · intro request i pin ctx₁ _ b hb hpending
    rcases (hbackends b hb).1 with hname | hname
    · -- the first has answered
      obtain ⟨key, _, hvalue⟩ := hpending
      rw [hname] at hvalue
      exact absurd rfl hvalue
    · rw [hname]
      rfl
  · intro request i pin ctx₁ henter
    cases henter

/-- A login is abandoned for one at the pinned frontend, and answered after
all: the pinned frontend renders what the first provider said. -/
theorem abandonedLogin_answers :
    ¬ Along (pinnedSecond.backendStep fun _ => 500) pinnedSecond.FromSelected { state := State.new }
      [login "2", pinnedLogin, loginCallback "First"] := by
  intro h
  obtain ⟨_, _, hcallback, _⟩ := h
  obtain ⟨name, hproducer, hselected⟩ := hcallback _ _ _ rfl
  have hfirst : some "First" = some name := hproducer
  have hsecond : some "Second" = some name := hselected
  exact absurd (Option.some.inj (hfirst.trans hsecond.symm)) (by decide)

end Deployment

end Tunnelbana
