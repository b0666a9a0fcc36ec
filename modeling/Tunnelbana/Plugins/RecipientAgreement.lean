/-
Whom a response is for, and to whom it is rendered. The requester a response
carries comes from the core's namespace, or from the snapshot of a step-up;
the frontend renders it for the one its own namespace holds. They agree in
every state (`Agreed`) as long as a resume finds its frontend still holding
the requester of the snapshot: a newer flow at the same frontend may have
replaced it and failed before any snapshot was taken anew.
-/
import Tunnelbana.Basis.Run
import Tunnelbana.Core.FrontendPin
import Tunnelbana.Plugins.KeyFrames
import Tunnelbana.Plugins.Saml2Store

namespace Tunnelbana

open Basis

def recipientKeys : List String := [KEY_REQUESTER, KEY_TARGET_FRONTEND, "sp_entity_id", AUTHZ_KEY]

/-! ## What a frontend holds -/

namespace DownstreamPlugin

variable {W : Type} {lib : OpLibrary} {f : DownstreamPlugin W} {s t : State}

def held (lib : OpLibrary) (s : State) : DownstreamPlugin W → Option String
  | .saml f _ => s.getStr f.name "sp_entity_id"
  | .oidc f _ => (f.provider.loadAuthzRequest lib s).map (·.clientId)
  | .federation f _ => (f.provider.loadAuthzRequest lib s).map (·.clientId)

theorem held_retains (h : s.Retains recipientKeys t) {requester : String}
    (hheld : f.held lib t = some requester) : f.held lib s = some requester := by
  have hload : ∀ provider : OpenidProvider, (provider.loadAuthzRequest lib t).map (·.clientId) = some requester →
      (provider.loadAuthzRequest lib s).map (·.clientId) = some requester := by
    intro provider hprovider
    unfold OpenidProvider.loadAuthzRequest at hprovider ⊢
    cases hvalue : t.getValue provider.name AUTHZ_KEY with
    | none =>
      rw [hvalue] at hprovider
      cases hprovider
    | some value =>
      rw [hvalue] at hprovider
      rw [h.getValue_of_some (by decide) hvalue]
      exact hprovider
  cases f with
  | saml f view => exact h.getStr_of_some (by decide) hheld
  | oidc f view => exact hload f.provider hheld
  | federation f view => exact hload f.provider hheld

theorem held_base {key : String} (hkey : key = KEY_REQUESTER ∨ key = KEY_TARGET_FRONTEND) (value : String) :
    f.held lib (s.setStr STATE_KEY_BASE key value) = f.held lib s := by
  have hother : ∀ ns key', key' = "sp_entity_id" ∨ key' = AUTHZ_KEY →
      (s.setStr STATE_KEY_BASE key value).getValue ns key' = s.getValue ns key' := by
    intro ns key' hkey'
    refine State.getValue_setValue_other s _ fun he => ?_
    rcases hkey with rfl | rfl <;> rcases hkey' with rfl | rfl <;> exact absurd he.2 (by decide)
  cases f with
  | saml f view => exact State.getStr_congr (hother f.name "sp_entity_id" (.inl rfl))
  | oidc f view =>
    show ((State.getValue _ _ _).bind _).map _ = ((State.getValue _ _ _).bind _).map _
    rw [hother _ AUTHZ_KEY (.inr rfl)]
  | federation f view =>
    show ((State.getValue _ _ _).bind _).map _ = ((State.getValue _ _ _).bind _).map _
    rw [hother _ AUTHZ_KEY (.inr rfl)]

end DownstreamPlugin

/-! ## What a start leaves -/

theorem Saml2Frontend.starts_held {f : Saml2Frontend} {w : SamlWorld} {routeId : String} {ctx ctx' : Context}
    {request : InternalData} {pin : Option String} (hs : ctx.state.Objects)
    (h : f.handleEndpoint w routeId ctx = (.ok (.startAuth request pin), ctx')) :
    ctx'.state.Objects ∧ ∃ requester, request.requester = some requester ∧
      ctx'.state.getStr f.name "sp_entity_id" = some requester := by
  obtain ⟨a, _, _, hrequester, hstate⟩ := handleEndpoint_starts h
  rw [hstate]
  exact ⟨storeRequest_objects hs, a.processed.spEntityId, hrequester, storeRequest_requester hs⟩

theorem OpenidProvider.starts_held {f : OpenidProvider} {lib : OpLibrary} {w : OpWorld}
    {params : List (String × String)} {ctx ctx' : Context} {request : InternalData} {pin : Option String}
    (hs : ctx.state.Objects) (h : f.acceptAuthorization lib w params ctx = (.ok (.startAuth request pin), ctx')) :
    ctx'.state.Objects ∧ ∃ requester, request.requester = some requester ∧
      (f.loadAuthzRequest lib ctx'.state).map (·.clientId) = some requester := by
  unfold acceptAuthorization at h
  cases hpairs : w.fromPairs params with
  | error e =>
    rw [hpairs] at h
    cases h
  | ok req =>
    rw [hpairs] at h
    simp only at h
    cases hvalid : w.validate req with
    | error e =>
      rw [hvalid] at h
      cases h
    | ok client =>
      rw [hvalid] at h
      simp only at h
      unfold storeAuthzRequest bindAuthorizationClient at h
      simp only [Action.bind_assoc] at h
      obtain ⟨value, hvalue, h⟩ := Action.lift_bind_ok.mp h
      simp only [Flow.setValue, Flow.modify, Action.update_bind_run] at h
      obtain ⟨text, _, h⟩ := Action.lift_bind_ok.mp h
      cases h
      refine ⟨(hs.setValue _ _ _).setValue _ _ _, req.clientId, rfl, ?_⟩
      have hstored : ((ctx.state.setValue f.name AUTHZ_KEY value).setValue f.name AUTHORIZATION_CLIENT
          (.str text)).getValue f.name AUTHZ_KEY = some value := by
        rw [State.getValue_setValue_other _ _ (fun he => absurd he.2 (by decide))]
        exact State.getValue_setValue_self hs _ _ _
      have hload : f.loadAuthzRequest lib ((ctx.state.setValue f.name AUTHZ_KEY value).setValue f.name
          AUTHORIZATION_CLIENT (.str text)) = some req := by
        unfold loadAuthzRequest
        rw [hstored, Option.bind_some]
        exact lib.fromValue_toValue req value hvalue
      exact congrArg (Option.map (·.clientId)) hload

theorem FederationFrontend.starts_accepted {f : FederationFrontend} {lib : OpLibrary} {w : FederationWorld}
    {routeId : String} {ctx ctx' : Context} {request : InternalData} {pin : Option String}
    (h : f.handleEndpoint lib w routeId ctx = (.ok (.startAuth request pin), ctx')) :
    ∃ params, f.provider.acceptAuthorization lib w.op params ctx = (.ok (.startAuth request pin), ctx') := by
  unfold handleEndpoint at h
  split at h
  · unfold handleEntityConfiguration at h
    obtain ⟨_, _, h⟩ := Action.lift_bind_ok.mp h
    cases h
  split at h
  · obtain ⟨_, _, h⟩ := Action.lift_bind_ok.mp h
    cases h
  split at h
  · obtain ⟨_, _, h⟩ := Action.lift_bind_ok.mp h
    cases h
  split at h
  · unfold handleAuthorization at h
    simp only [Flow.context, Action.read_bind_run] at h
    cases hduplicate : duplicateParameter [] ctx.request.queryPairs with
    | some name =>
      rw [hduplicate] at h
      cases h
    | none =>
      rw [hduplicate] at h
      simp only at h
      obtain ⟨clientId, _, h⟩ := Action.orFail_bind_ok.mp h
      cases hclient : f.resolveClient w clientId with
      | none =>
        rw [hclient] at h
        cases h
      | some client =>
        rw [hclient] at h
        simp only at h
        cases hparams : f.unpackRequestObject w ctx.request.queryPairs client with
        | error e =>
          rw [hparams] at h
          cases h
        | ok params =>
          rw [hparams] at h
          exact ⟨params, h⟩
  split at h
  · cases h
  split at h
  · cases h
  · cases h

theorem OidcFrontend.starts_accepted {f : OidcFrontend} {lib : OpLibrary} {w : OpWorld} {routeId : String}
    {ctx ctx' : Context} {request : InternalData} {pin : Option String}
    (h : f.handleEndpoint lib w routeId ctx = (.ok (.startAuth request pin), ctx')) :
    ∃ params, f.provider.acceptAuthorization lib w params ctx = (.ok (.startAuth request pin), ctx') := by
  unfold handleEndpoint at h
  split at h
  · obtain ⟨_, _, h⟩ := Action.lift_bind_ok.mp h
    cases h
  split at h
  · obtain ⟨_, _, h⟩ := Action.lift_bind_ok.mp h
    cases h
  split at h
  · exact ⟨_, h⟩
  split at h
  · cases h
  split at h
  · cases h
  · cases h

/-- **A frontend starts a flow for the requester it keeps.** -/
theorem DownstreamPlugin.starts_held {W : Type} {f : DownstreamPlugin W} {lib : OpLibrary} {w : W} {routeId : String}
    {ctx ctx' : Context} {request : InternalData} {pin : Option String} (hs : ctx.state.Objects)
    (h : (f.frontend lib).handleEndpoint w routeId ctx = (.ok (.startAuth request pin), ctx')) :
    ctx'.state.Objects ∧ ∃ requester, request.requester = some requester ∧
      f.held lib ctx'.state = some requester := by
  cases f with
  | saml f view => exact Saml2Frontend.starts_held hs h
  | oidc f view =>
    obtain ⟨params, haccepted⟩ := OidcFrontend.starts_accepted h
    exact OpenidProvider.starts_held hs haccepted
  | federation f view =>
    obtain ⟨params, haccepted⟩ := FederationFrontend.starts_accepted h
    exact OpenidProvider.starts_held hs haccepted

/-! ## What a response is for -/

theorem Saml2Backend.handleEndpoint_requester {b : Saml2Backend} {w : SamlWorld} {routeId : String}
    {ctx ctx' : Context} {data : InternalData} (h : b.handleEndpoint w routeId ctx = (.ok (.authResponse data), ctx')) :
    data.requester = none := by
  unfold handleEndpoint at h
  split at h
  · obtain ⟨_, _, _, m, _, _, _, _, _, hdata⟩ := handleAcs_ok (congrArg Prod.fst h)
    unfold extractIdentity at hdata
    split at hdata
    next => cases hdata
    next a ha =>
      obtain ⟨_, _, hret⟩ := except_bind_ok.mp hdata
      cases hret
      rfl
  split at h
  · unfold handleDisco at h
    simp only [Flow.context, Action.read_bind_run] at h
    obtain ⟨_, _, h⟩ := Action.orFail_bind_ok.mp h
    obtain ⟨_, _, _, hret⟩ := Action.bind_ok.mp h
    cases hret
  split at h
  · unfold handleMetadata at h
    obtain ⟨_, _, h⟩ := Action.lift_bind_ok.mp h
    cases h
  · cases h

theorem RelyingParty.handleCallback_requester {p : RelyingParty} {w : OidcWorld} {ctx ctx' : Context}
    {data : InternalData} (h : p.handleCallback w ctx = (.ok (.authResponse data), ctx')) : data.requester = none := by
  rcases p.handleCallback_cases w ctx with ⟨e, _, hfail, _⟩ | ⟨data', _, hredeem, hok⟩
  · rw [hfail] at h
    cases h
  · rw [hok] at h
    cases h
    unfold redeem at hredeem
    split at hredeem
    next => cases hredeem
    next => cases hredeem
    next code nonce _ _ =>
      obtain ⟨⟨provider, keys⟩, _, hredeem⟩ := except_bind_ok.mp hredeem
      unfold authenticate at hredeem
      obtain ⟨_, _, hredeem⟩ := except_bind_ok.mp hredeem
      obtain ⟨_, _, hredeem⟩ := except_bind_ok.mp hredeem
      obtain ⟨claims, _, hredeem⟩ := except_bind_ok.mp hredeem
      cases hsub : claims.sub with
      | none =>
        rw [hsub] at hredeem
        cases hredeem
      | some sub =>
        rw [hsub] at hredeem
        obtain ⟨_, _, hret⟩ := except_bind_ok.mp hredeem
        cases hret
        rfl

/-- **A backend answers for nobody.** -/
theorem UpstreamPlugin.answer_requester {W : Type} {b : UpstreamPlugin W} {w : W} {routeId : String}
    {ctx ctx' : Context} {data : InternalData}
    (h : b.backend.handleEndpoint w routeId ctx = (.ok (.authResponse data), ctx')) : data.requester = none := by
  cases b with
  | saml b own ordinary view => exact Saml2Backend.handleEndpoint_requester h
  | oidc b view =>
    have hrun : b.handleEndpoint (view w) routeId ctx = (.ok (.authResponse data), ctx') := h
    unfold OidcBackend.handleEndpoint at hrun
    split at hrun
    · exact RelyingParty.handleCallback_requester hrun
    · cases hrun
  | federation b view =>
    have hrun : b.handleEndpoint (view w) routeId ctx = (.ok (.authResponse data), ctx') := h
    unfold FederationBackend.handleEndpoint at hrun
    split at hrun
    · unfold FederationBackend.handleEntityConfiguration at hrun
      obtain ⟨_, _, hrun⟩ := Action.lift_bind_ok.mp hrun
      cases hrun
    split at hrun
    · unfold FederationBackend.handleInitiate at hrun
      cases hop : b.op with
      | fixed op =>
        rw [hop] at hrun
        cases hrun
      | discovery discovery =>
        rw [hop] at hrun
        simp only [Flow.context, Action.read_bind_run] at hrun
        obtain ⟨_, _, hrun⟩ := Action.lift_bind_ok.mp hrun
        obtain ⟨_, _, _, hrun⟩ := Action.bind_ok.mp hrun
        obtain ⟨_, _, _, hret⟩ := Action.bind_ok.mp hrun
        cases hret
    split at hrun
    · exact RelyingParty.handleCallback_requester hrun
    · cases hrun

theorem Accr.processResponse_requester {a : Accr} {ctx ctx' : Context} {data next : InternalData}
    (h : a.processResponse data ctx = (.ok next, ctx')) : next.requester = data.requester := by
  unfold processResponse at h
  simp only [Flow.context, Action.read_bind_run] at h
  obtain ⟨classRef, _, h⟩ := Action.lift_bind_ok.mp h
  cases h
  rfl

namespace StepUp

variable {p : StepUp} {w : SamlWorld} {ctx ctx' : Context} {data next : InternalData} {policy : RequestPolicy}

theorem requireStepup_requester (h : p.requireStepup policy data ctx = (.ok (.pass next), ctx')) :
    next.requester = data.requester := by
  unfold requireStepup at h
  split at h
  · cases h
  · simp only [Flow.context, Action.read_bind_run] at h
    obtain ⟨account, _, h⟩ := Action.lift_bind_ok.mp h
    obtain ⟨_, _, h⟩ := Action.lift_bind_ok.mp h
    split at h
    · cases h
      rfl
    · unfold keepResponse at h
      obtain ⟨_, _, h⟩ := Action.lift_bind_ok.mp h
      obtain ⟨_, _, h⟩ := Action.lift_bind_ok.mp h
      simp only [Flow.context, Action.read_bind_run] at h
      obtain ⟨_, _, _, h⟩ := Action.bind_ok.mp h
      obtain ⟨_, _, _, hret⟩ := Action.bind_ok.mp h
      cases hret

theorem processResponseAction_requester (h : p.processResponseAction w data ctx = (.ok (.continue next), ctx')) :
    next.requester = data.requester := by
  unfold processResponseAction at h
  obtain ⟨verdict, ctx₁, hexamine, hact⟩ := Action.bind_ok.mp h
  cases verdict with
  | stepUp policy account =>
    unfold actOn redirectStepup at hact
    obtain ⟨_, _, _, hact⟩ := Action.bind_ok.mp hact
    obtain ⟨_, _, _, hact⟩ := Action.bind_ok.mp hact
    obtain ⟨_, _, _, hact⟩ := Action.bind_ok.mp hact
    obtain ⟨_, _, _, hret⟩ := Action.bind_ok.mp hact
    cases hret
  | pass response =>
    have hnext : response = next := by
      cases hact
      rfl
    subst hnext
    unfold examine at hexamine
    simp only [Flow.context, Action.read_bind_run] at hexamine
    obtain ⟨policy, _, hexamine⟩ := Action.lift_bind_ok.mp hexamine
    simp only [Flow.undecorate, Flow.modify, Action.update_bind_run] at hexamine
    split at hexamine
    · unfold decide at hexamine
      simp only [Flow.context, Action.read_bind_run] at hexamine
      generalize initialLoaDecision policy.behavior _ policy.requesterLoas data.authInfo.authClassRef = decision at hexamine
      cases decision with
      | satisfied returned =>
        cases hexamine
        rfl
      | rejected => cases hexamine
      | needsStepup => exact requireStepup_requester hexamine
    · cases hexamine
      rfl

end StepUp

/-! ## The deployment -/

namespace Deployment

variable {W : Type} (d : Deployment W) (statusHint : Error → Nat)

def KeepsRequester : Prop :=
  ∀ t, .transform t ∈ d.services → ∀ w data next ctx ctx',
    t.processResponse w data ctx = (.ok next, ctx') → next.requester = data.requester

/-- The frontend the core's namespace records holds the requester recorded
beside it, where it holds one. -/
structure Agreed (s : State) : Prop where
  objects : s.Objects
  agree : ∀ name f requester, s.getStr STATE_KEY_BASE KEY_TARGET_FRONTEND = some name →
    d.frontendNamed name = some f → f.held d.lib s = some requester →
    s.getStr STATE_KEY_BASE KEY_REQUESTER = some requester

/-- A resume finds its frontend (the one of the snapshot, else the recorded
one) still holding the requester of the snapshot: the request's that a
permitted return from discovery resumes, and the response's that an accepted
step-up resumes. -/
structure ResumesHeld (s : State) (r : Exchange W) : Prop where
  request : ∀ disco issuer snapshot request name f requester, .disco disco ∈ d.services → d.Calls r disco.name →
    r.request.query.get "entityID" = some issuer → isValidEntityId issuer = true → disco.allows request issuer = true →
    (r.context s).state.getValue disco.stateNamespace KEY_SNAPSHOT = some snapshot →
    DiscoToTargetIssuer.snapshotRequest snapshot = some request →
    ((snapshot.field "target_frontend").bind Json.asStr).or (Proxy.recordedFrontend (r.context s)) = some name →
    d.frontendNamed name = some f → f.held d.lib (r.context s).state = some requester →
    request.requester = some requester
  response : ∀ p view snapshot data name f requester, .stepup p view ∈ d.services → d.Calls r p.name →
    p.snapshot (r.context s) = .ok snapshot →
    (p.saml.handleEndpoint (view r.world) "acs" (r.context s)).1 = .ok (.authResponse data) →
    snapshot.targetFrontend.or (Proxy.recordedFrontend (r.context s)) = some name →
    d.frontendNamed name = some f → f.held d.lib (r.context s).state = some requester →
    snapshot.response.requester = some requester

/-- A response a frontend renders is for the requester the frontend holds;
where it holds none it renders nothing. -/
def ReachesRequester (s : State) (r : Exchange W) : Prop :=
  ∀ frontend response ctx name f, d.proxy.reach r.world (r.context s) = (.ok (.deliver frontend response), ctx) →
    ctx.targetFrontend = some name → d.frontendNamed name = some f →
    (∀ requester, f.held d.lib ctx.state = some requester → response.requester = some requester) ∧
      (f.held d.lib ctx.state = none → ∃ e ctx', frontend.handleAuthnResponse r.world response ctx = (.error e, ctx'))

variable {d} {s t : State}

theorem Agreed.retains (h : d.Agreed s) (ht : s.Retains recipientKeys t) : d.Agreed t where
  objects := ht.objects h.objects
  agree name f requester hname hf hheld := by
    have hname' := ht.getStr_of_some (by decide) hname
    have hrequester := h.agree name f requester hname' hf (f.held_retains ht hheld)
    -- The two keys of the core go together.
    exact (ht.getStr_beside (by decide) (by decide) hname).trans hrequester

theorem Agreed.carried (h : d.Agreed s) (envelope : Option Nat) : d.Agreed (s.carried envelope) :=
  h.retains (.carried s envelope)

theorem agreed_new : d.Agreed State.new where
  objects := State.objects_new
  agree name f requester hname := by cases hname

/-- A flow recorded for a requester its frontend holds, if any. -/
theorem agreed_recorded {name : String} {request : InternalData} {ctx : Context} (hs : ctx.state.Objects)
    (hheld : ∀ f requester, d.frontendNamed name = some f → f.held d.lib ctx.state = some requester →
      request.requester = some requester) :
    d.Agreed (Proxy.noteFrontend name (Proxy.noteRequester request ctx)).state ∧
      d.Agreed (Proxy.noteRequester request (Proxy.noteFrontend name ctx)).state := by
  have hkeys : ¬ (STATE_KEY_BASE = STATE_KEY_BASE ∧ KEY_TARGET_FRONTEND = KEY_REQUESTER) := by decide
  have hkeys' : ¬ (STATE_KEY_BASE = STATE_KEY_BASE ∧ KEY_REQUESTER = KEY_TARGET_FRONTEND) := by decide
  unfold Proxy.noteRequester
  cases hrequest : request.requester with
  | none =>
    have hnobody : d.Agreed (ctx.state.setStr STATE_KEY_BASE KEY_TARGET_FRONTEND name) := by
      refine ⟨hs.setStr _ _ _, fun name' f requester hname hf hr => ?_⟩
      rw [State.getStr_setStr_self hs] at hname
      cases hname
      rw [DownstreamPlugin.held_base (.inr rfl)] at hr
      have hsome := hheld f requester hf hr
      rw [hrequest] at hsome
      cases hsome
    exact ⟨hnobody, hnobody⟩
  | some requester =>
    have hagrees : ∀ t : State, t.Objects → t.getStr STATE_KEY_BASE KEY_TARGET_FRONTEND = some name →
        t.getStr STATE_KEY_BASE KEY_REQUESTER = some requester →
        (∀ f : DownstreamPlugin W, f.held d.lib t = f.held d.lib ctx.state) → d.Agreed t := by
      intro t ht hfrontend hrequester hsame
      refine ⟨ht, fun name' f requester' hname hf hr => ?_⟩
      cases hfrontend.symm.trans hname
      rw [hsame] at hr
      have hsome := hheld f requester' hf hr
      rw [hrequest] at hsome
      rw [hrequester]
      exact hsome
    constructor
    · refine hagrees _ ((hs.setStr _ _ _).setStr _ _ _) (State.getStr_setStr_self (hs.setStr _ _ _) _ _ _) ?_
        fun f => (DownstreamPlugin.held_base (.inr rfl) _).trans (DownstreamPlugin.held_base (.inl rfl) _)
      exact (State.getStr_setStr_other _ _ hkeys).trans (State.getStr_setStr_self hs _ _ _)
    · refine hagrees _ ((hs.setStr _ _ _).setStr _ _ _) ?_ (State.getStr_setStr_self (hs.setStr _ _ _) _ _ _)
        fun f => (DownstreamPlugin.held_base (.inl rfl) _).trans (DownstreamPlugin.held_base (.inr rfl) _)
      exact (State.getStr_setStr_other _ _ hkeys').trans (State.getStr_setStr_self hs _ _ _)

theorem Agreed.served {r : Exchange W} (h : d.Agreed s) (hc : d.ResumesHeld s r)
    (hserved : d.Served recipientKeys s r t) : d.Agreed t := by
  have hopened : d.Agreed (r.context s).state := h.carried r.envelope
  cases hserved with
  | quiet hstarted hkept => exact hopened.retains hkept
  | @started name routeId f request pin ctx₁ hroute hnamed hrun hstarted hkept =>
    have hobjects : (Proxy.toFrontend name (r.context s)).state.Objects := hopened.objects
    obtain ⟨hobjects₁, requester, hrequester, hheld⟩ := DownstreamPlugin.starts_held hobjects hrun
    have hnoted : d.Agreed (Proxy.noteFrontend name (Proxy.noteRequester request ctx₁)).state := by
      refine (agreed_recorded hobjects₁ fun f' requester' hf' hheld' => ?_).1
      cases hnamed.symm.trans hf'
      cases hheld.symm.trans hheld'
      exact hrequester
    exact hnoted.retains hkept
  | @resumed disco issuer name snapshot request hmem hcalls hquery hvalid hallows hsnapshot hrequest hname hstarted hleft hbase
      hkept =>
    have hresumed : d.Agreed (disco.resumed issuer snapshot (r.context s)).state := hopened.retains hleft
    have hobjects : (Proxy.toFrontend name (disco.resumed issuer snapshot (r.context s))).state.Objects :=
      hresumed.objects
    have hnoted : d.Agreed (Proxy.noteRequester request (Proxy.noteFrontend name
        (Proxy.toFrontend name (disco.resumed issuer snapshot (r.context s))))).state :=
      (agreed_recorded hobjects fun f requester hf hheld => hc.request disco issuer snapshot request name f requester
        hmem hcalls hquery hvalid hallows hsnapshot hrequest hname hf (f.held_retains hleft hheld)).2
    exact hnoted.retains hkept

theorem Agreed.enter {r : Exchange W} (h : d.Agreed s) (hc : d.ResumesHeld s r) :
    d.Agreed (d.proxy.enter r.world (r.context s)).2.state :=
  h.served hc (d.enter_served (by decide) s r)

theorem Agreed.serve {r : Exchange W} (h : d.Agreed s) (hc : d.ResumesHeld s r) :
    d.Agreed (d.proxy.serve statusHint s r) :=
  h.served hc (d.serve_served statusHint (by decide) s r)

theorem KeepsRequester.responseServices (hk : d.KeepsRequester) {w : W} {services : List (MicroService W)}
    (hmem : ∀ ms ∈ services, ms ∈ d.proxy.microservices) {response next : InternalData} {ctx ctx' : Context}
    (h : Proxy.responseServices w services response ctx = (.ok (.continue next), ctx')) :
    next.requester = response.requester := by
  induction services generalizing response ctx with
  | nil =>
    cases h
    rfl
  | cons ms rest ih =>
    obtain ⟨action, ctx₁, haction, hrest⟩ := Action.bind_ok.mp h
    cases action with
    | respond http => cases hrest
    | «continue» middle =>
      refine (ih (fun ms' hms' => hmem ms' (List.mem_cons_of_mem _ hms')) hrest).trans ?_
      obtain ⟨svc, hsvc, rfl⟩ := service_found (hmem ms List.mem_cons_self)
      cases svc with
      | disco disco =>
        cases haction
        rfl
      | accr a =>
        obtain ⟨_, _, hprocess, hret⟩ := Action.bind_ok.mp haction
        cases hret
        exact Accr.processResponse_requester hprocess
      | stepup p view => exact StepUp.processResponseAction_requester haction
      | transform t =>
        obtain ⟨_, _, hprocess, hret⟩ := Action.bind_ok.mp haction
        cases hret
        exact hk t hsvc _ _ _ _ _ hprocess

/-- A frontend that holds nobody's request renders nothing. -/
theorem handleAuthnResponse_unheld {f : DownstreamPlugin W} {lib : OpLibrary} {w : W} {ctx : Context}
    (h : f.held lib ctx.state = none) (response : InternalData) :
    ∃ e ctx', (f.frontend lib).handleAuthnResponse w response ctx = (.error e, ctx') := by
  have hprovider : ∀ (provider : OpenidProvider) (w : OpWorld),
      (provider.loadAuthzRequest lib ctx.state).map (·.clientId) = none →
        ∃ e ctx', provider.handleAuthnResponse lib w response ctx = (.error e, ctx') := by
    intro provider w hnone
    unfold OpenidProvider.handleAuthnResponse
    simp only [Flow.context, Action.read_bind_run]
    rw [Option.map_eq_none_iff.mp hnone]
    exact ⟨_, _, rfl⟩
  cases f with
  | oidc f view => exact hprovider f.provider (view w) h
  | federation f view => exact hprovider f.provider (view w).op h
  | saml f view =>
    have hnone : ctx.state.getStr f.name "sp_entity_id" = none := h
    have hfails : ∃ e, f.renderResponse (view w) ctx.state response = .error e := by
      unfold Saml2Frontend.renderResponse
      rw [hnone]
      cases ctx.state.getStr f.name "request_id" with
      | none => exact ⟨_, rfl⟩
      | some id => exact ⟨_, rfl⟩
    obtain ⟨e, hfails⟩ := hfails
    show ∃ e ctx', f.handleAuthnResponse (view w) response ctx = (.error e, ctx')
    unfold Saml2Frontend.handleAuthnResponse
    simp only [Flow.context, Action.read_bind_run]
    rw [hfails]
    exact ⟨e, ctx, rfl⟩

/-- **Whom a response is rendered for is whom it is for.** -/
theorem Agreed.reachesRequester {r : Exchange W} (h : d.Agreed s) (hk : d.KeepsRequester) (hc : d.ResumesHeld s r) :
    d.ReachesRequester s r := by
  intro frontend response ctx name f hreach hframe hnamed
  obtain ⟨entered, startIndex, ctx₁, ctx₂, name', henter, hservices, hname, hget, rfl⟩ := Proxy.reach_deliver hreach
  cases hframe
  have hmem : ∀ ms ∈ d.proxy.microservices.drop startIndex, ms ∈ d.proxy.microservices := fun ms hms =>
    List.mem_of_mem_drop hms
  have hpermitted : ∀ s ∈ d.services, s.Permitted (KeyKept recipientKeys) := fun s _ =>
    keyKept_spares.service (by decide) s
  have hkept := (responseServices_keeps (fun _ _ => keyKept_untouched) hpermitted hmem r.world entered).apply hservices
  have hrequester := hk.responseServices hmem hservices
  refine ⟨fun requester hheld => ?_, fun hunheld => ?_⟩
  · rw [hrequester]
    have hretains : ctx₁.state.Retains recipientKeys ctx₂.state := .of_tame hkept.tame
    have hheld₁ : f.held d.lib ctx₁.state = some requester := f.held_retains hretains hheld
    have hname₁ : ctx₁.targetFrontend.or (Proxy.recordedFrontend ctx₁) = some name := by
      rw [hkept.targetFrontend] at hname
      cases htarget : ctx₁.targetFrontend with
      | some n =>
        rw [htarget] at hname
        exact hname
      | none =>
        rw [htarget] at hname
        exact hretains.getStr_of_some (by decide) hname
    have hagreed := h.enter hc
    rw [henter] at hagreed
    obtain ⟨hleft, ⟨hrecorded, up, _, routeId, _, _, data, hanswers, hfor⟩ |
      ⟨_, p, view, snapshot, data, hsvc, hcalls, hsnapshot, haccepts, hname', hfor⟩⟩ :=
        d.enter_response recipientKeys (by decide) h.objects henter hname₁
    · rw [hfor, UpstreamPlugin.answer_requester hanswers]
      exact hagreed.agree name f requester hrecorded hnamed hheld₁
    · rw [hfor]
      exact hc.response p view snapshot data name f requester hsvc hcalls hsnapshot haccepts hname' hnamed
        (f.held_retains hleft hheld₁)
  · rw [d.frontends_get, hnamed] at hget
    cases hget
    exact handleAuthnResponse_unheld hunheld response

/-- **On every run every response a frontend renders is for the requester the
frontend holds**, as long as every resume finds its frontend holding the
requester of the snapshot. -/
theorem responses_reach_requester (d : Deployment W) (statusHint : Error → Nat) (hk : d.KeepsRequester)
    (rs : List (Exchange W)) (h : Along (d.proxy.serve statusHint) d.ResumesHeld State.new rs) :
    Along (d.proxy.serve statusHint) d.ReachesRequester State.new rs :=
  Along.of_invariant (fun _ _ hs hc => Agreed.serve statusHint hs hc) (fun _ _ hs hc => hs.reachesRequester hk hc)
    agreed_new h

/-! ## A snapshot of an older flow -/

def openDisco : DiscoToTargetIssuer := { name := "disco", discoEndpoints := ["disco/return"] }

def mfaAccr : Accr where
  name := "accr"
  supported := [REFEDS_MFA]
  supportedNonempty := by simp
  lowestSupported idp minimum h := by cases h
  rewriteInjective := by decide

/-- A SAML frontend that takes any SP, before an OpenID provider. -/
def samlProxy (services : List (Service (SamlWorld × OidcWorld))) : Deployment (SamlWorld × OidcWorld) where
  frontends := [.saml { name := "Saml2", idpEntityId := "https://proxy.example/Saml2/metadata"
                        ssoUrl := "https://proxy.example/Saml2/sso", nameIdFormats := [NAMEID_TRANSIENT]
                        spStore := .allowAll } Prod.fst]
  backends := [.oidc { name := "Upstream", clientId := "proxy", redirectUri := "https://proxy.example/callback"
                       issuer := some "https://op.example", authorizationEndpoint := some "https://op.example/authorize"
                       tokenEndpoint := some "https://op.example/token", jwksUri := some "https://op.example/jwks" }
    Prod.snd]
  services
  lib := plainLibrary
  sealer := demoSealer

/-- `accr` may refuse what would have gone to discovery. -/
def accrFirst : Deployment (SamlWorld × OidcWorld) := samlProxy [.accr mfaAccr, .disco openDisco]

def spAsking (sp acs : String) (classes : List String) : SamlWorld :=
  { Saml2Backend.answering "_r" with
    redirectDecode := fun _ => .ok { samlXml := .ok "<AuthnRequest/>" }
    parseXml := fun _ => .ok {
      authnRequest := .ok { id := "_sp1", issuer := some sp
                            assertionConsumerServiceUrl := some acs
                            requestedAuthnContext := some (classes, .exact) } } }

def askingSp : SamlWorld := spAsking "https://sp.example" "https://sp.example/acs" [REFEDS_MFA]

/-- The provider asserts MFA when the user used it. -/
def assertingOp (mfa : Bool) (n : String) : OidcWorld :=
  { RpBackend.oneOp n with
    verifyIdToken := fun jwks token issuer client nonce =>
      ((RpBackend.oneOp n).verifyIdToken jwks token issuer client nonce).map fun claims =>
        { claims with extra := if mfa then [("acr", .str REFEDS_MFA)] else [] } }

def askingLogin (mfa : Bool) : Exchange (SamlWorld × OidcWorld) :=
  { world := (askingSp, assertingOp mfa "1")
    request := { path := "Saml2/sso", query := [("SAMLRequest", "x")] }
    envelope := none }

/-- Another SP asks for a password, which `accr` does not support. -/
def refusedLogin : Exchange (SamlWorld × OidcWorld) :=
  { world := (spAsking "https://other.example" "https://other.example/acs"
      ["urn:oasis:names:tc:SAML:2.0:ac:classes:Password"], assertingOp true "1")
    request := { path := "Saml2/sso", query := [("SAMLRequest", "x")] }
    envelope := some 0 }

def returnedLogin (mfa : Bool) : Exchange (SamlWorld × OidcWorld) :=
  { world := (askingSp, assertingOp mfa "2")
    request := { path := "disco/return", query := [("entityID", "https://op.example")] }
    envelope := some 0 }

def assertedLogin (mfa : Bool) : Exchange (SamlWorld × OidcWorld) :=
  { world := (askingSp, assertingOp mfa "3")
    request := { path := "Upstream/callback", query := [("code", "c"), ("state", "state-2")] }
    envelope := some 0 }

def asking : InternalData := .request "https://sp.example"

def keptAtDisco (s : State) : State :=
  s.setValue openDisco.stateNamespace KEY_SNAPSHOT (DiscoToTargetIssuer.snapshot (some "Saml2") asking)

def recordedMfa (s : State) : State :=
  s.setValue mfaAccr.stateNamespace KEY_ACCR_REQUESTED (Json.strings [REFEDS_MFA])

/-- The state of a flow that went to discovery, with what the services left. -/
def askedState (services : State → State) : State :=
  ((((services (((((((State.new.setStr "Saml2" "request_id" "_sp1").setStr "Saml2" "sp_entity_id"
    "https://sp.example").setStr "Saml2" "acs_url" "https://sp.example/acs").setStr "Saml2" "name_id_format"
    NAMEID_TRANSIENT).setStr STATE_KEY_BASE KEY_NAME_ID_FORMAT NAMEID_TRANSIENT).setStr STATE_KEY_BASE KEY_REQUESTER
    "https://sp.example").setStr STATE_KEY_BASE KEY_TARGET_FRONTEND "Saml2")).setStr "Upstream" "oidc_state"
    "state-1").setStr "Upstream" "oidc_nonce" "nonce-1").setStr "Upstream" "code_verifier" "verifier-1").setValue
    "Upstream" "is_passive" (.bool false)

def askedContext (mfa : Bool) : Context :=
  (accrFirst.proxy.enter (askingLogin mfa).world ((askingLogin mfa).context State.new)).2

theorem disco_keeps {ctx : Context} (h : ctx.targetFrontend = some "Saml2") :
    openDisco.processRequest asking ctx = (.ok asking, ctx.mapState keptAtDisco) := by
  have hsize : (DiscoToTargetIssuer.snapshot (some "Saml2") asking).encodedLength ≤ MAX_DISCO_SNAPSHOT_BYTES := by
    decide +kernel
  rw [← h] at hsize
  have hprocess := openDisco.processRequest_fits hsize
  rw [h] at hprocess
  exact hprocess

theorem asking_served {services : List (Service (SamlWorld × OidcWorld))} {mfa : Bool} {ctx₂ : Context}
    (henter : (samlProxy services).proxy.enter (askingLogin mfa).world ((askingLogin mfa).context State.new) =
      (.ok (.request asking 0 none), askedContext mfa))
    (hservices : Proxy.requestServices (askingLogin mfa).world (samlProxy services).proxy.microservices asking
      (askedContext mfa) = (.ok asking, ctx₂)) (htarget : ctx₂.targetBackend = none) :
    (samlProxy services).proxy.serve (fun _ => 500) State.new (askingLogin mfa) =
      ((((ctx₂.state.setStr "Upstream" "oidc_state" "state-1").setStr "Upstream" "oidc_nonce" "nonce-1").setStr
        "Upstream" "code_verifier" "verifier-1").setValue "Upstream" "is_passive" (.bool false)) := by
  have hselected : ((none : Option String).or ctx₂.targetBackend).or (samlProxy services).proxy.defaultBackend =
      some "Upstream" := by
    rw [htarget]
    rfl
  have hreach := Proxy.reach_of_selected henter hservices hselected rfl
  rw [serve_eq, Proxy.dispatch_of_reach hreach]
  rfl

theorem accrFirst_services (mfa : Bool) :
    Proxy.requestServices (askingLogin mfa).world accrFirst.proxy.microservices asking (askedContext mfa) =
      (.ok asking, (mfaAccr.processRequest asking (askedContext mfa)).2.mapState keptAtDisco) := by
  have haccr : mfaAccr.processRequest asking (askedContext mfa) =
    (.ok asking, (mfaAccr.processRequest asking (askedContext mfa)).2) := rfl
  show (mfaAccr.processRequest asking >>= _) (askedContext mfa) = _
  rw [Action.bind_of_ok haccr]
  show (openDisco.processRequest asking >>= _) _ = _
  rw [Action.bind_of_ok (disco_keeps rfl)]
  rfl

theorem accrFirst_served (mfa : Bool) :
    accrFirst.proxy.serve (fun _ => 500) State.new (askingLogin mfa) =
      askedState fun s => keptAtDisco (recordedMfa s) :=
  (asking_served rfl (accrFirst_services mfa) rfl).trans rfl

/-- A flow that goes to discovery and comes back is rendered for whom it is. -/
theorem responses_reach_requester_demo :
    Along (accrFirst.proxy.serve fun _ => 500) accrFirst.ReachesRequester State.new
      [askingLogin true, returnedLogin true, assertedLogin true] := by
  have hservices : ∀ s ∈ accrFirst.services, s = .accr mfaAccr ∨ s = .disco openDisco := by
    intro s hs
    rcases List.mem_cons.mp hs with h | h
    · exact .inl h
    · exact .inr (List.mem_singleton.mp h)
  have hstepup : ∀ p view, ¬ (.stepup p view : Service (SamlWorld × OidcWorld)) ∈ accrFirst.services := by
    intro p view hmem
    rcases hservices _ hmem with h | h <;> cases h
  refine responses_reach_requester accrFirst (fun _ => 500) (fun t ht => ?_) _
    ⟨⟨?_, fun p view _ _ _ _ _ hmem => absurd hmem (hstepup p view)⟩,
      ⟨?_, fun p view _ _ _ _ _ hmem => absurd hmem (hstepup p view)⟩,
      ⟨?_, fun p view _ _ _ _ _ hmem => absurd hmem (hstepup p view)⟩, trivial⟩
  · rcases hservices _ ht with h | h <;> cases h
  · intro disco issuer snapshot request name f requester _ ⟨routeId, hroute⟩
    have hfrontend : accrFirst.proxy.router.resolve (askingLogin true).request.path =
        some { kind := .frontend, moduleName := "Saml2", routeId := "sso" } := by decide
    cases hfrontend.symm.trans hroute
  · intro disco issuer snapshot request name f requester hmem _ _ _ _ hsnapshot hrequest hname hnamed hheld
    rw [accrFirst_served] at hsnapshot hname hheld
    obtain rfl : disco = openDisco := by
      rcases hservices _ hmem with h | h <;> cases h
      rfl
    cases hsnapshot
    cases hname
    cases hnamed
    cases hheld
    rw [DiscoToTargetIssuer.snapshotRequest_snapshot] at hrequest
    cases hrequest
    rfl
  · intro disco issuer snapshot request name f requester _ ⟨routeId, hroute⟩
    have hbackend : accrFirst.proxy.router.resolve (assertedLogin true).request.path =
        some { kind := .backend, moduleName := "Upstream", routeId := "callback" } := by decide
    cases hbackend.symm.trans hroute

/-- `accr` refuses the flow of a second SP, and the first one's comes back: its
response is rendered to the second. -/
theorem discoReturn_misdelivers :
    ¬ Along (accrFirst.proxy.serve fun _ => 500) accrFirst.ReachesRequester State.new
      [askingLogin true, refusedLogin, returnedLogin true, assertedLogin true] := by
  intro h
  obtain ⟨_, _, _, hasserted, _⟩ := h
  rw [accrFirst_served] at hasserted
  obtain ⟨hfor, _⟩ := hasserted _ _ _ "Saml2" _ rfl rfl rfl
  have hrequester := hfor "https://other.example" rfl
  exact absurd (Option.some.inj hrequester) (by decide)

end Deployment

end Tunnelbana
