/-
Where the AuthnRequests of a flow go when a discovery service with an
allowlist is all that selects an IdP. A backend is started at the IdP the
discovery returned, which the allowlist lists for the requester
(`start_listed`), but also at one an `entityID` parameter names: of a request
to a frontend, or of a return to the backend's own discovery route.
-/
import Tunnelbana.Basis.Run
import Tunnelbana.Core.FrontendPin
import Tunnelbana.Plugins.Deployment
import Tunnelbana.Plugins.SamlCorrelation

namespace Tunnelbana

open Basis

structure SameTarget (ctx ctx' : Context) : Prop where
  request : ctx'.request = ctx.request
  target : ctx'.decoration KEY_TARGET_ENTITYID = ctx.decoration KEY_TARGET_ENTITYID

instance : Action.Frame SameTarget where
  refl _ := ⟨rfl, rfl⟩
  trans h h' := ⟨h'.request.trans h.request, h'.target.trans h.target⟩

theorem sameTarget_permits (ns : String) (keys : List String) {decorations : List String}
    (h : KEY_TARGET_ENTITYID ∉ decorations) : Permits SameTarget ns keys decorations where
  setValue _ _ _ _ := ⟨rfl, rfl⟩
  clear _ := ⟨rfl, rfl⟩
  decorate ctx key value hk := by
    have hne : key ≠ KEY_TARGET_ENTITYID := fun he => h (he ▸ hk)
    refine ⟨rfl, ?_⟩
    show Assoc.get KEY_TARGET_ENTITYID (Assoc.put key value ctx.decorations) = _
    rw [Assoc.get_put_other _ _ hne]
    rfl
  undecorate ctx key hk := by
    have hne : key ≠ KEY_TARGET_ENTITYID := fun he => h (he ▸ hk)
    refine ⟨rfl, ?_⟩
    show Assoc.get KEY_TARGET_ENTITYID (Assoc.erase key ctx.decorations) = _
    rw [Assoc.get_erase, if_neg hne]
    rfl

def Listed (allowed : SortedMap (List String)) (requester idp : String) : Prop :=
  idp ∈ (level allowed requester).getD []

theorem DiscoToTargetIssuer.allows_listed {d : DiscoToTargetIssuer} {allowed : SortedMap (List String)}
    {request : InternalData} {issuer requester : String} (hd : d.allowedIssuers = some allowed)
    (hrequester : request.requester = some requester) (h : d.allows request issuer = true) :
    Listed allowed requester issuer := by
  unfold allows at h
  rw [hd, hrequester] at h
  simp only [Option.bind_some] at h
  exact List.contains_iff_mem.mp h

/-! ## Where a backend sends to -/

namespace Saml2Backend

variable {b : Saml2Backend} {w : SamlWorld} {ctx ctx' : Context} {dest : String} {authn : AuthnRequest} {signed : Bool}

def Publishes (w : SamlWorld) (idp dest : String) : Prop :=
  ∃ resolved, w.mdq idp = .ok resolved ∧ idpSsoRedirectUrl resolved.entity = .ok dest

theorem lookupIdp_publishes {target idp ssoUrl : String} {policyValues : MetadataPolicyValues}
    (hmode : b.idpMetadata = .mdq) (h : b.lookupIdp w (some target) = .ok (ssoUrl, idp, policyValues)) :
    Publishes w target ssoUrl := by
  unfold lookupIdp at h
  rw [hmode] at h
  simp only at h
  obtain ⟨resolved, hresolved, h⟩ := except_bind_ok.mp h
  obtain ⟨url, hurl, hret⟩ := except_bind_ok.mp h
  cases hret
  exact ⟨resolved, except_mapError_ok.mp hresolved, hurl⟩

/-- **An AuthnRequest goes to the location its IdP publishes.** -/
theorem buildAuthnRedirect_publishes {target : String} {response : Response} (hmode : b.idpMetadata = .mdq)
    (h : b.buildAuthnRedirect w (some target) ctx = (.ok response, ctx'))
    (hlocation : response.location = some (.authnRequest dest authn signed)) : Publishes w target dest := by
  unfold buildAuthnRedirect at h
  obtain ⟨built, ctx₁, hbuild, hredirect⟩ := Action.bind_ok.mp h
  have hsent : response = b.sent built := by
    rcases b.redirectAuthnRequest_cases w built ctx₁ with hok | ⟨e, hfail⟩
    · rw [hok] at hredirect
      cases hredirect
      rfl
    · rw [hfail] at hredirect
      cases hredirect
  have hdest : built.ssoUrl = dest := by
    rw [hsent] at hlocation
    cases hlocation
    rfl
  unfold buildAuthnRequest at hbuild
  obtain ⟨⟨ssoUrl, idp, policyValues⟩, hfound, hbuild⟩ := Action.lift_bind_ok.mp hbuild
  simp only [Flow.modify, Flow.context, Flow.undecorate, Action.update_bind_run, Action.read_bind_run] at hbuild
  obtain ⟨⟨refs, comparison⟩, _, hbuild⟩ := Action.lift_bind_ok.mp hbuild
  simp only [Action.update_bind_run, Action.read_bind_run] at hbuild
  obtain ⟨id, _, hbuild⟩ := Action.lift_bind_ok.mp hbuild
  obtain ⟨subject, _, hbuild⟩ := Action.lift_bind_ok.mp hbuild
  cases hbuild
  rw [← hdest]
  exact lookupIdp_publishes hmode hfound

theorem startAuth_publishes {request : InternalData} {response : Response} (hmode : b.idpMetadata = .mdq)
    (ordinary : b.requestSubject = false) (h : b.startAuth w request ctx = (.ok response, ctx'))
    (hlocation : response.location = some (.authnRequest dest authn signed)) :
    ∃ target, b.selectedTarget ctx = some target ∧ Publishes w target dest := by
  unfold startAuth at h
  obtain ⟨target, ctx₁, hprepare, hgoto⟩ := Action.bind_ok.mp h
  have hselected : b.idpTarget ctx = target := by
    unfold prepare persistSubject at hprepare
    rw [ordinary] at hprepare
    cases hprepare
    rfl
  have htarget : b.idpTarget ctx = (b.selectedTarget ctx).map some := by
    unfold idpTarget
    rw [hmode]
    cases b.selectedTarget ctx <;> rfl
  cases hfound : b.selectedTarget ctx with
  | some idp =>
    rw [htarget, hfound] at hselected
    subst hselected
    exact ⟨idp, rfl, buildAuthnRedirect_publishes hmode hgoto hlocation⟩
  | none =>
    rw [htarget, hfound] at hselected
    subst hselected
    have hdiscovery : b.startDiscovery request ctx₁ = (.ok response, ctx') := hgoto
    rcases b.startDiscovery_cases request ctx₁ with ⟨disco, _, _, hok⟩ | ⟨e, _, hfail, _⟩
    · rw [hok] at hdiscovery
      cases hdiscovery
      cases hlocation
    · rw [hfail] at hdiscovery
      cases hdiscovery

/-- Of the endpoints only the discovery route sends one, to the IdP it names. -/
theorem handleEndpoint_publishes {routeId : String} {response : Response} (hmode : b.idpMetadata = .mdq)
    (h : b.handleEndpoint w routeId ctx = (.ok (.respond response), ctx'))
    (hlocation : response.location = some (.authnRequest dest authn signed)) :
    routeId = "disco" ∧ ∃ target, discoTarget ctx.request = some target ∧ Publishes w target dest := by
  unfold handleEndpoint at h
  split at h
  · rcases b.handleAcs_cases w ctx with ⟨_, _, hfail, _⟩ | ⟨_, _, hok, _⟩
    · rw [hfail] at h
      cases h
    · rw [hok] at h
      cases h
  split at h
  next hroute =>
    unfold handleDisco at h
    simp only [Flow.context, Action.read_bind_run] at h
    obtain ⟨target, htarget, h⟩ := Action.orFail_bind_ok.mp h
    obtain ⟨redirect, _, hredirect, hret⟩ := Action.bind_ok.mp h
    cases hret
    exact ⟨hroute, target, htarget, buildAuthnRedirect_publishes hmode hredirect hlocation⟩
  split at h
  · rcases handleMetadata_cases w ctx with ⟨r, hok, hlocal⟩ | ⟨_, hfail⟩
    · rw [hok] at h
      cases h
      rw [hlocal] at hlocation
      cases hlocation
    · rw [hfail] at h
      cases h
  · cases h

end Saml2Backend

/-! ## The deployment -/

namespace Deployment

variable {W : Type} (d : Deployment W) (allowed : SortedMap (List String))

/-- Discovery under the allowlist is all that selects an IdP: the backends
resolve theirs by MDQ, and a default is one every requester may be sent to. -/
structure SelectsByDisco : Prop where
  backends : ∀ up ∈ d.backends, ∃ b own ordinary view, up = .saml b own ordinary view ∧ b.idpMetadata = .mdq ∧
    ∀ requester idp, b.idpEntityId = some idp → Listed allowed requester idp
  discoveries : ∀ disco, .disco disco ∈ d.services → disco.allowedIssuers = some allowed
  transforms : ∀ t, .transform t ∈ d.services → ∀ w data, Action.Keeps SameTarget (t.processRequest w data)

/-- An AuthnRequest the response sends goes to an IdP listed for the requester. -/
def SentListed (w : W) (requester : Option String) (response : Response) : Prop :=
  ∀ dest authn signed r, response.location = some (.authnRequest dest authn signed) → requester = some r →
    ∃ idp b own ordinary view, Listed allowed r idp ∧ .saml b own ordinary view ∈ d.backends ∧
      Saml2Backend.Publishes (view w) idp dest

/-- So do the AuthnRequests of a request: those of the backend it starts, for
the requester of the flow it starts or resumes, and those of a backend's
endpoint, for the recorded one. -/
def SendsListed (s : State) (r : Exchange W) : Prop :=
  (∀ entered startIndex pin ctx₁ backend request ctx₂ response ctx₃,
    d.proxy.enter r.world (r.context s) = (.ok (.request entered startIndex pin), ctx₁) →
    d.proxy.reach r.world (r.context s) = (.ok (.start backend request), ctx₂) →
    backend.startAuth r.world request ctx₂ = (.ok response, ctx₃) →
    d.SentListed allowed r.world entered.requester response) ∧
  (∀ name routeId response ctx',
    d.proxy.router.resolve r.request.path = some { kind := .backend, moduleName := name, routeId } →
    d.proxy.enter r.world (r.context s) = (.ok (.answered response), ctx') →
    d.SentListed allowed r.world (r.context s).requester response)

/-- An IdP that a request names itself is listed: to a frontend, for the
requester of the flow that starts; to the discovery route of a backend, for
the recorded one. -/
structure NamesListed (s : State) (r : Exchange W) : Prop where
  frontend : ∀ name routeId f request pin ctx' requester idp,
    d.proxy.router.resolve r.request.path = some { kind := .frontend, moduleName := name, routeId } →
    d.proxy.frontends.get name = some f →
    f.handleEndpoint r.world routeId (Proxy.toFrontend name (r.context s)) = (.ok (.startAuth request pin), ctx') →
    request.requester = some requester → r.request.param "entityID" = some idp → Listed allowed requester idp
  backend : ∀ name requester idp,
    d.proxy.router.resolve r.request.path = some { kind := .backend, moduleName := name, routeId := "disco" } →
    (r.context s).requester = some requester → Saml2Backend.discoTarget r.request = some idp →
    Listed allowed requester idp

variable {d allowed}

theorem endpoint_sameTarget (f : DownstreamPlugin W) (lib : OpLibrary) (w : W) (routeId : String) :
    Action.Keeps SameTarget ((f.frontend lib).handleEndpoint w routeId) := by
  refine endpoint_keeps ?_ (fun _ _ => ⟨rfl, rfl⟩) lib w routeId
  cases f with
  | saml f view => exact sameTarget_permits _ _ (by decide)
  | oidc f view => exact sameTarget_permits _ _ (by decide)
  | federation f view => exact sameTarget_permits _ _ (by decide)

theorem SelectsByDisco.requestServices (h : d.SelectsByDisco allowed) (w : W) {services : List (MicroService W)}
    (hmem : ∀ ms ∈ services, ms ∈ d.proxy.microservices) (request : InternalData) :
    Action.Keeps SameTarget (Proxy.requestServices w services request) := by
  induction services generalizing request with
  | nil => exact Action.keeps_pure _
  | cons ms rest ih =>
    refine Action.Keeps.bind ?_ fun request => ih (fun ms' hms' => hmem ms' (List.mem_cons_of_mem _ hms')) request
    obtain ⟨s, hs, rfl⟩ := service_found (hmem ms List.mem_cons_self)
    cases s with
    | disco disco => exact disco.processRequest_keeps (sameTarget_permits _ _ (by simp)) request
    | accr a => exact a.processRequest_keeps (sameTarget_permits _ _ (by decide)) request
    | stepup p view => exact p.processRequest_keeps (sameTarget_permits _ _ (by decide)) request
    | transform t => exact h.transforms t hs w request

/-- **The IdP a backend is started for is listed**, named by the request, by a
return from discovery, or the default. -/
theorem SelectsByDisco.start_listed (h : d.SelectsByDisco allowed) {s : State} {r : Exchange W}
    (hnames : d.NamesListed allowed s r) {entered : InternalData} {startIndex : Nat} {pin : Option String}
    {ctx₁ ctx₂ : Context} {request : InternalData} {backend : Backend W} {requester target : String}
    {b : Saml2Backend} (ordinary : b.requestSubject = false)
    (hdefault : ∀ idp, b.idpEntityId = some idp → Listed allowed requester idp)
    (henter : d.proxy.enter r.world (r.context s) = (.ok (.request entered startIndex pin), ctx₁))
    (hreach : d.proxy.reach r.world (r.context s) = (.ok (.start backend request), ctx₂))
    (hrequester : entered.requester = some requester) (htarget : b.selectedTarget ctx₂ = some target) :
    Listed allowed requester target := by
  obtain ⟨_, _, _, _, ctx₀, name, henter', hservices, _, _, hctx⟩ := Proxy.reach_start hreach
  rw [henter] at henter'
  cases henter'
  have hleg : SameTarget ctx₁ ctx₂ := by
    have hkeeps := (h.requestServices r.world (fun ms hms => List.mem_of_mem_drop hms) entered).apply hservices
    rw [hctx]
    exact ⟨hkeeps.request, hkeeps.target⟩
  have hentered := d.proxy.enter_entered r.world (r.context s)
  rw [henter] at hentered
  unfold Saml2Backend.selectedTarget at htarget
  rw [ordinary] at htarget
  rw [hleg.request, hleg.target] at htarget
  simp only [Bool.false_eq_true, if_false] at htarget
  cases hentered with
  | @frontendStarts name routeId f _ _ ctx' hroute hget hstarts =>
    obtain ⟨down, _, rfl, _⟩ := frontend_found hget
    have hfresh := (endpoint_sameTarget down d.lib r.world routeId).apply hstarts
    have hentered : SameTarget ctx' (Proxy.noteFrontend name (Proxy.noteRequester entered ctx')) := by
      unfold Proxy.noteRequester
      cases entered.requester <;> exact ⟨rfl, rfl⟩
    have hsame := Action.Frame.trans hfresh hentered
    rw [hsame.request, hsame.target] at htarget
    cases hparam : r.request.param "entityID" with
    | some idp =>
      have hidp : some idp = some target := by
        rw [← htarget, ← hparam]
        show r.request.param "entityID" = ((r.request.param "entityID").or _).or _
        rw [hparam]
        rfl
      cases hidp
      exact hnames.frontend name routeId _ entered pin ctx' requester target hroute hget hstarts hrequester hparam
    | none =>
      refine hdefault target ?_
      rw [← htarget]
      show _ = ((r.request.param "entityID").or none).or _
      rw [hparam]
      rfl
  | @serviceResumesRequest name routeId origin idx ms _ ctx' hroute hfound hresumes horigin =>
    obtain ⟨svc, hsvc, rfl⟩ := service_found (List.mem_of_getElem? (Proxy.servicePosition_mem hfound).1)
    obtain ⟨disco, rfl, hdisco⟩ := service_resumesRequest hresumes
    rcases disco.handleEndpoint_run routeId (r.context s) with
      ⟨issuer, snapshot, request', hquery, _, _, _, hallows, hrun⟩ | ⟨_, hrun⟩ | ⟨_, _, _, _, hrun⟩
    · rw [hrun] at hdisco
      cases hdisco
      have hparam : (r.context s).request.param "entityID" = some issuer := by
        unfold HttpRequestData.param
        rw [hquery]
        rfl
      have hrequest : (Proxy.noteRequester entered (Proxy.noteFrontend origin (Proxy.toFrontend origin
          (disco.resumed issuer snapshot (r.context s))))).request = (r.context s).request := by
        unfold Proxy.noteRequester
        cases entered.requester <;> rfl
      rw [hrequest, hparam] at htarget
      cases htarget
      exact DiscoToTargetIssuer.allows_listed (h.discoveries disco hsvc) hrequester hallows
    · rw [hrun] at hdisco
      cases hdisco
    · rw [hrun] at hdisco
      cases hdisco

theorem SelectsByDisco.sendsListed (h : d.SelectsByDisco allowed) {s : State} {r : Exchange W}
    (hnames : d.NamesListed allowed s r) : d.SendsListed allowed s r := by
  constructor
  · intro entered startIndex pin ctx₁ backend request ctx₂ response ctx₃ henter hreach hstart dest authn signed
      requester hlocation hrequester
    obtain ⟨_, _, _, _, _, name, _, _, _, hget, _⟩ := Proxy.reach_start hreach
    obtain ⟨up, hup, rfl, _⟩ := backend_found hget
    obtain ⟨b, own, ordinary, view, rfl, hmode, hdefault⟩ := h.backends up hup
    obtain ⟨target, htarget, hpublishes⟩ := Saml2Backend.startAuth_publishes hmode ordinary hstart hlocation
    exact ⟨target, b, own, ordinary, view,
      h.start_listed hnames ordinary (hdefault requester) henter hreach hrequester htarget, hup, hpublishes⟩
  · intro name routeId response ctx' hroute henter dest authn signed requester hlocation hrequester
    have hentered := d.proxy.enter_entered r.world (r.context s)
    have hpath : d.proxy.router.resolve (r.context s).path = some { kind := .backend, moduleName := name, routeId } :=
      hroute
    rw [henter] at hentered
    cases hentered with
    | frontendAnswers hr => cases hpath.symm.trans hr
    | serviceAnswers hr => cases hpath.symm.trans hr
    | backendAnswers hr hget hanswers =>
      cases hpath.symm.trans hr
      obtain ⟨up, hup, rfl, _⟩ := backend_found hget
      obtain ⟨b, own, ordinary, view, rfl, hmode, _⟩ := h.backends up hup
      obtain ⟨rfl, target, htarget, hpublishes⟩ :=
        Saml2Backend.handleEndpoint_publishes hmode hanswers hlocation
      exact ⟨target, b, own, ordinary, view, hnames.backend name requester target hroute hrequester htarget, hup,
        hpublishes⟩

/-- **On every run every AuthnRequest goes to an IdP listed for its requester**,
as long as no request names an unlisted one itself. -/
theorem authnRequests_listed (d : Deployment W) (allowed : SortedMap (List String)) (statusHint : Error → Nat)
    (h : d.SelectsByDisco allowed) (s : State) (rs : List (Exchange W))
    (hnames : Along (d.proxy.serve statusHint) (d.NamesListed allowed) s rs) :
    Along (d.proxy.serve statusHint) (d.SendsListed allowed) s rs :=
  hnames.imp fun _ _ hn => h.sendsListed hn

/-! ## An IdP the request names -/

def oneIssuer : SortedMap (List String) := SortedMap.empty.insert "rp" ["https://idp.example"]

def listedDisco : DiscoToTargetIssuer :=
  { name := "disco", discoEndpoints := ["disco/return"], allowedIssuers := some oneIssuer }

/-- The discovery service stands before an MDQ backend that sends its users to discovery. -/
def discoProxy : Deployment (OpWorld × SamlWorld) where
  frontends := [.oidc { name := "OIDC" } Prod.fst]
  backends := [.saml Saml2Backend.discovering rfl rfl Prod.snd]
  services := [.disco listedDisco]
  lib := plainLibrary
  sealer := demoSealer

/-- Each IdP has an SSO location of its own. -/
def mdqWorld (id : String) : OpWorld × SamlWorld :=
  (clientOnly { clientId := "rp", redirectUris := ["https://rp.example/cb"] },
    { Saml2Backend.answering id with
      mdq := fun target => .ok {
        entity := {
          entityId := target
          idpSsoDescriptors := [{ redirectLocation := some (target ++ "/sso"), signingCertificatesDer := ["c1"] }] } } })

def namedLogin (params : Assoc String) : Exchange (OpWorld × SamlWorld) :=
  { world := mdqWorld "_q1"
    request := { path := "OIDC/authorization", query := params
                 queryPairs := [("client_id", "rp"), ("redirect_uri", "https://rp.example/cb")] ++ params }
    envelope := none }

def listedReturn : Exchange (OpWorld × SamlWorld) :=
  { world := mdqWorld "_q2", request := { path := "disco/return", query := [("entityID", "https://idp.example")] }
    envelope := some 0 }

theorem discoProxy_selects : discoProxy.SelectsByDisco oneIssuer where
  backends up hup := by
    obtain rfl := List.mem_singleton.mp hup
    refine ⟨_, _, _, _, rfl, rfl, fun requester idp hidp => ?_⟩
    cases hidp
  discoveries disco hdisco := by
    cases List.mem_singleton.mp hdisco
    rfl
  transforms t ht := by cases List.mem_singleton.mp ht

theorem authnRequests_listed_demo :
    Along (discoProxy.proxy.serve fun _ => 500) (discoProxy.SendsListed oneIssuer) State.new
      [namedLogin [], listedReturn] := by
  refine authnRequests_listed discoProxy oneIssuer (fun _ => 500) discoProxy_selects State.new _
    ⟨⟨?_, ?_⟩, ⟨?_, ?_⟩, trivial⟩
  · intro name routeId f request pin ctx' requester idp _ _ _ _ hparam
    cases hparam
  · intro name requester idp _ _ htarget
    cases htarget
  · intro name routeId f request pin ctx' requester idp hroute
    have hreturn : discoProxy.proxy.router.resolve listedReturn.request.path =
        some { kind := .microService, moduleName := "disco", routeId := "disco/return" } := by decide
    cases hreturn.symm.trans hroute
  · intro name requester idp hroute
    have hreturn : discoProxy.proxy.router.resolve listedReturn.request.path =
        some { kind := .microService, moduleName := "disco", routeId := "disco/return" } := by decide
    cases hreturn.symm.trans hroute

def rpRequest : InternalData := InternalData.request "rp"

/-- The relying party's request names an IdP nobody lists, and is sent there
without discovery. -/
theorem namedLogin_unlisted :
    discoProxy.SelectsByDisco oneIssuer ∧
      ¬ Along (discoProxy.proxy.serve fun _ => 500) (discoProxy.SendsListed oneIssuer) State.new
        [namedLogin [("entityID", "https://other.example")]] := by
  refine ⟨discoProxy_selects, fun h => ?_⟩
  obtain ⟨⟨hsent, _⟩, _⟩ := h
  have hsize : (DiscoToTargetIssuer.snapshot (some "OIDC") rpRequest).encodedLength ≤ MAX_DISCO_SNAPSHOT_BYTES := by
    decide +kernel
  obtain ⟨ctx₁, henter, hctx⟩ : ∃ ctx₁, discoProxy.proxy.enter (mdqWorld "_q1")
      ((namedLogin [("entityID", "https://other.example")]).context State.new) =
        (.ok (.request rpRequest 0 none), ctx₁) ∧
        (discoProxy.proxy.enter (mdqWorld "_q1")
          ((namedLogin [("entityID", "https://other.example")]).context State.new)).2 = ctx₁ := ⟨_, rfl, rfl⟩
  have hfrontend : ctx₁.targetFrontend = some "OIDC" := by
    rw [← hctx]
    rfl
  have hselected : ((none : Option String).or ctx₁.targetBackend).or discoProxy.proxy.defaultBackend = some "Saml2" := by
    rw [← hctx]
    rfl
  rw [← hfrontend] at hsize
  have hprocess := DiscoToTargetIssuer.processRequest_fits listedDisco hsize
  have hreach := Proxy.reach_of_selected henter (Action.bind_of_ok (f := pure) hprocess) hselected rfl
  subst hctx
  obtain ⟨idp, b, own, ordinary, view, hlisted, hbackend, resolved, hresolved, hdest⟩ :=
    hsent _ _ _ _ _ _ _ _ _ henter hreach rfl _ _ _ _ rfl rfl
  obtain rfl := List.mem_singleton.mp hlisted
  cases List.mem_singleton.mp hbackend
  cases hresolved
  cases hdest

end Deployment

end Tunnelbana
