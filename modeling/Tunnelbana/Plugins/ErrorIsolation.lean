/-
Requests that belong to no flow, while one is pending: a path without a route,
a frontend request that starts nothing. They leave the state as it is
(`Stray.state`), but an error they end in is rendered by the frontend the
state records, which answers for the authorization request it holds.
-/
import Mathlib.Logic.Basic
import Tunnelbana.Plugins.Deployment
import Tunnelbana.Plugins.SamlCorrelation

namespace Tunnelbana

open Basis

/-! ## What starts no flow -/

/-- An endpoint starts a flow, or leaves its context and redirects nowhere. -/
def StartsOrLeaves (ctx : Context) : Except Error FrontendAction × Context → Prop
  | (.ok (.startAuth _ _), _) => True
  | (.ok (.respond r), ctx') => ctx' = ctx ∧ r.location = none
  | (.error _, ctx') => ctx' = ctx

theorem Saml2Frontend.samlErrorResponse_location {f : Saml2Frontend} {w : SamlWorld} {processed : ProcessedAuthnRequest}
    {relayState : Option String} {status : String × Option String × Option String} {r : Response}
    (h : f.samlErrorResponse w processed relayState status = .ok r) : r.location = none := by
  unfold samlErrorResponse at h
  obtain ⟨_, _, hret⟩ := except_bind_ok.mp h
  cases hret
  rfl

theorem Saml2Frontend.readSso_reject {f : Saml2Frontend} {w : SamlWorld} {request : HttpRequestData} {r : Response}
    (h : f.readSso w request = .ok (.reject r)) : r.location = none := by
  unfold readSso at h
  obtain ⟨⟨xml, relayState, redirectDecoded⟩, _, h⟩ := except_bind_ok.mp h
  obtain ⟨⟨authnRequest, spEntityId⟩, _, h⟩ := except_bind_ok.mp h
  obtain ⟨entry, _, h⟩ := except_bind_ok.mp h
  obtain ⟨_, h⟩ | ⟨_, h⟩ := ite_eq_iff.mp h
  · cases h
    rfl
  obtain ⟨_, h⟩ | ⟨_, h⟩ := ite_eq_iff.mp h
  · cases h
    rfl
  obtain ⟨processed, _, h⟩ := except_bind_ok.mp h
  cases hformat : f.chooseNameIdFormat processed.requestedNameIdFormat with
  | some format =>
    rw [hformat] at h
    cases h
  | none =>
    rw [hformat] at h
    obtain ⟨response, hresponse, hret⟩ := except_bind_ok.mp h
    cases hret
    exact samlErrorResponse_location hresponse

theorem Saml2Frontend.handleEndpoint_leaves (f : Saml2Frontend) (w : SamlWorld) (routeId : String) (ctx : Context) :
    StartsOrLeaves ctx (f.handleEndpoint w routeId ctx) := by
  unfold handleEndpoint
  split
  · unfold handleSso
    simp only [Flow.context, Action.read_bind_run]
    cases hread : f.readSso w ctx.request with
    | error e => exact rfl
    | ok outcome =>
      rw [Action.lift_ok_bind_run]
      cases outcome with
      | reject r => exact ⟨rfl, readSso_reject hread⟩
      | accept a => exact trivial
  · split
    · unfold handleMetadata
      cases w.metadataXml with
      | error e => exact rfl
      | ok xml => exact ⟨rfl, rfl⟩
    · exact rfl

theorem OpenidProvider.acceptAuthorization_leaves (f : OpenidProvider) (lib : OpLibrary) (w : OpWorld)
    (params : List (String × String)) (ctx : Context) :
    StartsOrLeaves ctx (f.acceptAuthorization lib w params ctx) := by
  unfold acceptAuthorization
  cases w.fromPairs params with
  | error e => exact ⟨rfl, lib.toResponse_location e⟩
  | ok req =>
    simp only
    cases w.validate req with
    | error e => exact ⟨rfl, lib.toResponse_location e⟩
    | ok client =>
      unfold storeAuthzRequest bindAuthorizationClient
      obtain ⟨text, htext⟩ := w.fingerprint_ok client
      simp only [Action.bind_assoc, htext]
      cases lib.toValue req with
      | error e => exact rfl
      | ok value => exact trivial

theorem OidcFrontend.handleEndpoint_leaves (f : OidcFrontend) (lib : OpLibrary) (w : OpWorld) (routeId : String)
    (ctx : Context) : StartsOrLeaves ctx (f.handleEndpoint lib w routeId ctx) := by
  unfold handleEndpoint
  split
  · cases w.discoveryDocument with
    | error e => exact rfl
    | ok document => exact ⟨rfl, rfl⟩
  split
  · cases w.jwksDocument with
    | error e => exact rfl
    | ok document => exact ⟨rfl, rfl⟩
  split
  · exact f.provider.acceptAuthorization_leaves lib w _ ctx
  split
  · exact ⟨rfl, w.token_location ctx.request⟩
  split
  · exact ⟨rfl, w.userinfo_location ctx.request⟩
  · exact rfl

theorem FederationFrontend.handleAuthorization_leaves (f : FederationFrontend) (lib : OpLibrary) (w : FederationWorld)
    (ctx : Context) : StartsOrLeaves ctx (f.handleAuthorization lib w ctx) := by
  unfold handleAuthorization
  simp only [Flow.context, Action.read_bind_run]
  cases duplicateParameter [] ctx.request.queryPairs with
  | some name => exact ⟨rfl, lib.toResponse_location _⟩
  | none =>
    simp only
    cases (ctx.request.queryPairs.find? fun p => p.1 = "client_id").map (·.2) with
    | none => exact rfl
    | some clientId =>
      rw [Action.orFail_some, Action.pure_bind_run]
      cases f.resolveClient w clientId with
      | none => exact ⟨rfl, lib.toResponse_location _⟩
      | some client =>
        simp only
        cases f.unpackRequestObject w ctx.request.queryPairs client with
        | error e => exact ⟨rfl, lib.toResponse_location _⟩
        | ok params => exact f.provider.acceptAuthorization_leaves lib w.op params ctx

theorem FederationFrontend.handleEndpoint_leaves (f : FederationFrontend) (lib : OpLibrary) (w : FederationWorld)
    (routeId : String) (ctx : Context) : StartsOrLeaves ctx (f.handleEndpoint lib w routeId ctx) := by
  unfold handleEndpoint
  split
  · unfold handleEntityConfiguration
    cases w.entityConfiguration with
    | error e => exact rfl
    | ok jwt => exact ⟨rfl, rfl⟩
  split
  · cases w.op.discoveryDocument with
    | error e => exact rfl
    | ok document => exact ⟨rfl, rfl⟩
  split
  · cases w.op.jwksDocument with
    | error e => exact rfl
    | ok document => exact ⟨rfl, rfl⟩
  split
  · exact f.handleAuthorization_leaves lib w ctx
  split
  · exact ⟨rfl, w.op.token_location ctx.request⟩
  split
  · exact ⟨rfl, w.op.userinfo_location ctx.request⟩
  · exact rfl

namespace DownstreamPlugin

variable {W : Type}

theorem handleEndpoint_leaves (f : DownstreamPlugin W) (lib : OpLibrary) (w : W) (routeId : String) (ctx : Context) :
    StartsOrLeaves ctx ((f.frontend lib).handleEndpoint w routeId ctx) := by
  cases f with
  | saml f view => exact f.handleEndpoint_leaves (view w) routeId ctx
  | oidc f view => exact f.handleEndpoint_leaves lib (view w) routeId ctx
  | federation f view => exact f.handleEndpoint_leaves lib (view w) routeId ctx

def openid : DownstreamPlugin W → Option (OpenidProvider × (W → OpWorld))
  | .saml _ _ => none
  | .oidc f view => some (f.provider, view)
  | .federation f view => some (f.provider, fun w => (view w).op)

def pendingRequest (lib : OpLibrary) (f : DownstreamPlugin W) (s : State) : Option AuthorizationRequest :=
  f.openid.bind fun p => p.1.loadAuthzRequest lib s

def Answerable (lib : OpLibrary) (w : W) (s : State) (f : DownstreamPlugin W) : Prop :=
  ∃ provider view req client, f.openid = some (provider, view) ∧ provider.loadAuthzRequest lib s = some req ∧
    (view w).validate req = .ok client

/-- A frontend that holds no valid request answers an error where it is. -/
theorem handleBackendError_local {lib : OpLibrary} {w : W} {ctx : Context} {f : DownstreamPlugin W} (e : Error)
    (h : ¬ f.Answerable lib w ctx.state) :
    ∃ r, (f.frontend lib).handleBackendError w e ctx = (.ok r, ctx) ∧ r.location = none := by
  have hprovider : ∀ (provider : OpenidProvider) (view : W → OpWorld), f.openid = some (provider, view) →
      ∃ r, provider.handleBackendError lib (view w) e ctx = (.ok r, ctx) ∧ r.location = none := by
    intro provider view hopenid
    unfold OpenidProvider.handleBackendError
    simp only [Flow.context, Action.read_bind_run]
    cases hload : provider.loadAuthzRequest lib ctx.state with
    | none => exact ⟨_, rfl, rfl⟩
    | some req =>
      refine ⟨_, rfl, ?_⟩
      unfold authorizationErrorResponse
      cases hvalid : (view w).validate req with
      | error _ => exact lib.toResponse_location _
      | ok client => exact absurd ⟨provider, view, req, client, hopenid, hload, hvalid⟩ h
  cases f with
  | saml f view => exact ⟨_, rfl, rfl⟩
  | oidc f view => exact hprovider _ _ rfl
  | federation f view => exact hprovider _ _ rfl

/-- A frontend that holds a valid request sends its client the error. -/
theorem handleBackendError_redirects {lib : OpLibrary} {w : W} {ctx : Context} {f : DownstreamPlugin W} (e : Error)
    (h : f.Answerable lib w ctx.state) :
    ∃ req error, f.pendingRequest lib ctx.state = some req ∧
      (f.frontend lib).handleBackendError w e ctx =
        (.ok (lib.toRedirect error req.redirectUri (lib.useFragment req)), ctx) := by
  obtain ⟨provider, view, req, client, hopenid, hload, hvalid⟩ := h
  have hrun : ∃ error, provider.handleBackendError lib (view w) e ctx =
      (.ok (lib.toRedirect error req.redirectUri (lib.useFragment req)), ctx) := by
    unfold OpenidProvider.handleBackendError authorizationErrorResponse
    simp only [Flow.context, Action.read_bind_run, hload, hvalid]
    exact ⟨_, rfl⟩
  have hpending : f.pendingRequest lib ctx.state = some req := by
    unfold pendingRequest
    rw [hopenid]
    exact hload
  obtain ⟨error, hrun⟩ := hrun
  refine ⟨req, error, hpending, ?_⟩
  cases f with
  | saml f view => cases hopenid
  | oidc f view =>
    cases hopenid
    exact hrun
  | federation f view =>
    cases hopenid
    exact hrun

end DownstreamPlugin

/-! ## The deployment -/

namespace Deployment

variable {W : Type} (d : Deployment W) (statusHint : Error → Nat) (s : State) (r : Exchange W)

/-- The request belongs to no flow: its path has no route, or it is a
frontend's and starts nothing. -/
def Stray : Prop :=
  d.proxy.router.resolve r.request.path = none ∨
    (∃ name routeId, d.proxy.router.resolve r.request.path =
      some { kind := .frontend, moduleName := name, routeId }) ∧
      ∀ request startIndex pin ctx', d.proxy.enter r.world (r.context s) ≠ (.ok (.request request startIndex pin), ctx')

/-- The response tells the client of a pending request of an error. -/
def TellsPending (response : Response) : Prop :=
  ∃ f ∈ d.frontends, ∃ req error, f.pendingRequest d.lib (r.context s).state = some req ∧
    response.location = (d.lib.toRedirect error req.redirectUri (d.lib.useFragment req)).location

/-- The pending flow is left alone: it is told of no error, and every
namespace stays. -/
def SparesPending : Prop :=
  ¬ d.TellsPending s r (d.proxy.respond r.world statusHint (r.context s)).1 ∧
    ∀ ns, (d.proxy.respond r.world statusHint (r.context s)).2.state.get ns = (r.context s).state.get ns

/-- The name of the frontend an error of the request is rendered by: the
recorded one of an unrouted path, and a failing frontend itself. -/
def rendersError : Option String :=
  match d.proxy.router.resolve r.request.path with
  | none => Proxy.recordedFrontend (r.context s)
  | some m =>
    match d.proxy.enter r.world (r.context s) with
    | (.error _, _) => some m.moduleName
    | (.ok _, _) => none

/-- No frontend that renders the error holds a valid authorization request. -/
def NoneAnswerable : Prop :=
  ∀ name f, d.rendersError s r = some name → f ∈ d.frontends → d.proxy.frontends.get name = some (f.frontend d.lib) →
    ¬ f.Answerable d.lib r.world (r.context s).state

variable {d s r}

/-- Where a stray request ends: in an answer, or in an error of a context that
only names the frontend to render it. -/
theorem Stray.enter (h : d.Stray s r) :
    (∃ response, d.proxy.enter r.world (r.context s) = (.ok (.answered response), (d.proxy.enter r.world (r.context s)).2) ∧
      response.location = none ∧ (d.proxy.enter r.world (r.context s)).2.state = (r.context s).state ∧
      d.rendersError s r = none) ∨
    ∃ e target, d.proxy.enter r.world (r.context s) = (.error e, { r.context s with targetFrontend := target }) ∧
      d.rendersError s r = target.or (Proxy.recordedFrontend (r.context s)) := by
  have hentered := d.proxy.enter_entered r.world (r.context s)
  have hpath : (r.context s).path = r.request.path := rfl
  rcases h with hnone | ⟨⟨name, routeId, hroute⟩, hstarts⟩
  · generalize hrun : d.proxy.enter r.world (r.context s) = out at hentered
    have hrenders : d.rendersError s r = Proxy.recordedFrontend (r.context s) := by
      unfold rendersError
      rw [hnone]
    cases hentered with
    | unrouted => exact .inr ⟨_, none, rfl, hrenders⟩
    | _ => simp_all
  · have hrenders : ∀ e ctx', d.proxy.enter r.world (r.context s) = (.error e, ctx') →
        d.rendersError s r = some name := by
      intro e ctx' herror
      unfold rendersError
      rw [hroute, herror]
    have hsilent : ∀ stage ctx', d.proxy.enter r.world (r.context s) = (.ok stage, ctx') →
        d.rendersError s r = none := by
      intro stage ctx' hok
      unfold rendersError
      rw [hroute, hok]
    rw [← hpath] at hroute
    generalize hrun : d.proxy.enter r.world (r.context s) = out at hentered hstarts hrenders hsilent
    have hleaves : ∀ (name' routeId' : String) (f : Frontend W), d.proxy.frontends.get name' = some f →
        StartsOrLeaves (Proxy.toFrontend name' (r.context s))
          (f.handleEndpoint r.world routeId' (Proxy.toFrontend name' (r.context s))) := by
      intro name' routeId' f hf
      obtain ⟨down, _, rfl, _⟩ := frontend_found hf
      exact down.handleEndpoint_leaves d.lib r.world routeId' _
    cases hentered with
    | unknownFrontend hr hget =>
      cases hroute.symm.trans hr
      exact .inr ⟨_, some name, rfl, hrenders _ _ rfl⟩
    | frontendFails hr hget hfails =>
      cases hroute.symm.trans hr
      have hleft := hleaves name routeId _ hget
      rw [hfails] at hleft
      cases hleft
      exact .inr ⟨_, some name, rfl, hrenders _ _ rfl⟩
    | frontendAnswers hr hget hanswers =>
      cases hroute.symm.trans hr
      have hleft := hleaves name routeId _ hget
      rw [hanswers] at hleft
      obtain ⟨rfl, hlocation⟩ := hleft
      exact .inl ⟨_, rfl, hlocation, rfl, hsilent _ _ rfl⟩
    | frontendStarts => exact absurd rfl (hstarts _ _ _ _)
    | _ => simp_all

/-- Where the error is told to a pending client: exactly where the frontend
that renders it holds a valid request. -/
theorem renderError_tells (statusHint : Error → Nat) (e : Error) (target : Option String)
    (hrenders : d.rendersError s r = target.or (Proxy.recordedFrontend (r.context s))) :
    (d.TellsPending s r (d.proxy.renderError r.world statusHint e { r.context s with targetFrontend := target }).1 ↔
        ¬ d.NoneAnswerable s r) ∧
      (d.proxy.renderError r.world statusHint e { r.context s with targetFrontend := target }).2.state =
        (r.context s).state := by
  generalize hctx : ({ r.context s with targetFrontend := target } : Context) = ctx
  have hstate : ctx.state = (r.context s).state := by rw [← hctx]
  have hplain : Proxy.errorRedirect ctx = none := by
    rw [← hctx]
    rfl
  have hname : ctx.targetFrontend.or (Proxy.recordedFrontend ctx) = d.rendersError s r := by
    rw [hrenders, ← hctx]
    rfl
  have hsilent : ∀ response : Response, response.location = none → ¬ d.TellsPending s r response := by
    rintro response hlocal ⟨f, _, req, error, _, htold⟩
    exact d.lib.toRedirect_location error req.redirectUri (d.lib.useFragment req) (htold.symm.trans hlocal)
  unfold Proxy.renderError
  rw [hplain]
  unfold Proxy.errorFrontend
  rw [hname]
  cases hfound : (d.rendersError s r).bind d.proxy.frontends.get with
  | none =>
    have hnobody : d.NoneAnswerable s r := by
      intro name f hrendered _ hget
      rw [hrendered, Option.bind_some, hget] at hfound
      cases hfound
    exact ⟨⟨fun htells => absurd htells (hsilent _ rfl), fun h => absurd hnobody h⟩, hstate⟩
  | some frontend =>
    obtain ⟨name, hrendered, hget⟩ := Option.bind_eq_some_iff.mp hfound
    obtain ⟨f, hmem, rfl, _⟩ := frontend_found hget
    simp only
    by_cases hanswerable : f.Answerable d.lib r.world ctx.state
    · obtain ⟨req, error, hpending, hrun⟩ := f.handleBackendError_redirects e hanswerable
      rw [hrun]
      rw [hstate] at hpending hanswerable
      exact ⟨⟨fun _ hnobody => hnobody name f hrendered hmem hget hanswerable,
        fun _ => ⟨f, hmem, req, error, hpending, rfl⟩⟩, hstate⟩
    · obtain ⟨response, hrun, hlocal⟩ := f.handleBackendError_local e hanswerable
      rw [hrun]
      refine ⟨⟨fun htells => absurd htells (hsilent _ hlocal), fun h => absurd ?_ h⟩, hstate⟩
      -- Of two frontends configured alike, neither redirects.
      intro name' f' hrendered' _ hget' hanswerable'
      obtain rfl := Option.some.inj (hrendered.symm.trans hrendered')
      have hsame : f.frontend d.lib = f'.frontend d.lib := Option.some.inj (hget.symm.trans hget')
      rw [← hstate] at hanswerable'
      obtain ⟨req, error, _, hrun'⟩ := f'.handleBackendError_redirects e hanswerable'
      rw [← hsame, hrun] at hrun'
      have hresponse : response = d.lib.toRedirect error req.redirectUri (d.lib.useFragment req) := by
        cases hrun'
        rfl
      exact d.lib.toRedirect_location error req.redirectUri (d.lib.useFragment req)
        ((congrArg Response.location hresponse).symm.trans hlocal)

/-- **A request that belongs to no flow leaves every namespace as it is, and
the pending client is told of its error exactly when the frontend that renders
it holds a valid authorization request.** -/
theorem errors_spare_pending (d : Deployment W) (statusHint : Error → Nat) (s : State) (r : Exchange W)
    (h : d.Stray s r) : d.SparesPending statusHint s r ↔ d.NoneAnswerable s r := by
  unfold SparesPending
  rcases h.enter with ⟨response, henter, hlocal, hstate, hrenders⟩ | ⟨e, target, henter, hrenders⟩
  · generalize (d.proxy.enter r.world (r.context s)).2 = ctx at henter hstate
    have hrespond : d.proxy.respond r.world statusHint (r.context s) = (response, ctx) := by
      have hreach : d.proxy.reach r.world (r.context s) = (.ok (.answered response), ctx) :=
        Action.bind_of_ok (f := d.proxy.advance r.world) henter
      exact Proxy.respond_of_ok (Proxy.dispatch_of_reach hreach)
    rw [hrespond]
    have hsilent : ¬ d.TellsPending s r response := by
      rintro ⟨f, _, req, error, _, htold⟩
      exact d.lib.toRedirect_location error req.redirectUri (d.lib.useFragment req) (htold.symm.trans hlocal)
    refine ⟨fun _ name f hrendered => ?_, fun _ => ⟨hsilent, fun ns => by rw [hstate]⟩⟩
    rw [hrenders] at hrendered
    cases hrendered
  · have hrespond : d.proxy.respond r.world statusHint (r.context s) =
        d.proxy.renderError r.world statusHint e { r.context s with targetFrontend := target } := by
      have hreach : d.proxy.reach r.world (r.context s) =
          (.error e, { r.context s with targetFrontend := target }) :=
        Action.bind_of_error (f := d.proxy.advance r.world) henter
      exact Proxy.respond_of_error (Proxy.dispatch_of_error hreach)
    rw [hrespond]
    obtain ⟨htells, hstate⟩ := renderError_tells statusHint e target hrenders
    have hspares : ¬ d.TellsPending s r _ ↔ d.NoneAnswerable s r := (not_congr htells).trans Classical.not_not
    exact ⟨fun h => hspares.mp h.1, fun h => ⟨hspares.mpr h, fun ns => by rw [hstate]⟩⟩

def besideSaml : Deployment (OpWorld × OidcWorld) :=
  { oidcProxy "Upstream" with
    frontends := (oidcProxy "Upstream").frontends ++
      [.saml { name := "Saml2", idpEntityId := "https://proxy.example/Saml2/metadata"
               ssoUrl := "https://proxy.example/Saml2/sso", nameIdFormats := [NAMEID_TRANSIENT], spStore := .allowAll }
        fun _ => Saml2Backend.answering "_r"] }

def loginBeside : State := besideSaml.proxy.serve (fun _ => 500) State.new (login "1")

/-- No AuthnRequest at the other frontend. -/
def emptySso : Exchange (OpWorld × OidcWorld) :=
  { world := oidcWorld "1", request := { path := "Saml2/sso" }, envelope := some 0 }

/-- The SAML frontend fails and holds no authorization request: the login stays pending. -/
theorem errors_spare_pending_demo :
    besideSaml.SparesPending (fun _ => 500) loginBeside emptySso ∧
      ∃ f ∈ besideSaml.frontends, (f.pendingRequest besideSaml.lib (emptySso.context loginBeside).state).isSome := by
  have hroute : besideSaml.proxy.router.resolve emptySso.request.path =
      some { kind := .frontend, moduleName := "Saml2", routeId := "sso" } := by decide
  refine ⟨(errors_spare_pending besideSaml (fun _ => 500) loginBeside emptySso
    (.inr ⟨⟨"Saml2", "sso", hroute⟩, fun _ _ _ _ henter => (by cases henter)⟩)).mpr ?_, _, List.mem_cons_self, rfl⟩
  intro name f hrendered hmem hget
  cases hrendered
  rcases List.mem_cons.mp hmem with rfl | hmem
  · have hname : some "Saml2" = some "OIDC" := congrArg (Option.map Frontend.name) hget
    exact absurd hname (by decide)
  · cases List.mem_singleton.mp hmem
    rintro ⟨_, _, _, _, hopenid, _⟩
    cases hopenid

/-- What the browser asks for beside a login. -/
def favicon (envelope : Option Nat) : Exchange (OpWorld × OidcWorld) :=
  { world := oidcWorld "1", request := { path := "favicon.ico" }, envelope }

def pendingLogin : State := (oidcProxy "Upstream").proxy.serve (fun _ => 500) State.new (login "1")

/-- With the login pending, its relying party is told `server_error`. -/
theorem favicon_tells_pending :
    (oidcProxy "Upstream").Stray pendingLogin (favicon (some 0)) ∧
      ¬ (oidcProxy "Upstream").SparesPending (fun _ => 500) pendingLogin (favicon (some 0)) := by
  have hunrouted : (oidcProxy "Upstream").proxy.router.resolve (favicon (some 0)).request.path = none := by decide
  refine ⟨.inl hunrouted, fun h => ?_⟩
  obtain ⟨hspared, _⟩ := h
  refine hspared ⟨_, List.mem_cons_self, { clientId := "rp", redirectUri := "https://rp.example/cb", state := some "af0" },
    { code := .serverError, description := "authentication could not be completed", state := some "af0" }, rfl, ?_⟩
  rfl

end Deployment

end Tunnelbana
