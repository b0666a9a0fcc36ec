/-
Which flags the upstream requests of a flow carry. A run interleaves
suspensions and resumes in `disco_to_target_issuer`, start_auth calls and
endpoints of any number of backends over one state; the ledger keeps the flags
each flow was started with.

A direct request carries the flags it was started with, and a snapshot keeps
them. A SAML discovery return reads them from the backend's namespace, with
false for what is not there: it carries the flow's flags as long as nobody
consumed the namespace before it (`flags_carried`).
-/
import Tunnelbana.Basis.Run
import Tunnelbana.Plugins.DiscoToTargetIssuer
import Tunnelbana.Plugins.OidcCorrelation
import Tunnelbana.Plugins.SamlCorrelation

namespace Tunnelbana

open Basis

/-! ## Flags -/

/-- Authenticate the user anew; do not ask the user. -/
structure Flags where
  forceAuthn : Bool
  isPassive : Bool
deriving DecidableEq, Repr

def InternalData.flags (r : InternalData) : Flags := { forceAuthn := r.forceAuthn, isPassive := r.isPassive }

def Flags.none : Flags := { forceAuthn := false, isPassive := false }

/-- An upstream authentication request carries exactly these flags; a redirect
to a discovery service is no authentication request. -/
def Location.Carries (f : Flags) : Location → Prop
  | .authnRequest _ request _ =>
    request.forceAuthn = (if f.forceAuthn then some true else Option.none) ∧
      request.isPassive = (if f.isPassive then some true else Option.none)
  | .authorization _ params =>
    (("prompt", "login") ∈ params ↔ f.forceAuthn = true) ∧ (("prompt", "none") ∈ params ↔ f.isPassive = true)
  | .url _ => True
  | .query _ _ => True

def Response.Carries (r : Response) (f : Flags) : Prop := ∀ loc, r.location = some loc → loc.Carries f

/-! ## Backends -/

structure UpstreamWorld where
  saml : SamlWorld
  oidc : OidcWorld

inductive Upstream where
  | saml (b : Saml2Backend)
  | relying (b : RpBackend)

namespace Upstream

def stateNamespace : Upstream → String
  | saml b => b.stateNamespace
  | relying b => b.name

def startAuth (w : UpstreamWorld) (request : InternalData) : Upstream → Flow Response
  | saml b => b.startAuth w.saml request
  | relying b => b.startAuth w.oidc request

def handleEndpoint (w : UpstreamWorld) (routeId : String) : Upstream → Flow BackendAction
  | saml b => b.handleEndpoint w.saml routeId
  | relying b => b.handleEndpoint w.oidc routeId

/-- The federation backend refuses either flag. -/
def refuses (f : Flags) : Upstream → Bool
  | relying (.federation _) => f.forceAuthn || f.isPassive
  | _ => false

variable (u : Upstream) {w : UpstreamWorld} {ctx : Context} {request : InternalData}

theorem startAuth_within (w : UpstreamWorld) (request : InternalData) (hs : ctx.state.Objects) :
    ctx.state.Within u.stateNamespace (u.startAuth w request ctx).2.state := by
  cases u with
  | saml b => exact b.startAuth_within w.saml request hs
  | relying b => exact b.startAuth_within w.oidc request hs

theorem handleEndpoint_within (w : UpstreamWorld) (routeId : String) (hs : ctx.state.Objects) :
    ctx.state.Within u.stateNamespace (u.handleEndpoint w routeId ctx).2.state := by
  cases u with
  | saml b => exact b.handleEndpoint_within w.saml routeId hs
  | relying b => exact b.handleEndpoint_within w.oidc routeId hs

/-! ## What is sent directly -/

theorem saml_sent {b : Saml2Backend} {f : Flags} {built : BuiltRequest}
    (hforce : built.request.forceAuthn = if f.forceAuthn then some true else none)
    (hpassive : built.request.isPassive = if f.isPassive then some true else none) : (b.sent built).Carries f := by
  intro loc hloc
  cases hloc
  exact ⟨hforce, hpassive⟩

theorem saml_startAuth_carries (b : Saml2Backend) {w : SamlWorld} {r : Response} (hs : ctx.state.Objects)
    (h : (b.startAuth w request ctx).1 = .ok r) : r.Carries request.flags := by
  obtain ⟨ctx₁, hprepared, hcases⟩ := b.startAuth_cases w request hs
  rcases hcases with ⟨target, built, ctx', _, hbuilds, hrun | ⟨e, hrun⟩⟩ | ⟨target, e, ctx', _, _, hrun⟩ |
    ⟨_, ⟨disco, _, _, hrun⟩ | ⟨e, ctx', hrun, _⟩⟩
  · rw [hrun] at h
    cases h
    refine saml_sent ?_ ?_
    · rw [hbuilds.forceAuthn, State.flag_of_value hprepared.forceAuthn]
      rfl
    · rw [hbuilds.isPassive, State.flag_of_value hprepared.isPassive]
      rfl
  · rw [hrun] at h
    cases h
  · rw [hrun] at h
    cases h
  · rw [hrun] at h
    cases h
    intro loc hloc
    cases hloc
    exact trivial
  · rw [hrun] at h
    cases h

/-- The prompt of a request says its flags. -/
theorem oidc_startAuth_carries (b : OidcBackend) {w : OidcWorld} {r : Response}
    (h : (b.startAuth w request ctx).1 = .ok r) : r.Carries request.flags := by
  obtain ⟨provider, _, hprompted⟩ := Action.lift_bind_eq_ok.mp h
  obtain ⟨prompt, hprompt, hstored⟩ := Action.lift_bind_eq_ok.mp hprompted
  obtain ⟨_, _, _, hurl⟩ := Action.bind_eq_ok_iff.mp hstored
  obtain ⟨_, _, hret⟩ := Action.lift_bind_eq_ok.mp hurl
  cases hret
  intro loc hloc
  cases hloc
  unfold OidcBackend.prompt at hprompt
  cases hforce : request.forceAuthn <;> cases hpassive : request.isPassive <;>
    simp only [hforce, hpassive] at hprompt <;> cases hprompt <;>
    simp [Location.Carries, InternalData.flags, hforce, hpassive]

/-- A request of the federation backend has no prompt. -/
theorem startAuthWithOp_carries (b : FederationBackend) {w : OidcWorld} {op : String} {r : Response}
    (h : (b.startAuthWithOp w op ctx).1 = .ok r) : r.Carries .none := by
  obtain ⟨resolved, _, hstored⟩ := Action.lift_bind_eq_ok.mp h
  obtain ⟨_, _, _, hobject⟩ := Action.bind_eq_ok_iff.mp hstored
  obtain ⟨object, _, hurl⟩ := Action.lift_bind_eq_ok.mp hobject
  obtain ⟨_, _, hret⟩ := Action.lift_bind_eq_ok.mp hurl
  cases hret
  intro loc hloc
  cases hloc
  simp [Location.Carries, Flags.none]

theorem discoveryRedirect_query (b : FederationBackend) {w : OidcWorld} {d : Discovery} {hint : Option String}
    {r : Response} (h : b.discoveryRedirect w d hint = .ok r) :
    ∃ endpoint params, r.location = some (.query endpoint params) := by
  unfold FederationBackend.discoveryRedirect at h
  simp only at h
  split at h
  · cases h
    exact ⟨_, _, rfl⟩
  · cases h
  · cases h
    exact ⟨_, _, rfl⟩
  · obtain ⟨_, _, hret⟩ := except_bind_ok.mp h
    cases hret
    exact ⟨_, _, rfl⟩

theorem federation_startAuth_carries (b : FederationBackend) {w : OidcWorld} {r : Response}
    (h : (b.startAuth w request ctx).1 = .ok r) : request.flags = .none ∧ r.Carries .none := by
  unfold FederationBackend.startAuth at h
  split at h
  · cases h
  next hflags =>
    have hnone : request.flags = .none := by
      unfold InternalData.flags Flags.none
      cases hforce : request.forceAuthn <;> cases hpassive : request.isPassive <;>
        simp [hforce, hpassive] at hflags ⊢
    refine ⟨hnone, ?_⟩
    cases hop : b.op with
    | discovery d =>
      simp only [hop] at h
      obtain ⟨_, _, _, hredirect⟩ := Action.bind_eq_ok_iff.mp h
      obtain ⟨_, _, _, hbuilt⟩ := Action.bind_eq_ok_iff.mp hredirect
      obtain ⟨endpoint, params, hquery⟩ := discoveryRedirect_query b hbuilt
      intro loc hloc
      rw [hquery] at hloc
      cases hloc
      exact trivial
    | fixed op =>
      simp only [hop] at h
      exact startAuthWithOp_carries b h

theorem initiate_carries (b : FederationBackend) {w : OidcWorld} {r : Response}
    (h : (b.handleInitiate w ctx).1 = .ok (.respond r)) :
    (∃ v, ctx.state.getStr b.name DISCOVERY_VERIFIER_KEY = some v) ∧ r.Carries .none := by
  unfold FederationBackend.handleInitiate at h
  cases hop : b.op with
  | fixed op =>
    simp only [hop] at h
    cases h
  | discovery d =>
    simp only [hop, Flow.context, Action.read_bind_run] at h
    obtain ⟨login, hlogin, hstart⟩ := Action.lift_bind_eq_ok.mp h
    obtain ⟨redirect, ctx', hredirect, hspent⟩ := Action.bind_eq_ok_iff.mp hstart
    obtain ⟨_, _, _, hret⟩ := Action.bind_eq_ok_iff.mp hspent
    cases hret
    refine ⟨?_, startAuthWithOp_carries b (congrArg Prod.fst hredirect)⟩
    unfold FederationBackend.checkLogin at hlogin
    cases hv : ctx.state.getStr b.name DISCOVERY_VERIFIER_KEY with
    | none =>
      rw [hv] at hlogin
      cases hlogin
    | some v => exact ⟨v, rfl⟩

end Upstream

/-! ## Runs -/

/-- Backends and discovery services over one state, each with a namespace of
its own. -/
structure UpstreamSystem (β δ : Type) where
  backend : β → Upstream
  service : δ → DiscoToTargetIssuer
  distinct : ∀ i j, (backend i).stateNamespace = (backend j).stateNamespace → i = j
  apart : ∀ i d, (backend i).stateNamespace ≠ (service d).stateNamespace
  services : ∀ d e, (service d).stateNamespace = (service e).stateNamespace → d = e

inductive FlagCall (β δ : Type) where
  /-- A request passes a discovery service. -/
  | suspend (d : δ) (request : InternalData)
  | start (i : β) (request : InternalData)
  /-- A discovery return at a service goes on to a backend. -/
  | resume (d : δ) (i : β)
  | endpoint (i : β) (routeId : String)

structure FlagRequest (β δ : Type) where
  world : UpstreamWorld
  http : HttpRequestData
  targetFrontend : Option String := none
  decorations : Assoc Json := []
  /-- What the services after a resuming one leave decorated. -/
  onward : Assoc Json := []
  call : FlagCall β δ

def FlagRequest.context {β δ : Type} (r : FlagRequest β δ) (s : State) : Context :=
  { request := r.http, targetFrontend := r.targetFrontend, state := s, decorations := r.decorations }

/-- The flags of the flow each service suspended last, of the flow each backend
took up last, and the most recent start_auth. -/
structure FlagLedger (β δ : Type) where
  state : State
  suspended : δ → Option Flags := fun _ => none
  flags : β → Option Flags := fun _ => none
  latest : Option (β × Flags) := none

namespace UpstreamSystem

variable {β δ : Type} (sys : UpstreamSystem β δ)

def start (s : State) : FlagLedger β δ := { state := s }

/-- A start_auth takes up a flow with these flags, unless it refuses them. -/
def takesUp [DecidableEq β] (l : FlagLedger β δ) (i : β) (f : Flags) (s : State) : FlagLedger β δ :=
  { l with
    state := s
    flags := fun j => if j = i ∧ (sys.backend i).refuses f = false then some f else l.flags j
    latest := some (i, f) }

def onwardContext (r : FlagRequest β δ) (ctx : Context) : Context := { ctx with decorations := r.onward }

def step [DecidableEq β] [DecidableEq δ] (l : FlagLedger β δ) (r : FlagRequest β δ) : FlagLedger β δ :=
  let ctx := r.context l.state
  match r.call with
  | .suspend d request =>
    match (sys.service d).processRequest request ctx with
    | (.ok _, ctx') =>
      { l with state := ctx'.state, suspended := fun e => if e = d then some request.flags else l.suspended e }
    | (.error _, ctx') => { l with state := ctx'.state }
  | .start i request =>
    sys.takesUp l i request.flags ((sys.backend i).startAuth r.world request ctx).2.state
  | .resume d i =>
    match (sys.service d).handleEndpoint "" ctx with
    | (.ok (.resumeRequest request), ctx') =>
      sys.takesUp l i ((l.suspended d).getD request.flags)
        ((sys.backend i).startAuth r.world request (onwardContext r ctx')).2.state
    | (_, ctx') => { l with state := ctx'.state }
  | .endpoint i routeId => { l with state := ((sys.backend i).handleEndpoint r.world routeId ctx).2.state }

/-- What a step sends upstream carries the flags of its flow: those it was
started or suspended with, and at an endpoint those of the flow the backend
took up last. -/
def Carried (l : FlagLedger β δ) (r : FlagRequest β δ) : Prop :=
  match r.call with
  | .suspend _ _ => True
  | .start i request =>
    ∀ resp, ((sys.backend i).startAuth r.world request (r.context l.state)).1 = .ok resp →
      resp.Carries request.flags
  | .resume d i =>
    ∀ request ctx', (sys.service d).handleEndpoint "" (r.context l.state) = (.ok (.resumeRequest request), ctx') →
      ∃ f, l.suspended d = some f ∧
        ∀ resp, ((sys.backend i).startAuth r.world request (onwardContext r ctx')).1 = .ok resp → resp.Carries f
  | .endpoint i routeId =>
    ∀ resp loc, ((sys.backend i).handleEndpoint r.world routeId (r.context l.state)).1 = .ok (.respond resp) →
      resp.location = some loc → ∃ f, l.flags i = some f ∧ loc.Carries f

/-- At an endpoint, the same of the most recent start_auth on the state. -/
def CarriedLatest (l : FlagLedger β δ) (r : FlagRequest β δ) : Prop :=
  ∀ i routeId, r.call = .endpoint i routeId →
    ∀ resp loc, ((sys.backend i).handleEndpoint r.world routeId (r.context l.state)).1 = .ok (.respond resp) →
      resp.location = some loc → ∃ j f, l.latest = some (j, f) ∧ loc.Carries f

/-- An endpoint request that sends the user upstream: a SAML discovery return
that can build its request, or a federation one with a flow in flight. -/
def Sends (l : FlagLedger β δ) (r : FlagRequest β δ) (i : β) (routeId : String) : Prop :=
  match sys.backend i with
  | .saml b =>
    routeId = "disco" ∧ ∃ target, Saml2Backend.discoTarget r.http = some target ∧
      b.CanBuild r.world.saml (some target) (b.handoffValue (r.context l.state))
        (l.state.getStr b.stateNamespace "requested_subject")
  | .relying b => routeId = "initiate" ∧ ∃ v, l.state.getStr b.name DISCOVERY_VERIFIER_KEY = some v

/-- A SAML discovery return that sends comes while the flags are stored, or the
flow the backend took up last asked for neither. -/
def WhileKept (l : FlagLedger β δ) (r : FlagRequest β δ) : Prop :=
  ∀ i routeId b, r.call = .endpoint i routeId → sys.backend i = .saml b → sys.Sends l r i routeId →
    (∃ v, l.state.getValue b.stateNamespace "force_authn" = some v) ∨ l.flags i = some .none

/-- A discovery return that sends comes to the backend of the most recent
start_auth, which that backend did not refuse. -/
def AtLatest (l : FlagLedger β δ) (r : FlagRequest β δ) : Prop :=
  ∀ i routeId, r.call = .endpoint i routeId → sys.Sends l r i routeId →
    ∃ f, l.latest = some (i, f) ∧ (sys.backend i).refuses f = false

/-! ## The invariant -/

/-- What a backend's namespace says of the flags of the flow it took up last. -/
def Agrees (s : State) (f : Option Flags) : Upstream → Prop
  | .saml b =>
    (∃ g, f = some g ∧ s.getValue b.stateNamespace "force_authn" = some (.bool g.forceAuthn) ∧
      s.getValue b.stateNamespace "is_passive" = some (.bool g.isPassive)) ∨
    (s.getValue b.stateNamespace "force_authn" = none ∧ s.getValue b.stateNamespace "is_passive" = none)
  | .relying (.oidc _) => True
  | .relying (.federation b) =>
    (∀ v, s.getStr b.name DISCOVERY_VERIFIER_KEY = some v → f = some .none) ∧ ∀ g, f = some g → g = .none

def Suspended (s : State) (f : Option Flags) (d : DiscoToTargetIssuer) : Prop :=
  ∀ snapshot, s.getValue d.stateNamespace KEY_SNAPSHOT = some snapshot →
    ∃ data, DiscoToTargetIssuer.snapshotRequest snapshot = some data ∧ f = some data.flags

structure Consistent (l : FlagLedger β δ) : Prop where
  objects : l.state.Objects
  backends : ∀ i, Agrees l.state (l.flags i) (sys.backend i)
  services : ∀ d, Suspended l.state (l.suspended d) (sys.service d)
  latest : ∀ i f, l.latest = some (i, f) → (sys.backend i).refuses f = false → l.flags i = some f

theorem Agrees.frame {s t : State} {f : Option Flags} {u : Upstream} {ns : String} (h : Agrees s f u)
    (hw : s.Within ns t) (hne : ns ≠ u.stateNamespace) : Agrees t f u := by
  cases u with
  | saml b =>
    simp only [Agrees, hw.value b.stateNamespace _ hne] at h ⊢
    exact h
  | relying b =>
    cases b with
    | oidc b => exact trivial
    | federation b =>
      have hkey : t.getStr b.name DISCOVERY_VERIFIER_KEY = s.getStr b.name DISCOVERY_VERIFIER_KEY :=
        hw.getStr hne _
      simp only [Agrees, hkey] at h ⊢
      exact h

theorem Suspended.frame {s t : State} {f : Option Flags} {d : DiscoToTargetIssuer} {ns : String}
    (h : Suspended s f d) (hw : s.Within ns t) (hne : ns ≠ d.stateNamespace) : Suspended t f d := by
  intro snapshot hsnapshot
  rw [hw.value _ _ hne] at hsnapshot
  exact h snapshot hsnapshot

/-- A start_auth leaves its own flags, and a refused one what was there. -/
theorem Agrees.startAuth {u : Upstream} {f : Option Flags} {ctx : Context} (h : Agrees ctx.state f u)
    (hs : ctx.state.Objects) (w : UpstreamWorld) (request : InternalData) :
    Agrees (u.startAuth w request ctx).2.state (if u.refuses request.flags = false then some request.flags else f)
      u := by
  cases u with
  | saml b =>
    obtain ⟨hforce, hpassive⟩ := b.startAuth_flags w.saml request hs
    exact .inl ⟨request.flags, rfl, hforce, hpassive⟩
  | relying b =>
    cases b with
    | oidc b => exact trivial
    | federation b =>
      by_cases hrefuses : (request.forceAuthn || request.isPassive) = true
      · have hfalse : ¬ (Upstream.relying (.federation b)).refuses request.flags = false := by
          show ¬ (request.forceAuthn || request.isPassive) = false
          rw [hrefuses]
          simp
        have hstate : ((Upstream.relying (.federation b)).startAuth w request ctx).2.state = ctx.state := by
          show (b.startAuth w.oidc request ctx).2.state = ctx.state
          unfold FederationBackend.startAuth
          rw [if_pos hrefuses]
          rfl
        rw [hstate, if_neg hfalse]
        exact h
      · have hfalse : (request.forceAuthn || request.isPassive) = false := by simpa using hrefuses
        have hnone : request.flags = .none := by
          obtain ⟨hforce, hpassive⟩ := Bool.or_eq_false_iff.mp hfalse
          simp only [InternalData.flags, Flags.none, hforce, hpassive]
        have hfalse' : (Upstream.relying (.federation b)).refuses request.flags = false := hfalse
        rw [if_pos hfalse', hnone]
        exact ⟨fun _ _ => rfl, fun g hg => (Option.some.inj hg).symm⟩

/-- The verifier of a discovery redirect is not made by an endpoint. -/
theorem verifier_handleEndpoint (b : FederationBackend) (w : OidcWorld) (routeId : String) {ctx : Context} {v : String}
    (h : (b.handleEndpoint w routeId ctx).2.state.getStr b.name DISCOVERY_VERIFIER_KEY = some v) :
    ∃ v', ctx.state.getStr b.name DISCOVERY_VERIFIER_KEY = some v' := by
  unfold FederationBackend.handleEndpoint at h
  split at h
  · unfold FederationBackend.handleEntityConfiguration at h
    cases hjwt : w.entityConfiguration with
    | error e =>
      rw [hjwt] at h
      exact ⟨v, h⟩
    | ok jwt =>
      rw [hjwt] at h
      exact ⟨v, h⟩
  · split at h
    · rcases RpBackend.initiate_state b w ctx with ⟨_, hstate⟩ | ⟨op, verifier, _, hverifier, _⟩
      · rw [hstate] at h
        exact ⟨v, h⟩
      · exact ⟨verifier, hverifier⟩
    · split at h
      · rcases b.relyingParty.handleCallback_cases w ctx with ⟨e, ctx', hrun, hstate⟩ | ⟨data, _, _, hrun⟩
        · rw [hrun, hstate] at h
          exact ⟨v, h⟩
        · rw [hrun] at h
          have hnone : (ctx.state.clearNamespace b.name).getStr b.name DISCOVERY_VERIFIER_KEY = none :=
            State.getStr_none (by rw [State.getValue_clearNamespace, if_pos rfl])
          cases hnone.symm.trans h
      · exact ⟨v, h⟩

/-- An endpoint keeps what the namespace says, or clears it. -/
theorem Agrees.handleEndpoint {u : Upstream} {f : Option Flags} {ctx : Context} (h : Agrees ctx.state f u)
    (hs : ctx.state.Objects) (w : UpstreamWorld) (routeId : String) :
    Agrees (u.handleEndpoint w routeId ctx).2.state f u := by
  cases u with
  | saml b =>
    rcases b.handleEndpoint_flags w.saml routeId hs with hsame | hnone
    · have hforce := hsame "force_authn" (.inl rfl)
      have hpassive := hsame "is_passive" (.inr rfl)
      rcases h with ⟨g, hg, hf, hp⟩ | ⟨hf, hp⟩
      · exact .inl ⟨g, hg, hforce.trans hf, hpassive.trans hp⟩
      · exact .inr ⟨hforce.trans hf, hpassive.trans hp⟩
    · exact .inr ⟨hnone "force_authn", hnone "is_passive"⟩
  | relying b =>
    cases b with
    | oidc b => exact trivial
    | federation b =>
      refine ⟨fun v hv => ?_, h.2⟩
      obtain ⟨v', hv'⟩ := verifier_handleEndpoint b w.oidc routeId hv
      exact h.1 v' hv'

/-! ## Steps -/

variable {sys} {l : FlagLedger β δ} {r : FlagRequest β δ}

theorem consistent_takesUp [DecidableEq β] {i : β} {ctx : Context} (hs : ctx.state.Objects)
    (hbackends : ∀ j, Agrees ctx.state (l.flags j) (sys.backend j))
    (hservices : ∀ d, Suspended ctx.state (l.suspended d) (sys.service d))
    (w : UpstreamWorld) (request : InternalData) :
    sys.Consistent (sys.takesUp l i request.flags ((sys.backend i).startAuth w request ctx).2.state) := by
  have hwithin := (sys.backend i).startAuth_within w request hs
  refine ⟨hwithin.objects hs, fun j => ?_, fun d => ?_, fun j f hlatest hrefuses => ?_⟩
  · by_cases hij : j = i
    · subst hij
      have hstarted := (hbackends j).startAuth hs w request
      simp only [UpstreamSystem.takesUp, true_and]
      exact hstarted
    · simp only [UpstreamSystem.takesUp, if_neg fun hc : j = i ∧ _ => hij hc.1]
      exact (hbackends j).frame hwithin fun he => hij (sys.distinct i j he).symm
  · exact (hservices d).frame hwithin (sys.apart i d)
  · simp only [UpstreamSystem.takesUp, Option.some.injEq, Prod.mk.injEq] at hlatest
    obtain ⟨rfl, rfl⟩ := hlatest
    simp only [UpstreamSystem.takesUp, hrefuses, and_self, if_true]

theorem Consistent.step [DecidableEq β] [DecidableEq δ] (h : sys.Consistent l) : sys.Consistent (sys.step l r) := by
  have hs : (r.context l.state).state.Objects := h.objects
  unfold UpstreamSystem.step
  cases hcall : r.call with
  | suspend d request =>
    simp only
    rcases (sys.service d).processRequest_cases request (r.context l.state) with hrun | ⟨e, hrun⟩
    · rw [hrun]
      have hrefl : l.state.Within (sys.service d).stateNamespace l.state := State.Within.refl _
      have hwithin := hrefl.andSetValue KEY_SNAPSHOT (DiscoToTargetIssuer.snapshot r.targetFrontend request)
      refine ⟨hwithin.objects hs, fun i => (h.backends i).frame hwithin fun he => sys.apart i d he.symm, fun e => ?_,
        h.latest⟩
      by_cases hed : e = d
      · subst hed
        intro snapshot hsnapshot
        have hstored := State.getValue_setValue_self h.objects (sys.service e).stateNamespace KEY_SNAPSHOT
          (DiscoToTargetIssuer.snapshot r.targetFrontend request)
        have heq := Option.some.inj (hstored.symm.trans hsnapshot)
        subst heq
        exact ⟨request, DiscoToTargetIssuer.snapshotRequest_snapshot _ _, by simp⟩
      · simp only [if_neg hed]
        exact (h.services e).frame hwithin fun he => hed (sys.services d e he).symm
    · rw [hrun]
      exact h
  | start i request => exact consistent_takesUp hs h.backends h.services r.world request
  | resume d i =>
    simp only
    rcases (sys.service d).handleEndpoint_cases "" (r.context l.state) with
      ⟨snapshot, request, ctx', hsnapshot, hrequest, hrun, hstate, _, _⟩ | ⟨e, ctx', hrun, _, hstate⟩
    · rw [hrun]
      obtain ⟨data, hdata, hflags⟩ := h.services d snapshot hsnapshot
      have heq : data = request := Option.some.inj (hdata.symm.trans hrequest)
      subst heq
      simp only [hflags, Option.getD_some]
      have hwithin : l.state.Within (sys.service d).stateNamespace (onwardContext r ctx').state := by
        show l.state.Within _ ctx'.state
        rw [hstate]
        exact State.Within.clearNamespace _ _
      refine consistent_takesUp (hwithin.objects hs)
        (fun j => (h.backends j).frame hwithin fun he => sys.apart j d he.symm) (fun e => ?_) r.world data
      by_cases hed : e = d
      · subst hed
        intro snapshot' hsnapshot'
        have hnone : (onwardContext r ctx').state.getValue (sys.service e).stateNamespace KEY_SNAPSHOT = none := by
          show ctx'.state.getValue _ _ = none
          rw [hstate, State.getValue_clearNamespace, if_pos rfl]
        rw [hnone] at hsnapshot'
        cases hsnapshot'
      · exact (h.services e).frame hwithin fun he => hed (sys.services d e he).symm
    · rw [hrun]
      have hwithin : l.state.Within (sys.service d).stateNamespace ctx'.state := by
        rcases hstate with hstate | hstate
        · rw [hstate]
          exact State.Within.refl _
        · rw [hstate]
          exact State.Within.clearNamespace _ _
      refine ⟨hwithin.objects hs, fun i => (h.backends i).frame hwithin fun he => sys.apart i d he.symm, fun e => ?_,
        h.latest⟩
      by_cases hed : e = d
      · subst hed
        intro snapshot hsnapshot
        rcases hstate with hstate | hstate
        · have hsame : ctx'.state = l.state := hstate
          exact h.services e snapshot (hsame ▸ hsnapshot)
        · have hnone : ctx'.state.getValue (sys.service e).stateNamespace KEY_SNAPSHOT = none := by
            rw [hstate, State.getValue_clearNamespace, if_pos rfl]
          cases hnone.symm.trans hsnapshot
      · exact (h.services e).frame hwithin fun he => hed (sys.services d e he).symm
  | endpoint i routeId =>
    simp only
    have hwithin := (sys.backend i).handleEndpoint_within r.world routeId hs
    refine ⟨hwithin.objects hs, fun j => ?_, fun d => (h.services d).frame hwithin (sys.apart i d), h.latest⟩
    by_cases hij : j = i
    · subst hij
      exact (h.backends j).handleEndpoint hs r.world routeId
    · exact (h.backends j).frame hwithin fun he => hij (sys.distinct i j he).symm

/-! ## What is sent -/

theorem startAuth_carries (u : Upstream) (w : UpstreamWorld) {request : InternalData} {ctx : Context} {resp : Response}
    (hs : ctx.state.Objects) (h : (u.startAuth w request ctx).1 = .ok resp) : resp.Carries request.flags := by
  cases u with
  | saml b => exact Upstream.saml_startAuth_carries b hs h
  | relying b =>
    cases b with
    | oidc b => exact Upstream.oidc_startAuth_carries b h
    | federation b =>
      obtain ⟨hnone, hcarries⟩ := Upstream.federation_startAuth_carries b h
      rw [hnone]
      exact hcarries

/-- A SAML endpoint sends the flags the namespace holds, from a discovery
return. -/
theorem saml_endpoint_sent {b : Saml2Backend} {w : SamlWorld} {routeId : String} {ctx : Context} {resp : Response}
    {loc : Location} (hs : ctx.state.Objects) (h : (b.handleEndpoint w routeId ctx).1 = .ok (.respond resp))
    (hloc : resp.location = some loc) :
    (routeId = "disco" ∧ ∃ target, Saml2Backend.discoTarget ctx.request = some target ∧
      b.CanBuild w (some target) (b.handoffValue ctx) (ctx.state.getStr b.stateNamespace "requested_subject")) ∧
    loc.Carries { forceAuthn := ctx.state.flag b.stateNamespace "force_authn"
                  isPassive := ctx.state.flag b.stateNamespace "is_passive" } := by
  unfold Saml2Backend.handleEndpoint at h
  split at h
  · rcases b.handleAcs_cases w ctx with ⟨e, ctx', hrun, _⟩ | ⟨data, ctx', hrun, _⟩
    · rw [hrun] at h
      cases h
    · rw [hrun] at h
      cases h
  · split at h
    next hdisco =>
      rcases b.handleDisco_cases w hs with ⟨target, built, ctx', htarget, hbuilds, hrun | ⟨e, hrun⟩⟩ |
        ⟨target, e, ctx', _, _, hrun⟩ | ⟨_, e, hrun⟩
      · rw [hrun] at h
        cases h
        exact ⟨⟨hdisco, target, htarget, hbuilds.can⟩,
          Upstream.saml_sent hbuilds.forceAuthn hbuilds.isPassive loc hloc⟩
      · rw [hrun] at h
        cases h
      · rw [hrun] at h
        cases h
      · rw [hrun] at h
        cases h
    next =>
      split at h
      · rcases Saml2Backend.handleMetadata_cases w ctx with ⟨x, hrun, hnone⟩ | ⟨e, hrun⟩
        · rw [hrun] at h
          cases h
          rw [hnone] at hloc
          cases hloc
        · rw [hrun] at h
          cases h
      · cases h

/-- A callback answers with an identity or fails. -/
theorem callback_not_respond (p : RelyingParty) (w : OidcWorld) (ctx : Context) (resp : Response) :
    (p.handleCallback w ctx).1 ≠ .ok (.respond resp) := by
  intro h
  rcases p.handleCallback_cases w ctx with ⟨e, ctx', hrun, _⟩ | ⟨data, _, _, hrun⟩
  · rw [hrun] at h
    cases h
  · rw [hrun] at h
    cases h

/-- The relying-party backends send at a discovery return only, and no prompt. -/
theorem relying_endpoint_sent {b : RpBackend} {w : OidcWorld} {routeId : String} {ctx : Context} {resp : Response}
    {loc : Location} (h : (b.handleEndpoint w routeId ctx).1 = .ok (.respond resp)) (hloc : resp.location = some loc) :
    (routeId = "initiate" ∧ ∃ v, ctx.state.getStr b.name DISCOVERY_VERIFIER_KEY = some v) ∧
      (∃ f, b = .federation f) ∧ loc.Carries .none := by
  cases b with
  | oidc b =>
    simp only [RpBackend.handleEndpoint, OidcBackend.handleEndpoint] at h
    split at h
    · exact absurd h (callback_not_respond _ _ _ _)
    · cases h
  | federation b =>
    simp only [RpBackend.handleEndpoint, FederationBackend.handleEndpoint] at h
    split at h
    · unfold FederationBackend.handleEntityConfiguration at h
      cases hjwt : w.entityConfiguration with
      | error e =>
        rw [hjwt] at h
        cases h
      | ok jwt =>
        rw [hjwt] at h
        cases h
        cases hloc
    · split at h
      next hinitiate =>
        obtain ⟨hverifier, hcarries⟩ := Upstream.initiate_carries b h
        exact ⟨⟨hinitiate, hverifier⟩, ⟨b, rfl⟩, hcarries loc hloc⟩
      next =>
        split at h
        · exact absurd h (callback_not_respond _ _ _ _)
        · cases h

/-- **An endpoint sends the flags of the flow its backend took up last.** -/
theorem Consistent.endpoint_carries (h : sys.Consistent l) (hc : sys.WhileKept l r) {i : β} {routeId : String}
    (hcall : r.call = .endpoint i routeId) {resp : Response} {loc : Location}
    (hrun : ((sys.backend i).handleEndpoint r.world routeId (r.context l.state)).1 = .ok (.respond resp))
    (hloc : resp.location = some loc) : sys.Sends l r i routeId ∧ ∃ f, l.flags i = some f ∧ loc.Carries f := by
  have hagrees := h.backends i
  have hkept := hc i routeId
  unfold Sends at hkept ⊢
  cases hu : sys.backend i with
  | saml b =>
    simp only [hu] at hrun hagrees hkept ⊢
    have hs : (r.context l.state).state.Objects := h.objects
    obtain ⟨hsends, hcarries⟩ := saml_endpoint_sent hs hrun hloc
    refine ⟨hsends, ?_⟩
    rcases hagrees with ⟨f, hf, hforce, hpassive⟩ | ⟨hforce, hpassive⟩
    · refine ⟨f, hf, ?_⟩
      have hforce' : (r.context l.state).state.flag b.stateNamespace "force_authn" = f.forceAuthn :=
        State.flag_of_value hforce
      have hpassive' : (r.context l.state).state.flag b.stateNamespace "is_passive" = f.isPassive :=
        State.flag_of_value hpassive
      rw [hforce', hpassive'] at hcarries
      exact hcarries
    · -- nothing is stored: the request carries neither flag
      have hforce' : (r.context l.state).state.flag b.stateNamespace "force_authn" = false := by
        unfold State.flag
        rw [show (r.context l.state).state = l.state from rfl, hforce]
        rfl
      have hpassive' : (r.context l.state).state.flag b.stateNamespace "is_passive" = false := by
        unfold State.flag
        rw [show (r.context l.state).state = l.state from rfl, hpassive]
        rfl
      rw [hforce', hpassive'] at hcarries
      rcases hkept b hcall rfl hsends with ⟨v, hv⟩ | hnone
      · rw [hforce] at hv
        cases hv
      · exact ⟨.none, hnone, hcarries⟩
  | relying b =>
    simp only [hu] at hrun hagrees ⊢
    obtain ⟨hsends, ⟨f, rfl⟩, hcarries⟩ := relying_endpoint_sent hrun hloc
    refine ⟨hsends, .none, ?_, hcarries⟩
    obtain ⟨v, hv⟩ := hsends.2
    exact hagrees.1 v hv

theorem Consistent.carried (h : sys.Consistent l) (hc : sys.WhileKept l r) : sys.Carried l r := by
  have hs : (r.context l.state).state.Objects := h.objects
  unfold Carried
  cases hcall : r.call with
  | suspend d request => exact trivial
  | start i request =>
    intro resp hrun
    exact startAuth_carries (sys.backend i) r.world hs hrun
  | resume d i =>
    intro request ctx' hresume
    rcases (sys.service d).handleEndpoint_cases "" (r.context l.state) with
      ⟨snapshot, request', ctx'', hsnapshot, hrequest, hrun, hstate, _, _⟩ | ⟨e, ctx'', hrun, _, _⟩
    · rw [hrun] at hresume
      cases hresume
      obtain ⟨data, hdata, hflags⟩ := h.services d snapshot hsnapshot
      have heq : data = request := Option.some.inj (hdata.symm.trans hrequest)
      subst heq
      refine ⟨data.flags, hflags, fun resp hrun' => startAuth_carries (sys.backend i) r.world ?_ hrun'⟩
      show ctx'.state.Objects
      rw [hstate]
      exact h.objects.clearNamespace _
    · rw [hrun] at hresume
      cases hresume
  | endpoint i routeId =>
    intro resp loc hrun hloc
    exact (h.endpoint_carries hc hcall hrun hloc).2

theorem Consistent.carriedLatest (h : sys.Consistent l) (hc : sys.WhileKept l r) (hl : sys.AtLatest l r) :
    sys.CarriedLatest l r := by
  intro i routeId hcall resp loc hrun hloc
  obtain ⟨hsends, f, hf, hcarries⟩ := h.endpoint_carries hc hcall hrun hloc
  obtain ⟨g, hlatest, hrefuses⟩ := hl i routeId hcall hsends
  have hsame : g = f := Option.some.inj ((h.latest i g hlatest hrefuses).symm.trans hf)
  exact ⟨i, g, hlatest, hsame ▸ hcarries⟩

theorem consistent_start {s : State} (hs : s.Objects) (hbackends : ∀ i, s.get (sys.backend i).stateNamespace = none)
    (hservices : ∀ d, s.get (sys.service d).stateNamespace = none) : sys.Consistent (UpstreamSystem.start s) := by
  have hnone : ∀ ns key, s.get ns = none → s.getValue ns key = none := by
    intro ns key hns
    simp only [State.getValue]
    rw [show s.data.get ns = none from hns]
    rfl
  refine ⟨hs, fun i => ?_, fun d snapshot hsnapshot => ?_, fun i f hlatest => ?_⟩
  · have hi := fun key => hnone _ key (hbackends i)
    cases hu : sys.backend i with
    | saml b =>
      rw [hu] at hi
      exact .inr ⟨hi "force_authn", hi "is_passive"⟩
    | relying b =>
      rw [hu] at hi
      cases b with
      | oidc b => exact trivial
      | federation b =>
        refine ⟨fun v hv => ?_, fun g hg => by cases hg⟩
        have hv' := State.getStr_eq_some.mp hv
        cases (hi DISCOVERY_VERIFIER_KEY).symm.trans hv'
  · rw [show (UpstreamSystem.start s : FlagLedger β δ).state = s from rfl, hnone _ _ (hservices d)] at hsnapshot
    cases hsnapshot
  · cases hlatest

/-- **On every run over one state, whatever is sent upstream carries the flags
its flow was started with**, as long as no SAML discovery return comes after
the flags were consumed; and when the discovery returns come to the backend of
the most recent start_auth, they are the flags of that one. -/
theorem flags_carried [DecidableEq β] [DecidableEq δ] (sys : UpstreamSystem β δ) (s : State) (hs : s.Objects)
    (hbackends : ∀ i, s.get (sys.backend i).stateNamespace = none)
    (hservices : ∀ d, s.get (sys.service d).stateNamespace = none) (rs : List (FlagRequest β δ))
    (h : Along sys.step sys.WhileKept (start s) rs) :
    Along sys.step sys.Carried (start s) rs ∧
      (Along sys.step sys.AtLatest (start s) rs → Along sys.step sys.CarriedLatest (start s) rs) := by
  have hstart : sys.Consistent (start s) := consistent_start hs hbackends hservices
  constructor
  · exact Along.of_invariant (fun _ _ hl _ => hl.step) (fun _ _ hl hc => hl.carried hc) hstart h
  · intro hlatest
    exact Along.of_invariant (fun _ _ hl _ => hl.step) (fun _ _ hl hc => hl.carriedLatest hc.1 hc.2) hstart
      (h.and hlatest)

/-! ## A return to a consumed namespace -/

def samlOnly : UpstreamSystem Unit Unit where
  backend _ := .saml Saml2Backend.discovering
  service _ := { name := "disco", discoEndpoints := ["Saml2/disco"] }
  distinct _ _ _ := rfl
  apart _ _ := by decide
  services _ _ _ := rfl

def flagWorld (id : String) : UpstreamWorld := { saml := Saml2Backend.answering id, oidc := RpBackend.oneOp id }

def forced : InternalData := { InternalData.request "https://sp.example" with forceAuthn := true }

def discoReturn : HttpRequestData := { query := [("entityID", "https://idp.example")] }

/-- To the backend's discovery and back, twice. -/
def forcedFlow : List (FlagRequest Unit Unit) :=
  [{ world := flagWorld "_q0", http := {}, call := .start () forced },
    { world := flagWorld "_q1", http := discoReturn, call := .endpoint () "disco" },
    { world := flagWorld "_q2", http := discoReturn, call := .endpoint () "disco" }]

/-- Both returns come in time, and to the backend of the one start_auth. -/
theorem flags_carried_demo :
    Along samlOnly.step samlOnly.Carried (start State.new) forcedFlow ∧
      Along samlOnly.step samlOnly.CarriedLatest (start State.new) forcedFlow := by
  obtain ⟨hcarried, hlatest⟩ := flags_carried samlOnly State.new State.objects_new (fun _ => rfl) (fun _ => rfl) forcedFlow
    ⟨fun i routeId b hcall => (by cases hcall), fun i routeId b _ hb _ => (by cases hb; exact .inl ⟨.bool true, rfl⟩),
      fun i routeId b _ hb _ => (by cases hb; exact .inl ⟨.bool true, rfl⟩), trivial⟩
  refine ⟨hcarried, hlatest ⟨fun i routeId hcall => ?_, fun i routeId _ _ => ⟨_, rfl, rfl⟩, fun i routeId _ _ => ⟨_, rfl, rfl⟩,
    trivial⟩⟩
  cases hcall

/-- The user answers at the IdP, and the flow, still open, comes back from
discovery once more. -/
def consumedFlow : List (FlagRequest Unit Unit) :=
  [{ world := flagWorld "_q1", http := discoReturn, call := .start () forced },
    { world := flagWorld "_q2", http := postedRequest, call := .endpoint () "acs" },
    { world := flagWorld "_q3", http := discoReturn, call := .endpoint () "disco" }]

/-- Its request does not force the authentication. -/
theorem consumedFlow_drops : ¬ Along samlOnly.step samlOnly.Carried (start State.new) consumedFlow := by
  intro h
  obtain ⟨_, _, hreturn, _⟩ := h
  obtain ⟨f, hf, hforce, _⟩ := hreturn _ _ rfl rfl
  cases hf
  cases hforce

end UpstreamSystem

end Tunnelbana
