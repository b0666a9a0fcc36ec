/-
Whose relay state a SAML response echoes. The frontend keeps that of an
accepted AuthnRequest in its namespace, and what a request without one finds
there stays. Every Response carries the relay state of the latest accepted
request, or none with it (`relay_states_echo`), as long as a request without one
finds none there.
-/
import Tunnelbana.Basis.Run
import Tunnelbana.Plugins.NameIdFormat

namespace Tunnelbana

open Basis

def relayKeys : List String := ["request_id", "relay_state"]

def DownstreamPlugin.relayState {W : Type} (w : W) (request : HttpRequestData) : DownstreamPlugin W → Option String
  | .saml f view =>
    match f.readSso (view w) request with
    | .ok (.accept a) => a.relayState
    | _ => none
  | .oidc _ _ => none
  | .federation _ _ => none

/-- The state, and the relay state of the latest AuthnRequest each frontend
accepted. -/
structure RelayLedger where
  state : State
  latest : String → Option String := fun _ => none

namespace Deployment

variable {W : Type} (d : Deployment W) (statusHint : Error → Nat)

def latestAfter (l : RelayLedger) (r : Exchange W) : String → Option String :=
  match d.startedAt l.state r with
  | some (name, f) => fun name' => if name' = name then f.relayState r.world r.request else l.latest name'
  | none => l.latest

def relayStep (l : RelayLedger) (r : Exchange W) : RelayLedger where
  state := d.proxy.serve statusHint l.state r
  latest := d.latestAfter l r

/-- An AuthnRequest accepted without a relay state finds none kept. -/
def RelayCleared (l : RelayLedger) (r : Exchange W) : Prop :=
  ∀ name routeId f view a,
    d.proxy.router.resolve r.request.path = some { kind := .frontend, moduleName := name, routeId } →
    d.frontendNamed name = some (.saml f view) → f.readSso (view r.world) r.request = .ok (.accept a) →
    a.relayState = none → (r.context l.state).state.getStr f.name "relay_state" = none

/-- Every Response a SAML frontend renders carries the relay state of the latest
AuthnRequest it accepted, and none when that had none. -/
def EchoesLatest (l : RelayLedger) (r : Exchange W) : Prop :=
  ∀ frontend response ctx name f view rendered ctx',
    d.proxy.reach r.world (r.context l.state) = (.ok (.deliver frontend response), ctx) →
    ctx.targetFrontend = some name → d.frontendNamed name = some (.saml f view) →
    frontend.handleAuthnResponse r.world response ctx = (.ok rendered, ctx') →
    ∃ post, rendered.body = .samlPost post ∧ post.relayState = l.latest name

/-- A frontend that holds a request holds its relay state beside it. -/
structure RelayKept (latest : String → Option String) (s : State) : Prop where
  objects : s.Objects
  relay : ∀ name f view, d.frontendNamed name = some (.saml f view) → s.getStr f.name "request_id" ≠ none →
    s.getStr f.name "relay_state" = latest name

variable {d} {latest : String → Option String} {s t : State}

theorem frontendNamed_name {name : String} {f : DownstreamPlugin W} (h : d.frontendNamed name = some f) :
    f.name = name := (get_byName h).2

theorem RelayKept.retains (h : d.RelayKept latest s) (ht : s.Retains relayKeys t) : d.RelayKept latest t where
  objects := ht.objects h.objects
  relay name f view hnamed hheld := by
    obtain ⟨id, hid⟩ := Option.ne_none_iff_exists'.mp hheld
    have hbeside : t.getStr f.name "relay_state" = s.getStr f.name "relay_state" :=
      ht.getStr_beside (by decide) (by decide) hid
    have hid' := ht.getStr_of_some (by decide) hid
    exact hbeside.trans (h.relay name f view hnamed (by simp [hid']))

theorem relayKept_new (latest : String → Option String) : d.RelayKept latest State.new where
  objects := State.objects_new
  relay _ _ _ _ hheld := absurd rfl hheld

theorem RelayKept.carried (h : d.RelayKept latest s) (envelope : Option Nat) :
    d.RelayKept latest (s.carried envelope) := h.retains (.carried s envelope)

/-! ## One request -/

section
variable {l : RelayLedger} {r : Exchange W}

theorem latestAfter_none (h : d.startedAt l.state r = none) : d.latestAfter l r = l.latest := by
  unfold latestAfter
  rw [h]

theorem latestAfter_started {name : String} {f : DownstreamPlugin W} (h : d.startedAt l.state r = some (name, f)) :
    d.latestAfter l r name = f.relayState r.world r.request := by
  unfold latestAfter
  rw [h]
  exact if_pos rfl

theorem latestAfter_other {name name' : String} {f : DownstreamPlugin W}
    (h : d.startedAt l.state r = some (name, f)) (hne : name' ≠ name) : d.latestAfter l r name' = l.latest name' := by
  unfold latestAfter
  rw [h]
  exact if_neg hne

/-- A start at another frontend leaves what a SAML frontend holds. -/
theorem starts_elsewhere {f g : DownstreamPlugin W} {lib : OpLibrary} {w : W} {routeId : String} {ctx ctx₁ : Context}
    {request : InternalData} {pin : Option String} (hne : f.name ≠ g.name)
    (h : (f.frontend lib).handleEndpoint w routeId ctx = (.ok (.startAuth request pin), ctx₁)) :
    ∀ key ∈ relayKeys, ctx₁.state.getStr g.name key = ctx.state.getStr g.name key := by
  intro key hkey
  have hopenid : Permits (NamespaceKept g.name) f.name OpenidProvider.stateKeys [] :=
    namespaceKept_permits hne _ _
  cases f with
  | saml f view =>
    obtain ⟨a, _, _, _, hstate⟩ := Saml2Frontend.handleEndpoint_starts h
    rw [hstate]
    refine State.getStr_congr (Saml2Frontend.storeRequest_elsewhere hne fun he => ?_)
    rw [he] at hkey
    exact absurd hkey (by decide)
  | oidc f view =>
    have hkept := (f.handleEndpoint_keeps lib (view w) hopenid routeId).apply h
    exact State.getStr_congr (hkept key)
  | federation f view =>
    have hkept := (f.handleEndpoint_keeps lib (view w) hopenid routeId).apply h
    exact State.getStr_congr (hkept key)

theorem RelayKept.served (h : d.RelayKept l.latest l.state) (hc : d.RelayCleared l r) {t : State}
    (hserved : d.Served relayKeys l.state r t) : d.RelayKept (d.latestAfter l r) t := by
  have hopened : d.RelayKept l.latest (r.context l.state).state := h.carried r.envelope
  cases hserved with
  | quiet hstarted hkept =>
    rw [latestAfter_none hstarted]
    exact hopened.retains hkept
  | @started name routeId f request pin ctx₁ hroute hnamed hrun hstarted hkept =>
    have hobjects : (Proxy.toFrontend name (r.context l.state)).state.Objects := hopened.objects
    have hnoted : ctx₁.state.Retains relayKeys (Proxy.noteFrontend name (Proxy.noteRequester request ctx₁)).state :=
      (noted_retains (by decide) (by decide) name request ctx₁).1
    have hobjects₁ : ctx₁.state.Objects :=
      ((endpoint_kept f d.lib r.world routeId).apply hrun).tame.objects hobjects
    refine RelayKept.retains ⟨hobjects₁, fun name' g view hg hheld => ?_⟩ (hnoted.trans hkept)
    by_cases hname : name' = name
    · subst hname
      cases hnamed.symm.trans hg
      obtain ⟨a, _, hread, _, hstate⟩ := Saml2Frontend.handleEndpoint_starts hrun
      have hlatest : d.latestAfter l r name' = a.relayState := by
        rw [latestAfter_started hstarted]
        unfold DownstreamPlugin.relayState
        have hread' : g.readSso (view r.world) r.request = .ok (.accept a) := hread
        simp only [hread']
      rw [hstate, hlatest, Saml2Frontend.storeRequest_relayState hobjects]
      cases hrs : a.relayState with
      | some rs => rfl
      | none =>
        have hcleared := hc name' routeId g view a hroute hnamed hread hrs
        exact hcleared
    · have hne : f.name ≠ (DownstreamPlugin.saml g view).name := by
        rw [frontendNamed_name hnamed, frontendNamed_name hg]
        exact fun he => hname he.symm
      have hsame := starts_elsewhere hne hrun
      have hid := hsame "request_id" (by decide)
      have hrelay := hsame "relay_state" (by decide)
      rw [latestAfter_other hstarted hname]
      refine hrelay.trans (hopened.relay name' g view hg fun hnone => hheld ?_)
      exact hid.trans hnone
  | @resumed disco issuer name snapshot request hmem hcalls hquery hvalid hallows hsnapshot hrequest hname hstarted hleft hbase
      hkept =>
    have hnoted : (disco.resumed issuer snapshot (r.context l.state)).state.Retains relayKeys
        (Proxy.noteRequester request (Proxy.noteFrontend name
          (Proxy.toFrontend name (disco.resumed issuer snapshot (r.context l.state))))).state :=
      (noted_retains (by decide) (by decide) name request
        (Proxy.toFrontend name (disco.resumed issuer snapshot (r.context l.state)))).2
    rw [latestAfter_none hstarted]
    exact ((hopened.retains hleft).retains hnoted).retains hkept

theorem RelayKept.step (h : d.RelayKept l.latest l.state) (hc : d.RelayCleared l r) :
    d.RelayKept (d.relayStep statusHint l r).latest (d.relayStep statusHint l r).state :=
  h.served hc (d.serve_served statusHint (by decide) l.state r)

/-- **A Response rendered echoes the latest request.** -/
theorem RelayKept.echoes (h : d.RelayKept l.latest l.state) (hc : d.RelayCleared l r) : d.EchoesLatest l r := by
  intro frontend response ctx name f view rendered ctx' hreach hframe hnamed hrendered
  have hkept : d.RelayKept (d.latestAfter l r) ctx.state := by
    have hserved := h.served hc (d.reach_served (by decide) l.state r)
    rw [hreach] at hserved
    exact hserved
  obtain ⟨entered, startIndex, ctx₁, ctx₂, name', henter, hservices, hname, hget, rfl⟩ := Proxy.reach_deliver hreach
  have hquiet : d.startedAt l.state r = none := by
    unfold startedAt
    rw [henter]
  rw [latestAfter_none hquiet] at hkept
  cases hframe
  rw [d.frontends_get, hnamed] at hget
  cases hget
  obtain ⟨post, hbody, _, hheld, hrelay⟩ := Saml2Frontend.handleAuthnResponse_renders hrendered
  exact ⟨post, hbody, hrelay.trans (hkept.relay name f view hnamed hheld)⟩

end

/-- **On every run every Response a SAML frontend renders carries the relay
state of the latest AuthnRequest it accepted**, and none when that had none, as
long as every request accepted without a relay state finds none kept of an
earlier one. -/
theorem relay_states_echo (d : Deployment W) (statusHint : Error → Nat) (rs : List (Exchange W))
    (h : Along (d.relayStep statusHint) d.RelayCleared { state := State.new } rs) :
    Along (d.relayStep statusHint) d.EchoesLatest { state := State.new } rs := by
  have hstep : ∀ l r, d.RelayKept l.latest l.state → d.RelayCleared l r →
      d.RelayKept (d.relayStep statusHint l r).latest (d.relayStep statusHint l r).state :=
    fun _ _ hl hc => hl.step statusHint hc
  exact Along.of_invariant hstep (fun _ _ hl hc => hl.echoes hc) (relayKept_new _) h

/-! ## Two logins of an SP -/

def relayLogin (relay : Option String) (n : String) (envelope : Option Nat) : Exchange MixedWorld :=
  { world := ({ plainSp with
                redirectDecode := fun _ => .ok { samlXml := .ok "<AuthnRequest/>", relayState := relay } },
              (mixedWorld n).2)
    request := { path := "Saml2/sso", query := [("SAMLRequest", "x")] }
    envelope }

/-- The second login has a relay state of its own. -/
theorem relay_states_echo_demo :
    Along (mixedProxy.relayStep fun _ => 500) mixedProxy.EchoesLatest { state := State.new }
      [relayLogin (some "first") "1" none, relayLogin (some "second") "2" (some 0), mixedCallback] := by
  have hsaml : ∀ (relay n : String) (envelope : Option Nat) (l : RelayLedger),
      mixedProxy.RelayCleared l (relayLogin (some relay) n envelope) := by
    intro relay n envelope l name routeId f view a hroute hnamed hread hnone
    have hsso : mixedProxy.proxy.router.resolve (relayLogin (some relay) n envelope).request.path =
        some { kind := .frontend, moduleName := "Saml2", routeId := "sso" } := by
      show mixedProxy.proxy.router.resolve "Saml2/sso" = _
      decide
    cases hsso.symm.trans hroute
    cases hnamed
    cases hread
    cases hnone
  refine relay_states_echo mixedProxy (fun _ => 500) _ ⟨hsaml _ _ _ _, hsaml _ _ _ _, ?_, trivial⟩
  intro name routeId f view a hroute
  have hbackend : mixedProxy.proxy.router.resolve mixedCallback.request.path =
      some { kind := .backend, moduleName := "Upstream", routeId := "callback" } := by decide
  cases hbackend.symm.trans hroute

/-- The second login has none, and is answered with that of the first. -/
theorem relayState_echoed_stale :
    ¬ Along (mixedProxy.relayStep fun _ => 500) mixedProxy.EchoesLatest { state := State.new }
      [relayLogin (some "first") "1" none, relayLogin none "2" (some 0), mixedCallback] := by
  intro h
  obtain ⟨_, _, hcallback, _⟩ := h
  obtain ⟨post, hbody, hrelay⟩ := hcallback _ _ _ "Saml2" _ _ _ _ rfl rfl rfl rfl
  cases hbody
  exact absurd hrelay (by decide)

end Deployment

end Tunnelbana
