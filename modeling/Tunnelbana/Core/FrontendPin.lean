/-
The backend a pinned flow is started at. A frontend that starts a flow may pin
its backend, which comes before what the micro-services select and the default.
A service resumes the flow it let through last, and passes no pin on: the flow
stays at its backend exactly as long as what is selected without a pin is that
backend (`flows_start_pinned`).
-/
import Tunnelbana.Core.ResponsePipeline
import Tunnelbana.Plugins.DiscoToTargetIssuer

namespace Tunnelbana

open Basis

/-- The state, and the pin of the flow each service let through last, by its
position: that of the flow it resumes. -/
structure PinLedger where
  state : State
  pins : Nat → Option String := fun _ => none

/-- The pin of the flow whose request leg starts there. -/
def PinLedger.pin (l : PinLedger) : Nat → Option String → Option String
  | 0, pin => pin
  | i + 1, _ => l.pins i

namespace Proxy

variable {W : Type} (p : Proxy W) (statusHint : Error → Nat)

def letThrough (w : W) : List (MicroService W) → InternalData → Context → Nat
  | [], _, _ => 0
  | ms :: rest, request, ctx =>
    match ms.processRequest w request ctx with
    | (.ok next, ctx) => letThrough w rest next ctx + 1
    | (.error _, _) => 0

/-- The flow each service let through last, once the leg of `flow` ran from
`startIndex` on, whether it came to a backend or was refused. -/
def passing {α : Type} (w : W) (flow : α) (startIndex : Nat) (request : InternalData) (ctx : Context) (last : Nat → α) :
    Nat → α := fun i =>
  if startIndex ≤ i ∧ i < startIndex + letThrough w (p.microservices.drop startIndex) request ctx then flow else last i

/-- One request; one that starts a flow enters the request leg in front. -/
def pinStep (l : PinLedger) (r : Exchange W) : PinLedger where
  state := p.serve statusHint l.state r
  pins :=
    match p.enter r.world (r.context l.state) with
    | (.ok (.request request startIndex pin), ctx) =>
      p.passing r.world (l.pin startIndex pin) startIndex request ctx l.pins
    | _ => l.pins

def StartsPinned (l : PinLedger) (r : Exchange W) : Prop :=
  ∀ pinned entered startIndex pin ctx₁ backend request ctx',
    p.enter r.world (r.context l.state) = (.ok (.request entered startIndex pin), ctx₁) →
    l.pin startIndex pin = some pinned →
    p.reach r.world (r.context l.state) = (.ok (.start backend request), ctx') →
      ctx'.targetBackend = some pinned ∧ p.backends.get pinned = some backend

/-- Where a pinned flow is resumed, the services behind the resuming one select
its backend, or nothing and it is the default one. -/
def SelectsPinned (l : PinLedger) (r : Exchange W) : Prop :=
  ∀ pinned request i pin ctx₁ request' ctx₂ name, l.pins i = some pinned →
    p.enter r.world (r.context l.state) = (.ok (.request request (i + 1) pin), ctx₁) →
    requestServices r.world (p.microservices.drop (i + 1)) request ctx₁ = (.ok request', ctx₂) →
    ctx₂.targetBackend.or p.defaultBackend = some name → p.backends.get name ≠ none → name = pinned

variable {p statusHint} {l : PinLedger} {r : Exchange W} {w : W} {ctx ctx₁ : Context}

/-- Only a frontend pins, in front of all services. -/
theorem enter_pin {request : InternalData} {startIndex : Nat} {pin : Option String}
    (h : p.enter w ctx = (.ok (.request request startIndex pin), ctx₁)) :
    startIndex = 0 ∨ (0 < startIndex ∧ pin = none) := by
  have hentered := p.enter_entered w ctx
  rw [h] at hentered
  cases hentered with
  | frontendStarts => exact .inl rfl
  | serviceResumesRequest => exact .inr ⟨Nat.succ_pos _, rfl⟩

/-- A backend is started once the services passed and one is selected. -/
theorem reach_of_selected {request request' : InternalData} {startIndex : Nat} {pin : Option String}
    {ctx₂ : Context} {name : String} {backend : Backend W}
    (henter : p.enter w ctx = (.ok (.request request startIndex pin), ctx₁))
    (hservices : requestServices w (p.microservices.drop startIndex) request ctx₁ = (.ok request', ctx₂))
    (hname : (pin.or ctx₂.targetBackend).or p.defaultBackend = some name) (hget : p.backends.get name = some backend) :
    p.reach w ctx = (.ok (.start backend request'), { ctx₂ with targetBackend := some name }) := by
  unfold reach
  rw [Action.bind_of_ok henter]
  show (requestServices w (p.microservices.drop startIndex) request >>= _) ctx₁ = _
  rw [Action.bind_of_ok hservices]
  unfold selectBackend setTargetBackend
  simp only [Flow.context, Flow.modify, Action.bind_assoc, Action.read_bind_run, hname, Action.orFail_some,
    Action.pure_bind_run, Action.update_bind_run, hget]
  rfl

/-- A leg that comes to a backend was let through by every service. -/
theorem letThrough_of_ok {services : List (MicroService W)} {request next : InternalData}
    (h : requestServices w services request ctx = (.ok next, ctx₁)) :
    letThrough w services request ctx = services.length := by
  induction services generalizing request ctx with
  | nil => rfl
  | cons ms rest ih =>
    obtain ⟨passed, ctx', hrun, hrest⟩ := Action.bind_ok.mp h
    unfold letThrough
    rw [hrun]
    exact congrArg (· + 1) (ih hrest)

/-- A resumed flow has no pin of its own. -/
theorem resumed_pin {request : InternalData} {i : Nat} {pin : Option String}
    (h : p.enter w ctx = (.ok (.request request (i + 1) pin), ctx₁)) : pin = none := by
  rcases enter_pin h with hzero | ⟨_, hnone⟩
  · cases hzero
  · exact hnone

/-- **Starting and resuming keep to the pin exactly when the selection does.** -/
theorem startsPinned_iff (l : PinLedger) (r : Exchange W) : p.StartsPinned l r ↔ p.SelectsPinned l r := by
  constructor
  · intro h pinned request i pin ctx₁ request' ctx₂ name hpin henter hservices hname hconfigured
    obtain ⟨backend, hget⟩ := Option.ne_none_iff_exists'.mp hconfigured
    obtain rfl := resumed_pin henter
    have hreach := reach_of_selected henter hservices hname hget
    obtain ⟨hsame, _⟩ := h pinned request (i + 1) none ctx₁ backend request' _ henter hpin hreach
    exact Option.some.inj hsame
  · intro h pinned entered startIndex pin ctx₁ backend request ctx' henter hpin hreach
    obtain ⟨entered', startIndex', pin', ctx₁', ctx₂, name, henter', hservices, hname, hget, rfl⟩ := reach_start hreach
    cases henter.symm.trans henter'
    cases startIndex with
    | zero =>
      have hsame : pin = some pinned := hpin
      subst hsame
      cases hname
      exact ⟨rfl, hget⟩
    | succ i =>
      obtain rfl := resumed_pin henter
      obtain rfl := h pinned entered i none ctx₁ request ctx₂ name hpin henter hservices hname (by rw [hget]; simp)
      exact ⟨rfl, hget⟩

/-- **On every run a pinned flow is started at its backend, by the frontend and
by every resume of it, exactly when each resume of it selects that backend
without the pin.** -/
theorem flows_start_pinned (p : Proxy W) (statusHint : Error → Nat) (s : State) (rs : List (Exchange W)) :
    Along (p.pinStep statusHint) p.StartsPinned { state := s } rs ↔
      Along (p.pinStep statusHint) p.SelectsPinned { state := s } rs :=
  Along.congr (fun l r => startsPinned_iff l r) rs

/-- A frontend pinned to the second of two backends, behind a discovery. -/
def pinnedProxy : Proxy Unit :=
  Proxy.new [plainFrontend "Saml2IDP" (some "second")] [plainBackend "first", plainBackend "second"]
    [DiscoToTargetIssuer.microService { name := "disco", discoEndpoints := ["disco/return"] }] demoSealer

def pinnedRequest : Exchange Unit := { world := (), request := { path := "Saml2IDP/sso" }, envelope := none }

def discoveryReturn : Exchange Unit :=
  { world := (), request := { path := "disco/return", query := [("entityID", "https://idp.example")] }
    envelope := some 0 }

/-- The request recorded, and its snapshot. -/
def suspendedState : State :=
  ((State.new.setStr STATE_KEY_BASE KEY_REQUESTER "https://sp.example").setStr STATE_KEY_BASE KEY_TARGET_FRONTEND
    "Saml2IDP").setValue "disco_to_target_issuer:disco" KEY_SNAPSHOT
      (DiscoToTargetIssuer.snapshot (some "Saml2IDP") (.request "https://sp.example"))

theorem pinnedRequest_suspends :
    (pinnedProxy.pinStep (fun _ => 500) { state := State.new } pinnedRequest).state = suspendedState ∧
      (pinnedProxy.pinStep (fun _ => 500) { state := State.new } pinnedRequest).pins 0 = some "second" := by
  have hsize : (DiscoToTargetIssuer.snapshot (some "Saml2IDP") (.request "https://sp.example")).encodedLength ≤
      MAX_DISCO_SNAPSHOT_BYTES := by decide +kernel
  have henter : pinnedProxy.enter () (pinnedRequest.context State.new) =
      (.ok (.request (.request "https://sp.example") 0 (some "second")),
        noteFrontend "Saml2IDP" (noteRequester (.request "https://sp.example")
          (toFrontend "Saml2IDP" (pinnedRequest.context State.new)))) := rfl
  generalize hctx : noteFrontend "Saml2IDP" (noteRequester (.request "https://sp.example")
    (toFrontend "Saml2IDP" (pinnedRequest.context State.new))) = ctx₁ at henter
  have hfrontend : ctx₁.targetFrontend = some "Saml2IDP" := by rw [← hctx]; rfl
  have hbackend : ((some "second").or ctx₁.targetBackend).or pinnedProxy.defaultBackend = some "second" := rfl
  rw [← hfrontend] at hsize
  have hprocess := DiscoToTargetIssuer.processRequest_fits { name := "disco", discoEndpoints := ["disco/return"] } hsize
  have hservices := Action.bind_of_ok (f := pure) hprocess
  have hreach := reach_of_selected henter hservices hbackend rfl
  constructor
  · unfold pinStep serve respond
    rw [dispatch_of_reach hreach, hfrontend, ← hctx]
    rfl
  · have hpassed : letThrough () pinnedProxy.microservices (.request "https://sp.example") ctx₁ = 1 :=
      letThrough_of_ok hservices
    unfold pinStep
    simp only [henter, passing, List.drop_zero, hpassed]
    rfl

/-- The resumed flow is started at the first backend. -/
theorem resumedFlow_moves :
    ¬ Along (pinnedProxy.pinStep fun _ => 500) pinnedProxy.StartsPinned { state := State.new }
      [pinnedRequest, discoveryReturn] := by
  intro h
  obtain ⟨_, hresumed, _⟩ := h
  obtain ⟨hstate, hpin⟩ := pinnedRequest_suspends
  generalize pinnedProxy.pinStep (fun _ => 500) { state := State.new } pinnedRequest = l at *
  unfold StartsPinned at hresumed
  rw [hstate] at hresumed
  obtain ⟨hsame, _⟩ := hresumed "second" _ 1 _ _ _ _ _ rfl hpin rfl
  have hmoved : some "first" = some "second" := hsame
  simp at hmoved

end Proxy

end Tunnelbana
