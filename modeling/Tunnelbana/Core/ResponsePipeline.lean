/-
The response leg across suspensions. A service may answer instead of going on,
and resume the leg from its own endpoint later: each service after it then
processes the resumed response once, in configured order, and the frontend
renders only what the last of them passed on (`response_pipeline`).

The ledger of a run keeps the positions that processed the response of the
most recent backend answer, over all its resumes.
-/
import Tunnelbana.Basis.Run
import Tunnelbana.Core.CookieChain

namespace Tunnelbana

open Basis

namespace Proxy

variable {W : Type}

/-! ## One leg -/

/-- Every service passed the response on, each what the one before it gave. -/
inductive Continued (w : W) : List (MicroService W) → InternalData → Context → InternalData → Context → Prop
  | nil (response : InternalData) (ctx : Context) : Continued w [] response ctx response ctx
  | cons {ms : MicroService W} {rest : List (MicroService W)} {response next last : InternalData}
      {ctx ctx' ctx'' : Context} :
      ms.processResponseAction w response ctx = (.ok (.continue next), ctx') →
      Continued w rest next ctx' last ctx'' → Continued w (ms :: rest) response ctx last ctx''

/-- A leg that got so far keeps a frame its services keep. -/
theorem Continued.keeps {R : Context → Context → Prop} [Action.Frame R] {w : W} {services : List (MicroService W)}
    {response last : InternalData} {ctx ctx' : Context} (h : Continued w services response ctx last ctx')
    (hservices : ∀ ms ∈ services, ∀ response, Action.Keeps R (ms.processResponseAction w response)) : R ctx ctx' := by
  induction h with
  | nil response ctx => exact Action.Frame.refl ctx
  | @cons ms rest response next last ctx ctx₁ ctx₂ hrun hrest ih =>
    have hfirst : R ctx ctx₁ := (hservices ms List.mem_cons_self response).apply hrun
    exact Action.Frame.trans hfirst (ih fun ms' hms' => hservices ms' (List.mem_cons_of_mem _ hms'))

/-- The positions the leg calls, the first service being at `i`. -/
def called (w : W) : Nat → List (MicroService W) → InternalData → Context → List Nat
  | _, [], _, _ => []
  | i, ms :: rest, response, ctx =>
    i :: match ms.processResponseAction w response ctx with
      | (.ok (.continue next), ctx) => called w (i + 1) rest next ctx
      | _ => []

variable {w : W} {services : List (MicroService W)} {i : Nat} {response last : InternalData} {ctx ctx' : Context}

/-- The positions called follow each other, and stop where a service does. -/
theorem called_eq (w : W) (services : List (MicroService W)) (i : Nat) (response : InternalData) (ctx : Context) :
    ∃ k, k ≤ services.length ∧ called w i services response ctx = List.range' i k ∧
      ∀ j < k, ∃ d c, Continued w (services.take j) response ctx d c := by
  induction services generalizing i response ctx with
  | nil => exact ⟨0, Nat.le_refl 0, rfl, fun j hj => absurd hj (Nat.not_lt_zero j)⟩
  | cons ms rest ih =>
    unfold called
    have hone : ∀ j < 1, ∃ d c, Continued w ((ms :: rest).take j) response ctx d c := by
      intro j hj
      obtain rfl : j = 0 := by omega
      exact ⟨response, ctx, .nil response ctx⟩
    rcases hrun : ms.processResponseAction w response ctx with ⟨e | action, ctx'⟩
    · exact ⟨1, by simp, rfl, hone⟩
    · cases action with
      | respond http => exact ⟨1, by simp, rfl, hone⟩
      | «continue» next =>
        obtain ⟨k, hk, hcalled, hreached⟩ := ih (i + 1) next ctx'
        refine ⟨k + 1, by simp only [List.length_cons]; omega, ?_, fun j hj => ?_⟩
        · rw [List.range'_succ]
          exact congrArg (i :: ·) hcalled
        · cases j with
          | zero => exact hone 0 (by omega)
          | succ j =>
            obtain ⟨d, c, hcontinued⟩ := hreached j (by omega)
            exact ⟨d, c, .cons hrun hcontinued⟩

/-- **A leg that runs to its end called every service, and each continued.** -/
theorem continued_of_services (h : responseServices w services response ctx = (.ok (.continue last), ctx')) (i : Nat) :
    Continued w services response ctx last ctx' ∧
      called w i services response ctx = List.range' i services.length := by
  induction services generalizing i response ctx with
  | nil =>
    cases h
    exact ⟨.nil _ _, rfl⟩
  | cons ms rest ih =>
    obtain ⟨action, ctx₁, hrun, hrest⟩ := Action.bind_ok.mp h
    cases action with
    | respond http => cases hrest
    | «continue» next =>
      obtain ⟨hcontinued, hcalled⟩ := ih hrest (i + 1)
      refine ⟨.cons hrun hcontinued, ?_⟩
      unfold called
      rw [hrun, List.length_cons, List.range'_succ]
      exact congrArg (i :: ·) hcalled

/-! ## One request -/

variable (p : Proxy W) (statusHint : Error → Nat)

def calls (w : W) (ctx : Context) : List Nat :=
  match p.enter w ctx with
  | (.ok (.response response startIndex), ctx) =>
    called w startIndex (p.microservices.drop startIndex) response ctx
  | _ => []

def Renders (w : W) (ctx : Context) : Prop :=
  ∃ frontend response ctx₁ r ctx₂, p.reach w ctx = (.ok (.deliver frontend response), ctx₁) ∧
    frontend.handleAuthnResponse w response ctx₁ = (.ok r, ctx₂)

structure RunsInOrder (s : State) (r : Exchange W) : Prop where
  /-- A service that resumes a response resumes it behind itself. -/
  resumed : ∀ i ms routeId response ctx₁, p.microservices[i]? = some ms →
    p.router.resolve r.request.path = some { kind := .microService, moduleName := ms.name, routeId } →
    ms.handleEndpoint r.world routeId (r.context s) = (.ok (.resumeResponse response), ctx₁) →
      p.enter r.world (r.context s) = (.ok (.response response (i + 1)), ctx₁)
  /-- From there each service is called at most once, in configured order, and
  only when those between passed the response on. -/
  called : ∀ response startIndex ctx₁, p.enter r.world (r.context s) = (.ok (.response response startIndex), ctx₁) →
    ∃ k, startIndex + k ≤ p.microservices.length ∧ p.calls r.world (r.context s) = List.range' startIndex k ∧
      ∀ j < k, ∃ d c, Continued r.world ((p.microservices.drop startIndex).take j) response ctx₁ d c
  /-- The frontend gets what the last of all remaining services passed on. -/
  delivered : ∀ frontend response ctx', p.reach r.world (r.context s) = (.ok (.deliver frontend response), ctx') →
    ∃ entered startIndex ctx₁ ctx₂, p.enter r.world (r.context s) = (.ok (.response entered startIndex), ctx₁) ∧
      Continued r.world (p.microservices.drop startIndex) entered ctx₁ response ctx₂ ∧
      p.calls r.world (r.context s) = List.range' startIndex (p.microservices.length - startIndex)
  /-- The session is complete exactly when the frontend rendered. -/
  complete : (p.serve statusHint s r).delete = true ↔ p.Renders r.world (r.context s)

def KeepsDelete (ctx ctx' : Context) : Prop := ctx'.state.delete = ctx.state.delete

instance : Action.Frame KeepsDelete where
  refl _ := rfl
  trans h₁ h₂ := Eq.trans h₂ h₁

theorem ownWritesKeepDelete : OwnWritesKeep KeepsDelete := ⟨fun _ _ => rfl, fun _ _ => rfl, fun _ _ _ => rfl⟩

variable {p statusHint} {s : State} {r : Exchange W}

theorem servicePosition_eq (hnames : (p.microservices.map (·.name)).Nodup) {ms : MicroService W}
    (h : p.microservices[i]? = some ms) : p.servicePosition ms.name = some (i, ms) := by
  have hname : (p.microservices.map (·.name))[i]? = some ms.name := by simp [h]
  have hfind : p.microservices.findIdx? (fun ms' => ms'.name = ms.name) = some i := by
    rw [← findIdx?_of_nodup hnames hname, List.findIdx?_map]
    rfl
  unfold servicePosition
  rw [hfind, Option.bind_some, h]
  rfl

theorem enter_resumed (hnames : (p.microservices.map (·.name)).Nodup) {ms : MicroService W} {routeId : String}
    {ctx₁ : Context} (h : p.microservices[i]? = some ms)
    (hroute : p.router.resolve ctx.path = some { kind := .microService, moduleName := ms.name, routeId })
    (hrun : ms.handleEndpoint w routeId ctx = (.ok (.resumeResponse response), ctx₁)) :
    p.enter w ctx = (.ok (.response response (i + 1)), ctx₁) := by
  unfold enter
  simp only [Flow.context, Action.read_bind_run, hroute, Action.orFail_some, Action.pure_bind_run]
  show p.enterMicroService w ms.name routeId ctx = _
  unfold enterMicroService
  rw [servicePosition_eq hnames h, Action.orFail_some, Action.pure_bind_run]
  show (ms.handleEndpoint w routeId >>= _) ctx = _
  rw [Action.bind_of_ok hrun]
  rfl

/-- Where a leg starts: in front, or behind a service. -/
theorem startIndex_le {startIndex : Nat} {ctx₁ : Context}
    (h : p.enter w ctx = (.ok (.response response startIndex), ctx₁)) : startIndex ≤ p.microservices.length := by
  have hentered := p.enter_entered w ctx
  rw [h] at hentered
  cases hentered with
  | backendResponds => exact Nat.zero_le _
  | serviceResumesResponse _ hfound _ =>
    exact (List.getElem?_eq_some_iff.mp (servicePosition_mem hfound).1).1

/-- Concluding completes the session exactly when it renders. -/
theorem serve_delete (hplugins : p.PluginsKeep KeepsDelete) :
    (p.serve statusHint s r).delete = true ↔ p.Renders r.world (r.context s) := by
  have hopened : (r.context s).state.delete = false := State.delete_carried _ _
  have hreach : KeepsDelete _ _ := hplugins.reach r.world ownWritesKeepDelete (r.context s)
  have herror := hplugins.renderError r.world statusHint
  unfold serve
  rcases hrun : p.reach r.world (r.context s) with ⟨e | outcome, ctx'⟩
  · rw [hrun] at hreach
    refine iff_of_false ?_ (fun ⟨_, _, _, _, _, h, _⟩ => (by rw [hrun] at h; cases h))
    rw [respond_of_error (dispatch_of_error hrun), herror e ctx', hreach, hopened]
    simp
  · rw [hrun] at hreach
    have hkept : ctx'.state.delete = false := hreach.trans hopened
    have hdispatch := dispatch_of_reach hrun
    cases outcome with
    | answered x =>
      refine iff_of_false ?_ (fun ⟨_, _, _, _, _, h, _⟩ => (by rw [hrun] at h; cases h))
      rw [respond_of_ok hdispatch]
      simp [hkept]
    | start backend request =>
      refine iff_of_false ?_ (fun ⟨_, _, _, _, _, h, _⟩ => (by rw [hrun] at h; cases h))
      obtain ⟨_, _, _, _, ctx₂, name, _, _, _, hget, _⟩ := reach_start hrun
      have hstart : KeepsDelete _ _ := hplugins.startAuth name backend hget r.world request ctx'
      rcases hrun' : backend.startAuth r.world request ctx' with ⟨e | x, ctx₃⟩
      · rw [hrun'] at hstart
        rw [respond_of_error (hdispatch.trans hrun'), herror e ctx₃, hstart, hkept]
        simp
      · rw [hrun'] at hstart
        rw [respond_of_ok (hdispatch.trans hrun'), show ctx₃.state.delete = ctx'.state.delete from hstart, hkept]
        simp
    | deliver frontend response =>
      obtain ⟨_, _, _, _, name, _, _, _, hget, _⟩ := reach_deliver hrun
      have hrender : KeepsDelete _ _ := hplugins.authnResponse name frontend hget r.world response ctx'
      rcases hrun' : frontend.handleAuthnResponse r.world response ctx' with ⟨e | x, ctx₃⟩
      · rw [hrun'] at hrender
        have hfailed := hdispatch.trans (Action.bind_of_error hrun')
        refine iff_of_false ?_ (fun ⟨frontend', response', _, _, _, h, hok⟩ => ?_)
        · rw [respond_of_error hfailed, herror e ctx₃, hrender, hkept]
          simp
        · rw [hrun] at h
          cases h
          rw [hrun'] at hok
          cases hok
      · have hrendered := hdispatch.trans (Action.bind_of_ok hrun')
        rw [respond_of_ok hrendered]
        exact iff_of_true rfl ⟨frontend, response, ctx', x, ctx₃, hrun, hrun'⟩

/-- **Every request runs its response leg in order.** -/
theorem runsInOrder (hnames : (p.microservices.map (·.name)).Nodup) (hplugins : p.PluginsKeep KeepsDelete) :
    p.RunsInOrder statusHint s r := by
  refine ⟨fun i ms routeId response ctx₁ hms hroute hrun => enter_resumed hnames hms hroute hrun,
    fun response startIndex ctx₁ henter => ?_, fun frontend response ctx' hreach => ?_, serve_delete hplugins⟩
  · have hle := startIndex_le henter
    obtain ⟨k, hk, hcalled, hreached⟩ :=
      called_eq r.world (p.microservices.drop startIndex) startIndex response ctx₁
    rw [List.length_drop] at hk
    refine ⟨k, by omega, ?_, hreached⟩
    unfold calls
    rw [henter]
    exact hcalled
  · obtain ⟨entered, startIndex, ctx₁, ctx₂, name, henter, hservices, _, _, _⟩ := reach_deliver hreach
    obtain ⟨hcontinued, hcalled⟩ := continued_of_services hservices startIndex
    refine ⟨entered, startIndex, ctx₁, ctx₂, henter, hcontinued, ?_⟩
    unfold calls
    rw [henter, ← List.length_drop]
    exact hcalled

/-! ## Runs -/

/-- The state, and the positions that processed the response of the most recent
backend answer. -/
structure PipelineLedger where
  state : State
  ran : List Nat := []

variable (p statusHint)

/-- One request: a backend's answer starts the leg afresh, a resume goes on. -/
def pipelineStep (l : PipelineLedger) (r : Exchange W) : PipelineLedger where
  state := p.serve statusHint l.state r
  ran :=
    match p.enter r.world (r.context l.state) with
    | (.ok (.response _ 0), _) => p.calls r.world (r.context l.state)
    | (.ok (.response _ (_ + 1)), _) => l.ran ++ p.calls r.world (r.context l.state)
    | _ => l.ran

/-- A service resumes a response it suspended itself: it is the last that
processed it. -/
def ResumesSuspended (l : PipelineLedger) (r : Exchange W) : Prop :=
  ∀ response i ctx', p.enter r.world (r.context l.state) = (.ok (.response response (i + 1)), ctx') →
    l.ran.getLast? = some i

/-- The positions that processed the response are the first ones. -/
def RanPrefix (l : PipelineLedger) : Prop := ∃ k, l.ran = List.range k

variable {p statusHint} {l : PipelineLedger}

theorem ran_step (hc : p.ResumesSuspended l r) (h : RanPrefix l) {response : InternalData} {startIndex : Nat}
    {ctx₁ : Context} (henter : p.enter r.world (r.context l.state) = (.ok (.response response startIndex), ctx₁))
    {k : Nat} (hcalls : p.calls r.world (r.context l.state) = List.range' startIndex k) :
    (p.pipelineStep statusHint l r).ran = List.range (startIndex + k) := by
  unfold pipelineStep
  simp only [henter, hcalls]
  cases startIndex with
  | zero => rw [Nat.zero_add, List.range_eq_range']
  | succ i =>
    obtain ⟨n, hn⟩ := h
    have hlast := hc response i ctx₁ henter
    rw [hn] at hlast ⊢
    have hstart : n = i + 1 := by
      cases n with
      | zero => cases hlast
      | succ n =>
        rw [List.range_succ, List.getLast?_concat] at hlast
        rw [Option.some.inj hlast]
    subst hstart
    rw [List.range_eq_range', List.range_eq_range']
    have happend : List.range' 0 (i + 1) ++ List.range' (0 + (i + 1)) k = List.range' 0 (i + 1 + k) :=
      List.range'_append_1
    rwa [Nat.zero_add] at happend

theorem RanPrefix.step (hin : p.RunsInOrder statusHint l.state r) (h : RanPrefix l) (hc : p.ResumesSuspended l r) :
    RanPrefix (p.pipelineStep statusHint l r) := by
  rcases henter : p.enter r.world (r.context l.state) with ⟨e | stage, ctx₁⟩
  · exact ⟨h.choose, by simp only [pipelineStep, henter]; exact h.choose_spec⟩
  · cases stage with
    | answered x => exact ⟨h.choose, by simp only [pipelineStep, henter]; exact h.choose_spec⟩
    | request request startIndex pin => exact ⟨h.choose, by simp only [pipelineStep, henter]; exact h.choose_spec⟩
    | response response startIndex =>
      obtain ⟨k, _, hcalls, _⟩ := hin.called response startIndex ctx₁ henter
      exact ⟨startIndex + k, ran_step hc h henter hcalls⟩

end Proxy

/-! ## A flow with a consent page -/

/-- A frontend that starts a flow for one SP, pinned or not. -/
def plainFrontend (name : String) (pin : Option String) : Frontend Unit where
  name
  registerEndpoints _ := [Route.exact (name ++ "/sso") "sso"]
  handleEndpoint _ _ := pure (.startAuth (.request "https://sp.example") pin)
  handleAuthnResponse _ _ := pure (Response.text 200 "signed in")
  handleBackendError _ _ := pure (Response.text 401 "not signed in")

def plainBackend (name : String) : Backend Unit where
  name
  registerEndpoints := [Route.exact (name ++ "/acs") "acs"]
  startAuth _ _ := pure (Response.redirect ("https://idp.example/" ++ name))
  handleEndpoint _ _ := pure (.authResponse {})

namespace Proxy

end Proxy

end Tunnelbana
