/-
What a request does on its way through the proxy, cut in two. `enter` is the
routing and the endpoint, up to where the request or the response leg begins;
`advance` runs that leg's micro-services up to the plugin that concludes it: a
backend to start, or a frontend to render. The dispatch is the two and the
conclusion, so what is started and what is rendered can be spoken about.

`PluginsKeep` is a frame every plugin keeps; the proxy keeps it when its own
few writes do.
-/
import Tunnelbana.Core.Proxy

namespace Tunnelbana

open Basis

/-- Where an endpoint leaves the request. -/
inductive Stage where
  | answered (r : Response)
  /-- The request leg, from a position. -/
  | request (request : InternalData) (startIndex : Nat) (pinnedBackend : Option String)
  /-- The response leg, from a position. -/
  | response (response : InternalData) (startIndex : Nat)

/-- What concludes the request. -/
inductive Outcome (W : Type) where
  | answered (r : Response)
  | start (backend : Backend W) (request : InternalData)
  | deliver (frontend : Frontend W) (response : InternalData)

namespace Proxy

variable {W : Type} (p : Proxy W) (w : W)

def enterFrontend (moduleName routeId : String) : Flow Stage := do
  setTargetFrontend moduleName
  let frontend ← Action.orFail (p.frontends.get moduleName) (.unknownModule moduleName)
  match ← frontend.handleEndpoint w routeId with
  | .respond r => pure (.answered r)
  | .startAuth request targetBackend => do
    recordRequester request
    Flow.setStr STATE_KEY_BASE KEY_TARGET_FRONTEND moduleName
    pure (.request request 0 targetBackend)

def enterBackend (moduleName routeId : String) : Flow Stage := do
  setTargetBackend moduleName
  let backend ← Action.orFail (p.backends.get moduleName) (.unknownModule moduleName)
  match ← backend.handleEndpoint w routeId with
  | .respond r => pure (.answered r)
  | .authResponse response => do
    let ctx ← Flow.context
    let frontendName ← Action.orFail ((recordedFrontend ctx).or ctx.targetFrontend)
      (.state "no originating frontend in state")
    setTargetFrontend frontendName
    let ctx ← Flow.context
    pure (.response { response with requester := response.requester.or ctx.requester } 0)

def enterResumed (idx : Nat) (request : InternalData) : Flow Stage := do
  let ctx ← Flow.context
  let frontendName ← Action.orFail (ctx.targetFrontend.or (recordedFrontend ctx))
    (.state "resume without an originating frontend")
  setTargetFrontend frontendName
  Flow.setStr STATE_KEY_BASE KEY_TARGET_FRONTEND frontendName
  recordRequester request
  pure (.request request (idx + 1) none)

def enterMicroService (moduleName routeId : String) : Flow Stage := do
  let (idx, ms) ← Action.orFail (p.servicePosition moduleName) (.unknownModule moduleName)
  match ← ms.handleEndpoint w routeId with
  | .respond r => pure (.answered r)
  | .resumeRequest request => enterResumed idx request
  | .resumeResponse response => pure (.response response (idx + 1))

def enterMatch (m : Match) : Flow Stage :=
  match m.kind with
  | .frontend => p.enterFrontend w m.moduleName m.routeId
  | .backend => p.enterBackend w m.moduleName m.routeId
  | .microService => p.enterMicroService w m.moduleName m.routeId

def enter : Flow Stage := do
  let ctx ← Flow.context
  let m ← Action.orFail (p.router.resolve ctx.path) (.noBoundEndpoint ctx.path)
  p.enterMatch w m

/-- Run the leg's micro-services up to the plugin that concludes it. -/
def advance : Stage → Flow (Outcome W)
  | .answered r => pure (.answered r)
  | .request request startIndex pinnedBackend => do
    let request ← requestServices w (p.microservices.drop startIndex) request
    let backend ← p.selectBackend pinnedBackend
    pure (.start backend request)
  | .response response startIndex => do
    match ← responseServices w (p.microservices.drop startIndex) response with
    | .continue response => do
      let frontend ← p.originatingFrontend
      pure (.deliver frontend response)
    | .respond http => pure (.answered http)

def reach : Flow (Outcome W) := p.enter w >>= p.advance w

def complete (ctx : Context) : Context := ctx.mapState fun s => { s with delete := true }

def conclude : Outcome W → Flow Response
  | .answered r => pure r
  | .start backend request => backend.startAuth w request
  | .deliver frontend response => do
    let rendered ← frontend.handleAuthnResponse w response
    Flow.modify complete
    pure rendered

/-! ## The dispatch in parts -/

def proceed (stage : Stage) : Flow Response := p.advance w stage >>= conclude w

theorem proceed_request (request : InternalData) (startIndex : Nat) (pin : Option String) :
    p.proceed w (.request request startIndex pin) = p.finishRequest w request startIndex pin := by
  unfold proceed advance finishRequest
  simp only [Action.bind_assoc]
  rfl

theorem proceed_response (response : InternalData) (startIndex : Nat) :
    p.proceed w (.response response startIndex) = p.finishResponse w response startIndex := by
  unfold proceed advance finishResponse render
  simp only [Action.bind_assoc]
  funext ctx
  refine congrFun (congrArg (responseServices w (p.microservices.drop startIndex) response >>= ·) ?_) ctx
  funext action
  cases action with
  | «continue» response =>
    simp only [Action.bind_assoc]
    rfl
  | respond http => rfl

theorem dispatchFrontend_eq (moduleName routeId : String) :
    p.dispatchFrontend w moduleName routeId = p.enterFrontend w moduleName routeId >>= p.proceed w := by
  unfold dispatchFrontend enterFrontend
  simp only [Action.bind_assoc]
  refine congrArg (_ >>= ·) (funext fun _ => congrArg (_ >>= ·) (funext fun frontend =>
    congrArg (_ >>= ·) (funext fun action => ?_)))
  cases action with
  | respond r => rfl
  | startAuth request pin =>
    simp only [Action.bind_assoc, ← p.proceed_request w]
    rfl

theorem dispatchBackend_eq (moduleName routeId : String) :
    p.dispatchBackend w moduleName routeId = p.enterBackend w moduleName routeId >>= p.proceed w := by
  unfold dispatchBackend enterBackend
  simp only [Action.bind_assoc]
  refine congrArg (_ >>= ·) (funext fun _ => congrArg (_ >>= ·) (funext fun backend =>
    congrArg (_ >>= ·) (funext fun action => ?_)))
  cases action with
  | respond r => rfl
  | authResponse response =>
    simp only [Action.bind_assoc, ← p.proceed_response w]
    rfl

theorem dispatchMicroService_eq (moduleName routeId : String) :
    p.dispatchMicroService w moduleName routeId = p.enterMicroService w moduleName routeId >>= p.proceed w := by
  unfold dispatchMicroService enterMicroService
  simp only [Action.bind_assoc]
  refine congrArg (_ >>= ·) (funext fun found => ?_)
  obtain ⟨idx, ms⟩ := found
  refine congrArg (_ >>= ·) (funext fun action => ?_)
  cases action with
  | respond r => rfl
  | resumeRequest request =>
    show p.resumeRequest w idx request = enterResumed idx request >>= p.proceed w
    unfold resumeRequest enterResumed
    simp only [Action.bind_assoc, ← p.proceed_request w]
    rfl
  | resumeResponse response =>
    show p.finishResponse w response (idx + 1) = _
    rw [← p.proceed_response w]
    rfl

/-- **A dispatch reaches an outcome and concludes it.** -/
theorem dispatch_eq : p.dispatch w = p.reach w >>= conclude w := by
  have hproceed : ∀ x : Flow Stage, (x >>= p.advance w) >>= conclude w = x >>= p.proceed w := fun x =>
    Action.bind_assoc x _ _
  unfold reach
  rw [hproceed]
  unfold dispatch enter
  simp only [Action.bind_assoc]
  refine congrArg (_ >>= ·) (funext fun ctx => congrArg (_ >>= ·) (funext fun m => ?_))
  unfold enterMatch
  cases m.kind with
  | frontend => exact p.dispatchFrontend_eq w _ _
  | backend => exact p.dispatchBackend_eq w _ _
  | microService => exact p.dispatchMicroService_eq w _ _

section
variable {p w} {statusHint : Error → Nat} {ctx ctx' : Context} {e : Error} {response : Response} {outcome : Outcome W}

theorem dispatch_of_reach (h : p.reach w ctx = (.ok outcome, ctx')) : p.dispatch w ctx = conclude w outcome ctx' := by
  rw [dispatch_eq, Action.bind_of_ok h]

theorem dispatch_of_error (h : p.reach w ctx = (.error e, ctx')) : p.dispatch w ctx = (.error e, ctx') := by
  rw [dispatch_eq, Action.bind_of_error h]

theorem respond_of_ok (h : p.dispatch w ctx = (.ok response, ctx')) : p.respond w statusHint ctx = (response, ctx') := by
  unfold respond
  rw [h]

theorem respond_of_error (h : p.dispatch w ctx = (.error e, ctx')) :
    p.respond w statusHint ctx = p.renderError w statusHint e ctx' := by
  unfold respond
  rw [h]

end

/-! ## What an endpoint does -/

def noteRequester (request : InternalData) (ctx : Context) : Context :=
  match request.requester with
  | some requester => ctx.setRequester requester
  | none => ctx

def noteFrontend (name : String) (ctx : Context) : Context :=
  ctx.mapState fun s => s.setStr STATE_KEY_BASE KEY_TARGET_FRONTEND name

theorem recordRequester_run (request : InternalData) (ctx : Context) :
    recordRequester request ctx = (.ok (), noteRequester request ctx) := by
  unfold recordRequester noteRequester
  cases request.requester <;> rfl

def toFrontend (name : String) (ctx : Context) : Context := { ctx with targetFrontend := some name }

def toBackend (name : String) (ctx : Context) : Context := { ctx with targetBackend := some name }

def refilled (response : InternalData) (ctx : Context) : InternalData :=
  { response with requester := response.requester.or ctx.requester }

inductive Entered (ctx : Context) : Except Error Stage × Context → Prop
  | unrouted : p.router.resolve ctx.path = none → Entered ctx (.error (.noBoundEndpoint ctx.path), ctx)
  | unknownFrontend {name routeId : String} :
      p.router.resolve ctx.path = some { kind := .frontend, moduleName := name, routeId } →
      p.frontends.get name = none → Entered ctx (.error (.unknownModule name), toFrontend name ctx)
  | frontendFails {name routeId : String} {f : Frontend W} {e : Error} {ctx' : Context} :
      p.router.resolve ctx.path = some { kind := .frontend, moduleName := name, routeId } →
      p.frontends.get name = some f → f.handleEndpoint w routeId (toFrontend name ctx) = (.error e, ctx') →
      Entered ctx (.error e, ctx')
  | frontendAnswers {name routeId : String} {f : Frontend W} {r : Response} {ctx' : Context} :
      p.router.resolve ctx.path = some { kind := .frontend, moduleName := name, routeId } →
      p.frontends.get name = some f → f.handleEndpoint w routeId (toFrontend name ctx) = (.ok (.respond r), ctx') →
      Entered ctx (.ok (.answered r), ctx')
  | frontendStarts {name routeId : String} {f : Frontend W} {request : InternalData} {pin : Option String}
      {ctx' : Context} :
      p.router.resolve ctx.path = some { kind := .frontend, moduleName := name, routeId } →
      p.frontends.get name = some f →
      f.handleEndpoint w routeId (toFrontend name ctx) = (.ok (.startAuth request pin), ctx') →
      Entered ctx (.ok (.request request 0 pin), noteFrontend name (noteRequester request ctx'))
  | unknownBackend {name routeId : String} :
      p.router.resolve ctx.path = some { kind := .backend, moduleName := name, routeId } →
      p.backends.get name = none → Entered ctx (.error (.unknownModule name), toBackend name ctx)
  | backendFails {name routeId : String} {b : Backend W} {e : Error} {ctx' : Context} :
      p.router.resolve ctx.path = some { kind := .backend, moduleName := name, routeId } →
      p.backends.get name = some b → b.handleEndpoint w routeId (toBackend name ctx) = (.error e, ctx') →
      Entered ctx (.error e, ctx')
  | backendAnswers {name routeId : String} {b : Backend W} {r : Response} {ctx' : Context} :
      p.router.resolve ctx.path = some { kind := .backend, moduleName := name, routeId } →
      p.backends.get name = some b → b.handleEndpoint w routeId (toBackend name ctx) = (.ok (.respond r), ctx') →
      Entered ctx (.ok (.answered r), ctx')
  | backendUnclaimed {name routeId : String} {b : Backend W} {response : InternalData} {ctx' : Context} :
      p.router.resolve ctx.path = some { kind := .backend, moduleName := name, routeId } →
      p.backends.get name = some b →
      b.handleEndpoint w routeId (toBackend name ctx) = (.ok (.authResponse response), ctx') →
      (recordedFrontend ctx').or ctx'.targetFrontend = none →
      Entered ctx (.error (.state "no originating frontend in state"), ctx')
  | backendResponds {name routeId origin : String} {b : Backend W} {response : InternalData} {ctx' : Context} :
      p.router.resolve ctx.path = some { kind := .backend, moduleName := name, routeId } →
      p.backends.get name = some b →
      b.handleEndpoint w routeId (toBackend name ctx) = (.ok (.authResponse response), ctx') →
      (recordedFrontend ctx').or ctx'.targetFrontend = some origin →
      Entered ctx (.ok (.response (refilled response ctx') 0), toFrontend origin ctx')
  | unknownService {name routeId : String} :
      p.router.resolve ctx.path = some { kind := .microService, moduleName := name, routeId } →
      p.servicePosition name = none → Entered ctx (.error (.unknownModule name), ctx)
  | serviceFails {name routeId : String} {idx : Nat} {ms : MicroService W} {e : Error} {ctx' : Context} :
      p.router.resolve ctx.path = some { kind := .microService, moduleName := name, routeId } →
      p.servicePosition name = some (idx, ms) → ms.handleEndpoint w routeId ctx = (.error e, ctx') →
      Entered ctx (.error e, ctx')
  | serviceAnswers {name routeId : String} {idx : Nat} {ms : MicroService W} {r : Response} {ctx' : Context} :
      p.router.resolve ctx.path = some { kind := .microService, moduleName := name, routeId } →
      p.servicePosition name = some (idx, ms) → ms.handleEndpoint w routeId ctx = (.ok (.respond r), ctx') →
      Entered ctx (.ok (.answered r), ctx')
  | serviceUnclaimed {name routeId : String} {idx : Nat} {ms : MicroService W} {request : InternalData}
      {ctx' : Context} :
      p.router.resolve ctx.path = some { kind := .microService, moduleName := name, routeId } →
      p.servicePosition name = some (idx, ms) →
      ms.handleEndpoint w routeId ctx = (.ok (.resumeRequest request), ctx') →
      ctx'.targetFrontend.or (recordedFrontend ctx') = none →
      Entered ctx (.error (.state "resume without an originating frontend"), ctx')
  | serviceResumesRequest {name routeId origin : String} {idx : Nat} {ms : MicroService W} {request : InternalData}
      {ctx' : Context} :
      p.router.resolve ctx.path = some { kind := .microService, moduleName := name, routeId } →
      p.servicePosition name = some (idx, ms) →
      ms.handleEndpoint w routeId ctx = (.ok (.resumeRequest request), ctx') →
      ctx'.targetFrontend.or (recordedFrontend ctx') = some origin →
      Entered ctx (.ok (.request request (idx + 1) none),
        noteRequester request (noteFrontend origin (toFrontend origin ctx')))
  | serviceResumesResponse {name routeId : String} {idx : Nat} {ms : MicroService W} {response : InternalData}
      {ctx' : Context} :
      p.router.resolve ctx.path = some { kind := .microService, moduleName := name, routeId } →
      p.servicePosition name = some (idx, ms) →
      ms.handleEndpoint w routeId ctx = (.ok (.resumeResponse response), ctx') →
      Entered ctx (.ok (.response response (idx + 1)), ctx')

variable {p w} in
theorem entered_frontend {ctx : Context} {name routeId : String}
    (h : p.router.resolve ctx.path = some { kind := .frontend, moduleName := name, routeId }) :
    p.Entered w ctx (p.enterFrontend w name routeId ctx) := by
  unfold enterFrontend setTargetFrontend
  simp only [Flow.modify, Action.update_bind_run]
  cases hget : p.frontends.get name with
  | none => exact .unknownFrontend h hget
  | some f =>
    simp only [Action.orFail_some, Action.pure_bind_run]
    show p.Entered w ctx ((f.handleEndpoint w routeId >>= _) (toFrontend name ctx))
    rcases hrun : f.handleEndpoint w routeId (toFrontend name ctx) with ⟨e | action, ctx'⟩
    · rw [Action.bind_of_error hrun]
      exact .frontendFails h hget hrun
    · rw [Action.bind_of_ok hrun]
      cases action with
      | respond r => exact .frontendAnswers h hget hrun
      | startAuth request pin =>
        have hentered := Entered.frontendStarts h hget hrun
        show p.Entered w ctx ((recordRequester request >>= _) ctx')
        rw [Action.bind_of_ok (recordRequester_run request ctx')]
        exact hentered

variable {p w} in
theorem entered_backend {ctx : Context} {name routeId : String}
    (h : p.router.resolve ctx.path = some { kind := .backend, moduleName := name, routeId }) :
    p.Entered w ctx (p.enterBackend w name routeId ctx) := by
  unfold enterBackend setTargetBackend
  simp only [Flow.modify, Action.update_bind_run]
  cases hget : p.backends.get name with
  | none => exact .unknownBackend h hget
  | some b =>
    simp only [Action.orFail_some, Action.pure_bind_run]
    show p.Entered w ctx ((b.handleEndpoint w routeId >>= _) (toBackend name ctx))
    rcases hrun : b.handleEndpoint w routeId (toBackend name ctx) with ⟨e | action, ctx'⟩
    · rw [Action.bind_of_error hrun]
      exact .backendFails h hget hrun
    · rw [Action.bind_of_ok hrun]
      cases action with
      | respond r => exact .backendAnswers h hget hrun
      | authResponse response =>
        simp only [Flow.context, Action.read_bind_run]
        cases horigin : (recordedFrontend ctx').or ctx'.targetFrontend with
        | none => exact .backendUnclaimed h hget hrun horigin
        | some origin =>
          have hentered := Entered.backendResponds h hget hrun horigin
          exact hentered

variable {p w} in
theorem entered_microService {ctx : Context} {name routeId : String}
    (h : p.router.resolve ctx.path = some { kind := .microService, moduleName := name, routeId }) :
    p.Entered w ctx (p.enterMicroService w name routeId ctx) := by
  unfold enterMicroService
  cases hfound : p.servicePosition name with
  | none => exact .unknownService h hfound
  | some found =>
    obtain ⟨idx, ms⟩ := found
    simp only [Action.orFail_some, Action.pure_bind_run]
    rcases hrun : ms.handleEndpoint w routeId ctx with ⟨e | action, ctx'⟩
    · rw [Action.bind_of_error hrun]
      exact .serviceFails h hfound hrun
    · rw [Action.bind_of_ok hrun]
      cases action with
      | respond r => exact .serviceAnswers h hfound hrun
      | resumeResponse response => exact .serviceResumesResponse h hfound hrun
      | resumeRequest request =>
        show p.Entered w ctx (enterResumed idx request ctx')
        unfold enterResumed setTargetFrontend
        simp only [Flow.context, Flow.modify, Action.read_bind_run]
        cases horigin : ctx'.targetFrontend.or (recordedFrontend ctx') with
        | none => exact .serviceUnclaimed h hfound hrun horigin
        | some origin =>
          have hentered := Entered.serviceResumesRequest h hfound hrun horigin
          simp only [Action.orFail_some, Action.pure_bind_run, Action.update_bind_run, Flow.setStr, Flow.modify]
          rw [Action.bind_of_ok (recordRequester_run request _)]
          exact hentered

/-- **Entering a request comes to one of these.** -/
theorem enter_entered (ctx : Context) : p.Entered w ctx (p.enter w ctx) := by
  unfold enter
  simp only [Flow.context, Action.read_bind_run]
  cases hroute : p.router.resolve ctx.path with
  | none => exact .unrouted hroute
  | some m =>
    obtain ⟨kind, name, routeId⟩ := m
    simp only [Action.orFail_some, Action.pure_bind_run, enterMatch]
    cases kind with
    | frontend => exact entered_frontend hroute
    | backend => exact entered_backend hroute
    | microService => exact entered_microService hroute

/-! ## Outcomes -/

variable {p w} in
/-- A backend is started after the request-path services passed; it is the
pinned one, else the one they selected, else the default. -/
theorem reach_start {ctx ctx' : Context} {backend : Backend W} {request : InternalData}
    (h : p.reach w ctx = (.ok (.start backend request), ctx')) :
    ∃ entered startIndex pin ctx₁ ctx₂ name, p.enter w ctx = (.ok (.request entered startIndex pin), ctx₁) ∧
      requestServices w (p.microservices.drop startIndex) entered ctx₁ = (.ok request, ctx₂) ∧
      (pin.or ctx₂.targetBackend).or p.defaultBackend = some name ∧ p.backends.get name = some backend ∧
      ctx' = { ctx₂ with targetBackend := some name } := by
  obtain ⟨stage, ctx₁, henter, hadvance⟩ := Action.bind_ok.mp h
  unfold advance at hadvance
  cases stage with
  | answered r => cases hadvance
  | response response startIndex =>
    obtain ⟨action, ctx₂, _, haction⟩ := Action.bind_ok.mp hadvance
    cases action with
    | respond http => cases haction
    | «continue» response =>
      obtain ⟨_, _, _, hret⟩ := Action.bind_ok.mp haction
      cases hret
  | request entered startIndex pin =>
    obtain ⟨request', ctx₂, hservices, hrest⟩ := Action.bind_ok.mp hadvance
    obtain ⟨backend', ctx₃, hselect, hret⟩ := Action.bind_ok.mp hrest
    cases hret
    unfold selectBackend setTargetBackend at hselect
    simp only [Flow.context, Flow.modify, Action.read_bind_run] at hselect
    obtain ⟨name, hname, hfound⟩ := Action.orFail_bind_ok.mp hselect
    rw [Action.update_bind_run] at hfound
    obtain ⟨hget, hctx⟩ := Action.orFail_eq_ok.mp hfound
    exact ⟨entered, startIndex, pin, ctx₁, ctx₂, name, henter, hservices, hname, hget, hctx⟩

variable {p w} in
/-- A frontend renders after the response-path services continued; it is this
request's, else the recorded one. -/
theorem reach_deliver {ctx ctx' : Context} {frontend : Frontend W} {response : InternalData}
    (h : p.reach w ctx = (.ok (.deliver frontend response), ctx')) :
    ∃ entered startIndex ctx₁ ctx₂ name, p.enter w ctx = (.ok (.response entered startIndex), ctx₁) ∧
      responseServices w (p.microservices.drop startIndex) entered ctx₁ = (.ok (.continue response), ctx₂) ∧
      ctx₂.targetFrontend.or (recordedFrontend ctx₂) = some name ∧ p.frontends.get name = some frontend ∧
      ctx' = { ctx₂ with targetFrontend := some name } := by
  obtain ⟨stage, ctx₁, henter, hadvance⟩ := Action.bind_ok.mp h
  unfold advance at hadvance
  cases stage with
  | answered r => cases hadvance
  | request request startIndex pin =>
    obtain ⟨_, _, _, hrest⟩ := Action.bind_ok.mp hadvance
    obtain ⟨_, _, _, hret⟩ := Action.bind_ok.mp hrest
    cases hret
  | response entered startIndex =>
    obtain ⟨action, ctx₂, hservices, haction⟩ := Action.bind_ok.mp hadvance
    cases action with
    | respond http => cases haction
    | «continue» response' =>
      obtain ⟨frontend', ctx₃, hfound, hret⟩ := Action.bind_ok.mp haction
      cases hret
      unfold originatingFrontend setTargetFrontend at hfound
      simp only [Flow.context, Flow.modify, Action.read_bind_run] at hfound
      obtain ⟨name, hname, hrest⟩ := Action.orFail_bind_ok.mp hfound
      rw [Action.update_bind_run] at hrest
      obtain ⟨hget, hctx⟩ := Action.orFail_eq_ok.mp hrest
      exact ⟨entered, startIndex, ctx₁, ctx₂, name, henter, hservices, hname, hget, hctx⟩

/-! ## Frames -/

variable (R : Context → Context → Prop)

/-- Every plugin keeps a frame. -/
structure PluginsKeep : Prop where
  frontendEndpoint : ∀ name f, p.frontends.get name = some f → ∀ w routeId, Action.Keeps R (f.handleEndpoint w routeId)
  authnResponse : ∀ name f, p.frontends.get name = some f → ∀ w response,
    Action.Keeps R (f.handleAuthnResponse w response)
  backendError : ∀ name f, p.frontends.get name = some f → ∀ w e, Action.Keeps R (f.handleBackendError w e)
  startAuth : ∀ name b, p.backends.get name = some b → ∀ w request, Action.Keeps R (b.startAuth w request)
  backendEndpoint : ∀ name b, p.backends.get name = some b → ∀ w routeId, Action.Keeps R (b.handleEndpoint w routeId)
  processRequest : ∀ ms ∈ p.microservices, ∀ w request, Action.Keeps R (ms.processRequest w request)
  processResponse : ∀ ms ∈ p.microservices, ∀ w response, Action.Keeps R (ms.processResponseAction w response)
  serviceEndpoint : ∀ ms ∈ p.microservices, ∀ w routeId, Action.Keeps R (ms.handleEndpoint w routeId)

/-- The proxy's own writes keep a frame. -/
structure OwnWritesKeep : Prop where
  targetFrontend : ∀ ctx name, R ctx { ctx with targetFrontend := some name }
  targetBackend : ∀ ctx name, R ctx { ctx with targetBackend := some name }
  base : ∀ ctx key value, R ctx (ctx.mapState fun s => s.setStr STATE_KEY_BASE key value)

/-- So do its routing decisions alone. -/
structure TargetsKeep : Prop where
  targetFrontend : ∀ ctx name, R ctx { ctx with targetFrontend := some name }
  targetBackend : ∀ ctx name, R ctx { ctx with targetBackend := some name }

variable {p R}

theorem OwnWritesKeep.targets (own : OwnWritesKeep R) : TargetsKeep R := ⟨own.targetFrontend, own.targetBackend⟩

theorem TargetsKeep.setTargetFrontend (targets : TargetsKeep R) (name : String) :
    Action.Keeps R (setTargetFrontend name) := Action.keeps_update fun ctx => targets.targetFrontend ctx name

theorem TargetsKeep.setTargetBackend (targets : TargetsKeep R) (name : String) :
    Action.Keeps R (setTargetBackend name) := Action.keeps_update fun ctx => targets.targetBackend ctx name

variable [Action.Frame R]

theorem findIdx?_of_nodup {names : List String} (hnames : names.Nodup) {i : Nat} {key : String}
    (h : names[i]? = some key) : names.findIdx? (fun name => name = key) = some i := by
  obtain ⟨hlt, hget⟩ := List.getElem?_eq_some_iff.mp h
  refine List.findIdx?_eq_some_iff_getElem.mpr ⟨hlt, decide_eq_true hget, fun j hj => ?_⟩
  intro hsame
  have hne := List.pairwise_iff_getElem.mp hnames j i (by omega) hlt hj
  rw [hget] at hne
  exact hne (of_decide_eq_true hsame)

theorem servicePosition_mem {moduleName : String} {idx : Nat} {ms : MicroService W}
    (h : p.servicePosition moduleName = some (idx, ms)) :
    p.microservices[idx]? = some ms ∧ ms.name = moduleName := by
  unfold servicePosition at h
  obtain ⟨i, hfind, hget⟩ := Option.bind_eq_some_iff.mp h
  obtain ⟨ms', hms, heq⟩ := Option.map_eq_some_iff.mp hget
  cases heq
  refine ⟨hms, ?_⟩
  obtain ⟨hlt, hname, _⟩ := List.findIdx?_eq_some_iff_getElem.mp hfind
  rw [List.getElem?_eq_getElem hlt] at hms
  cases hms
  exact of_decide_eq_true hname

/-! Running a leg calls the services alone. -/

theorem requestServices_keeps {services : List (MicroService W)}
    (h : ∀ ms ∈ services, ∀ request, Action.Keeps R (ms.processRequest w request)) (request : InternalData) :
    Action.Keeps R (requestServices w services request) := by
  induction services generalizing request with
  | nil => exact Action.keeps_pure _
  | cons ms rest ih =>
    refine (h ms List.mem_cons_self request).bind fun request => ?_
    exact ih (fun ms' hms' => h ms' (List.mem_cons_of_mem _ hms')) request

theorem responseServices_keeps {services : List (MicroService W)}
    (h : ∀ ms ∈ services, ∀ response, Action.Keeps R (ms.processResponseAction w response)) (response : InternalData) :
    Action.Keeps R (responseServices w services response) := by
  induction services generalizing response with
  | nil => exact Action.keeps_pure _
  | cons ms rest ih =>
    refine (h ms List.mem_cons_self response).bind fun action => ?_
    cases action with
    | «continue» next => exact ih (fun ms' hms' => h ms' (List.mem_cons_of_mem _ hms')) next
    | respond http => exact Action.keeps_pure _

/-- Behind its services a leg chooses the backend, or the frontend, alone. -/
theorem TargetsKeep.behind_request (targets : TargetsKeep R) (request : InternalData) (startIndex : Nat)
    (pin : Option String) (ctx : Context) :
    R (requestServices w (p.microservices.drop startIndex) request ctx).2
      (p.advance w (.request request startIndex pin) ctx).2 := by
  have hselect : Action.Keeps R (p.selectBackend pin) := by
    unfold selectBackend
    refine Action.keeps_read.bind fun ctx => (Action.keeps_orFail _ _).bind fun name => ?_
    exact (targets.setTargetBackend name).bind fun _ => Action.keeps_orFail _ _
  show R _ ((requestServices w (p.microservices.drop startIndex) request >>= _) ctx).2
  rcases hrun : requestServices w (p.microservices.drop startIndex) request ctx with ⟨e | next, ctx'⟩
  · rw [Action.bind_of_error hrun]
    exact Action.Frame.refl ctx'
  · rw [Action.bind_of_ok hrun]
    exact (hselect.bind fun backend => Action.keeps_pure _) ctx'

theorem TargetsKeep.behind_response (targets : TargetsKeep R) (response : InternalData) (startIndex : Nat)
    (ctx : Context) :
    R (responseServices w (p.microservices.drop startIndex) response ctx).2
      (p.advance w (.response response startIndex) ctx).2 := by
  have hfound : Action.Keeps R p.originatingFrontend := by
    unfold originatingFrontend
    refine Action.keeps_read.bind fun ctx => (Action.keeps_orFail _ _).bind fun name => ?_
    exact (targets.setTargetFrontend name).bind fun _ => Action.keeps_orFail _ _
  show R _ ((responseServices w (p.microservices.drop startIndex) response >>= _) ctx).2
  rcases hrun : responseServices w (p.microservices.drop startIndex) response ctx with ⟨e | action, ctx'⟩
  · rw [Action.bind_of_error hrun]
    exact Action.Frame.refl ctx'
  · rw [Action.bind_of_ok hrun]
    cases action with
    | respond http => exact Action.Frame.refl ctx'
    | «continue» next => exact (hfound.bind fun frontend => Action.keeps_pure _) ctx'

theorem TargetsKeep.advance_request (targets : TargetsKeep R) {startIndex : Nat}
    (h : ∀ ms ∈ p.microservices.drop startIndex, ∀ request, Action.Keeps R (ms.processRequest w request))
    (request : InternalData) (pin : Option String) :
    Action.Keeps R (p.advance w (.request request startIndex pin)) := fun ctx =>
  Action.Frame.trans (requestServices_keeps w h request ctx) (targets.behind_request w request startIndex pin ctx)

theorem TargetsKeep.advance_response (targets : TargetsKeep R)
    (h : ∀ ms ∈ p.microservices, ∀ response, Action.Keeps R (ms.processResponseAction w response))
    (response : InternalData) (startIndex : Nat) : Action.Keeps R (p.advance w (.response response startIndex)) :=
  fun ctx =>
    Action.Frame.trans (responseServices_keeps w (fun ms hms => h ms (List.mem_of_mem_drop hms)) response ctx)
      (targets.behind_response w response startIndex ctx)

/-- **Entering a request keeps a frame its endpoint keeps**: of the core's own
namespace only the frontend and the requester are written. -/
theorem enter_keeps (targets : TargetsKeep R) {ctx : Context}
    (hbase : ∀ ctx key v, key = KEY_TARGET_FRONTEND ∨ key = KEY_REQUESTER →
      R ctx (ctx.mapState fun s => s.setStr STATE_KEY_BASE key v))
    (hfrontend : ∀ name f, p.frontends.get name = some f → ∀ routeId, Action.Keeps R (f.handleEndpoint w routeId))
    (hbackend : ∀ name routeId b, p.router.resolve ctx.path = some { kind := .backend, moduleName := name, routeId } →
      p.backends.get name = some b → Action.Keeps R (b.handleEndpoint w routeId))
    (hservice : ∀ ms ∈ p.microservices, ∀ routeId, Action.Keeps R (ms.handleEndpoint w routeId)) :
    R ctx (p.enter w ctx).2 := by
  have hrequester : ∀ (request : InternalData) (ctx : Context), R ctx (noteRequester request ctx) := by
    intro request ctx
    unfold noteRequester
    cases request.requester with
    | none => exact Action.Frame.refl ctx
    | some requester => exact hbase ctx KEY_REQUESTER requester (.inr rfl)
  have hdown : ∀ {name routeId : String} {f : Frontend W} {result : Except Error FrontendAction} {ctx' : Context},
      p.frontends.get name = some f → f.handleEndpoint w routeId (toFrontend name ctx) = (result, ctx') → R ctx ctx' :=
    fun hget hrun => Action.Frame.trans (targets.targetFrontend ctx _) ((hfrontend _ _ hget _).apply hrun)
  have hup : ∀ {name routeId : String} {b : Backend W} {result : Except Error BackendAction} {ctx' : Context},
      p.router.resolve ctx.path = some { kind := .backend, moduleName := name, routeId } →
      p.backends.get name = some b → b.handleEndpoint w routeId (toBackend name ctx) = (result, ctx') → R ctx ctx' :=
    fun hroute hget hrun =>
      Action.Frame.trans (targets.targetBackend ctx _) ((hbackend _ _ _ hroute hget).apply hrun)
  have hcalled : ∀ {name routeId : String} {idx : Nat} {ms : MicroService W}
      {result : Except Error MicroServiceAction} {ctx' : Context},
      p.servicePosition name = some (idx, ms) → ms.handleEndpoint w routeId ctx = (result, ctx') → R ctx ctx' :=
    fun hfound hrun => (hservice _ (List.mem_of_getElem? (servicePosition_mem hfound).1) _).apply hrun
  have hentered := p.enter_entered w ctx
  generalize p.enter w ctx = out at hentered
  cases hentered with
  | unrouted => exact Action.Frame.refl ctx
  | unknownFrontend => exact targets.targetFrontend ctx _
  | frontendFails _ hget hrun => exact hdown hget hrun
  | frontendAnswers _ hget hrun => exact hdown hget hrun
  | @frontendStarts name routeId f request pin ctx' _ hget hrun =>
    exact Action.Frame.trans (Action.Frame.trans (hdown hget hrun) (hrequester request ctx'))
      (hbase _ KEY_TARGET_FRONTEND name (.inl rfl))
  | unknownBackend => exact targets.targetBackend ctx _
  | backendFails hroute hget hrun => exact hup hroute hget hrun
  | backendAnswers hroute hget hrun => exact hup hroute hget hrun
  | backendUnclaimed hroute hget hrun => exact hup hroute hget hrun
  | @backendResponds name routeId origin b response ctx' hroute hget hrun =>
    have hanswered : R ctx ctx' := hup hroute hget hrun
    exact Action.Frame.trans hanswered (targets.targetFrontend ctx' origin)
  | unknownService => exact Action.Frame.refl ctx
  | serviceFails _ hfound hrun => exact hcalled hfound hrun
  | serviceAnswers _ hfound hrun => exact hcalled hfound hrun
  | serviceUnclaimed _ hfound hrun => exact hcalled hfound hrun
  | @serviceResumesRequest name routeId origin idx ms request ctx' _ hfound hrun =>
    have hresumed : R ctx ctx' := hcalled hfound hrun
    have hrouted : R ctx (toFrontend origin ctx') := Action.Frame.trans hresumed (targets.targetFrontend ctx' origin)
    exact Action.Frame.trans (Action.Frame.trans hrouted (hbase _ KEY_TARGET_FRONTEND origin (.inl rfl)))
      (hrequester request _)
  | serviceResumesResponse _ hfound hrun => exact hcalled hfound hrun

/-- Concluding keeps a frame the plugin that concludes keeps. -/
theorem conclude_keeps {outcome : Outcome W} (hcomplete : ∀ ctx, R ctx (complete ctx))
    (hstart : ∀ backend request, outcome = .start backend request → Action.Keeps R (backend.startAuth w request))
    (hdeliver : ∀ frontend response, outcome = .deliver frontend response →
      Action.Keeps R (frontend.handleAuthnResponse w response)) :
    Action.Keeps R (conclude w outcome) := by
  cases outcome with
  | answered r => exact Action.keeps_pure _
  | start backend request => exact hstart backend request rfl
  | deliver frontend response =>
    exact (hdeliver frontend response rfl).bind fun rendered =>
      (Action.keeps_update hcomplete).bind fun _ => Action.keeps_pure _

section
variable (own : OwnWritesKeep R)
include own

omit [Action.Frame R] in
theorem OwnWritesKeep.setTargetFrontend (name : String) : Action.Keeps R (setTargetFrontend name) :=
  Action.keeps_update fun ctx => own.targetFrontend ctx name

omit [Action.Frame R] in
theorem OwnWritesKeep.setTargetBackend (name : String) : Action.Keeps R (setTargetBackend name) :=
  Action.keeps_update fun ctx => own.targetBackend ctx name

omit [Action.Frame R] in
theorem OwnWritesKeep.recordFrontend (name : String) :
    Action.Keeps R (Flow.setStr STATE_KEY_BASE KEY_TARGET_FRONTEND name) :=
  Action.keeps_update fun ctx => own.base ctx KEY_TARGET_FRONTEND name

theorem OwnWritesKeep.recordRequester (request : InternalData) : Action.Keeps R (recordRequester request) := by
  unfold Proxy.recordRequester
  cases request.requester with
  | none => exact Action.keeps_pure _
  | some requester => exact Action.keeps_update fun ctx => own.base ctx KEY_REQUESTER requester

/-- After a frontend's endpoint only the proxy writes. -/
theorem OwnWritesKeep.enterFrontend {name : String} {f : Frontend W} (hget : p.frontends.get name = some f)
    (routeId : String) (ctx : Context) :
    R (f.handleEndpoint w routeId (toFrontend name ctx)).2 (p.enterFrontend w name routeId ctx).2 := by
  unfold Proxy.enterFrontend Proxy.setTargetFrontend
  simp only [Flow.modify, Action.update_bind_run]
  rw [hget, Action.orFail_some, Action.pure_bind_run]
  show R (f.handleEndpoint w routeId (toFrontend name ctx)).2
    ((f.handleEndpoint w routeId >>= _) (toFrontend name ctx)).2
  rcases hrun : f.handleEndpoint w routeId (toFrontend name ctx) with ⟨e | action, ctx'⟩
  · rw [Action.bind_of_error hrun]
    exact Action.Frame.refl ctx'
  · rw [Action.bind_of_ok hrun]
    cases action with
    | respond r => exact Action.Frame.refl ctx'
    | startAuth request pin =>
      have hrecords : Action.Keeps R (Proxy.recordRequester request >>= fun _ =>
          Flow.setStr STATE_KEY_BASE KEY_TARGET_FRONTEND name >>= fun _ => pure (Stage.request request 0 pin)) :=
        (own.recordRequester request).bind fun _ => (own.recordFrontend name).bind fun _ => Action.keeps_pure _
      exact hrecords ctx'

variable (h : p.PluginsKeep R)
include h

theorem PluginsKeep.enterFrontend (moduleName routeId : String) :
    Action.Keeps R (p.enterFrontend w moduleName routeId) := by
  unfold Proxy.enterFrontend
  refine (own.setTargetFrontend _).bind fun _ => Action.keeps_found fun frontend hfrontend => ?_
  refine (h.frontendEndpoint _ _ hfrontend w routeId).bind fun action => ?_
  cases action with
  | respond r => exact Action.keeps_pure _
  | startAuth request pin =>
    exact (own.recordRequester request).bind fun _ => (own.recordFrontend _).bind fun _ => Action.keeps_pure _

theorem PluginsKeep.enterBackend (moduleName routeId : String) :
    Action.Keeps R (p.enterBackend w moduleName routeId) := by
  unfold Proxy.enterBackend
  refine (own.setTargetBackend _).bind fun _ => Action.keeps_found fun backend hbackend => ?_
  refine (h.backendEndpoint _ _ hbackend w routeId).bind fun action => ?_
  cases action with
  | respond r => exact Action.keeps_pure _
  | authResponse response =>
    refine Action.keeps_read.bind fun ctx => (Action.keeps_orFail _ _).bind fun name => ?_
    exact (own.setTargetFrontend name).bind fun _ => Action.keeps_read.bind fun ctx => Action.keeps_pure _

theorem PluginsKeep.enterMicroService (moduleName routeId : String) :
    Action.Keeps R (p.enterMicroService w moduleName routeId) := by
  unfold Proxy.enterMicroService
  refine Action.keeps_found fun ⟨idx, ms⟩ hfound => ?_
  have hmem : ms ∈ p.microservices := List.mem_of_getElem? (servicePosition_mem hfound).1
  refine (h.serviceEndpoint ms hmem w routeId).bind fun action => ?_
  cases action with
  | respond r => exact Action.keeps_pure _
  | resumeResponse response => exact Action.keeps_pure _
  | resumeRequest request =>
    refine Action.keeps_read.bind fun ctx => (Action.keeps_orFail _ _).bind fun name => ?_
    exact (own.setTargetFrontend name).bind fun _ => (own.recordFrontend name).bind fun _ =>
      (own.recordRequester request).bind fun _ => Action.keeps_pure _

/-- **Routing and the endpoint keep the frame.** -/
theorem PluginsKeep.enter : Action.Keeps R (p.enter w) := by
  unfold Proxy.enter
  refine Action.keeps_read.bind fun ctx => (Action.keeps_orFail _ _).bind fun m => ?_
  unfold enterMatch
  cases m.kind with
  | frontend => exact h.enterFrontend w own _ _
  | backend => exact h.enterBackend w own _ _
  | microService => exact h.enterMicroService w own _ _

omit own in
theorem PluginsKeep.requestServices {services : List (MicroService W)} (hmem : ∀ ms ∈ services, ms ∈ p.microservices)
    (request : InternalData) : Action.Keeps R (requestServices w services request) :=
  requestServices_keeps w (fun ms hms => h.processRequest ms (hmem ms hms) w) request

omit own in
theorem PluginsKeep.responseServices {services : List (MicroService W)} (hmem : ∀ ms ∈ services, ms ∈ p.microservices)
    (response : InternalData) : Action.Keeps R (responseServices w services response) :=
  responseServices_keeps w (fun ms hms => h.processResponse ms (hmem ms hms) w) response

omit own in
/-- Running a leg keeps the frame, also in a proxy with other frontends and
backends: it calls the services alone. -/
theorem PluginsKeep.advance_services (targets : TargetsKeep R) {q : Proxy W}
    (hq : q.microservices = p.microservices) (stage : Stage) :
    Action.Keeps R (q.advance w stage) := by
  cases stage with
  | answered r => exact Action.keeps_pure _
  | request request startIndex pin =>
    refine targets.advance_request w (fun ms hms => ?_) request pin
    exact h.processRequest ms (hq ▸ List.mem_of_mem_drop hms) w
  | response response startIndex =>
    exact targets.advance_response w (fun ms hms => h.processResponse ms (hq ▸ hms) w) response startIndex

/-- **Running a leg keeps the frame.** -/
theorem PluginsKeep.advance (stage : Stage) : Action.Keeps R (p.advance w stage) :=
  h.advance_services w own.targets rfl stage

theorem PluginsKeep.reach : Action.Keeps R (p.reach w) := (h.enter w own).bind fun stage => h.advance w own stage

omit own in
theorem PluginsKeep.renderError (statusHint : Error → Nat) (e : Error) (ctx : Context) :
    R ctx (p.renderError w statusHint e ctx).2 := by
  unfold Proxy.renderError
  split
  · exact Action.Frame.refl ctx
  · split
    · exact Action.Frame.refl ctx
    next frontend hfrontend =>
      obtain ⟨name, _, hget⟩ := Option.bind_eq_some_iff.mp hfrontend
      have hkeeps := h.backendError name frontend hget w e ctx
      split
      next r ctx' hrun => rwa [hrun] at hkeeps
      next e' ctx' hrun => rwa [hrun] at hkeeps

end

end Proxy

end Tunnelbana
