/-
The proxy orchestrator: unseal the state, route, dispatch, seal the state.
A request goes from a frontend through the micro-services to a backend, and a
response from a backend through the micro-services to the originating
frontend; a micro-service may suspend either leg and resume it from its own
endpoint.
-/
import Tunnelbana.Core.Router
import Tunnelbana.Core.Seal

namespace Tunnelbana

open Basis

structure Proxy (W : Type) where
  frontends : Assoc (Frontend W)
  backends : Assoc (Backend W)
  /-- In pipeline order, on both legs. -/
  microservices : List (MicroService W)
  router : Router
  sealer : StateSealer
  /-- Used when none is pinned by the frontend or a micro-service. -/
  defaultBackend : Option String

/-- Plugins by name; of two with one name the later is kept. -/
def byName {α : Type} (name : α → String) (plugins : List α) : Assoc α :=
  plugins.foldl (fun m p => m.put (name p) p) []

/-! ## Errors -/

/-- What follows the scheme of a URL, whatever the scheme's case. -/
def afterScheme (scheme url : List Char) : Option (List Char) :=
  if (url.take scheme.length).map Char.toLower = scheme then some (url.drop scheme.length) else none

/-- What passes for an absolute http(s) URL: something follows the scheme, and
there are no control characters or spaces. -/
def isValidErrorRedirect (url : String) : Bool :=
  match (afterScheme "https://".toList url.toList).or (afterScheme "http://".toList url.toList) with
  | some rest => rest ≠ [] && !url.toList.any fun c => c.toNat < 32 || c.toNat = 127 || c = ' '
  | none => false

namespace Proxy

variable {W : Type}

/-- Assemble a proxy. Routes are registered for the frontends first, then the
micro-services, then the backends. -/
def new (frontends : List (Frontend W)) (backends : List (Backend W)) (microservices : List (MicroService W))
    (sealer : StateSealer) : Proxy W :=
  let backendNames := backends.map (·.name)
  let router := (((({} : Router).addAll .frontend (·.name) (fun f => f.registerEndpoints backendNames) frontends).addAll
    .microService (·.name) (·.registerEndpoints) microservices).addAll .backend (·.name) (·.registerEndpoints) backends)
  { frontends := byName (·.name) frontends
    backends := byName (·.name) backends
    microservices
    router
    sealer
    defaultBackend := backendNames.head? }

variable (p : Proxy W) (w : W)

def recordedFrontend (ctx : Context) : Option String := ctx.state.getStr STATE_KEY_BASE KEY_TARGET_FRONTEND

def recordRequester (request : InternalData) : Flow Unit :=
  match request.requester with
  | some requester => Flow.modify fun ctx => ctx.setRequester requester
  | none => pure ()

def setTargetFrontend (name : String) : Flow Unit := Flow.modify fun ctx => { ctx with targetFrontend := some name }

def setTargetBackend (name : String) : Flow Unit := Flow.modify fun ctx => { ctx with targetBackend := some name }

/-! ## The request leg -/

def requestServices : List (MicroService W) → InternalData → Flow InternalData
  | [], request => pure request
  | ms :: rest, request => do
    let request ← ms.processRequest w request
    requestServices rest request

/-- An explicit pin, else the micro-services' choice, else the default. -/
def selectBackend (pinnedBackend : Option String) : Flow (Backend W) := do
  let ctx ← Flow.context
  let backendName ← Action.orFail ((pinnedBackend.or ctx.targetBackend).or p.defaultBackend)
    (.config "no backend configured")
  setTargetBackend backendName
  Action.orFail (p.backends.get backendName) (.unknownModule backendName)

/-- Run the request-path micro-services from `startIndex`, select a backend and
start authentication. -/
def finishRequest (request : InternalData) (startIndex : Nat) (pinnedBackend : Option String) : Flow Response := do
  let request ← requestServices w (p.microservices.drop startIndex) request
  let backend ← p.selectBackend pinnedBackend
  backend.startAuth w request

/-! ## The response leg -/

def responseServices : List (MicroService W) → InternalData → Flow MicroServiceResponseAction
  | [], response => pure (.continue response)
  | ms :: rest, response => do
    match ← ms.processResponseAction w response with
    | .continue next => responseServices rest next
    | .respond http => pure (.respond http)

/-- The frontend a response is rendered by: this request's, else the recorded one. -/
def originatingFrontend : Flow (Frontend W) := do
  let ctx ← Flow.context
  let frontendName ← Action.orFail (ctx.targetFrontend.or (recordedFrontend ctx))
    (.state "no originating frontend in state")
  setTargetFrontend frontendName
  Action.orFail (p.frontends.get frontendName) (.unknownModule frontendName)

def render (response : InternalData) : Flow Response := do
  let frontend ← p.originatingFrontend
  let rendered ← frontend.handleAuthnResponse w response
  Flow.modify fun ctx => ctx.mapState fun s => { s with delete := true }
  return rendered

/-- Run the response-path micro-services from `startIndex`, then render through
the originating frontend. A service may interrupt the chain with a response. -/
def finishResponse (response : InternalData) (startIndex : Nat) : Flow Response := do
  match ← responseServices w (p.microservices.drop startIndex) response with
  | .continue response => p.render w response
  | .respond http => pure http

/-! ## Dispatch -/

def dispatchFrontend (moduleName routeId : String) : Flow Response := do
  setTargetFrontend moduleName
  let frontend ← Action.orFail (p.frontends.get moduleName) (.unknownModule moduleName)
  match ← frontend.handleEndpoint w routeId with
  | .respond r => pure r
  | .startAuth request targetBackend => do
    recordRequester request
    Flow.setStr STATE_KEY_BASE KEY_TARGET_FRONTEND moduleName
    p.finishRequest w request 0 targetBackend

/-- A backend answers without a requester; the recorded one is filled in before
the response-path micro-services run. -/
def dispatchBackend (moduleName routeId : String) : Flow Response := do
  setTargetBackend moduleName
  let backend ← Action.orFail (p.backends.get moduleName) (.unknownModule moduleName)
  match ← backend.handleEndpoint w routeId with
  | .respond r => pure r
  | .authResponse response => do
    let ctx ← Flow.context
    let frontendName ← Action.orFail ((recordedFrontend ctx).or ctx.targetFrontend)
      (.state "no originating frontend in state")
    setTargetFrontend frontendName
    let ctx ← Flow.context
    p.finishResponse w { response with requester := response.requester.or ctx.requester } 0

/-- Resume with the micro-services after the resuming one, no backend pinned. -/
def resumeRequest (idx : Nat) (request : InternalData) : Flow Response := do
  let ctx ← Flow.context
  let frontendName ← Action.orFail (ctx.targetFrontend.or (recordedFrontend ctx))
    (.state "resume without an originating frontend")
  setTargetFrontend frontendName
  Flow.setStr STATE_KEY_BASE KEY_TARGET_FRONTEND frontendName
  recordRequester request
  p.finishRequest w request (idx + 1) none

def servicePosition (moduleName : String) : Option (Nat × MicroService W) :=
  (p.microservices.findIdx? fun ms => ms.name = moduleName).bind fun idx =>
    (p.microservices[idx]?).map (idx, ·)

def dispatchMicroService (moduleName routeId : String) : Flow Response := do
  let (idx, ms) ← Action.orFail (p.servicePosition moduleName) (.unknownModule moduleName)
  match ← ms.handleEndpoint w routeId with
  | .respond r => pure r
  | .resumeRequest request => p.resumeRequest w idx request
  | .resumeResponse response => p.finishResponse w response (idx + 1)

def dispatch : Flow Response := do
  let ctx ← Flow.context
  let m ← Action.orFail (p.router.resolve ctx.path) (.noBoundEndpoint ctx.path)
  match m.kind with
  | .frontend => p.dispatchFrontend w m.moduleName m.routeId
  | .backend => p.dispatchBackend w m.moduleName m.routeId
  | .microService => p.dispatchMicroService w m.moduleName m.routeId

/-! ## Rendering errors -/

def errorRedirect (ctx : Context) : Option String :=
  ((ctx.decoration KEY_ERROR_REDIRECT).bind Json.asStr).filter isValidErrorRedirect

def errorFrontend (ctx : Context) : Option (Frontend W) :=
  (ctx.targetFrontend.or (recordedFrontend ctx)).bind p.frontends.get

/-- Render an error: a decorated redirect, else the originating frontend's
protocol error, else a generic body. -/
def renderError (statusHint : Error → Nat) (error : Error) (ctx : Context) : Response × Context :=
  match errorRedirect ctx with
  | some url => (Response.redirect url, ctx)
  | none =>
    match p.errorFrontend ctx with
    | none => (Response.text (statusHint error) "request failed", ctx)
    | some frontend =>
      match frontend.handleBackendError w error ctx with
      | (.ok r, ctx) => (r, ctx)
      | (.error _, ctx) => (Response.text (statusHint error) "request failed", ctx)

def respond (statusHint : Error → Nat) (ctx : Context) : Response × Context :=
  match p.dispatch w ctx with
  | (.ok r, ctx) => (r, ctx)
  | (.error e, ctx) => p.renderError w statusHint e ctx

/-- Attach the state cookie; a response whose state cannot be sealed is
replaced, and the state cleared. -/
def attachCookie (c : Crypto) (now : Nat) (nonce : Bytes) (response : Response) (state : State) :
    Response × Option SetCookie :=
  match p.sealer.seal c now nonce state with
  | .ok cookie => (response.withHeader "set-cookie" cookie.header, some cookie)
  | .error _ =>
    match p.sealer.seal c now nonce { State.new with delete := true } with
    | .ok cookie => ((Response.text 500 "request failed").withHeader "set-cookie" cookie.header, some cookie)
    | .error _ => (Response.text 500 "request failed", none)

/-- What surrounds a request: the clock when it arrives and when it is
answered, and a nonce. -/
structure Moment where
  opened : Nat
  answered : Nat
  nonce : Bytes

/-- The full request flow: the response, with the state cookie attached. -/
def run (c : Crypto) (statusHint : Error → Nat) (at_ : Moment) (request : HttpRequestData) :
    Response × Option SetCookie :=
  let state := p.sealer.unseal c at_.opened (request.cookies.get p.sealer.cookieName)
  let (response, ctx) := p.respond w statusHint (Context.new request state)
  p.attachCookie c at_.answered at_.nonce response ctx.state

end Proxy

end Tunnelbana
