/-
The plugin interfaces and the values plugins return into the proxy flow.
`W` is the world a request is handled in: what the network, the clock and
the protocol libraries answer while it is. Each request has its own.
-/
import Tunnelbana.Core.Context
import Tunnelbana.Core.Internal

namespace Tunnelbana

open Basis

inductive Matcher where
  | exact (path : String)
  | regex (isMatch : String → Bool)

structure Route where
  matcher : Matcher
  id : String

namespace Route

def exact (path id : String) : Route := { matcher := .exact path, id }

def matchesPath (r : Route) (path : String) : Bool :=
  match r.matcher with
  | .exact p => p = path
  | .regex f => f path

end Route

inductive FrontendAction where
  | respond (r : Response)
  /-- Forward the request to a backend, pinned when named. -/
  | startAuth (request : InternalData) (targetBackend : Option String)

inductive BackendAction where
  | respond (r : Response)
  /-- Forward the response to the originating frontend. -/
  | authResponse (response : InternalData)

inductive MicroServiceAction where
  | respond (r : Response)
  /-- Resume the request path after the service. -/
  | resumeRequest (request : InternalData)
  /-- Resume the response path after the service. -/
  | resumeResponse (response : InternalData)

inductive MicroServiceResponseAction where
  | continue (response : InternalData)
  /-- Suspend the response path. -/
  | respond (r : Response)

structure Frontend (W : Type) where
  name : String
  registerEndpoints : List String → List Route
  handleEndpoint : W → String → Flow FrontendAction
  handleAuthnResponse : W → InternalData → Flow Response
  handleBackendError : W → Error → Flow Response

structure Backend (W : Type) where
  name : String
  registerEndpoints : List Route
  startAuth : W → InternalData → Flow Response
  handleEndpoint : W → String → Flow BackendAction

/-- A micro-service, with the defaults of one that only transforms. -/
structure MicroService (W : Type) where
  name : String
  processRequest : W → InternalData → Flow InternalData := fun _ data => pure data
  processResponse : W → InternalData → Flow InternalData := fun _ data => pure data
  processResponseAction : W → InternalData → Flow MicroServiceResponseAction := fun w data => do
    let next ← processResponse w data
    return .continue next
  registerEndpoints : List Route := []
  handleEndpoint : W → String → Flow MicroServiceAction := fun _ _ =>
    Flow.fail (.noBoundEndpoint "micro-service endpoint not implemented")

end Tunnelbana
