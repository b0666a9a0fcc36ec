/-
URL routing: matches an inbound path to a registered plugin endpoint. Exact
paths are probed first, each bound to its first registrant; the regexes follow
in the order they were added.
-/
import Tunnelbana.Basis.Assoc
import Tunnelbana.Core.Plugin

namespace Tunnelbana

open Basis

inductive ModuleKind where
  | frontend
  | microService
  | backend
deriving DecidableEq, Repr

structure Match where
  kind : ModuleKind
  moduleName : String
  routeId : String
deriving DecidableEq, Repr

structure RegexEndpoint where
  isMatch : String → Bool
  data : Match

structure Router where
  /-- The first registrant of a path keeps it. -/
  exact : Assoc Match := []
  /-- In insertion order. -/
  regexes : List RegexEndpoint := []

namespace Router

def addRoute (kind : ModuleKind) (moduleName : String) (r : Router) (route : Route) : Router :=
  let data : Match := { kind, moduleName, routeId := route.id }
  match route.matcher with
  | .exact path =>
    match r.exact.get path with
    | some _ => r
    | none => { r with exact := r.exact.put path data }
  | .regex isMatch => { r with regexes := r.regexes ++ [{ isMatch, data }] }

def add (kind : ModuleKind) (moduleName : String) (routes : List Route) (r : Router) : Router :=
  routes.foldl (addRoute kind moduleName) r

def resolve (r : Router) (path : String) : Option Match :=
  match r.exact.get path with
  | some data => some data
  | none => (r.regexes.find? fun e => e.isMatch path).map (·.data)

def addAll {α : Type} (kind : ModuleKind) (name : α → String) (routes : α → List Route) (plugins : List α)
    (r : Router) : Router :=
  plugins.foldl (fun r p => r.add kind (name p) (routes p)) r

end Router

end Tunnelbana
