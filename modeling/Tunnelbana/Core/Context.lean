/-
The per-request context: the inbound request, the routing decisions, the
session state and decorations, which last for one request only.

Handlers are computations over the context (`Flow`). The operations on the
state are lifted here, with what each does to a context.
-/
import Tunnelbana.Basis.Action
import Tunnelbana.Core.Message
import Tunnelbana.Core.State

namespace Tunnelbana

open Basis

/-- State namespace used by the proxy core itself. -/
def STATE_KEY_BASE : String := "TUNNELBANA_BASE"
def KEY_REQUESTER : String := "requester"
def KEY_TARGET_FRONTEND : String := "target_frontend"
def KEY_NAME_ID_FORMAT : String := "name_id_format"
def KEY_TARGET_ENTITYID : String := "target_entity_id"
def KEY_ERROR_REDIRECT : String := "error_redirect"
def KEY_INTERACTION_REQUIRED : String := "interaction_required"
def KEY_REQUESTED_ACCR : String := "requested_accr"
def KEY_REQUESTED_ACCR_COMPARISON : String := "requested_accr_comparison"
def KEY_TARGET_AUTHN_CONTEXT_CLASS_REF : String := "target_authn_context_class_ref"
def KEY_TARGET_ACCR_COMPARISON : String := "target_accr_comparison"
def KEY_PROVIDER_SCOPES : String := "provider_scopes"
def KEY_PROVIDER_ASSURANCE_CERTIFICATIONS : String := "provider_assurance_certifications"
def KEY_PROVIDER_ENTITY_CATEGORIES : String := "provider_entity_categories"
def KEY_MFA_STEPUP_ACCOUNTS : String := "mfa_stepup_accounts"
def KEY_REQUESTER_ENTITY_CATEGORIES : String := "requester_entity_categories"
def KEY_REQUESTER_ASSURANCE_CERTIFICATIONS : String := "requester_assurance_certifications"
def KEY_STEPUP_INITIAL_POLICY : String := "stepup_initial_policy"

structure Context where
  request : HttpRequestData := {}
  /-- The backend selected for this flow. -/
  targetBackend : Option String := none
  /-- The frontend that originated this flow. -/
  targetFrontend : Option String := none
  state : State := State.new
  decorations : Assoc Json := []

namespace Context

def new (request : HttpRequestData) (state : State) : Context := { request, state }

def path (ctx : Context) : String := ctx.request.path

def decorate (ctx : Context) (key : String) (value : Json) : Context :=
  { ctx with decorations := ctx.decorations.put key value }

def decoration (ctx : Context) (key : String) : Option Json := ctx.decorations.get key

def undecorate (ctx : Context) (key : String) : Context :=
  { ctx with decorations := ctx.decorations.erase key }

def markInteractionRequired (ctx : Context) : Context := ctx.decorate KEY_INTERACTION_REQUIRED (.bool true)

def interactionRequired (ctx : Context) : Bool :=
  ((ctx.decoration KEY_INTERACTION_REQUIRED).bind Json.asBool).getD false

def decorationStrings (ctx : Context) (key : String) : List String :=
  ((ctx.decoration key).map Json.asStrings).getD []

def mapState (ctx : Context) (f : State → State) : Context := { ctx with state := f ctx.state }

def setRequester (ctx : Context) (requester : String) : Context :=
  ctx.mapState fun s => s.setStr STATE_KEY_BASE KEY_REQUESTER requester

def requester (ctx : Context) : Option String := ctx.state.getStr STATE_KEY_BASE KEY_REQUESTER

@[simp] theorem state_decorate (ctx : Context) (k : String) (v : Json) : (ctx.decorate k v).state = ctx.state := rfl
@[simp] theorem state_undecorate (ctx : Context) (k : String) : (ctx.undecorate k).state = ctx.state := rfl
@[simp] theorem state_mark (ctx : Context) : ctx.markInteractionRequired.state = ctx.state := rfl
@[simp] theorem state_mapState (ctx : Context) (f : State → State) : (ctx.mapState f).state = f ctx.state := rfl
@[simp] theorem request_decorate (ctx : Context) (k : String) (v : Json) :
    (ctx.decorate k v).request = ctx.request := rfl
@[simp] theorem request_mapState (ctx : Context) (f : State → State) :
    (ctx.mapState f).request = ctx.request := rfl
@[simp] theorem backend_decorate (ctx : Context) (k : String) (v : Json) :
    (ctx.decorate k v).targetBackend = ctx.targetBackend := rfl
@[simp] theorem backend_undecorate (ctx : Context) (k : String) :
    (ctx.undecorate k).targetBackend = ctx.targetBackend := rfl
@[simp] theorem backend_mapState (ctx : Context) (f : State → State) :
    (ctx.mapState f).targetBackend = ctx.targetBackend := rfl
@[simp] theorem frontend_decorate (ctx : Context) (k : String) (v : Json) :
    (ctx.decorate k v).targetFrontend = ctx.targetFrontend := rfl
@[simp] theorem frontend_mapState (ctx : Context) (f : State → State) :
    (ctx.mapState f).targetFrontend = ctx.targetFrontend := rfl
@[simp] theorem decoration_mapState (ctx : Context) (f : State → State) (k : String) :
    (ctx.mapState f).decoration k = ctx.decoration k := rfl
@[simp] theorem decoration_decorate_self (ctx : Context) (k : String) (v : Json) :
    (ctx.decorate k v).decoration k = some v := Assoc.get_put_self _ _ _

theorem decoration_decorate_other (ctx : Context) {k k' : String} (v : Json) (h : k ≠ k') :
    (ctx.decorate k v).decoration k' = ctx.decoration k' := Assoc.get_put_other _ _ h

end Context

/-- A handler: it reads and changes the context, and may fail. A failure keeps
the changes made before it. -/
abbrev Flow := Action Context Error

namespace Flow

def context : Flow Context := Action.read

def modify (f : Context → Context) : Flow Unit := Action.update f

def fail {α : Type} (e : Error) : Flow α := Action.fail e

def setStr (ns key value : String) : Flow Unit := modify fun ctx => ctx.mapState fun s => s.setStr ns key value

def setValue (ns key : String) (value : Json) : Flow Unit :=
  modify fun ctx => ctx.mapState fun s => s.setValue ns key value

def clearNamespace (ns : String) : Flow Unit := modify fun ctx => ctx.mapState fun s => s.clearNamespace ns

def decorate (key : String) (value : Json) : Flow Unit := modify fun ctx => ctx.decorate key value

def undecorate (key : String) : Flow Unit := modify fun ctx => ctx.undecorate key

def require (p : Prop) [Decidable p] (e : Error) : Flow Unit := if p then pure () else fail e

end Flow

end Tunnelbana
