/-
The `nameid` service (`NameId` in the source): the subject identifier of a
response, from its released attributes and the NameID format the SAML frontend
published in the core's namespace. Without a format it passes the response
through.
-/
import Mathlib.Logic.Basic
import Tunnelbana.Plugins.Deployment

namespace Tunnelbana

open Basis

def NAMEID_EMAIL : String := "urn:oasis:names:tc:SAML:1.1:nameid-format:emailAddress"

structure NameIdService where
  name : String

namespace NameIdService

variable (n : NameIdService)

def hashPart (pairwise : String) : String := String.ofList (pairwise.toList.takeWhile (· ≠ '@'))

def shape (format : Option String) (data : InternalData) : Except Error InternalData :=
  match format with
  | none => .ok data
  | some format =>
    if format = NAMEID_TRANSIENT ∨ format = NAMEID_UNSPECIFIED then .ok { data with subjectType := .transient }
    else if format = NAMEID_PERSISTENT then
      match data.attrFirst "pairwise-id" with
      | some pairwise => .ok { data with subjectId := some (hashPart pairwise), subjectType := .persistent }
      | none => .error (.authn ("nameid " ++ n.name ++ ": no pairwise-id to use as persistent NameID"))
    else if format = NAMEID_EMAIL then
      match data.attrFirst "mail" with
      | some mail => .ok { data with subjectId := some mail, subjectType := .persistent }
      | none => .error (.authn ("nameid " ++ n.name ++ ": no mail to use as emailAddress NameID"))
    else .ok data

def processResponse (data : InternalData) : Flow InternalData := do
  let ctx ← Flow.context
  Action.lift (n.shape (ctx.state.getStr STATE_KEY_BASE KEY_NAME_ID_FORMAT) data)

variable {n}

/-- It acts on the format the core's namespace holds, and writes nothing. -/
theorem processResponse_run (data : InternalData) (ctx : Context) :
    n.processResponse data ctx = (n.shape (ctx.state.getStr STATE_KEY_BASE KEY_NAME_ID_FORMAT) data, ctx) := by
  unfold processResponse
  simp only [Flow.context, Action.read_bind_run]
  cases n.shape (ctx.state.getStr STATE_KEY_BASE KEY_NAME_ID_FORMAT) data with
  | ok next => rfl
  | error e => rfl

@[simp] theorem shape_none (data : InternalData) : n.shape none data = .ok data := rfl

theorem shape_subject {format : Option String} {data next : InternalData} (h : n.shape format data = .ok next) :
    next = { data with subjectId := next.subjectId, subjectType := next.subjectType } := by
  unfold shape at h
  cases format with
  | none =>
    cases h
    rfl
  | some format =>
    simp only at h
    obtain ⟨_, h⟩ | ⟨_, h⟩ := ite_eq_iff.mp h
    · cases h
      rfl
    obtain ⟨_, h⟩ | ⟨_, h⟩ := ite_eq_iff.mp h
    · cases hvalue : data.attrFirst "pairwise-id" with
      | none =>
        rw [hvalue] at h
        cases h
      | some pairwise =>
        rw [hvalue] at h
        cases h
        rfl
    obtain ⟨_, h⟩ | ⟨_, h⟩ := ite_eq_iff.mp h
    · cases hvalue : data.attrFirst "mail" with
      | none =>
        rw [hvalue] at h
        cases h
      | some mail =>
        rw [hvalue] at h
        cases h
        rfl
    · cases h
      rfl

theorem processResponse_keeps {R : Context → Context → Prop} [Action.Frame R] (data : InternalData) :
    Action.Keeps R (n.processResponse data) :=
  Action.keeps_read.bind fun _ => Action.keeps_lift _

variable (n) in
def transform {W : Type} : Transform W where
  name := n.name
  processResponse _ data := n.processResponse data
  requestUntouched _ data := Action.keeps_pure data
  responseUntouched _ data := n.processResponse_keeps data

end NameIdService

end Tunnelbana
