/-
`disco_to_target_issuer`: suspend a flow for external IdP discovery and
resume it with the chosen issuer. The snapshot holds the originating frontend
and the request, is consumed once, and gives back the request it was taken of.
-/
import Tunnelbana.Basis.JsonText
import Tunnelbana.Core.Plugin

namespace Tunnelbana

open Basis

def KEY_SNAPSHOT : String := "snapshot"
def MAX_ENTITY_ID_LEN : Nat := 1024

/-- Half the cookie budget: a snapshot beyond it would be lost at seal time. -/
def MAX_DISCO_SNAPSHOT_BYTES : Nat := 2048

/-- Non-empty, within the cap in characters, without ASCII control characters. -/
def isValidEntityId (v : String) : Bool :=
  v ≠ "" && v.length ≤ MAX_ENTITY_ID_LEN && !v.toList.any fun c => c.toNat < 32 || c.toNat = 127

/-- The exact key, else `""`, else `"default"`. -/
def level {α : Type} (map : SortedMap α) (key : String) : Option α :=
  (map.get key).or ((map.get "").or (map.get "default"))

structure DiscoToTargetIssuer where
  name : String
  discoEndpoints : List String
  /-- The issuers a return may select, by requester; none allows any. -/
  allowedIssuers : Option (SortedMap (List String)) := none

namespace DiscoToTargetIssuer

variable (d : DiscoToTargetIssuer)

def stateNamespace : String := "disco_to_target_issuer:" ++ d.name

def snapshot (targetFrontend : Option String) (data : InternalData) : Json :=
  .obj [("target_frontend", Json.optStr targetFrontend), ("internal_data", data.toJson)]

def processRequest (data : InternalData) : Flow InternalData := do
  let ctx ← Flow.context
  let snapshot := snapshot ctx.targetFrontend data
  let size := snapshot.encodedLength
  Flow.require (size ≤ MAX_DISCO_SNAPSHOT_BYTES) (.authn ("discovery snapshot of " ++ toString size
    ++ " bytes exceeds the " ++ toString MAX_DISCO_SNAPSHOT_BYTES ++ "-byte state-cookie budget"))
  Flow.setValue d.stateNamespace KEY_SNAPSHOT snapshot
  return data

def snapshotRequest (snapshot : Json) : Option InternalData :=
  (snapshot.field "internal_data").bind InternalData.fromJson

/-- The requester of the resumed flow may be sent to the issuer. -/
def allows (request : InternalData) (issuer : String) : Bool :=
  match d.allowedIssuers with
  | none => true
  | some allowed => ((request.requester.bind (level allowed)).getD []).contains issuer

/-- The request to resume; a corrupt snapshot is dropped. -/
def readSnapshot (snapshot : Json) : Flow InternalData :=
  match snapshotRequest snapshot with
  | some request => pure request
  | none => do
    Flow.clearNamespace d.stateNamespace
    Flow.fail (.state "invalid discovery snapshot")

def handleEndpoint (_routeId : String) : Flow MicroServiceAction := do
  let ctx ← Flow.context
  let issuer ← Action.orFail ((ctx.request.query.get "entityID").filter isValidEntityId)
    (.authn "no valid entityID in the discovery response")
  let snapshot ← Action.orFail (ctx.state.getValue d.stateNamespace KEY_SNAPSHOT)
    (.authn "no discovery flow in progress")
  let request ← d.readSnapshot snapshot
  Flow.require (d.allows request issuer = true)
    (.authn "discovery response issuer is not in allowed_issuers for this requester")
  Flow.clearNamespace d.stateNamespace
  Flow.modify fun ctx => { ctx with targetFrontend := (snapshot.field "target_frontend").bind Json.asStr }
  Flow.decorate KEY_TARGET_ENTITYID (.str issuer)
  return .resumeRequest request

def registerEndpoints : List Route := d.discoEndpoints.map fun p => Route.exact p p

def microService {W : Type} : MicroService W where
  name := d.name
  processRequest _ data := d.processRequest data
  registerEndpoints := d.registerEndpoints
  handleEndpoint _ routeId := d.handleEndpoint routeId

/-! ## What suspending and resuming do -/

/-- **The snapshot of a request is read as that request.** -/
@[simp] theorem snapshotRequest_snapshot (targetFrontend : Option String) (data : InternalData) :
    snapshotRequest (snapshot targetFrontend data) = some data := by
  simp only [snapshotRequest, snapshot, Json.field_obj]
  exact InternalData.fromJson_toJson data

@[simp] theorem frontend_snapshot (targetFrontend : Option String) (data : InternalData) :
    ((snapshot targetFrontend data).field "target_frontend").bind Json.asStr = targetFrontend := by
  simp only [snapshot, Json.field_obj]
  exact Json.asStr_optStr targetFrontend

theorem processRequest_fits {data : InternalData} {ctx : Context}
    (hsize : (snapshot ctx.targetFrontend data).encodedLength ≤ MAX_DISCO_SNAPSHOT_BYTES) :
    d.processRequest data ctx = (.ok data, ctx.mapState fun s =>
      s.setValue d.stateNamespace KEY_SNAPSHOT (snapshot ctx.targetFrontend data)) := by
  unfold processRequest
  simp only [Flow.context, Action.read_bind_run, Flow.require]
  rw [if_pos hsize]
  rfl

/-- A request passes through; only an oversized one is refused, before anything
is kept of it. -/
theorem processRequest_cases (data : InternalData) (ctx : Context) :
    d.processRequest data ctx = (.ok data, ctx.mapState fun s =>
        s.setValue d.stateNamespace KEY_SNAPSHOT (snapshot ctx.targetFrontend data)) ∨
      ∃ e, d.processRequest data ctx = (.error e, ctx) := by
  by_cases hsize : (snapshot ctx.targetFrontend data).encodedLength ≤ MAX_DISCO_SNAPSHOT_BYTES
  · exact .inl (d.processRequest_fits hsize)
  · unfold processRequest
    simp only [Flow.context, Action.read_bind_run, Flow.require]
    rw [if_neg hsize]
    exact .inr ⟨_, rfl⟩

def resumed (issuer : String) (snapshot : Json) (ctx : Context) : Context :=
  ({ ctx.mapState fun s => s.clearNamespace d.stateNamespace with
    targetFrontend := (snapshot.field "target_frontend").bind Json.asStr } : Context).decorate KEY_TARGET_ENTITYID
    (.str issuer)

/-- **A return resumes the suspended request with a valid, permitted issuer and
consumes its snapshot, or fails**; a failing one changes nothing, or drops a
corrupt snapshot. -/
theorem handleEndpoint_run (routeId : String) (ctx : Context) :
    (∃ issuer snapshot request, ctx.request.query.get "entityID" = some issuer ∧ isValidEntityId issuer = true ∧
      ctx.state.getValue d.stateNamespace KEY_SNAPSHOT = some snapshot ∧ snapshotRequest snapshot = some request ∧
      d.allows request issuer = true ∧
      d.handleEndpoint routeId ctx = (.ok (.resumeRequest request), d.resumed issuer snapshot ctx)) ∨
    (∃ e, d.handleEndpoint routeId ctx = (.error e, ctx)) ∨
    (∃ e snapshot, ctx.state.getValue d.stateNamespace KEY_SNAPSHOT = some snapshot ∧
      snapshotRequest snapshot = none ∧
      d.handleEndpoint routeId ctx = (.error e, ctx.mapState fun s => s.clearNamespace d.stateNamespace)) := by
  unfold handleEndpoint
  simp only [Flow.context, Action.read_bind_run]
  cases hissuer : (ctx.request.query.get "entityID").filter isValidEntityId with
  | none => exact .inr (.inl ⟨_, rfl⟩)
  | some issuer =>
    simp only [Action.orFail_some, Action.pure_bind_run]
    cases hsnapshot : ctx.state.getValue d.stateNamespace KEY_SNAPSHOT with
    | none => exact .inr (.inl ⟨_, rfl⟩)
    | some snapshot =>
      simp only [Action.orFail_some, Action.pure_bind_run, readSnapshot]
      cases hrequest : snapshotRequest snapshot with
      | none => exact .inr (.inr ⟨_, snapshot, rfl, hrequest, rfl⟩)
      | some request =>
        simp only [Action.pure_bind_run, Flow.require]
        by_cases hallows : d.allows request issuer = true
        · rw [if_pos hallows]
          obtain ⟨hquery, hvalid⟩ := Option.filter_eq_some_iff.mp hissuer
          exact .inl ⟨issuer, snapshot, request, hquery, hvalid, rfl, hrequest, hallows, rfl⟩
        · rw [if_neg hallows]
          exact .inr (.inl ⟨_, rfl⟩)

theorem handleEndpoint_cases (routeId : String) (ctx : Context) :
    (∃ snapshot request ctx', ctx.state.getValue d.stateNamespace KEY_SNAPSHOT = some snapshot ∧
      snapshotRequest snapshot = some request ∧
      d.handleEndpoint routeId ctx = (.ok (.resumeRequest request), ctx') ∧
      ctx'.state = ctx.state.clearNamespace d.stateNamespace ∧
      ctx'.targetFrontend = (snapshot.field "target_frontend").bind Json.asStr ∧
      ctx'.targetBackend = ctx.targetBackend) ∨
    (∃ e ctx', d.handleEndpoint routeId ctx = (.error e, ctx') ∧ ctx'.targetFrontend = ctx.targetFrontend ∧
      (ctx'.state = ctx.state ∨ ctx'.state = ctx.state.clearNamespace d.stateNamespace)) := by
  rcases d.handleEndpoint_run routeId ctx with ⟨issuer, snapshot, request, _, _, hsnapshot, hrequest, _, hrun⟩ |
    ⟨e, hrun⟩ | ⟨e, _, _, _, hrun⟩
  · exact .inl ⟨snapshot, request, _, hsnapshot, hrequest, hrun, rfl, rfl, rfl⟩
  · exact .inr ⟨e, _, hrun, rfl, .inl rfl⟩
  · exact .inr ⟨e, _, hrun, rfl, .inr rfl⟩

end DiscoToTargetIssuer

end Tunnelbana
