/-
What the SAML frontend keeps of an accepted AuthnRequest, and what it renders
of it. A key is written by each request, but the relay state only by one that
carries it: a request without one leaves that of the request before.
-/
import Tunnelbana.Plugins.Saml2Frontend

namespace Tunnelbana

open Basis

namespace Saml2Frontend

variable {f : Saml2Frontend} {w : SamlWorld} {routeId : String} {ctx ctx' : Context} {a : AcceptedRequest} {s : State}

def storeCommon (f : Saml2Frontend) (a : AcceptedRequest) (s : State) : State :=
  ((((s.setStr f.name "request_id" a.processed.requestId).setStr f.name "sp_entity_id"
    a.processed.spEntityId).setStr f.name "acs_url" a.processed.acsUrl).setStr f.name "name_id_format"
    a.nameIdFormat).setStr STATE_KEY_BASE KEY_NAME_ID_FORMAT a.nameIdFormat

theorem storeRequest_none (h : a.relayState = none) : f.storeRequest a s = f.storeCommon a s := by
  unfold storeRequest
  rw [h]
  rfl

theorem storeRequest_some {rs : String} (h : a.relayState = some rs) :
    f.storeRequest a s = (f.storeCommon a s).setStr f.name "relay_state" rs := by
  unfold storeRequest
  rw [h]
  rfl

theorem storeCommon_objects (hs : s.Objects) : (f.storeCommon a s).Objects :=
  ((((hs.setStr _ _ _).setStr _ _ _).setStr _ _ _).setStr _ _ _).setStr _ _ _

theorem storeRequest_objects (hs : s.Objects) : (f.storeRequest a s).Objects := by
  cases hrs : a.relayState with
  | none =>
    rw [storeRequest_none hrs]
    exact storeCommon_objects hs
  | some rs =>
    rw [storeRequest_some hrs]
    exact (storeCommon_objects hs).setStr _ _ _

theorem storeRequest_format (hs : s.Objects) :
    (f.storeRequest a s).getStr STATE_KEY_BASE KEY_NAME_ID_FORMAT = some a.nameIdFormat := by
  have hcommon : (f.storeCommon a s).getStr STATE_KEY_BASE KEY_NAME_ID_FORMAT = some a.nameIdFormat :=
    State.getStr_setStr_self ((((hs.setStr _ _ _).setStr _ _ _).setStr _ _ _).setStr _ _ _) _ _ _
  cases hrs : a.relayState with
  | none =>
    rw [storeRequest_none hrs]
    exact hcommon
  | some rs =>
    rw [storeRequest_some hrs]
    exact (State.getStr_setStr_other _ _ fun he => absurd he.2 (by decide)).trans hcommon

theorem storeRequest_requester (hs : s.Objects) :
    (f.storeRequest a s).getStr f.name "sp_entity_id" = some a.processed.spEntityId := by
  have hcommon : (f.storeCommon a s).getStr f.name "sp_entity_id" = some a.processed.spEntityId := by
    unfold storeCommon
    rw [State.getStr_setStr_other _ _ (fun he => absurd he.2 (by decide)),
      State.getStr_setStr_other _ _ (fun he => absurd he.2 (by decide)),
      State.getStr_setStr_other _ _ (fun he => absurd he.2 (by decide))]
    exact State.getStr_setStr_self (hs.setStr _ _ _) _ _ _
  cases hrs : a.relayState with
  | none =>
    rw [storeRequest_none hrs]
    exact hcommon
  | some rs =>
    rw [storeRequest_some hrs]
    exact (State.getStr_setStr_other _ _ fun he => absurd he.2 (by decide)).trans hcommon

/-- A key that no request writes always is as it was in all namespaces. -/
theorem storeCommon_other {ns key : String}
    (hkey : key ∉ ["request_id", "sp_entity_id", "acs_url", "name_id_format"]) :
    (f.storeCommon a s).getValue ns key = s.getValue ns key := by
  have hne : ∀ ns' key', key' ∈ ["request_id", "sp_entity_id", "acs_url", "name_id_format"] →
      ¬ (ns' = ns ∧ key' = key) := fun _ _ hmem he => hkey (he.2 ▸ hmem)
  unfold storeCommon State.setStr
  rw [State.getValue_setValue_other _ _ (hne _ _ (by simp [KEY_NAME_ID_FORMAT])),
    State.getValue_setValue_other _ _ (hne _ _ (by simp)), State.getValue_setValue_other _ _ (hne _ _ (by simp)),
    State.getValue_setValue_other _ _ (hne _ _ (by simp)), State.getValue_setValue_other _ _ (hne _ _ (by simp))]

/-- **A request's own relay state is kept, or that of the request before.** -/
theorem storeRequest_relayState (hs : s.Objects) :
    (f.storeRequest a s).getStr f.name "relay_state" = a.relayState.or (s.getStr f.name "relay_state") := by
  cases hrs : a.relayState with
  | none =>
    rw [storeRequest_none hrs, Option.none_or]
    exact State.getStr_congr (storeCommon_other (by decide))
  | some rs =>
    rw [storeRequest_some hrs, Option.some_or]
    exact State.getStr_setStr_self (storeCommon_objects hs) _ _ _

/-- Another namespace gets at most the format. -/
theorem storeRequest_elsewhere {ns key : String} (hns : f.name ≠ ns) (hkey : key ≠ KEY_NAME_ID_FORMAT) :
    (f.storeRequest a s).getValue ns key = s.getValue ns key := by
  have hother : ∀ key', ¬ (f.name = ns ∧ key' = key) := fun _ he => hns he.1
  have hcommon : (f.storeCommon a s).getValue ns key = s.getValue ns key := by
    unfold storeCommon State.setStr
    rw [State.getValue_setValue_other _ _ fun he => hkey he.2.symm, State.getValue_setValue_other _ _ (hother _),
      State.getValue_setValue_other _ _ (hother _), State.getValue_setValue_other _ _ (hother _),
      State.getValue_setValue_other _ _ (hother _)]
  cases hrs : a.relayState with
  | none =>
    rw [storeRequest_none hrs]
    exact hcommon
  | some rs =>
    rw [storeRequest_some hrs]
    exact (State.getValue_setValue_other _ _ (hother _)).trans hcommon

@[simp] theorem publishRequest_state (a : AcceptedRequest) (ctx : Context) : (publishRequest a ctx).state = ctx.state := by
  unfold publishRequest
  cases a.entry with
  | none =>
    simp only
    split
    · rfl
    · cases a.processed.authnContextComparison <;> rfl
  | some entry =>
    simp only
    split
    · rfl
    · cases a.processed.authnContextComparison <;> rfl

/-- **A flow is started by an accepted request, and kept as it is.** -/
theorem handleEndpoint_starts {request : InternalData} {pin : Option String}
    (h : f.handleEndpoint w routeId ctx = (.ok (.startAuth request pin), ctx')) :
    ∃ a, routeId = "sso" ∧ f.readSso w ctx.request = .ok (.accept a) ∧
      request.requester = some a.processed.spEntityId ∧ ctx'.state = f.storeRequest a ctx.state := by
  unfold handleEndpoint at h
  split at h
  next hroute =>
    unfold handleSso at h
    simp only [Flow.context, Action.read_bind_run] at h
    obtain ⟨outcome, hread, h⟩ := Action.lift_bind_ok.mp h
    cases outcome with
    | reject r => cases h
    | accept a =>
      cases h
      exact ⟨a, hroute, hread, rfl, publishRequest_state a _⟩
  next =>
    split at h
    · unfold handleMetadata at h
      obtain ⟨xml, _, h⟩ := Action.lift_bind_ok.mp h
      cases h
    · cases h

/-- **A Response rendered is for the request the namespace holds**, with its
relay state. -/
theorem handleAuthnResponse_renders {response : InternalData} {rendered : Response}
    (h : f.handleAuthnResponse w response ctx = (.ok rendered, ctx')) :
    ∃ post, rendered.body = .samlPost post ∧ f.renderResponse w ctx.state response = .ok post ∧
      ctx.state.getStr f.name "request_id" ≠ none ∧ post.relayState = ctx.state.getStr f.name "relay_state" := by
  unfold handleAuthnResponse at h
  simp only [Flow.context, Action.read_bind_run] at h
  obtain ⟨post, hpost, h⟩ := Action.lift_bind_ok.mp h
  obtain ⟨_, _, h⟩ := Action.lift_bind_ok.mp h
  obtain ⟨_, _, h⟩ := Action.lift_bind_ok.mp h
  obtain ⟨_, _, _, hret⟩ := Action.bind_ok.mp h
  cases hret
  refine ⟨post, rfl, hpost, ?_⟩
  unfold renderResponse at hpost
  split at hpost
  next => cases hpost
  next => cases hpost
  next => cases hpost
  next id sp acs hid _ _ =>
    obtain ⟨nameId, _, hret⟩ := except_bind_ok.mp hpost
    cases hret
    refine ⟨?_, rfl⟩
    rw [hid]
    simp

end Saml2Frontend

end Tunnelbana
