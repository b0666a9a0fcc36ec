/-
What a discovery return resumes. A run calls one `disco_to_target_issuer`
instance along a cookie chain, each call in a request of its own; the ledger
numbers the snapshots stored, and keeps the last one until it is resumed.

A snapshot reads back as the request it was taken of, and resuming takes it
out of the state: so what is resumed is always the pending one, once
(`resumes_pending`).
-/
import Tunnelbana.Basis.Run
import Tunnelbana.Plugins.DiscoToTargetIssuer

namespace Tunnelbana

open Basis

namespace DiscoToTargetIssuer

/-- Non-empty, at most 1024 characters, no ASCII control character. -/
def WellFormedIssuer (issuer : String) : Prop :=
  issuer ≠ "" ∧ issuer.length ≤ MAX_ENTITY_ID_LEN ∧ ∀ c ∈ issuer.toList, 32 ≤ c.toNat ∧ c.toNat ≠ 127

theorem wellFormed_of_valid {issuer : String} (h : isValidEntityId issuer = true) : WellFormedIssuer issuer := by
  unfold isValidEntityId at h
  simp only [Bool.and_eq_true, decide_eq_true_eq, Bool.not_eq_true', List.any_eq_false, Bool.or_eq_true,
    not_or] at h
  obtain ⟨⟨hne, hlen⟩, hchars⟩ := h
  refine ⟨hne, hlen, fun c hc => ?_⟩
  obtain ⟨hlow, hdel⟩ := hchars c hc
  exact ⟨Nat.le_of_not_lt hlow, hdel⟩

variable (d : DiscoToTargetIssuer)

/-- The issuer is in the set of the requester's level. -/
def Permitted (request : InternalData) (issuer : String) : Prop :=
  ∀ allowed, d.allowedIssuers = some allowed →
    ∃ requester issuers, request.requester = some requester ∧ level allowed requester = some issuers ∧
      issuer ∈ issuers

theorem permitted_of_allows {request : InternalData} {issuer : String} (h : d.allows request issuer = true) :
    d.Permitted request issuer := by
  intro allowed hallowed
  unfold allows at h
  rw [hallowed] at h
  cases hlevel : request.requester.bind (level allowed) with
  | none =>
    simp only [hlevel, Option.getD_none] at h
    cases h
  | some issuers =>
    simp only [hlevel, Option.getD_some] at h
    obtain ⟨requester, hrequester, hissuers⟩ := Option.bind_eq_some_iff.mp hlevel
    exact ⟨requester, issuers, hrequester, hissuers, List.contains_iff_mem.mp h⟩

/-! ## Runs -/

inductive Call where
  | request (data : InternalData)
  | endpoint (routeId : String)

/-- A call with the context it is made in. -/
structure Visit where
  context : Context
  call : Call

/-- A suspended flow, with the number of its snapshot. -/
structure Suspension where
  number : Nat
  targetFrontend : Option String
  request : InternalData

/-- The state, how many snapshots were stored, the last of them unless it was
resumed, and the numbers of those that were. -/
structure Ledger where
  state : State
  stored : Nat := 0
  pending : Option Suspension := none
  resumed : List Nat := []

def step (l : Ledger) (v : Visit) : Ledger :=
  match v.call with
  | .request data =>
    let result := d.processRequest data v.context
    match result.1 with
    | .ok _ =>
      { l with
        state := result.2.state
        stored := l.stored + 1
        pending := some ⟨l.stored, v.context.targetFrontend, data⟩ }
    | .error _ => { l with state := result.2.state }
  | .endpoint routeId =>
    let result := d.handleEndpoint routeId v.context
    match result.1 with
    | .ok (.resumeRequest _) =>
      { l with
        state := result.2.state
        pending := none
        resumed := l.resumed ++ (l.pending.map Suspension.number).toList }
    | _ => { l with state := result.2.state }

/-- A request opens what the previous one left of this service's namespace, or
nothing: the cookie expired, was cleared or could not be sealed. -/
def Carries (l : Ledger) (v : Visit) : Prop :=
  v.context.state.Objects ∧
    ((∀ key, v.context.state.getValue d.stateNamespace key = l.state.getValue d.stateNamespace key) ∨
      ∀ key, v.context.state.getValue d.stateNamespace key = none)

/-- What is resumed is the pending suspension, not resumed before, with a
well-formed and permitted issuer from the return. -/
def ResumesPending (l : Ledger) (v : Visit) : Prop :=
  ∀ routeId request ctx', v.call = .endpoint routeId →
    d.handleEndpoint routeId v.context = (.ok (.resumeRequest request), ctx') →
    ∃ suspension issuer, l.pending = some suspension ∧ request = suspension.request ∧
      ctx'.targetFrontend = suspension.targetFrontend ∧ suspension.number ∉ l.resumed ∧
      ctx'.decoration KEY_TARGET_ENTITYID = some (.str issuer) ∧
      v.context.request.query.get "entityID" = some issuer ∧
      WellFormedIssuer issuer ∧ d.Permitted request issuer

/-- A failing call changes nothing, unless it drops a corrupt snapshot. -/
def FailsCleanly (v : Visit) : Prop :=
  (∀ data e ctx', v.call = .request data → d.processRequest data v.context = (.error e, ctx') → ctx' = v.context) ∧
  ∀ routeId e ctx', v.call = .endpoint routeId → d.handleEndpoint routeId v.context = (.error e, ctx') →
    ctx' = v.context ∨
    (ctx' = v.context.mapState fun s => s.clearNamespace d.stateNamespace) ∧
      ∃ snapshot, v.context.state.getValue d.stateNamespace KEY_SNAPSHOT = some snapshot ∧
        snapshotRequest snapshot = none

/-- A stored snapshot is the pending one. -/
structure Tracked (l : Ledger) : Prop where
  snapshot : ∀ v, l.state.getValue d.stateNamespace KEY_SNAPSHOT = some v → ∃ suspension,
    l.pending = some suspension ∧ v = DiscoToTargetIssuer.snapshot suspension.targetFrontend suspension.request
  number : ∀ suspension, l.pending = some suspension →
    suspension.number < l.stored ∧ suspension.number ∉ l.resumed
  resumed : ∀ n ∈ l.resumed, n < l.stored

variable {d} {l : Ledger} {v : Visit}

theorem Tracked.opened (h : d.Tracked l) (hc : d.Carries l v) {snapshot : Json}
    (hsnapshot : v.context.state.getValue d.stateNamespace KEY_SNAPSHOT = some snapshot) :
    ∃ suspension, l.pending = some suspension ∧
      snapshot = DiscoToTargetIssuer.snapshot suspension.targetFrontend suspension.request := by
  rcases hc.2 with hsame | hnone
  · exact h.snapshot snapshot ((hsame KEY_SNAPSHOT).symm.trans hsnapshot)
  · cases (hnone KEY_SNAPSHOT).symm.trans hsnapshot

/-- Storing a snapshot makes it the pending one. -/
theorem Tracked.suspends (h : d.Tracked l) {s : State} (hs : s.Objects) (targetFrontend : Option String)
    (data : InternalData) :
    d.Tracked { l with
      state := s.setValue d.stateNamespace KEY_SNAPSHOT (DiscoToTargetIssuer.snapshot targetFrontend data)
      stored := l.stored + 1
      pending := some ⟨l.stored, targetFrontend, data⟩ } := by
  refine ⟨fun v hv => ?_, fun suspension hsuspension => ?_, fun n hn => ?_⟩
  · rw [State.getValue_setValue_self hs] at hv
    exact ⟨⟨l.stored, targetFrontend, data⟩, rfl, (Option.some.inj hv).symm⟩
  · cases hsuspension
    exact ⟨Nat.lt_succ_self _, fun hmem => Nat.lt_irrefl _ (h.resumed _ hmem)⟩
  · exact Nat.lt_succ_of_lt (h.resumed n hn)

theorem Tracked.drops (h : d.Tracked l) {s : State} (hnone : s.getValue d.stateNamespace KEY_SNAPSHOT = none) :
    d.Tracked { l with state := s } := by
  refine ⟨fun v hv => ?_, h.number, h.resumed⟩
  cases hnone.symm.trans hv

theorem Tracked.keeps (h : d.Tracked l) (hc : d.Carries l v) : d.Tracked { l with state := v.context.state } :=
  ⟨fun _ hv => h.opened hc hv, h.number, h.resumed⟩

theorem snapshot_cleared (ctx : Context) :
    (ctx.state.clearNamespace d.stateNamespace).getValue d.stateNamespace KEY_SNAPSHOT = none := by
  rw [State.getValue_clearNamespace, if_pos rfl]

/-- Resuming takes the pending suspension off. -/
theorem Tracked.resumes (h : d.Tracked l) {s : State} (hnone : s.getValue d.stateNamespace KEY_SNAPSHOT = none) :
    d.Tracked { l with
      state := s
      pending := none
      resumed := l.resumed ++ (l.pending.map Suspension.number).toList } := by
  refine ⟨fun v hv => ?_, fun suspension hsuspension => (by cases hsuspension), fun n hn => ?_⟩
  · cases hnone.symm.trans hv
  · rcases List.mem_append.mp hn with hold | hnew
    · exact h.resumed n hold
    · cases hpending : l.pending with
      | none =>
        rw [hpending] at hnew
        cases hnew
      | some suspension =>
        rw [hpending] at hnew
        rw [List.mem_singleton.mp hnew]
        exact (h.number suspension hpending).1

/-- **Every call keeps the snapshot tracked.** -/
theorem Tracked.step (h : d.Tracked l) (hc : d.Carries l v) : d.Tracked (d.step l v) := by
  cases hcall : v.call with
  | request data =>
    rcases d.processRequest_cases data v.context with hrun | ⟨e, hrun⟩
    · simp only [DiscoToTargetIssuer.step, hcall, hrun]
      exact h.suspends hc.1 v.context.targetFrontend data
    · simp only [DiscoToTargetIssuer.step, hcall, hrun]
      exact h.keeps hc
  | endpoint routeId =>
    rcases d.handleEndpoint_run routeId v.context with ⟨issuer, snapshot, request, _, _, _, _, _, hrun⟩ |
      ⟨e, hrun⟩ | ⟨e, _, _, _, hrun⟩
    · simp only [DiscoToTargetIssuer.step, hcall, hrun]
      exact h.resumes (snapshot_cleared v.context)
    · simp only [DiscoToTargetIssuer.step, hcall, hrun]
      exact h.keeps hc
    · simp only [DiscoToTargetIssuer.step, hcall, hrun]
      exact h.drops (snapshot_cleared v.context)

theorem step_objects (d : DiscoToTargetIssuer) {l : Ledger} {v : Visit} (hs : v.context.state.Objects) :
    (d.step l v).state.Objects := by
  cases hcall : v.call with
  | request data =>
    rcases d.processRequest_cases data v.context with hrun | ⟨e, hrun⟩
    · simp only [DiscoToTargetIssuer.step, hcall, hrun]
      exact hs.setValue _ _ _
    · simp only [DiscoToTargetIssuer.step, hcall, hrun]
      exact hs
  | endpoint routeId =>
    rcases d.handleEndpoint_run routeId v.context with ⟨issuer, snapshot, request, _, _, _, _, _, hrun⟩ |
      ⟨e, hrun⟩ | ⟨e, _, _, _, hrun⟩
    · simp only [DiscoToTargetIssuer.step, hcall, hrun]
      exact hs.clearNamespace _
    · simp only [DiscoToTargetIssuer.step, hcall, hrun]
      exact hs
    · simp only [DiscoToTargetIssuer.step, hcall, hrun]
      exact hs.clearNamespace _

/-- **A return resumes what is pending.** -/
theorem Tracked.resumesPending (h : d.Tracked l) (hc : d.Carries l v) : d.ResumesPending l v := by
  intro routeId request ctx' hcall hresume
  rcases d.handleEndpoint_run routeId v.context with
    ⟨issuer, snapshot, request', hquery, hvalid, hsnapshot, hrequest, hallows, hrun⟩ | ⟨e, hrun⟩ | ⟨e, _, _, _, hrun⟩
  · rw [hrun] at hresume
    cases hresume
    obtain ⟨suspension, hpending, hsame⟩ := h.opened hc hsnapshot
    subst hsame
    rw [snapshotRequest_snapshot] at hrequest
    refine ⟨suspension, issuer, hpending, (Option.some.inj hrequest).symm, frontend_snapshot suspension.targetFrontend suspension.request,
      (h.number suspension hpending).2, Context.decoration_decorate_self _ _ _, hquery, wellFormed_of_valid hvalid,
      d.permitted_of_allows hallows⟩
  · rw [hrun] at hresume
    cases hresume
  · rw [hrun] at hresume
    cases hresume

theorem failsCleanly (d : DiscoToTargetIssuer) (v : Visit) : d.FailsCleanly v := by
  refine ⟨fun data e ctx' _ hfail => ?_, fun routeId e ctx' _ hfail => ?_⟩
  · rcases d.processRequest_cases data v.context with hrun | ⟨e', hrun⟩
    · rw [hrun] at hfail
      cases hfail
    · rw [hrun] at hfail
      cases hfail
      rfl
  · rcases d.handleEndpoint_run routeId v.context with ⟨_, _, _, _, _, _, _, _, hrun⟩ | ⟨e', hrun⟩ |
      ⟨e', snapshot, hsnapshot, hcorrupt, hrun⟩
    · rw [hrun] at hfail
      cases hfail
    · rw [hrun] at hfail
      cases hfail
      exact .inl rfl
    · rw [hrun] at hfail
      cases hfail
      exact .inr ⟨rfl, snapshot, hsnapshot, hcorrupt⟩

/-- **On every run along a cookie chain a return resumes the last suspended
request, with its frontend and a permitted issuer, and no suspension twice**;
and a failing call changes nothing but a corrupt snapshot. -/
theorem resumes_pending (d : DiscoToTargetIssuer) (s : State)
    (hnew : s.getValue d.stateNamespace KEY_SNAPSHOT = none) (vs : List Visit)
    (hc : Along d.step d.Carries { state := s } vs) :
    Along d.step (fun l v => d.ResumesPending l v ∧ d.FailsCleanly v) { state := s } vs := by
  have hstart : d.Tracked { state := s } := by
    refine ⟨fun v hv => ?_, fun suspension h => (by cases h), fun n hn => (by cases hn)⟩
    cases hnew.symm.trans hv
  exact Along.of_invariant (fun _ _ h hcarries => h.step hcarries)
    (fun _ v h hcarries => ⟨h.resumesPending hcarries, failsCleanly d v⟩) hstart hc

def permitting : DiscoToTargetIssuer where
  name := "disco"
  discoEndpoints := ["Saml2/disco"]
  allowedIssuers := some (SortedMap.ofList [("", ["https://idp.example"])])

def suspending : Visit where
  context := { targetFrontend := some "OIDC" }
  call := .request (InternalData.request "https://sp.example")

/-- A return in the cookie the suspended request left. -/
def returning : Visit where
  context := {
    request := { query := [("entityID", "https://idp.example")] }
    state := (permitting.step { state := State.new } suspending).state }
  call := .endpoint "Saml2/disco"

theorem resumes_pending_demo :
    Along permitting.step (fun l v => permitting.ResumesPending l v ∧ permitting.FailsCleanly v)
      { state := State.new } [suspending, returning] := by
  have hfirst : permitting.Carries { state := State.new } suspending :=
    ⟨State.objects_new, .inl fun _ => rfl⟩
  have hsecond : permitting.Carries (permitting.step { state := State.new } suspending) returning := by
    have hs : (permitting.step { state := State.new } suspending).state.Objects :=
      permitting.step_objects State.objects_new
    have hsame : returning.context.state = (permitting.step { state := State.new } suspending).state := by
      simp only [returning]
    unfold Carries
    rw [hsame]
    exact ⟨hs, .inl fun _ => rfl⟩
  exact resumes_pending permitting State.new rfl _ (along_cons.mpr ⟨hfirst, along_cons.mpr ⟨hsecond, along_nil _⟩⟩)

end DiscoToTargetIssuer

end Tunnelbana
