/-
The RequestedAuthnContext of a flow that goes through the SAML2 backend's own
discovery. A start_auth moves the selection of its decorations into the
namespace, and building an AuthnRequest uses it up: the first discovery return
sends what a direct start_auth to the same IdP would have sent, and a later
one sends it only when the flow selected nothing (`returns_send_selection`).
-/
import Tunnelbana.Plugins.SamlCorrelation

namespace Tunnelbana

open Basis

/-- The value written, unless the namespace is not an object. -/
theorem State.getValue_setValue_cases (s : State) (ns key : String) (v : Json) :
    (s.setValue ns key v).getValue ns key = some v ∨ (s.setValue ns key v).getValue ns key = none := by
  simp only [State.getValue, State.setValue, Assoc.get_put_self, Option.bind_some]
  cases (s.data.get ns).getD (.obj []) with
  | obj fs => exact .inl (by simp [State.insertField])
  | _ => exact .inr rfl

namespace Saml2Backend

/-! ## The stored selection -/

def storedSelectionKeys : List String :=
  [STATE_INITIAL_STEPUP_POLICY, STATE_TARGET_ACCR, STATE_TARGET_ACCR_COMPARISON]

def SelectionUsed (ns : String) (s : State) : Prop :=
  ∀ key ∈ storedSelectionKeys, s.getValue ns key = none ∨ s.getValue ns key = some .null

def SelectionKept (ns : String) (s t : State) : Prop :=
  (∀ key ∈ storedSelectionKeys, t.getValue ns key = s.getValue ns key) ∨ SelectionUsed ns t

def KeepsSelection (ns : String) (ctx ctx' : Context) : Prop := SelectionKept ns ctx.state ctx'.state

variable {ns : String}

theorem SelectionKept.refl (s : State) : SelectionKept ns s s := .inl fun _ _ => rfl

theorem SelectionKept.trans {s t u : State} (h₁ : SelectionKept ns s t) (h₂ : SelectionKept ns t u) :
    SelectionKept ns s u := by
  rcases h₂ with h₂ | hused
  · rcases h₁ with h₁ | hused
    · exact .inl fun key hkey => (h₂ key hkey).trans (h₁ key hkey)
    · exact .inr fun key hkey => by rw [h₂ key hkey]; exact hused key hkey
  · exact .inr hused

instance : Action.Frame (KeepsSelection ns) where
  refl ctx := SelectionKept.refl ctx.state
  trans h₁ h₂ := SelectionKept.trans h₁ h₂

theorem SelectionKept.of_writes {keys : List String} {s t : State} (h : s.Writes ns keys t)
    (hkeys : ∀ key ∈ storedSelectionKeys, key ∉ keys) : SelectionKept ns s t :=
  .inl fun key hkey => h.getValue (hkeys key hkey)

theorem SelectionUsed.readTargetAccr {ctx : Context} (h : SelectionUsed ns ctx.state)
    (hdecorations : ctx.decorations = []) : readTargetAccr ctx ns = ([], none) := by
  unfold Tunnelbana.readTargetAccr Context.decoration
  rw [hdecorations]
  rcases h STATE_TARGET_ACCR (by simp [storedSelectionKeys]) with haccr | haccr <;>
    rcases h STATE_TARGET_ACCR_COMPARISON (by simp [storedSelectionKeys]) with hcomparison | hcomparison <;>
    rw [haccr, hcomparison] <;> rfl

theorem SelectionUsed.handoffValue {b : Saml2Backend} {ctx : Context} (h : SelectionUsed b.stateNamespace ctx.state)
    (hdecorations : ctx.decorations = []) : b.handoffValue ctx = none := by
  unfold Saml2Backend.handoffValue Context.decoration
  rw [hdecorations]
  rcases h STATE_INITIAL_STEPUP_POLICY (by simp [storedSelectionKeys]) with hhandoff | hhandoff <;>
    rw [hhandoff] <;> rfl

theorem selectionUsed_cleared (s : State) : SelectionUsed ns (s.clearNamespace ns) := by
  intro key _
  rw [State.getValue_clearNamespace, if_pos rfl]
  exact .inl rfl

variable (b : Saml2Backend) (w : SamlWorld) {ctx ctx' : Context}

theorem selectionUsed_consumed (ctx : Context) : SelectionUsed b.stateNamespace (b.consumeSelection ctx).state := by
  intro key hkey
  unfold consumeSelection
  simp only [Context.state_mapState]
  simp only [storedSelectionKeys, List.mem_cons, List.not_mem_nil, or_false] at hkey
  rcases hkey with rfl | rfl | rfl
  · rw [State.getValue_setValue_other _ _ (by simp [STATE_TARGET_ACCR_COMPARISON, STATE_INITIAL_STEPUP_POLICY]),
      State.getValue_setValue_other _ _ (by simp [STATE_TARGET_ACCR, STATE_INITIAL_STEPUP_POLICY])]
    exact (State.getValue_setValue_cases _ _ _ _).symm
  · rw [State.getValue_setValue_other _ _ (by simp [STATE_TARGET_ACCR_COMPARISON, STATE_TARGET_ACCR])]
    exact (State.getValue_setValue_cases _ _ _ _).symm
  · exact (State.getValue_setValue_cases _ _ _ _).symm

/-! ## Building -/

theorem keeps_setStr {key : String} (value : String) (hkey : key ∉ storedSelectionKeys) :
    Action.Keeps (KeepsSelection ns) (Flow.setStr ns key value) := by
  refine Action.keeps_update fun ctx => ?_
  have hwrites : ctx.state.Writes ns [key] (ctx.state.setStr ns key value) := State.Writes.setStr _ _ (by simp)
  refine SelectionKept.of_writes hwrites fun key' hmem heq => ?_
  rw [List.mem_singleton] at heq
  exact hkey (heq ▸ hmem)

/-- Building a request keeps the selection or uses it up, failing or not. -/
theorem buildAuthnRequest_keepsSelection (target : Option String) :
    Action.Keeps (KeepsSelection b.stateNamespace) (b.buildAuthnRequest w target) := by
  unfold buildAuthnRequest
  refine (Action.keeps_lift _).bind fun found => ?_
  refine Action.Keeps.bind (Action.keeps_update fun ctx => ?_) fun _ => ?_
  · refine SelectionKept.of_writes (b.keepIdp_writes _ ctx.state) ?_
    simp [storedSelectionKeys, STATE_INITIAL_STEPUP_POLICY, STATE_TARGET_ACCR, STATE_TARGET_ACCR_COMPARISON]
  refine Action.keeps_read.bind fun ctx => ?_
  refine Action.Keeps.bind (Action.keeps_update fun ctx => ?_) fun _ => ?_
  · exact SelectionKept.refl ctx.state
  refine (Action.keeps_lift _).bind fun selected => ?_
  refine Action.Keeps.bind (Action.keeps_update fun ctx => ?_) fun _ => ?_
  · exact .inr (b.selectionUsed_consumed ctx)
  refine Action.keeps_read.bind fun ctx => ?_
  refine (Action.keeps_lift _).bind fun id => ?_
  refine (Action.keeps_lift _).bind fun subject => ?_
  refine (keeps_setStr id ?_).bind fun _ => Action.keeps_pure _
  simp [storedSelectionKeys, STATE_INITIAL_STEPUP_POLICY, STATE_TARGET_ACCR, STATE_TARGET_ACCR_COMPARISON]

/-- So does an endpoint: the ACS uses up the whole namespace. -/
theorem handleEndpoint_keepsSelection (routeId : String) (hs : ctx.state.Objects) :
    SelectionKept b.stateNamespace ctx.state (b.handleEndpoint w routeId ctx).2.state := by
  have hbuild := b.buildAuthnRequest_keepsSelection w
  unfold handleEndpoint
  split
  · rcases b.handleAcs_cases w ctx with ⟨e, ctx', hrun, hstate⟩ | ⟨data, ctx', hrun, hstate⟩
    · rw [hrun, hstate]
      exact SelectionKept.refl _
    · rw [hrun, hstate]
      exact .inr (selectionUsed_cleared _)
  · split
    · rcases b.handleDisco_cases w hs with ⟨target, built, ctx', _, hbuilds, hrun | ⟨e, hrun⟩⟩ |
        ⟨target, e, ctx', _, hfails, hrun⟩ | ⟨_, e, hrun⟩
      · rw [hrun]
        exact (hbuild _).apply hbuilds.run
      · rw [hrun]
        exact (hbuild _).apply hbuilds.run
      · rw [hrun]
        exact (hbuild _).apply hfails.run
      · rw [hrun]
        exact SelectionKept.refl _
    · split
      · rcases handleMetadata_cases w ctx with ⟨r, hrun, _⟩ | ⟨e, hrun⟩
        · rw [hrun]
          exact SelectionKept.refl _
        · rw [hrun]
          exact SelectionKept.refl _
      · exact SelectionKept.refl _

theorem readTargetAccr_congr {keys : List String} (hdecorations : ctx'.decorations = ctx.decorations)
    (hwrites : ctx.state.Writes ns keys ctx'.state) (haccr : STATE_TARGET_ACCR ∉ keys)
    (hcomparison : STATE_TARGET_ACCR_COMPARISON ∉ keys) : readTargetAccr ctx' ns = readTargetAccr ctx ns := by
  unfold readTargetAccr Context.decoration
  rw [hdecorations, hwrites.getValue haccr, hwrites.getValue hcomparison]

/-- **A built request carries the selection the context holds**, with the
override for the IdP it is issued to. -/
theorem buildAuthnRequest_selection {target : Option String} {built : BuiltRequest}
    (h : b.buildAuthnRequest w target ctx = (.ok built, ctx')) :
    ∃ policyValues, b.lookupIdp w target = .ok (built.ssoUrl, built.idp, policyValues) ∧
      overrideAccr (b.handoffValue ctx) built.idp policyValues (readTargetAccr ctx b.stateNamespace) =
        .ok (built.request.authnContextClassRefs, built.request.authnContextComparison) := by
  unfold buildAuthnRequest at h
  obtain ⟨⟨ssoUrl, idp, policyValues⟩, hfound, h⟩ := Action.lift_bind_ok.mp h
  have hhandoff : b.handoffValue (ctx.mapState (b.keepIdp idp)) = b.handoffValue ctx :=
    b.handoffValue_congr rfl (b.keepIdp_writes idp ctx.state) (by simp [STATE_INITIAL_STEPUP_POLICY])
  have hread : readTargetAccr (ctx.mapState (b.keepIdp idp)) b.stateNamespace = readTargetAccr ctx b.stateNamespace :=
    readTargetAccr_congr rfl (b.keepIdp_writes idp ctx.state) (by simp [STATE_TARGET_ACCR])
      (by simp [STATE_TARGET_ACCR_COMPARISON])
  simp only [Flow.modify, Flow.context, Flow.undecorate, Action.update_bind_run, Action.read_bind_run] at h
  obtain ⟨⟨refs, comparison⟩, hselected, h⟩ := Action.lift_bind_ok.mp h
  simp only [Action.update_bind_run, Action.read_bind_run] at h
  obtain ⟨id, _, h⟩ := Action.lift_bind_ok.mp h
  obtain ⟨subject, _, h⟩ := Action.lift_bind_ok.mp h
  rw [hhandoff, hread] at hselected
  cases h
  exact ⟨policyValues, hfound, hselected⟩

end Saml2Backend

/-! ## Flows -/

/-- A request sent to discovery, with the decorations it came with. -/
structure SamlFlow where
  request : InternalData
  decorations : Assoc Json

namespace SamlFlow

def handoff (f : SamlFlow) : Option Json := f.decorations.get KEY_STEPUP_INITIAL_POLICY

def comparison (f : SamlFlow) : Option Json := f.decorations.get KEY_TARGET_ACCR_COMPARISON

def selection (f : SamlFlow) : List String × Option AuthnContextComparison :=
  (((f.decorations.get KEY_TARGET_AUTHN_CONTEXT_CLASS_REF).map Json.asStrings).getD [],
    (f.comparison.bind Json.asStr).bind AuthnContextComparison.parse)

/-- The flow's request as one that names its IdP itself: with the parameter
an ordinary backend reads, and the hint a step-up goes by. -/
def directly (f : SamlFlow) (idp : String) (s : State) : Context where
  request := { query := [("entityID", idp)] }
  state := s
  decorations := f.decorations.put KEY_TARGET_ENTITYID (.str idp)

/-- The flow selects nothing, and hands over no policy that would at this IdP. -/
def AsksNothing (f : SamlFlow) (idp : String) (policyValues : MetadataPolicyValues) : Prop :=
  f.selection = ([], none) ∧ ∀ v, f.handoff = some v → ∃ h, InitialPolicyHandoff.fromJson v = some h ∧
    (h.requesterWantsMfa = true → resolvePolicy h.mfa (some idp) policyValues h.behavior .provider = none)

structure Stored (f : SamlFlow) (ns : String) (s : State) : Prop where
  handoff : s.getValue ns STATE_INITIAL_STEPUP_POLICY = some (f.handoff.getD .null)
  accr : s.getValue ns STATE_TARGET_ACCR = some (Json.strings f.selection.1)
  comparison : s.getValue ns STATE_TARGET_ACCR_COMPARISON = some (f.comparison.getD .null)

variable {f : SamlFlow} {ns : String}

theorem Stored.congr {s t : State} (h : f.Stored ns s)
    (hkeys : ∀ key ∈ Saml2Backend.storedSelectionKeys, t.getValue ns key = s.getValue ns key) : f.Stored ns t :=
  ⟨(hkeys _ (by simp [Saml2Backend.storedSelectionKeys])).trans h.handoff,
    (hkeys _ (by simp [Saml2Backend.storedSelectionKeys])).trans h.accr,
    (hkeys _ (by simp [Saml2Backend.storedSelectionKeys])).trans h.comparison⟩

variable {ctx : Context}

/-- The selection read back, from the flow's decorations or without them. -/
theorem Stored.readTargetAccr (h : f.Stored ns ctx.state)
    (hdecorations : ctx.decorations = [] ∨ ctx.decorations = f.decorations) : readTargetAccr ctx ns = f.selection := by
  unfold Tunnelbana.readTargetAccr Context.decoration selection
  rw [h.accr, h.comparison]
  unfold selection SamlFlow.comparison
  rcases hdecorations with hnone | hown
  · rw [hnone]
    cases f.decorations.get KEY_TARGET_ACCR_COMPARISON <;> simp
  · rw [hown]
    cases f.decorations.get KEY_TARGET_AUTHN_CONTEXT_CLASS_REF <;>
      cases f.decorations.get KEY_TARGET_ACCR_COMPARISON <;> simp

theorem Stored.handoffValue {b : Saml2Backend} (h : f.Stored b.stateNamespace ctx.state)
    (hdecorations : ctx.decorations = []) (hnull : f.handoff ≠ some .null) : b.handoffValue ctx = f.handoff := by
  unfold Saml2Backend.handoffValue Context.decoration
  rw [hdecorations, h.handoff]
  cases hhandoff : f.handoff with
  | none => rfl
  | some v =>
    cases v with
    | null => exact absurd hhandoff hnull
    | _ => rfl

theorem handoff_directly (f : SamlFlow) (target : String) (s : State) :
    (f.directly target s).decoration KEY_STEPUP_INITIAL_POLICY = f.handoff :=
  Assoc.get_put_other _ _ (by simp [KEY_TARGET_ENTITYID, KEY_STEPUP_INITIAL_POLICY])

theorem selection_directly (f : SamlFlow) (target : String) (s : State) :
    selection { f with decorations := (f.directly target s).decorations } = f.selection := by
  unfold selection comparison directly
  rw [Assoc.get_put_other _ _ (by simp [KEY_TARGET_ENTITYID, KEY_TARGET_AUTHN_CONTEXT_CLASS_REF]),
    Assoc.get_put_other _ _ (by simp [KEY_TARGET_ENTITYID, KEY_TARGET_ACCR_COMPARISON])]

end SamlFlow

/-- The state, and the flow of the most recent start_auth when that went to
discovery. -/
structure SelectionLedger where
  state : State
  flow : Option SamlFlow := none

/-- The proxy gives a backend endpoint the context of a new request: nothing
is decorated. -/
def SamlRequest.Routed (r : SamlRequest) : Prop := ∀ routeId, r.call = .endpoint routeId → r.decorations = []

namespace Saml2Backend

variable (b : Saml2Backend)

def flowOf (request : InternalData) (ctx : Context) : Option SamlFlow :=
  match b.prepare request ctx with
  | (.ok none, ctx₁) =>
    if (b.startDiscovery request ctx₁).1.isOk then some { request, decorations := ctx.decorations } else none
  | _ => none

def selectionStep (l : SelectionLedger) (r : SamlRequest) : SelectionLedger :=
  match r.call with
  | .startAuth request =>
    { state := (b.startAuth r.world request (r.context l.state)).2.state
      flow := b.flowOf request (r.context l.state) }
  | .endpoint routeId => { l with state := (b.handleEndpoint r.world routeId (r.context l.state)).2.state }

/-- An AuthnRequest sent for the flow goes where a direct start_auth to the
IdP chosen would have sent one, with the same RequestedAuthnContext. -/
def SendsSelection (l : SelectionLedger) (r : SamlRequest) : Prop :=
  ∀ f routeId response destination request signed, l.flow = some f → r.call = .endpoint routeId →
    (b.handleEndpoint r.world routeId (r.context l.state)).1 = .ok (.respond response) →
    response.location = some (.authnRequest destination request signed) →
      ∃ target, discoTarget r.http = some target ∧ ∀ s, s.Objects →
        ∃ direct, b.built r.world (f.directly target s) (.startAuth f.request) = some direct ∧
          direct.ssoUrl = destination ∧
          direct.request.authnContextClassRefs = request.authnContextClassRefs ∧
          direct.request.authnContextComparison = request.authnContextComparison

/-- A discovery return finds the flow's selection not yet used up, or the flow
asks the IdP chosen for nothing. A null policy counts as none only when stored. -/
def SelectionLeft (l : SelectionLedger) (r : SamlRequest) : Prop :=
  ∀ f target, l.flow = some f → r.call = .endpoint "disco" → discoTarget r.http = some target →
    (f.handoff ≠ some .null ∧ ∃ v, l.state.getValue b.stateNamespace STATE_TARGET_ACCR = some v ∧ v ≠ .null) ∨
      ∀ ssoUrl policyValues, b.lookupIdp r.world (some target) = .ok (ssoUrl, target, policyValues) →
        f.AsksNothing target policyValues

/-- The namespace holds the selection of the flow in discovery, or nothing of
one. Only a request that names no IdP goes there, a step-up with its subject. -/
structure Selected (l : SelectionLedger) : Prop where
  objects : l.state.Objects
  stored : ∀ f, l.flow = some f → f.Stored b.stateNamespace l.state ∨ SelectionUsed b.stateNamespace l.state
  mdq : l.flow ≠ none → b.idpMetadata = .mdq
  subject : ∀ f, l.flow = some f → b.requestSubject = true →
    ∃ subject, f.request.subjectId.filter (· ≠ "") = some subject

/-! ## Starting -/

variable {b} (w : SamlWorld) {ctx ctx' : Context} {f : SamlFlow} {l : SelectionLedger} {r : SamlRequest}

theorem persistConstraints_stores (request : InternalData) (hs : ctx.state.Objects) :
    SamlFlow.Stored { request, decorations := ctx.decorations } b.stateNamespace
      (b.persistConstraints request ctx).state := by
  have h₂ := (hs.setValue b.stateNamespace "force_authn" (.bool request.forceAuthn)).setValue b.stateNamespace
    "is_passive" (.bool request.isPassive)
  have h₃ := h₂.setValue b.stateNamespace STATE_INITIAL_STEPUP_POLICY
    ((ctx.decoration KEY_STEPUP_INITIAL_POLICY).getD .null)
  have h₄ := h₃.setValue b.stateNamespace STATE_TARGET_ACCR
    (Json.strings (ctx.decorationStrings KEY_TARGET_AUTHN_CONTEXT_CLASS_REF))
  unfold persistConstraints
  simp only [Context.state_mapState]
  refine ⟨?_, ?_, ?_⟩
  · rw [State.getValue_setValue_other _ _ (by simp [STATE_TARGET_ACCR_COMPARISON, STATE_INITIAL_STEPUP_POLICY]),
      State.getValue_setValue_other _ _ (by simp [STATE_TARGET_ACCR, STATE_INITIAL_STEPUP_POLICY]),
      State.getValue_setValue_self h₂]
    rfl
  · rw [State.getValue_setValue_other _ _ (by simp [STATE_TARGET_ACCR_COMPARISON, STATE_TARGET_ACCR]),
      State.getValue_setValue_self h₃]
    rfl
  · rw [State.getValue_setValue_self h₄]
    rfl

/-- Preparing a request stores its selection, whatever comes of it. -/
theorem prepare_stores {request : InternalData} {result : Except Error (Option (Option String))}
    (hs : ctx.state.Objects) (h : b.prepare request ctx = (result, ctx')) :
    SamlFlow.Stored { request, decorations := ctx.decorations } b.stateNamespace ctx'.state ∧
      ctx'.decorations = ctx.decorations := by
  have hstored := b.persistConstraints_stores request hs
  have hdecorations : (b.persistConstraints request ctx).decorations = ctx.decorations := rfl
  unfold prepare at h
  simp only [Flow.modify, Action.update_bind_run] at h
  generalize b.persistConstraints request ctx = ctx₁ at h hstored hdecorations
  unfold persistSubject at h
  split at h
  · cases hsubject : request.subjectId.filter (· ≠ "") with
    | none =>
      rw [hsubject] at h
      cases h
      exact ⟨hstored, hdecorations⟩
    | some subject =>
      rw [hsubject] at h
      cases h
      refine ⟨hstored.congr fun key hkey => ?_, hdecorations⟩
      refine State.getValue_setValue_other _ _ fun heq => ?_
      rw [← heq.2] at hkey
      simp [storedSelectionKeys, STATE_INITIAL_STEPUP_POLICY, STATE_TARGET_ACCR, STATE_TARGET_ACCR_COMPARISON] at hkey
  · cases h
    exact ⟨hstored, hdecorations⟩

theorem flowOf_eq_some {request : InternalData} (h : b.flowOf request ctx = some f) :
    f = { request, decorations := ctx.decorations } ∧ ∃ ctx₁, b.prepare request ctx = (.ok none, ctx₁) := by
  unfold flowOf at h
  split at h
  next ctx₁ hprepare =>
    split at h
    · cases h
      exact ⟨rfl, ctx₁, hprepare⟩
    · cases h
  next => cases h

/-- A start_auth that goes to discovery leaves what it prepared. -/
theorem startAuth_state_of_none {request : InternalData} {ctx₁ : Context}
    (h : b.prepare request ctx = (.ok none, ctx₁)) : (b.startAuth w request ctx).2.state = ctx₁.state := by
  unfold startAuth
  rw [Action.bind_of_ok h]
  show (b.startDiscovery request ctx₁).2.state = ctx₁.state
  rcases b.startDiscovery_cases request ctx₁ with ⟨disco, _, _, hrun⟩ | ⟨e, ctx', hrun, hstate⟩
  · rw [hrun]
  · rw [hrun, hstate]

theorem Selected.startAuth (h : b.Selected l) {request : InternalData} (hcall : r.call = .startAuth request) :
    b.Selected (b.selectionStep l r) := by
  have hs : (r.context l.state).state.Objects := h.objects
  unfold selectionStep
  simp only [hcall]
  refine ⟨(b.startAuth_within r.world request hs).objects hs, fun f hf => ?_, fun hf => ?_, fun f hf hsub => ?_⟩
  · obtain ⟨rfl, ctx₁, hprepare⟩ := flowOf_eq_some hf
    show SamlFlow.Stored _ _ (b.startAuth r.world request (r.context l.state)).2.state ∨ _
    rw [startAuth_state_of_none r.world hprepare]
    exact .inl (prepare_stores hs hprepare).1
  · obtain ⟨f, hf⟩ := Option.ne_none_iff_exists'.mp hf
    obtain ⟨rfl, ctx₁, hprepare⟩ := flowOf_eq_some hf
    rcases b.prepare_cases request hs with ⟨ctx', hok, _⟩ | ⟨e, ctx', herror, _⟩
    · rw [hprepare] at hok
      have htarget : b.idpTarget (r.context l.state) = none := by
        simpa using (Prod.mk.inj hok).1.symm
      unfold idpTarget at htarget
      cases hmode : b.idpMetadata with
      | static ssoUrl verifier policyValues =>
        rw [hmode] at htarget
        cases htarget
      | mdq => rfl
    · rw [hprepare] at herror
      cases herror
  · obtain ⟨rfl, ctx₁, hprepare⟩ := flowOf_eq_some hf
    rcases b.prepare_cases request hs with ⟨ctx', hok, _, _, hsubject⟩ | ⟨e, ctx', herror, _⟩
    · exact (hsubject hsub).1
    · rw [hprepare] at herror
      cases herror

theorem Selected.step (h : b.Selected l) : b.Selected (b.selectionStep l r) := by
  cases hcall : r.call with
  | startAuth request => exact h.startAuth hcall
  | endpoint routeId =>
    have hs : (r.context l.state).state.Objects := h.objects
    unfold selectionStep
    simp only [hcall]
    refine ⟨(b.handleEndpoint_within r.world routeId hs).objects hs, fun f hf => ?_, h.mdq, h.subject⟩
    rcases b.handleEndpoint_keepsSelection r.world routeId hs with hkept | hused
    · rcases h.stored f hf with hstored | hused
      · exact .inl (hstored.congr hkept)
      · exact .inr fun key hkey => by rw [hkept key hkey]; exact hused key hkey
    · exact .inr hused

/-! ## Discovery returns -/

/-- An endpoint that sends an AuthnRequest is a discovery return, and sends
the one it built. -/
theorem handleEndpoint_sends {routeId : String} {response : Response} {destination : String}
    {request : AuthnRequest} {signed : Bool} (hs : ctx.state.Objects)
    (h : (b.handleEndpoint w routeId ctx).1 = .ok (.respond response))
    (hlocation : response.location = some (.authnRequest destination request signed)) :
    ∃ target built ctx', routeId = "disco" ∧ discoTarget ctx.request = some target ∧
      b.Builds w (some target) ctx ctx' built ∧ built.ssoUrl = destination ∧ built.request = request := by
  unfold handleEndpoint at h
  split at h
  · rcases b.handleAcs_cases w ctx with ⟨e, ctx', hrun, _⟩ | ⟨data, ctx', hrun, _⟩
    · rw [hrun] at h
      cases h
    · rw [hrun] at h
      cases h
  · split at h
    next hdisco =>
      rcases b.handleDisco_cases w hs with ⟨target, built, ctx', htarget, hbuilds, hrun | ⟨e, hrun⟩⟩ |
        ⟨target, e, ctx', _, _, hrun⟩ | ⟨_, e, hrun⟩
      · rw [hrun] at h
        cases h
        cases hlocation
        exact ⟨target, built, ctx', hdisco, htarget, hbuilds, rfl, rfl⟩
      · rw [hrun] at h
        cases h
      · rw [hrun] at h
        cases h
      · rw [hrun] at h
        cases h
    next =>
      split at h
      · rcases handleMetadata_cases w ctx with ⟨x, hrun, hnone⟩ | ⟨e, hrun⟩
        · rw [hrun] at h
          cases h
          rw [hnone] at hlocation
          cases hlocation
        · rw [hrun] at h
          cases h
      · cases h

variable (b) in
/-- A direct start_auth to an IdP sends what its decorations select. -/
theorem direct_built {target ssoUrl : String} {policyValues : MetadataPolicyValues} {s : State}
    {chosen : List String × Option AuthnContextComparison} (hmode : b.idpMetadata = .mdq)
    (hsubject : b.requestSubject = true → ∃ subject, f.request.subjectId.filter (· ≠ "") = some subject)
    (hfound : b.lookupIdp w (some target) = .ok (ssoUrl, target, policyValues))
    (hid : ∃ id, w.newRequestId = .ok id) (hchosen : overrideAccr f.handoff target policyValues f.selection = .ok chosen)
    (hs : s.Objects) :
    ∃ direct, b.built w (f.directly target s) (.startAuth f.request) = some direct ∧ direct.ssoUrl = ssoUrl ∧
      (direct.request.authnContextClassRefs, direct.request.authnContextComparison) = chosen := by
  have htarget : b.idpTarget (f.directly target s) = some (some target) := by
    unfold idpTarget selectedTarget SamlFlow.directly
    rw [hmode]
    by_cases hsub : b.requestSubject = true
    · simp [hsub, Context.decoration]
    · simp [hsub, HttpRequestData.param, Assoc.get]
  have hobjects : (f.directly target s).state.Objects := hs
  rcases b.prepare_cases f.request hobjects with
    ⟨ctx₁, hprepare, hprepared, hhandoff, hkept⟩ | ⟨e, ctx₁, _, _, hsub, hnone⟩
  · rw [htarget] at hprepare
    rw [f.handoff_directly] at hhandoff
    obtain ⟨hstored, hdecorations⟩ := prepare_stores hs hprepare
    have hread : readTargetAccr ctx₁ b.stateNamespace = f.selection :=
      (hstored.readTargetAccr (.inr hdecorations)).trans (f.selection_directly target s)
    rcases b.buildAuthnRequest_cases w (some target) (hprepared.writes.objects hs) with
      ⟨direct, ctx', hbuilds⟩ | ⟨e, ctx', hfails⟩
    · obtain ⟨policyValues', hfound', hsent⟩ := b.buildAuthnRequest_selection w hbuilds.run
      rw [hfound] at hfound'
      simp only [Except.ok.injEq, Prod.mk.injEq] at hfound'
      obtain ⟨hsso, hidp, rfl⟩ := hfound'
      rw [hhandoff, hread, ← hidp, hchosen] at hsent
      refine ⟨direct, ?_, hsso.symm, (Except.ok.inj hsent).symm⟩
      simp only [built, hprepare, hbuilds.run]
      rfl
    · refine absurd ⟨⟨_, hfound⟩, ?_, hid, fun hsub => ?_⟩ hfails.cannot
      · rw [hhandoff]
        exact (overrideAccr_ok_iff f.handoff target policyValues f.selection).mp ⟨_, hchosen⟩
      · rw [(hkept hsub).2]
        exact hsubject hsub
  · obtain ⟨subject, hsome⟩ := hsubject hsub
    rw [hsome] at hnone
    cases hnone

/-- A flow that asks an IdP for nothing selects nothing for it. -/
theorem overrideAccr_of_asksNothing {target : String} {policyValues : MetadataPolicyValues}
    (h : f.AsksNothing target policyValues) :
    overrideAccr f.handoff target policyValues f.selection = .ok ([], none) := by
  obtain ⟨hselection, hpolicy⟩ := h
  rw [hselection]
  unfold overrideAccr
  cases hhandoff : f.handoff with
  | none => rfl
  | some v =>
    obtain ⟨policy, hread, hnone⟩ := hpolicy v hhandoff
    simp only [hread]
    split
    next hmfa => rw [hnone hmfa]
    next => rfl

/-- **A discovery return that finds the selection left sends it.** -/
theorem Selected.sendsSelection (h : b.Selected l) (hr : r.Routed) (hc : b.SelectionLeft l r) :
    b.SendsSelection l r := by
  intro f routeId response destination request signed hf hcall hrun hlocation
  have hs : (r.context l.state).state.Objects := h.objects
  have hdecorations : (r.context l.state).decorations = [] := hr routeId hcall
  have hmode : b.idpMetadata = .mdq := h.mdq (by rw [hf]; simp)
  obtain ⟨target, built, ctx', rfl, htarget, hbuilds, rfl, rfl⟩ := handleEndpoint_sends r.world hs hrun hlocation
  obtain ⟨policyValues, hfound, hsent⟩ := b.buildAuthnRequest_selection r.world hbuilds.run
  have hidp : built.idp = target := by
    rcases b.lookupIdp_ok r.world hfound with ⟨_, heq⟩ | ⟨hstatic, _⟩
    · exact (Option.some.inj heq).symm
    · unfold isDynamicIdpSelection at hstatic
      rw [hmode] at hstatic
      cases hstatic
  rw [hidp] at hfound hsent
  have hchosen : overrideAccr f.handoff target policyValues f.selection =
      .ok (built.request.authnContextClassRefs, built.request.authnContextComparison) := by
    have hleft := hc f target hf hcall htarget
    rcases h.stored f hf with hstored | hused
    · have hnull : f.handoff ≠ some .null := by
        rcases hleft with ⟨hnull, _⟩ | hasks
        · exact hnull
        · intro hnull
          obtain ⟨policy, hread, _⟩ := (hasks _ _ hfound).2 _ hnull
          cases hread
      rw [← hsent, hstored.handoffValue hdecorations hnull, hstored.readTargetAccr (.inl hdecorations)]
    · rcases hleft with ⟨_, v, hv, hne⟩ | hasks
      · rcases hused STATE_TARGET_ACCR (by simp [storedSelectionKeys]) with hnone | hnull
        · rw [hv] at hnone
          cases hnone
        · rw [hv] at hnull
          exact absurd (Option.some.inj hnull) hne
      · rw [overrideAccr_of_asksNothing (hasks _ _ hfound), ← hsent, hused.handoffValue hdecorations,
          hused.readTargetAccr hdecorations]
        rfl
  refine ⟨target, htarget, fun s hobjects => ?_⟩
  obtain ⟨direct, hdirect, hsso, hsame⟩ :=
    b.direct_built r.world hmode (h.subject f hf) hfound hbuilds.can.id hchosen hobjects
  exact ⟨direct, hdirect, hsso, (Prod.mk.inj hsame).1, (Prod.mk.inj hsame).2⟩

/-- **On every run over one state, an AuthnRequest sent for a flow that went to
discovery carries what a direct start_auth to its IdP would have sent**, as
long as no request of the flow was built before or the flow selected nothing. -/
theorem returns_send_selection (b : Saml2Backend) (s : State) (hs : s.Objects) (rs : List SamlRequest)
    (hr : ∀ r ∈ rs, r.Routed) (h : Along b.selectionStep b.SelectionLeft { state := s } rs) :
    Along b.selectionStep b.SendsSelection { state := s } rs := by
  have hstart : b.Selected { state := s } := by
    refine ⟨hs, fun f hf => ?_, fun hf => absurd rfl hf, fun f hf => ?_⟩ <;> cases hf
  exact Along.of_invariant (fun _ _ hl _ => hl.step) (fun _ _ hl hc => hl.sendsSelection hc.1 hc.2) hstart
    (h.and_mem hr)

def discoveryReturn : HttpRequestData := { query := [("entityID", "https://idp.example")] }

/-- A flow that asks for MFA, sent to discovery and on to the IdP. -/
def mfaFlow : List SamlRequest :=
  [{ world := answering "_q1", http := {}, call := .startAuth (.request "https://sp.example")
     decorations := [(KEY_TARGET_AUTHN_CONTEXT_CLASS_REF, Json.strings [REFEDS_MFA])] },
    { world := answering "_q2", http := discoveryReturn, call := .endpoint "disco" }]

theorem returns_send_selection_demo :
    Along discovering.selectionStep discovering.SendsSelection { state := State.new } mfaFlow := by
  refine returns_send_selection discovering State.new State.objects_new mfaFlow (fun r hr => ?_)
    ⟨fun f target hf => ?_, fun f target hf _ _ => .inl ⟨?_, _, rfl, ?_⟩, trivial⟩
  · simp only [mfaFlow, List.mem_cons, List.not_mem_nil, or_false] at hr
    rcases hr with rfl | rfl
    · intro routeId hcall
      cases hcall
    · exact fun _ _ => rfl
  · cases hf
  · cases hf
    simp [SamlFlow.handoff, SamlRequest.context, Assoc.get, KEY_STEPUP_INITIAL_POLICY,
      KEY_TARGET_AUTHN_CONTEXT_CLASS_REF]
  · simp [Json.strings]

/-- The user goes back and chooses again. -/
def mfaFlowAgain : List SamlRequest :=
  mfaFlow ++ [{ world := answering "_q3", http := discoveryReturn, call := .endpoint "disco" }]

/-- The second return finds the selection used up: its AuthnRequest asks for no
class. -/
theorem mfaFlowAgain_unselected :
    (∀ r ∈ mfaFlowAgain, r.Routed) ∧
      ¬ Along discovering.selectionStep discovering.SendsSelection { state := State.new } mfaFlowAgain := by
  constructor
  · intro r hr
    simp only [mfaFlowAgain, mfaFlow, List.cons_append, List.nil_append, List.mem_cons, List.not_mem_nil,
      or_false] at hr
    rcases hr with rfl | rfl | rfl
    · intro routeId hcall
      cases hcall
    · exact fun _ _ => rfl
    · exact fun _ _ => rfl
  · intro h
    obtain ⟨_, _, hsent, _⟩ := h
    obtain ⟨target, htarget, hdirect⟩ := hsent _ "disco" _ _ _ _ rfl rfl rfl rfl
    cases htarget
    obtain ⟨direct, hbuilt, _, hrefs, _⟩ := hdirect State.new State.objects_new
    cases hbuilt
    cases hrefs

end Saml2Backend

end Tunnelbana
