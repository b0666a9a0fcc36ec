/-
What a service of the response leg guarantees of every response a frontend
renders. A gate is a service whose responses have a property that the services
behind it keep (`Passage`). A step-up behind it keeps a response in the session
and completes it in a later request, which enters the leg behind the gate
(`Gate`): the kept responses have the property too, and that is the invariant. On
every run, over any suspensions, a frontend gets only responses that have it
(`Gate.upheld`).

Two gates: the attributes released are those `filter_attributes` permits to the
requester or an exchange of a step-up behind it added (`release_bounded`), and
what is rendered satisfies the rules of `attribute_authorization`
(`authorization_upheld`).
-/
import Tunnelbana.Plugins.ReleasePolicy
import Tunnelbana.Plugins.RequestedAssurance
import Tunnelbana.Plugins.StepUpCompletion

namespace Tunnelbana

open Basis

/-! ## What the services behind may change -/

def SameButLoa (data next : InternalData) : Prop :=
  next = { data with authInfo := { data.authInfo with authClassRef := next.authInfo.authClassRef } }

namespace StepUp

variable {p : StepUp} {w : SamlWorld} {ctx ctx' : Context} {data next : InternalData} {policy : RequestPolicy}

theorem requireStepup_passes (h : p.requireStepup policy data ctx = (.ok (.pass next), ctx')) : next = data := by
  unfold requireStepup at h
  split at h
  · cases h
  · simp only [Flow.context, Action.read_bind_run] at h
    obtain ⟨account, _, h⟩ := Action.lift_bind_ok.mp h
    obtain ⟨_, _, h⟩ := Action.lift_bind_ok.mp h
    split at h
    · cases h
      rfl
    · unfold keepResponse at h
      obtain ⟨_, _, h⟩ := Action.lift_bind_ok.mp h
      obtain ⟨_, _, h⟩ := Action.lift_bind_ok.mp h
      simp only [Flow.context, Action.read_bind_run] at h
      obtain ⟨_, _, _, h⟩ := Action.bind_ok.mp h
      obtain ⟨_, _, _, hret⟩ := Action.bind_ok.mp h
      cases hret

theorem processResponseAction_passes (h : p.processResponseAction w data ctx = (.ok (.continue next), ctx')) :
    SameButLoa data next := by
  unfold processResponseAction at h
  obtain ⟨verdict, ctx₁, hexamine, hact⟩ := Action.bind_ok.mp h
  cases verdict with
  | stepUp policy account =>
    unfold actOn redirectStepup at hact
    obtain ⟨_, _, _, hact⟩ := Action.bind_ok.mp hact
    obtain ⟨_, _, _, hact⟩ := Action.bind_ok.mp hact
    obtain ⟨_, _, _, hact⟩ := Action.bind_ok.mp hact
    obtain ⟨_, _, _, hret⟩ := Action.bind_ok.mp hact
    cases hret
  | pass response =>
    have hnext : response = next := by
      cases hact
      rfl
    subst hnext
    unfold examine at hexamine
    simp only [Flow.context, Action.read_bind_run] at hexamine
    obtain ⟨policy, _, hexamine⟩ := Action.lift_bind_ok.mp hexamine
    simp only [Flow.undecorate, Flow.modify, Action.update_bind_run] at hexamine
    split at hexamine
    · unfold decide at hexamine
      simp only [Flow.context, Action.read_bind_run] at hexamine
      generalize initialLoaDecision policy.behavior _ policy.requesterLoas data.authInfo.authClassRef = decision at hexamine
      cases decision with
      | satisfied returned =>
        cases hexamine
        rfl
      | rejected => cases hexamine
      | needsStepup =>
        rw [requireStepup_passes hexamine]
        rfl
    · cases hexamine
      rfl

theorem processResponseAction_kept (hs : ctx.state.Objects) {v : Json}
    (h : (p.processResponseAction w data ctx).2.state.getValue p.stateNamespace KEY_SNAPSHOT = some v) :
    ctx.state.getValue p.stateNamespace KEY_SNAPSHOT = some v ∨
      ∃ snapshot : StepupSnapshot, v = snapshot.toJson ∧ snapshot.response = data := by
  unfold processResponseAction at h
  have hstate : (ctx.undecorate KEY_STEPUP_INITIAL_POLICY).state = ctx.state := rfl
  rcases p.examine_cases data ctx with ⟨policy, _, hexamined⟩ | ⟨e, hfail⟩
  · generalize hrun : p.examine data ctx = run at hexamined
    cases hexamined with
    | pass response ctx' hkept _ =>
      rw [Action.bind_of_ok hrun] at h
      have hcleared : (ctx'.state.clearNamespace p.stateNamespace).getValue p.stateNamespace KEY_SNAPSHOT = some v := h
      rw [State.getValue_clearNamespace, if_pos rfl] at hcleared
      cases hcleared
    | stepUp snapshot ctx' _ _ _ hresponse _ hkept =>
      rw [Action.bind_of_ok hrun] at h
      have hs' : ctx'.state.Objects := by
        rw [hkept, hstate]
        exact hs.setValue _ _ _
      have hwithin := (p.redirectStepup_cases w policy snapshot.account data hs').2
      have hvalue : (p.redirectStepup w policy snapshot.account data ctx').2.state.getValue p.stateNamespace KEY_SNAPSHOT =
        some v := h
      rw [hwithin.value _ _ p.namespace_ne, hkept, hstate, State.getValue_setValue_self hs] at hvalue
      exact .inr ⟨snapshot, (Option.some.inj hvalue).symm, hresponse⟩
    | fail e ctx' hkept =>
      rw [Action.bind_of_error hrun] at h
      have hvalue : ctx'.state.getValue p.stateNamespace KEY_SNAPSHOT = some v := h
      rcases hkept with hsame | hcleared
      · rw [hsame, hstate] at hvalue
        exact .inl hvalue
      · rw [hcleared, State.getValue_clearNamespace, if_pos rfl] at hvalue
        cases hvalue
  · rw [Action.bind_of_error hfail] at h
    exact .inl h

end StepUp

theorem Accr.processResponse_passes {a : Accr} {ctx ctx' : Context} {data next : InternalData}
    (h : a.processResponse data ctx = (.ok next, ctx')) : SameButLoa data next := by
  unfold processResponse at h
  simp only [Flow.context, Action.read_bind_run] at h
  obtain ⟨classRef, _, h⟩ := Action.lift_bind_ok.mp h
  cases h
  rfl

namespace Service

variable {W : Type} {s : Service W} {w : W} {ctx ctx' : Context} {data next : InternalData}

/-- A service passes a response on with another LoA at most, or is one that
transforms it. -/
theorem continues_cases (h : s.microService.processResponseAction w data ctx = (.ok (.continue next), ctx')) :
    SameButLoa data next ∨ ∃ t, s = .transform t ∧ t.processResponse w data ctx = (.ok next, ctx') := by
  cases s with
  | disco disco =>
    obtain ⟨_, _, hrun, hret⟩ := Action.bind_ok.mp h
    cases hrun
    cases hret
    exact .inl rfl
  | accr a =>
    obtain ⟨next', _, hrun, hret⟩ := Action.bind_ok.mp h
    cases hret
    exact .inl (Accr.processResponse_passes hrun)
  | stepup p view => exact .inl (StepUp.processResponseAction_passes h)
  | transform t =>
    obtain ⟨next', ctx'', hrun, hret⟩ := Action.bind_ok.mp h
    cases hret
    exact .inr ⟨t, rfl, hrun⟩

end Service

namespace Deployment

variable {W : Type} {d : Deployment W}

/-! ## Gates -/

/-- The service at a position passes on only responses with a property, and
those behind keep it on the leg. -/
structure Passage (d : Deployment W) (k : Nat) (Good : InternalData → Prop) : Prop where
  stands : ∃ s, d.services[k]? = some s ∧ (∀ p view, s ≠ .stepup p view) ∧
    ∀ w response ctx next ctx', s.microService.processResponseAction w response ctx = (.ok (.continue next), ctx') →
      Good next
  kept : ∀ s ∈ d.services.drop (k + 1), ∀ w response ctx next ctx', Good response →
    s.microService.processResponseAction w response ctx = (.ok (.continue next), ctx') → Good next

/-- A response that a step-up completes keeps the property as well, unless it adds
an attribute of these. -/
structure Gate (d : Deployment W) (k : Nat) (P : String → Prop) (Good : InternalData → Prop) : Prop
    extends Passage d k Good where
  completed : ∀ p view, .stepup p view ∈ d.services.drop (k + 1) → ∀ snapshot response data assurance,
    StepUp.CompletionFrame p.mapper snapshot response data assurance → ¬ P assurance → Good snapshot.response → Good data

/-- The accounts for which the step-ups behind a position keep a response name none
of these attributes as their assurance. -/
def AddsNone (d : Deployment W) (k : Nat) (P : String → Prop) (s : State) (r : Exchange W) : Prop :=
  ∀ p view, .stepup p view ∈ d.services.drop (k + 1) → ∀ snapshot assurance, p.snapshot (r.context s) = .ok snapshot →
    internalNameForExternal p.mapper snapshot.account.assurance snapshot.policy.behavior = .ok assurance → ¬ P assurance

/-- The responses the step-ups behind a position keep have the property. -/
def KeptGood (d : Deployment W) (k : Nat) (Good : InternalData → Prop) (state : State) : Prop :=
  ∀ p view, .stepup p view ∈ d.services.drop (k + 1) → ∀ v,
    state.getValue p.stateNamespace KEY_SNAPSHOT = some v → ∃ snapshot : StepupSnapshot, v = snapshot.toJson ∧
      Good snapshot.response

/-- What the step-ups behind a position keep was kept before, or has the property. -/
def KeepsGood (d : Deployment W) (k : Nat) (Good : InternalData → Prop) (s t : State) : Prop :=
  ∀ p view, .stepup p view ∈ d.services.drop (k + 1) → ∀ v, t.getValue p.stateNamespace KEY_SNAPSHOT = some v →
    s.getValue p.stateNamespace KEY_SNAPSHOT = some v ∨ ∃ snapshot : StepupSnapshot, v = snapshot.toJson ∧
      Good snapshot.response

section
variable {k i : Nat} {P : String → Prop} {Good : InternalData → Prop} {w : W} {response data : InternalData}
  {ctx ctx' : Context} {services : List (Service W)}

theorem KeepsGood.refl (s : State) : d.KeepsGood k Good s s := fun _ _ _ _ hv => .inl hv

theorem KeepsGood.trans {s t u : State} (h : d.KeepsGood k Good s t) (h' : d.KeepsGood k Good t u) :
    d.KeepsGood k Good s u := by
  intro p view hp v hv
  rcases h' p view hp v hv with hold | hgood
  · exact h p view hp v hold
  · exact .inr hgood

theorem KeepsGood.of_spared {s t : State} (h : s.Spared d.keptResponses t) : d.KeepsGood k Good s t := by
  intro p view hp v hv
  exact .inl (h.value _ _ v ⟨rfl, p, view, List.mem_of_mem_drop hp, rfl⟩ hv)

theorem KeptGood.keeps {s t : State} (h : d.KeptGood k Good s) (ht : d.KeepsGood k Good s t) : d.KeptGood k Good t := by
  intro p view hp v hv
  rcases ht p view hp v hv with hold | hgood
  · exact h p view hp v hold
  · exact hgood

theorem spared_of_assured {s t : State} (h : s.Spared (d.assured []) t) : s.Spared d.keptResponses t :=
  h.mono fun _ _ hkept => .inr hkept

theorem Passage.inside (hg : d.Passage k Good) : k < d.services.length := by
  obtain ⟨s, hs, _⟩ := hg.stands
  exact (List.getElem?_eq_some_iff.mp hs).1

/-- One service, from a position: behind the gate what it passes on is good. -/
theorem Passage.service (hg : d.Passage k Good) {s : Service W} (hs : d.services[i]? = some s) {next : InternalData}
    (hentered : k < i → Good response)
    (h : s.microService.processResponseAction w response ctx = (.ok (.continue next), ctx')) (hk : k < i + 1) :
    Good next := by
  by_cases hat : k = i
  · subst hat
    obtain ⟨s', hs', _, hgiven⟩ := hg.stands
    obtain rfl := Option.some.inj (hs.symm.trans hs')
    exact hgiven w response ctx next ctx' h
  · have hbehind : s ∈ d.services.drop (k + 1) := by
      refine List.mem_of_getElem? (i := i - (k + 1)) ?_
      rw [List.getElem?_drop, ← hs]
      congr 1
      omega
    exact hg.kept s hbehind w response ctx next ctx' (hentered (by omega)) h

theorem head_of_drop {s : Service W} {rest : List (Service W)} (h : d.services.drop i = s :: rest) :
    d.services[i]? = some s ∧ d.services.drop (i + 1) = rest := by
  constructor
  · have hat := congrArg (fun l => l[0]?) h
    rw [List.getElem?_drop] at hat
    exact hat
  · have htail := congrArg List.tail h
    rw [List.tail_drop] at htail
    exact htail

/-- **A leg that reaches its end has been through the gate**, now or before the
response was kept. -/
theorem Passage.continued (hg : d.Passage k Good) (hdrop : d.services.drop i = services) (hentered : k < i → Good response)
    (h : Proxy.Continued w (services.map (·.microService)) response ctx data ctx') : Good data := by
  induction services generalizing i response ctx with
  | nil =>
    have hlength : d.services.length ≤ i := List.drop_eq_nil_iff.mp hdrop
    have hinside := hg.inside
    cases h
    exact hentered (by omega)
  | cons s rest ih =>
    obtain ⟨hs, hrest⟩ := head_of_drop hdrop
    cases h with
    | @cons _ _ _ next _ _ ctx₁ _ hrun hcontinued =>
      exact ih hrest (fun hk => hg.service hs hentered hrun hk) hcontinued

theorem service_keeps_good (hnames : d.NamesApart) {s : Service W} (hs : d.services[i]? = some s)
    (hobjects : ctx.state.Objects) (hentered : k < i → Good response) :
    d.KeepsGood k Good ctx.state (s.microService.processResponseAction w response ctx).2.state := by
  intro p view hp v hv
  by_cases hown : .stepup p view = s
  · subst hown
    rcases StepUp.processResponseAction_kept hobjects hv with hold | ⟨snapshot, hv, hresponse⟩
    · exact .inl hold
    · refine .inr ⟨snapshot, hv, ?_⟩
      rw [hresponse]
      obtain ⟨j, hj⟩ := List.mem_iff_getElem?.mp hp
      rw [List.getElem?_drop] at hj
      obtain ⟨hbound, _⟩ := List.getElem?_eq_some_iff.mp hj
      have hsame : k + 1 + j = i := (List.getElem?_inj hbound hnames.nodup).mp (hj.trans hs.symm)
      exact hentered (by omega)
  · have hmem : .stepup p view ∈ d.services := List.mem_of_mem_drop hp
    have hkeeps := hnames.response_elsewhere hmem (List.mem_of_getElem? hs) hown rfl w response ctx
    refine .inl ?_
    unfold State.getValue at hv ⊢
    exact (congrArg (Option.bind · _) hkeeps).symm.trans hv

/-- **A leg keeps good responses only.** -/
theorem Passage.leg_keeps (hg : d.Passage k Good) (hnames : d.NamesApart) (hdrop : d.services.drop i = services)
    (hobjects : ctx.state.Objects) (hentered : k < i → Good response) :
    d.KeepsGood k Good ctx.state
      (Proxy.responseServices w (services.map (·.microService)) response ctx).2.state := by
  induction services generalizing i response ctx with
  | nil => exact KeepsGood.refl _
  | cons s rest ih =>
    obtain ⟨hs, hrest⟩ := head_of_drop hdrop
    have hone := service_keeps_good (w := w) hnames hs hobjects hentered
    have hspares : Spares (fun _ _ => False) ctx (s.microService.processResponseAction w response ctx).2 :=
      processResponse_keeps (fun _ _ => spares_untouched) (service_free objects_permits s) w response ctx
    show d.KeepsGood k Good ctx.state
      (Proxy.responseServices w (s.microService :: rest.map (·.microService)) response ctx).2.state
    unfold Proxy.responseServices
    rcases hrun : s.microService.processResponseAction w response ctx with ⟨e | action, ctx₁⟩
    · rw [Action.bind_of_error hrun]
      rw [hrun] at hone
      exact hone
    · rw [Action.bind_of_ok hrun]
      rw [hrun] at hone hspares
      cases action with
      | respond http => exact hone
      | «continue» next =>
        exact hone.trans (ih hrest (hspares.objects hobjects) fun hk => hg.service hs hentered hrun hk)

end

/-! ## Runs -/

section
variable {k : Nat} {P : String → Prop} {Good : InternalData → Prop} {s : State} {r : Exchange W}
  {statusHint : Error → Nat} {w : W} {ctx ctx₁ : Context} {response : InternalData} {i : Nat}

/-- **A response that enters past the first service is one a step-up kept,
completed.** -/
theorem resumed_entry (h : d.proxy.enter w ctx = (.ok (.response response (i + 1)), ctx₁)) :
    ∃ p view snapshot answer after assurance, d.services[i]? = some (.stepup p view) ∧ p.snapshot ctx = .ok snapshot ∧
      p.saml.handleEndpoint (view w) "acs" ctx = (.ok (.authResponse answer), after) ∧
      StepUp.CompletionFrame p.mapper snapshot answer response assurance := by
  have hentered := d.proxy.enter_entered w ctx
  rw [h] at hentered
  cases hentered with
  | @serviceResumesResponse name routeId idx ms _ _ hroute hfound hrun =>
    obtain ⟨hat, _⟩ := Proxy.servicePosition_mem hfound
    have hmap : d.proxy.microservices[i]? = (d.services[i]?).map (·.microService) := List.getElem?_map
    rw [hmap] at hat
    obtain ⟨service, hservice, rfl⟩ := Option.map_eq_some_iff.mp hat
    obtain ⟨p, view, rfl, hacs⟩ := service_resumesResponse hrun
    obtain ⟨snapshot, answer, after, assurance, hsnapshot, hanswer, hframe, _⟩ := p.handleAcs_frame hacs
    exact ⟨p, view, snapshot, answer, after, assurance, hservice, hsnapshot, hanswer, hframe⟩

theorem snapshot_value {p : StepUp} {snapshot : StepupSnapshot} (h : p.snapshot ctx = .ok snapshot) :
    ∃ v, ctx.state.getValue p.stateNamespace KEY_SNAPSHOT = some v ∧ StepupSnapshot.fromJson v = some snapshot := by
  unfold StepUp.snapshot at h
  split at h
  next => cases h
  next v hv =>
    split at h
    next kept hkept =>
      cases h
      exact ⟨v, hv, hkept⟩
    next => cases h

theorem Passage.behind (hg : d.Passage k Good) {p : StepUp} {view : W → SamlWorld}
    (hservice : d.services[i]? = some (.stepup p view)) (hi : k < i + 1) : .stepup p view ∈ d.services.drop (k + 1) := by
  have hne : k ≠ i := by
    intro hsame
    subst hsame
    obtain ⟨s', hs', hplain, _⟩ := hg.stands
    exact hplain p view (Option.some.inj (hs'.symm.trans hservice))
  refine List.mem_of_getElem? (i := i - (k + 1)) ?_
  rw [List.getElem?_drop, ← hservice]
  congr 1
  omega

/-- **A response that enters behind the gate is a good one completed.** -/
theorem Gate.entered (hg : d.Gate k P Good) (hadds : d.AddsNone k P s r) (hkept : d.KeptGood k Good (r.context s).state)
    (h : d.proxy.enter r.world (r.context s) = (.ok (.response response i), ctx₁)) (hi : k < i) : Good response := by
  cases i with
  | zero => omega
  | succ i =>
    obtain ⟨p, view, snapshot, answer, after, assurance, hservice, hsnapshot, _, hframe⟩ := resumed_entry h
    have hbehind := hg.toPassage.behind hservice hi
    obtain ⟨v, hv, hread⟩ := snapshot_value hsnapshot
    obtain ⟨kept, rfl, hgood⟩ := hkept p view hbehind v hv
    rw [StepupSnapshot.fromJson_toJson] at hread
    cases hread
    exact hg.completed p view hbehind snapshot answer response assurance hframe
      (hadds p view hbehind snapshot assurance hsnapshot hframe.mapped) hgood

theorem KeptGood.opened (h : d.KeptGood k Good s) (r : Exchange W) : d.KeptGood k Good (r.context s).state :=
  h.keeps (KeepsGood.of_spared (State.spared_carried s r.envelope))

/-- **Every request keeps good responses only**, if one that enters behind the gate
is good. -/
theorem Passage.serve_keeps (hg : d.Passage k Good) (hnames : d.NamesApart) (hobjects : s.Objects)
    (hentered : ∀ response i ctx₁, d.proxy.enter r.world (r.context s) = (.ok (.response response i), ctx₁) → k < i →
      Good response) : d.KeepsGood k Good s (d.proxy.serve statusHint s r) := by
  have hopened : d.KeepsGood k Good s (r.context s).state := KeepsGood.of_spared (State.spared_carried s r.envelope)
  have hserved : ∀ {result : Except Error (Outcome W)} {ctx₂ : Context},
      d.proxy.reach r.world (r.context s) = (result, ctx₂) →
      d.KeepsGood k Good ctx₂.state (d.proxy.serve statusHint s r) := fun hreach =>
    KeepsGood.of_spared (spared_of_assured (serve_assures (l := { state := s }) hreach))
  have hspares : Spares (d.assured []) _ _ := enter_assures r.world (r.context s)
  have hentry : d.KeepsGood k Good s (d.proxy.enter r.world (r.context s)).2.state :=
    hopened.trans (KeepsGood.of_spared (spared_of_assured hspares))
  have hwellFormed : (d.proxy.enter r.world (r.context s)).2.state.Objects := hspares.objects (hobjects.carried r.envelope)
  rcases henter : d.proxy.enter r.world (r.context s) with ⟨e | stage, ctx₁⟩
  · rw [henter] at hentry
    exact hentry.trans (hserved (reach_fails henter))
  · rw [henter] at hentry hwellFormed
    cases stage with
    | answered x => exact hentry.trans (hserved (reach_entered henter))
    | request request i pin =>
      have hleg : Spares d.keptResponses ctx₁
          (Proxy.requestServices r.world (d.proxy.microservices.drop i) request ctx₁).2 := by
        refine Proxy.requestServices_keeps r.world (fun ms hms request => ?_) request ctx₁
        obtain ⟨service, _, rfl⟩ := service_found (List.mem_of_mem_drop hms)
        exact processRequest_keptResponses service r.world request
      have hbehind : Spares (d.assured []) _ _ :=
        spares_targets.behind_request (p := d.proxy) r.world request i pin ctx₁
      rw [← reach_entered henter] at hbehind
      exact ((hentry.trans (KeepsGood.of_spared hleg)).trans (KeepsGood.of_spared (spared_of_assured hbehind))).trans
        (hserved rfl)
    | response response i =>
      have hmap : d.proxy.microservices.drop i = (d.services.drop i).map (·.microService) := List.map_drop.symm
      have hleg := hg.leg_keeps (w := r.world) hnames (i := i) rfl hwellFormed (hentered response i ctx₁ henter)
      rw [← hmap] at hleg
      have hbehind : Spares (d.assured []) _ _ :=
        spares_targets.behind_response (p := d.proxy) r.world response i ctx₁
      rw [← reach_entered henter] at hbehind
      exact ((hentry.trans hleg).trans (KeepsGood.of_spared (spared_of_assured hbehind))).trans (hserved rfl)

/-- What a request delivers to a frontend has the property. -/
def Delivers (d : Deployment W) (Good : InternalData → Prop) (s : State) (r : Exchange W) : Prop :=
  ∀ frontend response ctx', d.proxy.reach r.world (r.context s) = (.ok (.deliver frontend response), ctx') → Good response

theorem Passage.delivers (hg : d.Passage k Good)
    (hentered : ∀ response i ctx₁, d.proxy.enter r.world (r.context s) = (.ok (.response response i), ctx₁) → k < i →
      Good response) : d.Delivers Good s r := by
  intro frontend response ctx' h
  obtain ⟨entered, i, ctx₁, ctx₂, _, henter, hservices, _⟩ := Proxy.reach_deliver h
  have hmap : d.proxy.microservices.drop i = (d.services.drop i).map (·.microService) := List.map_drop.symm
  have hcontinued := (Proxy.continued_of_services hservices i).1
  rw [hmap] at hcontinued
  exact hg.continued rfl (hentered entered i ctx₁ henter) hcontinued

/-- **On every run a frontend gets only responses that went through the gate**, as
long as no account kept behind it names one of the attributes. -/
theorem Gate.upheld (hg : d.Gate k P Good) (hnames : d.NamesApart) (statusHint : Error → Nat) (rs : List (Exchange W))
    (hadds : Along (d.proxy.serve statusHint) (d.AddsNone k P) State.new rs) :
    Along (d.proxy.serve statusHint) (d.Delivers Good) State.new rs := by
  have hstart : State.new.Objects ∧ d.KeptGood k Good State.new :=
    ⟨State.objects_new, fun p view _ v hv => (by cases hv)⟩
  have hentered : ∀ s r, s.Objects ∧ d.KeptGood k Good s → d.AddsNone k P s r → ∀ response i ctx₁,
      d.proxy.enter r.world (r.context s) = (.ok (.response response i), ctx₁) → k < i → Good response :=
    fun s r hinv hr response i ctx₁ henter hi => hg.entered hr (hinv.2.opened r) henter hi
  have hkeeps : ∀ s r, s.Objects ∧ d.KeptGood k Good s → d.AddsNone k P s r →
      (d.proxy.serve statusHint s r).Objects ∧ d.KeptGood k Good (d.proxy.serve statusHint s r) := by
    intro s r hinv hr
    exact ⟨serve_objects hinv.1, hinv.2.keeps (hg.toPassage.serve_keeps hnames hinv.1 (hentered s r hinv hr))⟩
  have hdelivers : ∀ s r, s.Objects ∧ d.KeptGood k Good s → d.AddsNone k P s r → d.Delivers Good s r :=
    fun s r hinv hr => hg.toPassage.delivers (hentered s r hinv hr)
  exact Along.of_invariant hkeeps hdelivers hstart hadds

end

end Deployment

/-! ## The release boundary -/

/-- The same requester, and no attribute more. -/
structure Narrows (data next : InternalData) : Prop where
  requester : next.requester = data.requester
  names : ∀ name, next.attributes.contains name = true → data.attributes.contains name = true

theorem SameButLoa.narrows {data next : InternalData} (h : SameButLoa data next) : Narrows data next := by
  rw [h]
  exact ⟨rfl, fun _ hname => hname⟩

def Transform.Narrow {W : Type} (t : Transform W) : Prop :=
  ∀ w data ctx next ctx', t.processResponse w data ctx = (.ok next, ctx') → Narrows data next

def Transform.onResponse {W : Type} (name : String) (processResponse : InternalData → Flow InternalData)
    (h : ∀ data, Action.Keeps Untouched (processResponse data)) : Transform W where
  name
  processResponse _ data := processResponse data
  requestUntouched _ data := Action.keeps_pure data
  responseUntouched _ data := h data

def FilterAttributes.transform (W : Type) (p : FilterAttributes) : Transform W :=
  .onResponse p.name p.processResponse fun _ => Action.keeps_pure _

def FilterAttributeValues.transform (W : Type) (p : FilterAttributeValues) : Transform W :=
  .onResponse p.name p.processResponse fun _ => Action.keeps_pure _

theorem AttributeAuthorization.untouched (p : AttributeAuthorization) (data : InternalData) :
    Action.Keeps Untouched (p.processResponse data) := by
  intro ctx
  rcases p.processResponse_cases data ctx with ⟨_, hrun⟩ | ⟨_, hrun⟩
  · rw [hrun]
    exact Action.Frame.refl ctx
  · rw [hrun]
    exact Action.Frame.refl ctx

def AttributeAuthorization.transform (W : Type) (p : AttributeAuthorization) : Transform W :=
  .onResponse p.name p.processResponse p.untouched

section
variable {W : Type}

theorem FilterAttributes.narrow (p : FilterAttributes) : (p.transform W).Narrow := by
  intro w data ctx next ctx' h
  have hrun : p.processResponse data ctx = (.ok next, ctx') := h
  cases hrun
  refine ⟨rfl, fun name hname => ?_⟩
  obtain ⟨values, hget⟩ := SortedMap.contains_iff.mp hname
  rw [p.get_filtered] at hget
  split at hget
  · exact SortedMap.contains_iff.mpr ⟨values, hget⟩
  · cases hget

theorem FilterAttributeValues.narrow (p : FilterAttributeValues) : (p.transform W).Narrow := by
  intro w data ctx next ctx' h
  have hrun : p.processResponse data ctx = (.ok next, ctx') := h
  cases hrun
  refine ⟨rfl, fun name hname => ?_⟩
  obtain ⟨values, hget⟩ := SortedMap.contains_iff.mp hname
  simp only [p.filtered_eq, SortedMap.get_mapValues] at hget
  obtain ⟨held, hheld, _⟩ := Option.map_eq_some_iff.mp hget
  exact SortedMap.contains_iff.mpr ⟨held, hheld⟩

theorem AttributeAuthorization.continues {p : AttributeAuthorization} {w : W} {data next : InternalData} {ctx ctx' : Context}
    (h : (p.transform W).processResponse w data ctx = (.ok next, ctx')) : next = data ∧ p.Authorizes data := by
  have hown : p.processResponse data ctx = (.ok next, ctx') := h
  rcases p.processResponse_cases data ctx with ⟨hauthorizes, hrun⟩ | ⟨_, hrun⟩
  · cases hrun.symm.trans hown
    exact ⟨rfl, hauthorizes⟩
  · cases hrun.symm.trans hown

theorem AttributeAuthorization.narrow (p : AttributeAuthorization) : (p.transform W).Narrow := by
  intro w data ctx next ctx' h
  obtain ⟨rfl, _⟩ := AttributeAuthorization.continues h
  exact ⟨rfl, fun _ hname => hname⟩

/-- Every attribute is permitted to the requester, or one of those added. -/
def FilterAttributes.Released (filter : FilterAttributes) (added : List String) (data : InternalData) : Prop :=
  ∀ name, data.attributes.contains name = true →
    filter.permits (data.requester.getD "") name = true ∨ name ∈ added

/-- The attributes a response has and the one it was made of has not. -/
def newNames (kept data : InternalData) : List String :=
  data.attributes.entries.keys.filter fun name => !kept.attributes.contains name

theorem mem_newNames {kept data : InternalData} {name : String} :
    name ∈ newNames kept data ↔ data.attributes.contains name = true ∧ kept.attributes.contains name = false := by
  unfold newNames SortedMap.contains
  rw [List.mem_filter, SortedMap.mem_keys, Bool.not_eq_true', ← SortedMap.contains]

namespace FilterAttributes.Released

variable {filter : FilterAttributes} {added : List String} {data next : InternalData}

theorem narrows (h : filter.Released added data) (hn : Narrows data next) : filter.Released added next := by
  intro name hname
  rw [hn.requester]
  exact h name (hn.names name hname)

/-- A response made of another has what was added to that one, and what is new. -/
theorem extended (h : filter.Released added data) (hrequester : next.requester = data.requester) :
    filter.Released (added ++ newNames data next) next := by
  intro name hname
  by_cases hold : data.attributes.contains name = true
  · rw [hrequester]
    exact (h name hold).imp_right fun hmem => List.mem_append_left _ hmem
  · refine .inr (List.mem_append_right _ (mem_newNames.mpr ⟨hname, ?_⟩))
    simpa using hold

end FilterAttributes.Released

/-- What completes a kept response adds nothing but what the account's provider
asserts as its assurance. -/
theorem StepUp.CompletionFrame.newNames {mapper : AttributeMapper} {snapshot : StepupSnapshot}
    {answer data : InternalData} {assurance : String} (h : StepUp.CompletionFrame mapper snapshot answer data assurance) :
    ∀ name ∈ newNames snapshot.response data, name = assurance ∧ answer.attributes.contains name = true := by
  intro name hname
  obtain ⟨hnew, hold⟩ := mem_newNames.mp hname
  have hassurance : name = assurance := by
    refine Decidable.byContradiction fun hne => ?_
    unfold SortedMap.contains at hnew hold
    rw [h.others name hne, hold] at hnew
    cases hnew
  subst hassurance
  refine ⟨rfl, ?_⟩
  cases hanswer : answer.attributes.get name with
  | some values => simp [SortedMap.contains, hanswer]
  | none =>
    rw [h.unasserted hanswer, hold] at hnew
    cases hnew

namespace Deployment

variable {d : Deployment W} {k : Nat} {filter : FilterAttributes}

theorem released_passage (hk : d.services[k]? = some (.transform (filter.transform W)))
    (hbehind : ∀ t, .transform t ∈ d.services.drop (k + 1) → t.Narrow) (added : List String) :
    d.Passage k (filter.Released added) where
  stands := by
    refine ⟨_, hk, fun p view => (by simp), fun w response ctx next ctx' h => ?_⟩
    obtain ⟨next', _, hrun, hret⟩ := Action.bind_ok.mp h
    have hown : filter.processResponse response ctx = _ := hrun
    cases hret
    cases hown
    intro name hname
    obtain ⟨values, hget⟩ := SortedMap.contains_iff.mp hname
    rw [filter.get_filtered] at hget
    split at hget
    next hpermits => exact .inl hpermits
    next => cases hget
  kept := by
    intro s hs w response ctx next ctx' hgood h
    rcases Service.continues_cases h with hsame | ⟨t, rfl, hrun⟩
    · exact hgood.narrows hsame.narrows
    · exact hgood.narrows (hbehind t hs w response ctx next ctx' hrun)

/-! ### What the exchanges of the step-ups add -/

/-- The state; and by the position of a step-up, the attributes that second
exchanges added to the response it keeps. -/
structure ReleaseLedger where
  state : State := State.new
  added : Nat → List String := fun _ => []

def keptResponse (d : Deployment W) (s : State) (i : Nat) : Option InternalData :=
  match d.services[i]? with
  | some (.stepup p _) =>
    ((s.getValue p.stateNamespace KEY_SNAPSHOT).bind StepupSnapshot.fromJson).map (·.response)
  | _ => none

/-- The attributes added to a response that enters the leg past a position: those
added to the response kept, and those of the exchange that completes it. -/
def addedOnEntry (d : Deployment W) (k : Nat) (l : ReleaseLedger) (r : Exchange W) : List String :=
  match d.proxy.enter r.world (r.context l.state) with
  | (.ok (.response response (i + 1)), _) =>
    if k < i + 1 then
      l.added i ++ ((d.keptResponse (r.context l.state).state i).elim [] fun kept => newNames kept response)
    else []
  | _ => []

/-- A response newly kept has what was added to the one that entered. -/
def releaseStep (d : Deployment W) (statusHint : Error → Nat) (k : Nat) (l : ReleaseLedger) (r : Exchange W) :
    ReleaseLedger where
  state := d.proxy.serve statusHint l.state r
  added i :=
    if d.keptResponse (d.proxy.serve statusHint l.state r) i = d.keptResponse l.state i then l.added i
    else d.addedOnEntry k l r

/-- What a request releases behind the filter. -/
structure Releases (d : Deployment W) (k : Nat) (filter : FilterAttributes) (l : ReleaseLedger) (r : Exchange W) :
    Prop where
  /-- A frontend gets what is permitted, and what second exchanges added. -/
  delivered : d.Delivers (filter.Released (d.addedOnEntry k l r)) l.state r
  /-- An exchange adds the attribute that the account kept names as its assurance,
  and only where the account's provider asserts it. -/
  confirmed : ∀ response i ctx₁, d.proxy.enter r.world (r.context l.state) = (.ok (.response response (i + 1)), ctx₁) →
    ∃ p view snapshot answer after assurance, d.services[i]? = some (.stepup p view) ∧
      p.snapshot (r.context l.state) = .ok snapshot ∧
      p.saml.handleEndpoint (view r.world) "acs" (r.context l.state) = (.ok (.authResponse answer), after) ∧
      internalNameForExternal p.mapper snapshot.account.assurance snapshot.policy.behavior = .ok assurance ∧
      ∀ name ∈ newNames snapshot.response response, name = assurance ∧ answer.attributes.contains name = true

/-- The responses kept have what is permitted, and what was added to them. -/
structure Tracks (d : Deployment W) (k : Nat) (filter : FilterAttributes) (l : ReleaseLedger) : Prop where
  objects : l.state.Objects
  kept : ∀ i p view, k < i + 1 → d.services[i]? = some (.stepup p view) → ∀ v,
    l.state.getValue p.stateNamespace KEY_SNAPSHOT = some v →
    ∃ snapshot : StepupSnapshot, v = snapshot.toJson ∧ filter.Released (l.added i) snapshot.response

section
variable {l : ReleaseLedger} {r : Exchange W} {statusHint : Error → Nat}

theorem keptResponse_value {s : State} {i : Nat} {p : StepUp} {view : W → SamlWorld} {snapshot : StepupSnapshot}
    (hs : d.services[i]? = some (.stepup p view))
    (hv : s.getValue p.stateNamespace KEY_SNAPSHOT = some snapshot.toJson) :
    d.keptResponse s i = some snapshot.response := by
  unfold keptResponse
  simp only [hs, hv, Option.bind_some, StepupSnapshot.fromJson_toJson, Option.map_some]

/-- **A response that enters past the filter has what is permitted, and what was
added to it.** -/
theorem Tracks.entered (h : d.Tracks k filter l) {response : InternalData} {i : Nat} {ctx₁ : Context}
    (henter : d.proxy.enter r.world (r.context l.state) = (.ok (.response response i), ctx₁)) (hi : k < i) :
    filter.Released (d.addedOnEntry k l r) response := by
  cases i with
  | zero => omega
  | succ i =>
    obtain ⟨p, view, snapshot, answer, after, assurance, hservice, hsnapshot, _, hframe⟩ := resumed_entry henter
    obtain ⟨v, hv, hread⟩ := snapshot_value hsnapshot
    have hopened : l.state.Spared d.keptResponses (r.context l.state).state := State.spared_carried l.state r.envelope
    have hold := hopened.value _ _ v ⟨rfl, p, view, List.mem_of_getElem? hservice, rfl⟩ hv
    obtain ⟨kept, rfl, hgood⟩ := h.kept i p view hi hservice v hold
    rw [StepupSnapshot.fromJson_toJson] at hread
    cases hread
    have hentry : d.addedOnEntry k l r = l.added i ++ newNames snapshot.response response := by
      unfold addedOnEntry
      simp only [henter, if_pos hi, keptResponse_value hservice hv, Option.elim_some]
    rw [hentry]
    exact hgood.extended (by rw [hframe.kept])

theorem Tracks.step (h : d.Tracks k filter l) (hnames : d.NamesApart)
    (hpassage : ∀ added, d.Passage k (filter.Released added)) : d.Tracks k filter (d.releaseStep statusHint k l r) where
  objects := serve_objects h.objects
  kept := by
    intro i p view hi hservice v hv
    have hentered : ∀ response i ctx₁, d.proxy.enter r.world (r.context l.state) = (.ok (.response response i), ctx₁) →
        k < i → filter.Released (d.addedOnEntry k l r) response := fun response i ctx₁ henter hi => h.entered henter hi
    have hv' : (d.proxy.serve statusHint l.state r).getValue p.stateNamespace KEY_SNAPSHOT = some v := hv
    have hadded : (d.releaseStep statusHint k l r).added i =
        if d.keptResponse (d.proxy.serve statusHint l.state r) i = d.keptResponse l.state i then l.added i
        else d.addedOnEntry k l r := rfl
    rw [hadded]
    rcases (hpassage (d.addedOnEntry k l r)).serve_keeps hnames h.objects hentered p view ((hpassage []).behind hservice hi)
        v hv' with hold | ⟨snapshot, rfl, hgood⟩
    · -- kept since before
      obtain ⟨snapshot, rfl, hgood⟩ := h.kept i p view hi hservice v hold
      rw [if_pos ((keptResponse_value hservice hv').trans (keptResponse_value hservice hold).symm)]
      exact ⟨snapshot, rfl, hgood⟩
    · refine ⟨snapshot, rfl, ?_⟩
      split
      next hsame =>
        -- the same response was kept before
        rw [keptResponse_value hservice hv'] at hsame
        obtain ⟨before, hbefore, hresponse⟩ : ∃ before : StepupSnapshot,
            l.state.getValue p.stateNamespace KEY_SNAPSHOT = some before.toJson ∧ before.response = snapshot.response := by
          have hsome := hsame.symm
          unfold keptResponse at hsome
          simp only [hservice, Option.map_eq_some_iff, Option.bind_eq_some_iff] at hsome
          obtain ⟨before, ⟨v', hv', hread⟩, hresponse⟩ := hsome
          obtain ⟨kept, rfl, _⟩ := h.kept i p view hi hservice v' hv'
          rw [StepupSnapshot.fromJson_toJson] at hread
          cases hread
          exact ⟨before, hv', hresponse⟩
        obtain ⟨kept, hkept, hreleased⟩ := h.kept i p view hi hservice _ hbefore
        have heq := congrArg StepupSnapshot.fromJson hkept
        rw [StepupSnapshot.fromJson_toJson, StepupSnapshot.fromJson_toJson] at heq
        cases heq
        rw [← hresponse]
        exact hreleased
      next => exact hgood

theorem Tracks.releases (h : d.Tracks k filter l) (hpassage : ∀ added, d.Passage k (filter.Released added)) :
    d.Releases k filter l r where
  delivered := (hpassage _).delivers fun _ _ _ henter hi => h.entered henter hi
  confirmed := by
    intro response i ctx₁ henter
    obtain ⟨p, view, snapshot, answer, after, assurance, hservice, hsnapshot, hanswer, hframe⟩ := resumed_entry henter
    exact ⟨p, view, snapshot, answer, after, assurance, hservice, hsnapshot, hanswer, hframe.mapped, hframe.newNames⟩

end

/-- **A frontend releases only what the filter permits to the requester, or what
the second exchanges of the step-ups behind it added to the very response**, on
every run and over any suspensions, where the other services behind the filter
add no attribute. -/
theorem release_bounded (d : Deployment W) (statusHint : Error → Nat) (hnames : d.NamesApart) (filter : FilterAttributes)
    (k : Nat) (hk : d.services[k]? = some (.transform (filter.transform W)))
    (hbehind : ∀ t, .transform t ∈ d.services.drop (k + 1) → t.Narrow) (rs : List (Exchange W)) :
    Along (d.releaseStep statusHint k) (d.Releases k filter) {} rs := by
  have hpassage := released_passage (d := d) hk hbehind
  have hstart : d.Tracks k filter {} := ⟨State.objects_new, fun _ _ _ _ _ v hv => by cases hv⟩
  have hall : Along (d.releaseStep statusHint k) (fun _ _ => True) {} rs := Along.of_forall (fun _ _ => trivial) rs
  exact Along.of_invariant (fun l r hl _ => hl.step hnames hpassage) (fun l r hl _ => hl.releases hpassage) hstart hall

end Deployment

end

/-! ## Authorization -/

/-- The same requester and issuer, and the same of the attributes. -/
structure Leaves (P : String → Prop) (data next : InternalData) : Prop where
  requester : next.requester = data.requester
  issuer : next.authInfo.issuer = data.authInfo.issuer
  attributes : ∀ name, P name → next.attributes.get name = data.attributes.get name

theorem SameButLoa.leaves {P : String → Prop} {data next : InternalData} (h : SameButLoa data next) :
    Leaves P data next := by
  rw [h]
  exact ⟨rfl, rfl, fun _ _ => rfl⟩

def Transform.Leaving {W : Type} (P : String → Prop) (t : Transform W) : Prop :=
  ∀ w data ctx next ctx', t.processResponse w data ctx = (.ok next, ctx') → Leaves P data next

namespace AttributeAuthorization

def Reads (p : AttributeAuthorization) (name : String) : Prop :=
  ∃ requester provider set, (rules p.attributeAllow requester provider = some set ∨
    rules p.attributeDeny requester provider = some set) ∧ set.get name ≠ none

/-- **What is authorized stays so while the attributes the rules name do.** -/
theorem Authorizes.leaves {p : AttributeAuthorization} {data next : InternalData} (h : p.Authorizes data)
    (hn : Leaves p.Reads data next) : p.Authorizes next where
  allowed set hset attr regexes hget := by
    rw [hn.requester, hn.issuer] at hset
    have hreads : p.Reads attr := ⟨_, _, set, .inl hset, by simp [hget]⟩
    unfold Allowed
    rw [hn.attributes attr hreads]
    exact h.allowed set hset attr regexes hget
  undenied set hset attr regexes hget := by
    rw [hn.requester, hn.issuer] at hset
    have hreads : p.Reads attr := ⟨_, _, set, .inr hset, by simp [hget]⟩
    unfold Undenied
    rw [hn.attributes attr hreads]
    exact h.undenied set hset attr regexes hget

end AttributeAuthorization

namespace Deployment

variable {W : Type} {d : Deployment W}

theorem authorized_gate {k : Nat} {authz : AttributeAuthorization}
    (hk : d.services[k]? = some (.transform (authz.transform W)))
    (hbehind : ∀ t, .transform t ∈ d.services.drop (k + 1) → t.Leaving authz.Reads) :
    d.Gate k authz.Reads authz.Authorizes where
  stands := by
    refine ⟨_, hk, fun p view => (by simp), fun w response ctx next ctx' h => ?_⟩
    obtain ⟨next', _, hrun, hret⟩ := Action.bind_ok.mp h
    obtain ⟨rfl, hauthorizes⟩ := AttributeAuthorization.continues hrun
    cases hret
    exact hauthorizes
  kept := by
    intro s hs w response ctx next ctx' hgood h
    rcases Service.continues_cases h with hsame | ⟨t, rfl, hrun⟩
    · exact hgood.leaves hsame.leaves
    · exact hgood.leaves (hbehind t hs w response ctx next ctx' hrun)
  completed := by
    intro p view hp snapshot response data assurance hframe hunread hgood
    refine hgood.leaves ⟨by rw [hframe.kept], by rw [hframe.kept], fun name hname => ?_⟩
    exact hframe.others name fun hsame => hunread (hsame ▸ hname)

/-- **What a frontend renders satisfies the rules**, on every run and over any
suspensions, where the services behind the authorization leave what its rules
name, and no account that a step-up behind it keeps names such an attribute. -/
theorem authorization_upheld (d : Deployment W) (statusHint : Error → Nat) (hnames : d.NamesApart)
    (authz : AttributeAuthorization) (k : Nat) (hk : d.services[k]? = some (.transform (authz.transform W)))
    (hbehind : ∀ t, .transform t ∈ d.services.drop (k + 1) → t.Leaving authz.Reads) (rs : List (Exchange W))
    (hadds : Along (d.proxy.serve statusHint) (d.AddsNone k authz.Reads) State.new rs) :
    Along (d.proxy.serve statusHint) (d.Delivers authz.Authorizes) State.new rs :=
  (authorized_gate hk hbehind).upheld hnames statusHint rs hadds

end Deployment

/-! ## A filter before the authorization -/

/-- Staff only, and nothing but the affiliation and the mail address. -/
def mailOnly : FilterAttributes where
  name := "filter"
  allowed := some ["affiliation", "mail"]
  policy := .empty
  passthroughUnmatched := false
  explicit := fun _ he => absurd he List.not_mem_nil

def staffOnly : AttributeAuthorization where
  name := "authz"
  attributeAllow := .ofList [("default", .ofList [("default", .ofList [("affiliation", [fun v => v = "staff"])])])]
  attributeDeny := .empty
  forceAttributesPresenceOnAllow := true
  forceAttributesPresenceOnDeny := false

/-- The attributes of a provider's staff, and of a second one's accounts. -/
def staffMap : AttributeMapper where
  attributes := .ofList [("affiliation", .ofList [("openid", { names := ["eduperson_affiliation"] })]),
    ("assurance", .ofList [("saml", { names := ["eduPersonAssurance"] })]),
    ("eppn", .ofList [("saml", { names := ["eduPersonPrincipalName"] })]),
    ("mail", .ofList [("openid", { names := ["email"] })])]

/-- Links an account of the second provider to whoever signs in. -/
def linking {W : Type} : Transform W :=
  .onResponse "link" (fun data => do
    Flow.decorate KEY_MFA_STEPUP_ACCOUNTS
      (.arr [({ entityId := "https://idp.example", identifier := "anna@idp" } : MfaStepupAccount).toJson])
    return data) fun _ _ => ⟨rfl, rfl, rfl⟩

theorem linking_passes {W : Type} {w : W} {data next : InternalData} {ctx ctx' : Context}
    (h : linking.processResponse w data ctx = (.ok next, ctx')) : next = data := by
  cases h
  rfl

def secondFactor : StepUp where
  name := "mfa"
  mfa := {}
  saml := { Saml2Backend.discovering with
    name := "mfa", stateNamespace := "stepup_saml:mfa", requestSubject := true, mapper := staffMap }
  mapper := staffMap
  mfaValid := rfl
  samlNamespace := rfl
  samlSubject := rfl

/-- Neither the affiliation nor the mail address is an attribute of the accounts. -/
theorem secondFactor_maps {external name : String} {behavior : StepupBehavior}
    (h : internalNameForExternal secondFactor.mapper external behavior = .ok name) : name = "assurance" ∨ name = "eppn" := by
  have hstaff : secondFactor.mapper.attributes.entries =
      [("affiliation", ⟨[("openid", { names := ["eduperson_affiliation"] })], List.pairwise_singleton _ _⟩),
        ("assurance", ⟨[("saml", { names := ["eduPersonAssurance"] })], List.pairwise_singleton _ _⟩),
        ("eppn", ⟨[("saml", { names := ["eduPersonPrincipalName"] })], List.pairwise_singleton _ _⟩),
        ("mail", ⟨[("openid", { names := ["email"] })], List.pairwise_singleton _ _⟩)] := rfl
  have hentries : secondFactor.mapper.attributes.entries.filterMap (fun p =>
      (p.2.get "saml").bind fun mapping => if mapping.keys.contains external then some p.1 else none) =
      (if external = "eduPersonAssurance" then ["assurance"] else []) ++
        (if external = "eduPersonPrincipalName" then ["eppn"] else []) := by
    by_cases hassurance : external = "eduPersonAssurance"
    · subst hassurance
      rfl
    · by_cases heppn : external = "eduPersonPrincipalName"
      · subst heppn
        rfl
      · rw [hstaff]
        simp [SortedMap.get, Assoc.get, ProfileAttribute.keys, hassurance, heppn]
  unfold internalNameForExternal at h
  simp only [hentries] at h
  by_cases hassurance : external = "eduPersonAssurance"
  · subst hassurance
    cases h
    exact .inl rfl
  · by_cases heppn : external = "eduPersonPrincipalName"
    · subst heppn
      cases h
      exact .inr rfl
    · simp [hassurance, heppn] at h

namespace Deployment

def steppedProxy (services : List (Service (SamlWorld × OidcWorld))) : Deployment (SamlWorld × OidcWorld) :=
  { samlProxy (services ++ [.transform linking, .stepup secondFactor Prod.fst]) with
    backends := [.oidc { name := "Upstream", clientId := "proxy", redirectUri := "https://proxy.example/callback"
                         issuer := some "https://op.example", authorizationEndpoint := some "https://op.example/authorize"
                         tokenEndpoint := some "https://op.example/token", jwksUri := some "https://op.example/jwks"
                         mapper := staffMap }
      Prod.snd] }

/-- The accounts of the second provider have no other attributes. -/
theorem steppedProxy_adds {services : List (Service (SamlWorld × OidcWorld))}
    (hplain : ∀ p view, .stepup p view ∉ services) {P : String → Prop} (hassurance : ¬ P "assurance") (heppn : ¬ P "eppn")
    (k : Nat) (s : State) (r : Exchange (SamlWorld × OidcWorld)) : (steppedProxy services).AddsNone k P s r := by
  intro p view hp snapshot assurance _ hmapped
  have hp' : .stepup p view ∈ services ++ [.transform linking, .stepup secondFactor Prod.fst] := List.mem_of_mem_drop hp
  have hstep : p = secondFactor := by
    rcases List.mem_append.mp hp' with hfront | hlast
    · exact absurd hfront (hplain p view)
    · simp only [List.mem_cons, List.not_mem_nil, or_false, reduceCtorEq, false_or, Service.stepup.injEq] at hlast
      exact hlast.1
  subst hstep
  rcases secondFactor_maps hmapped with rfl | rfl
  · exact hassurance
  · exact heppn

/-- The provider releases a phone number, too. -/
def staffWorld (sp : SamlWorld) (n : String) : SamlWorld × OidcWorld :=
  (sp, { RpBackend.oneOp n with
    claimsToAttributes := fun _ => .ofList [("eduperson_affiliation", ["staff"]), ("email", ["anna@example.org"]),
      ("phone_number", ["+46 8 000"])] })

/-- The second provider confirms the account, with an assurance. -/
def confirmingIdp : SamlWorld :=
  { Saml2Backend.answering "_q" with
    parseXml := fun _ => .ok {
      response := .ok { Saml2Backend.answer with
        inResponseTo := some "_r"
        assertions := [{
          id := "_a1"
          issuer := "https://idp.example"
          nameId := some (.nameId { value := "anna", format := some NAMEID_PERSISTENT })
          authnStatements := [{ authnContextClassRef := some REFEDS_MFA }]
          attributeStatements := [[{ name := "eduPersonPrincipalName", values := [.string "anna@idp"] },
            { name := "eduPersonAssurance", values := [.string "al2"] }]] }] }
      assertionSources := some [some "<Assertion/>"] } }

/-- A sign-in of an SP that asks for MFA, and the provider's answer to it. -/
def staffLogin : List (Exchange (SamlWorld × OidcWorld)) :=
  [{ world := staffWorld askingSp "2"
     request := { path := "Saml2/sso", query := [("SAMLRequest", "x")] }
     envelope := none },
    { world := staffWorld askingSp "3"
      request := { path := "Upstream/callback", query := [("code", "c"), ("state", "state-2")] }
      envelope := some 0 }]

def secondAnswer : Exchange (SamlWorld × OidcWorld) where
  world := staffWorld confirmingIdp "4"
  request := { path := "mfa/acs", form := [("SAMLResponse", "x")] }
  envelope := some 0

/-- The attributes a frontend gets when the second provider has answered. -/
def rendered (d : Deployment (SamlWorld × OidcWorld)) : Option (Assoc (List String)) :=
  match d.proxy.reach secondAnswer.world (secondAnswer.context (staffLogin.foldl (d.proxy.serve fun _ => 500) State.new)) with
  | (.ok (.deliver _ response), _) => some response.attributes.entries
  | _ => none

def guardedProxy : Deployment (SamlWorld × OidcWorld) :=
  steppedProxy [.transform (mailOnly.transform _), .transform (staffOnly.transform _)]

/-- The response is kept, confirmed and rendered: with the assurance and without
the phone number. -/
theorem guardedProxy_rendered :
    guardedProxy.rendered = some [("affiliation", ["staff"]), ("assurance", ["al2"]), ("mail", ["anna@example.org"])] := by
  decide +kernel

theorem release_bounded_demo :
    Along (guardedProxy.releaseStep (fun _ => 500) 0) (guardedProxy.Releases 0 mailOnly) {}
        (staffLogin ++ [secondAnswer]) ∧
      guardedProxy.rendered =
        some [("affiliation", ["staff"]), ("assurance", ["al2"]), ("mail", ["anna@example.org"])] ∧
      guardedProxy.addedOnEntry 0 (staffLogin.foldl (guardedProxy.releaseStep (fun _ => 500) 0) {}) secondAnswer =
        ["assurance"] := by
  have hnames : guardedProxy.NamesApart := by decide
  have hk : guardedProxy.services[0]? = some (.transform (mailOnly.transform _)) := rfl
  refine ⟨release_bounded guardedProxy (fun _ => 500) hnames mailOnly 0 hk (fun t ht => ?_) (staffLogin ++ [secondAnswer]),
    guardedProxy_rendered, by decide +kernel⟩
  have ht' : t = staffOnly.transform _ ∨ t = linking := by simpa [guardedProxy, steppedProxy, samlProxy] using ht
  rcases ht' with rfl | rfl
  · exact staffOnly.narrow
  · intro w data ctx next ctx' h
    rw [linking_passes h]
    exact ⟨rfl, fun _ hname => hname⟩

theorem level_default {α : Type} (x : α) (key : String) : level (.ofList [("default", x)]) key = some x := by
  have hget : ∀ name, (SortedMap.ofList [("default", x)]).get name = if "default" = name then some x else none :=
    fun name => SortedMap.get_insert .empty "default" name x
  unfold level
  rw [hget, hget, hget]
  by_cases hkey : "default" = key <;> simp [hkey]

theorem staffOnly_reads {name : String} (h : staffOnly.Reads name) : name = "affiliation" := by
  obtain ⟨requester, provider, set, hset, hget⟩ := h
  rcases hset with hallow | hdeny
  · have hrules : AttributeAuthorization.rules staffOnly.attributeAllow requester provider =
        some (.ofList [("affiliation", [fun v => v = "staff"])]) := by
      have houter : level staffOnly.attributeAllow requester = some (.ofList [("default", .ofList
        [("affiliation", [fun v => v = "staff"])])]) := level_default _ requester
      unfold AttributeAuthorization.rules
      rw [houter]
      exact level_default _ provider
    cases hrules.symm.trans hallow
    refine Decidable.byContradiction fun hne => hget ?_
    exact (SortedMap.get_insert _ _ _ _).trans (if_neg fun he => hne he.symm)
  · cases hdeny

theorem authorization_upheld_demo :
    Along (guardedProxy.proxy.serve fun _ => 500) (guardedProxy.Delivers staffOnly.Authorizes) State.new
        (staffLogin ++ [secondAnswer]) ∧ guardedProxy.rendered ≠ none := by
  have hreads : ∀ {name}, name ≠ "affiliation" → ¬ staffOnly.Reads name := fun hne h => hne (staffOnly_reads h)
  have hadds := @steppedProxy_adds [.transform (mailOnly.transform _), .transform (staffOnly.transform _)] (by simp) _
    (hreads (by decide)) (hreads (by decide)) 1
  refine ⟨authorization_upheld guardedProxy (fun _ => 500) (by decide) staffOnly 1 rfl (fun t ht => ?_) _
    (Along.of_forall hadds _), by simp [guardedProxy_rendered]⟩
  obtain rfl : t = linking := by simpa [guardedProxy, steppedProxy, samlProxy] using ht
  intro w data ctx next ctx' h
  rw [linking_passes h]
  exact ⟨rfl, rfl, fun _ _ => rfl⟩

end Deployment

end Tunnelbana
