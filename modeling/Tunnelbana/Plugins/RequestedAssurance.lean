/-
The assurance an SP asks for, across discovery. On the request leg `accr` and
`stepup` record what was asked for, from a decoration of that request; on the
response leg they hold the response against the record. A return from discovery
runs the services behind it a second time, without the decoration: none of
those may have recorded anything. The others find what the flow recorded, as
long as no newer flow was let through there before it was refused, and no
earlier response has used the record up (`assurance_enforced`).
-/
import Tunnelbana.Plugins.AssuranceRecords
import Tunnelbana.Plugins.RecipientAgreement

namespace Tunnelbana

open Basis

/-! ## The ledger -/

/-- What a flow asks of the services: the classes its SP asks for, and the
policies the step-ups computed. -/
structure AssuranceFlow where
  asked : List String
  policies : String → Option RequestPolicy

/-- The state and the positions that processed the response; the flow each
frontend started last, and the one each backend was started for last; the flow
each service let through last, by its position, which for a discovery is the one
its snapshot is of; and by namespace of a step-up the flow whose response it
keeps. -/
structure AssuranceLedger extends Proxy.PipelineLedger where
  started : String → Option AssuranceFlow := fun _ => none
  passed : Nat → Option AssuranceFlow := fun _ => none
  sent : String → Option AssuranceFlow := fun _ => none
  kept : String → Option AssuranceFlow := fun _ => none

/-- The flow a response answers: the one the frontend that gets it started last. -/
def AssuranceLedger.answered (l : AssuranceLedger) (ctx : Context) : Option AssuranceFlow :=
  (ctx.targetFrontend.or (Proxy.recordedFrontend ctx)).bind l.started

namespace Deployment

variable {W : Type} (d : Deployment W) (statusHint : Error → Nat)

/-- The flow whose response a request goes on with: the one the backend that
answers was started for, or the one whose response a step-up kept. -/
def producedOf (l : AssuranceLedger) (r : Exchange W) : Option AssuranceFlow :=
  (d.proxy.router.resolve r.request.path).bind fun m =>
    match m.kind with
    | .frontend => none
    | .backend => l.sent m.moduleName
    | .microService => l.kept ("stepup:" ++ m.moduleName)

/-- A response is one to the flow it was produced for, and to the one it answers. -/
def RespondsTo (l : AssuranceLedger) (r : Exchange W) (ctx : Context) (flow : AssuranceFlow) : Prop :=
  l.answered ctx = some flow ∨ d.producedOf l r = some flow

/-- The flow whose request leg starts there: a frontend starts a new one in front
of all services, and a return from discovery resumes the one let through last. -/
def flowFrom (l : AssuranceLedger) (w : W) (request : InternalData) (ctx : Context) : Nat → Option AssuranceFlow
  | 0 => some { asked := ctx.decorationStrings KEY_REQUESTED_ACCR, policies := policiesOf w d.services request ctx }
  | i + 1 => l.passed i

def assuranceStep (l : AssuranceLedger) (r : Exchange W) : AssuranceLedger where
  toPipelineLedger := d.proxy.pipelineStep statusHint l.toPipelineLedger r
  started :=
    match d.proxy.enter r.world (r.context l.state) with
    | (.ok (.request request 0 _), ctx) => fun name =>
      if ctx.targetFrontend = some name then d.flowFrom l r.world request ctx 0 else l.started name
    | _ => l.started
  passed :=
    match d.proxy.enter r.world (r.context l.state) with
    | (.ok (.request request startIndex _), ctx) =>
      d.proxy.passing r.world (d.flowFrom l r.world request ctx startIndex) startIndex request ctx l.passed
    | _ => l.passed
  sent :=
    match d.proxy.enter r.world (r.context l.state) with
    | (.ok (.request request startIndex _), ctx) =>
      match d.proxy.reach r.world (r.context l.state) with
      | (.ok (.start _ _), ctx') => fun name =>
        if ctx'.targetBackend = some name then d.flowFrom l r.world request ctx startIndex else l.sent name
      | _ => l.sent
    | _ => l.sent
  kept :=
    match d.proxy.enter r.world (r.context l.state) with
    | (.ok (.response response i), ctx) => fun ns =>
      if keeper r.world (d.services.drop i) response ctx = some ns then d.producedOf l r else l.kept ns
    | _ => l.kept

/-- What was asked is not lost. A return from discovery has nothing asked of the
services behind it, by the flow it resumes or by the one they let through last. A
response leg finds the records of the services it comes to, and what the flows of
its response asked was recorded last. A flow that asks for MFA starts with no
response kept for a step-up, and a service resumes what it suspended. -/
structure KeepsRecords (l : AssuranceLedger) (r : Exchange W) : Prop where
  resumed : ∀ request i pin ctx₁ j s flow,
    d.proxy.enter r.world (r.context l.state) = (.ok (.request request (i + 1) pin), ctx₁) → i < j →
    d.services[j]? = some s → l.passed i = some flow ∨ l.passed j = some flow → ¬ s.Asked flow.asked
  stored : ∀ response i ctx₁ j s flow,
    d.proxy.enter r.world (r.context l.state) = (.ok (.response response i), ctx₁) → i ≤ j →
    d.services[j]? = some s → l.passed j = some flow → s.Asked flow.asked →
    ∀ ns key, s.record = some (ns, key) → ctx₁.state.getValue ns key ≠ none
  own : ∀ response i ctx₁ j s flow,
    d.proxy.enter r.world (r.context l.state) = (.ok (.response response i), ctx₁) → i ≤ j + 1 →
    d.services[j]? = some s → d.RespondsTo l r ctx₁ flow → s.Asked flow.asked → l.passed j = some flow
  started : ∀ request pin ctx₁,
    d.proxy.enter r.world (r.context l.state) = (.ok (.request request 0 pin), ctx₁) →
    REFEDS_MFA ∈ ctx₁.decorationStrings KEY_REQUESTED_ACCR → ∀ p view, .stepup p view ∈ d.services →
    (r.context l.state).state.getValue p.stateNamespace KEY_SNAPSHOT = none
  suspended : d.proxy.ResumesSuspended l.toPipelineLedger r

variable {d}

/-! ## The invariant -/

/-- Every service finds upheld what the flow it let through last asked of it. -/
def UpheldBy (d : Deployment W) (passed : Nat → Option AssuranceFlow) (state : State) : Prop :=
  ∀ j s flow, d.services[j]? = some s → passed j = some flow → s.Asked flow.asked →
    s.Upheld flow.asked flow.policies state

/-- The state upholds what was asked, and the response has been through the
first services. -/
structure Upholds (d : Deployment W) (l : AssuranceLedger) : Prop where
  objects : l.state.Objects
  ran : Proxy.RanPrefix l.toPipelineLedger
  upheld : d.UpheldBy l.passed l.state

section
variable {l : AssuranceLedger} {r : Exchange W} {statusHint : Error → Nat} {passed : Nat → Option AssuranceFlow}

theorem UpheldBy.spared {s t : State} (h : d.UpheldBy passed s)
    (ht : ∀ asked, s.Spared (d.assured asked) t) : d.UpheldBy passed t := by
  intro j service flow hat hpassed hasks
  have hbefore := h j service flow hat hpassed hasks
  have hmem := List.mem_of_getElem? hat
  have hspared := ht flow.asked
  have hvalue : ∀ ns key v, service.record = some (ns, key) → t.getValue ns key = some v → s.getValue ns key = some v :=
    fun ns key v hrecord hv => hspared.value ns key v (.inl ⟨service, hmem, hasks, hrecord⟩) hv
  cases service with
  | disco disco => exact trivial
  | transform t => exact trivial
  | accr a => exact fun v hv => hbefore v (hvalue _ _ v rfl hv)
  | stepup p view =>
    obtain ⟨policy, hpolicy, hloas, hrequest, hsnapshot⟩ := hbefore
    refine ⟨policy, hpolicy, hloas, fun v hv => hrequest v (hvalue _ _ v rfl hv), fun v hv => ?_⟩
    exact hsnapshot v (hspared.value _ _ v (.inr ⟨rfl, p, view, hmem, rfl⟩) hv)

theorem Upholds.opened (h : d.Upholds l) (r : Exchange W) : d.UpheldBy l.passed (r.context l.state).state :=
  h.upheld.spared fun _ => State.spared_carried l.state r.envelope

theorem Upholds.entered (h : d.Upholds l) (r : Exchange W) :
    d.UpheldBy l.passed (d.proxy.enter r.world (r.context l.state)).2.state :=
  (h.opened r).spared fun _ => enter_assures r.world (r.context l.state)

/-- What a service recorded is upheld, when no response is kept for it. -/
theorem recorded_upheld {s : Service W} {asked : List String} {policies : String → Option RequestPolicy} {state : State}
    (h : s.Recorded asked policies state)
    (hfresh : ∀ p view, s = .stepup p view → state.getValue p.stateNamespace KEY_SNAPSHOT = none) :
    s.Upheld asked policies state := by
  cases s with
  | disco disco => exact trivial
  | transform t => exact trivial
  | accr a => exact fun v hv => Option.some.inj (hv.symm.trans h)
  | stepup p view =>
    obtain ⟨policy, hpolicy, hloas, hrequest⟩ := h
    refine ⟨policy, hpolicy, hloas, fun v hv => Option.some.inj (hv.symm.trans hrequest), fun v hv => ?_⟩
    rw [hfresh p view rfl] at hv
    cases hv

theorem serve_assures {asked : List String} {ctx₂ : Context} {result : Except Error (Outcome W)}
    (hreach : d.proxy.reach r.world (r.context l.state) = (result, ctx₂)) :
    ctx₂.state.Spared (d.assured asked) (d.proxy.serve statusHint l.state r) :=
  serve_spared statusHint hreach (fun f _ => downstream_assures f) fun b _ _ _ _ => upstream_assures b

theorem request_assures {asked : List String} {request : InternalData} {startIndex : Nat} {pin : Option String}
    {ctx₁ : Context} (henter : d.proxy.enter r.world (r.context l.state) = (.ok (.request request startIndex pin), ctx₁)) :
    (Proxy.requestServices r.world (d.proxy.microservices.drop startIndex) request ctx₁).2.state.Spared (d.assured asked)
      (d.proxy.serve statusHint l.state r) := by
  have hbehind : Spares (d.assured asked) _ _ :=
    spares_targets.behind_request (p := d.proxy) r.world request startIndex pin ctx₁
  rw [← reach_entered henter] at hbehind
  exact hbehind.trans (serve_assures rfl)

theorem keepsDelete (d : Deployment W) : d.proxy.PluginsKeep Proxy.KeepsDelete := by
  have hall : ∀ ns keys decorations, Permits Proxy.KeepsDelete ns keys decorations := fun _ _ _ =>
    ⟨fun _ _ _ _ => rfl, fun _ => rfl, fun _ _ _ _ => rfl, fun _ _ _ => rfl⟩
  have huntouched : ∀ ctx ctx' : Context, Untouched ctx ctx' → Proxy.KeepsDelete ctx ctx' := fun _ _ hu =>
    congrArg State.delete hu.state
  exact pluginsKeep huntouched (fun _ _ _ _ => rfl) (fun _ _ => rfl) (fun f _ => downstream_free hall f)
    (fun b _ => upstream_free hall b) fun s _ => service_free hall s

theorem serve_objects {s : State} (hs : s.Objects) : (d.proxy.serve statusHint s r).Objects := by
  have hopened : s.Spared (fun _ _ => False) (r.context s).state := State.spared_carried s r.envelope
  have hplugins : d.proxy.PluginsKeep (Spares fun _ _ => False) :=
    pluginsKeep (fun _ _ => spares_untouched) spares_reroutes (fun ctx v => spares_setStr (fun h => h) ctx v)
      (fun f _ => downstream_free objects_permits f) (fun b _ => upstream_free objects_permits b)
      fun s _ => service_free objects_permits s
  have hown : Proxy.OwnWritesKeep (Spares fun _ _ => False) :=
    ⟨spares_targets.targetFrontend, spares_targets.targetBackend, fun ctx key v => spares_setStr (fun h => h) ctx v⟩
  have hreached : Spares (fun _ _ => False) (r.context s) (d.proxy.reach r.world (r.context s)).2 :=
    hplugins.reach r.world hown (r.context s)
  have hserved : (d.proxy.reach r.world (r.context s)).2.state.Spared (fun _ _ => False) (d.proxy.serve statusHint s r) :=
    serve_spared statusHint rfl (fun f _ => downstream_free objects_permits f) fun b _ _ _ _ =>
      upstream_free objects_permits b
  exact ((hopened.trans hreached).trans hserved).objects hs

/-- **The response leg holds the response against what was asked.** -/
theorem Upholds.held (h : d.Upholds l) (hnames : d.NamesApart) (hc : d.KeepsRecords l r) {flow : AssuranceFlow}
    {response data : InternalData} {i j : Nat} {ctx₁ ctx : Context} {s : Service W}
    (henter : d.proxy.enter r.world (r.context l.state) = (.ok (.response response i), ctx₁))
    (hcontinued : Proxy.Continued r.world ((d.proxy.microservices.drop i).take j) response ctx₁ data ctx)
    (hs : d.services[i + j]? = some s) (hpassed : l.passed (i + j) = some flow) (hasks : s.Asked flow.asked) :
    s.HeldTo flow.asked flow.policies data ctx := by
  have hentered := h.entered r
  rw [henter] at hentered
  have hupheld : s.Upheld flow.asked flow.policies ctx₁.state := hentered _ s flow hs hpassed hasks
  have hstored := hc.stored response i ctx₁ _ s flow henter (Nat.le_add_right i j) hs hpassed hasks
  exact upheld_held hupheld hstored fun ns key hrecord => hnames.reached_elsewhere hs hrecord hcontinued

/-- A flow that asks for MFA starts with no response kept for a step-up, and
none is kept on the request leg. -/
theorem KeepsRecords.started_fresh (hc : d.KeepsRecords l r) {request : InternalData} {pin : Option String}
    {ctx₁ : Context} (henter : d.proxy.enter r.world (r.context l.state) = (.ok (.request request 0 pin), ctx₁))
    (hmfa : REFEDS_MFA ∈ ctx₁.decorationStrings KEY_REQUESTED_ACCR) {p : StepUp} {view : W → SamlWorld}
    (hp : .stepup p view ∈ d.services) :
    (Proxy.requestServices r.world d.proxy.microservices request ctx₁).2.state.getValue p.stateNamespace KEY_SNAPSHOT =
      none := by
  have hnone := hc.started request pin ctx₁ henter hmfa p view hp
  have hentered : Spares (d.assured []) _ _ := enter_assures r.world (r.context l.state)
  rw [henter] at hentered
  have hkept : Action.Keeps (Spares d.keptResponses)
      (Proxy.requestServices r.world d.proxy.microservices request) := by
    refine Proxy.requestServices_keeps r.world (fun ms hms request => ?_) request
    obtain ⟨s, _, rfl⟩ := service_found hms
    exact processRequest_keptResponses s r.world request
  have hkey : d.keptResponses p.stateNamespace KEY_SNAPSHOT := ⟨rfl, p, view, hp, rfl⟩
  refine Decidable.byContradiction fun hvalue => ?_
  exact hentered.kept (.inr hkey) ((hkept ctx₁).kept hkey hvalue) hnone

/-- **A request leg upholds**: what the services that let it through recorded is
what its flow asks, and nothing where a return runs them; the others keep what
they have. -/
theorem Upholds.request_upheld (h : d.Upholds l) (hnames : d.NamesApart) (hk : d.KeepsRequested)
    (hc : d.KeepsRecords l r) {request : InternalData} {startIndex : Nat} {pin : Option String} {ctx₁ : Context}
    (henter : d.proxy.enter r.world (r.context l.state) = (.ok (.request request startIndex pin), ctx₁)) :
    d.UpheldBy (d.proxy.passing r.world (d.flowFrom l r.world request ctx₁ startIndex) startIndex request ctx₁ l.passed)
      (d.proxy.serve statusHint l.state r) := by
  have hopened : (r.context l.state).state.Objects := h.objects.carried r.envelope
  have hspares : Spares (d.assured []) _ _ := enter_assures r.world (r.context l.state)
  have hentered := h.entered r
  rw [henter] at hentered hspares
  have hmap : d.proxy.microservices.drop startIndex = (d.services.drop startIndex).map (·.microService) :=
    List.map_drop.symm
  have hin : ∀ s ∈ d.services.drop startIndex, s ∈ d.services := fun s hs => List.mem_of_mem_drop hs
  refine UpheldBy.spared ?_ fun asked => request_assures henter
  intro j s flow hat hpassed hasks
  have hwhere := mem_through hnames hat r.world startIndex request ctx₁
  unfold Proxy.passing at hpassed
  split at hpassed
  next hinside =>
    have hthrough := hwhere.mpr hinside
    cases startIndex with
    | zero =>
      cases hpassed
      have hrecords := leg_records hnames hk (hnames.nodup.sublist (List.drop_sublist 0 _)) hin (hspares.objects hopened) s
        hthrough
      refine recorded_upheld hrecords fun p view hp => ?_
      subst hp
      exact hc.started_fresh henter hasks (List.mem_of_getElem? hat)
    | succ i =>
      exact absurd hasks (hc.resumed request i pin ctx₁ j s flow henter hinside.1 hat (.inl hpassed))
  next houtside =>
    have hbefore := hentered j s flow hat hpassed hasks
    refine upheld_elsewhere hbefore fun ns key hrecord => ?_
    rw [hmap]
    exact hnames.leg_elsewhere (List.mem_of_getElem? hat) hrecord hin fun hthrough => houtside (hwhere.mp hthrough)

/-- **A response leg upholds**: it drops records, and keeps a response under the
policy of the flow that was let through last. -/
theorem Upholds.response_upheld (h : d.Upholds l) (hnames : d.NamesApart) (hc : d.KeepsRecords l r)
    {response : InternalData} {i : Nat} {ctx₁ : Context}
    (henter : d.proxy.enter r.world (r.context l.state) = (.ok (.response response i), ctx₁)) :
    d.UpheldBy l.passed (d.proxy.serve statusHint l.state r) := by
  have hopened : (r.context l.state).state.Objects := h.objects.carried r.envelope
  have hspares : Spares (d.assured []) _ _ := enter_assures r.world (r.context l.state)
  have hentered := h.entered r
  rw [henter] at hentered hspares
  have hmap : d.proxy.microservices.drop i = (d.services.drop i).map (·.microService) := List.map_drop.symm
  have hleg : d.UpheldBy l.passed
      (Proxy.responseServices r.world (d.proxy.microservices.drop i) response ctx₁).2.state := by
    intro j s flow hat hpassed hasks
    have hbefore := hentered j s flow hat hpassed hasks
    have hmem := List.mem_of_getElem? hat
    have hrecords : Spares (d.recordedFor flow.asked) ctx₁
        (Proxy.responseServices r.world (d.proxy.microservices.drop i) response ctx₁).2 := by
      refine Proxy.responseServices_keeps r.world (fun ms hms response => ?_) response ctx₁
      obtain ⟨s, _, rfl⟩ := service_found (List.mem_of_mem_drop hms)
      exact processResponse_records s r.world response
    have hvalue : ∀ ns key v, s.record = some (ns, key) → _ → ctx₁.state.getValue ns key = some v :=
      fun ns key v hrecord hv => hrecords.value ns key v ⟨s, hmem, hasks, hrecord⟩ hv
    cases s with
    | disco disco => exact trivial
    | transform t => exact trivial
    | accr a => exact fun v hv => hbefore v (hvalue _ _ v rfl hv)
    | stepup p view =>
      obtain ⟨policy, hpolicy, hloas, hrequest, hsnapshot⟩ := hbefore
      refine ⟨policy, hpolicy, hloas, fun v hv => hrequest v (hvalue _ _ v rfl hv), fun v hv => ?_⟩
      rw [hmap] at hv
      have hin : ∀ s ∈ d.services.drop i, s ∈ d.services := fun s hs => List.mem_of_mem_drop hs
      rcases leg_snapshot hnames hmem hin (hspares.objects hopened) hv with
        hold | ⟨k, data, ctx', hcontinued, hfound, snapshot, hv, hsaved⟩
      · exact hsnapshot v hold
      · rw [← hmap] at hcontinued
        rw [List.getElem?_drop] at hfound
        obtain ⟨hbound, _⟩ := List.getElem?_eq_some_iff.mp hat
        obtain rfl : j = i + k := (List.getElem?_inj hbound hnames.nodup).mp (hat.trans hfound.symm)
        obtain ⟨policy', hpolicy', _, hheld⟩ := h.held hnames hc henter hcontinued hat hpassed hasks
        have hsame : snapshot.policy = policy' := Except.ok.inj (hsaved.symm.trans hheld)
        exact ⟨snapshot, hv, hsame.trans (Option.some.inj (hpolicy'.symm.trans hpolicy))⟩
  refine hleg.spared fun asked => ?_
  have hbehind : Spares (d.assured asked) _ _ :=
    spares_targets.behind_response (p := d.proxy) r.world response i ctx₁
  rw [← reach_entered henter] at hbehind
  exact hbehind.trans (serve_assures rfl)

theorem Upholds.step (h : d.Upholds l) (hnames : d.NamesApart) (hk : d.KeepsRequested) (hc : d.KeepsRecords l r) :
    d.Upholds (d.assuranceStep statusHint l r) where
  objects := serve_objects h.objects
  ran := Proxy.RanPrefix.step (Proxy.runsInOrder hnames (keepsDelete d)) h.ran hc.suspended
  upheld := by
    show d.UpheldBy (d.assuranceStep statusHint l r).passed (d.proxy.serve statusHint l.state r)
    have hentered := h.entered r
    rcases henter : d.proxy.enter r.world (r.context l.state) with ⟨e | stage, ctx₁⟩
    · rw [henter] at hentered
      unfold assuranceStep
      simp only [henter]
      exact hentered.spared fun asked => serve_assures (reach_fails henter)
    · cases stage with
      | answered x =>
        rw [henter] at hentered
        unfold assuranceStep
        simp only [henter]
        exact hentered.spared fun asked => serve_assures (reach_entered henter)
      | response response i =>
        unfold assuranceStep
        simp only [henter]
        exact h.response_upheld hnames hc henter
      | request request i pin =>
        unfold assuranceStep
        simp only [henter]
        exact h.request_upheld hnames hk hc henter

theorem started_of_resumed {request : InternalData} {i : Nat} {pin : Option String} {ctx₁ : Context}
    (henter : d.proxy.enter r.world (r.context l.state) = (.ok (.request request (i + 1) pin), ctx₁)) :
    (d.assuranceStep statusHint l r).started = l.started := by
  unfold assuranceStep
  simp only [henter]

theorem sent_of_request {request : InternalData} {i : Nat} {pin : Option String} {ctx₁ : Context}
    (henter : d.proxy.enter r.world (r.context l.state) = (.ok (.request request i pin), ctx₁)) (name : String) :
    (d.assuranceStep statusHint l r).sent name = l.sent name ∨
      (d.assuranceStep statusHint l r).sent name = d.flowFrom l r.world request ctx₁ i := by
  unfold assuranceStep
  simp only [henter]
  rcases d.proxy.reach r.world (r.context l.state) with ⟨e | outcome, ctx'⟩
  · exact .inl rfl
  · cases outcome with
    | start backend started =>
      by_cases hname : ctx'.targetBackend = some name
      · exact .inr (if_pos hname)
      · exact .inl (if_neg hname)
    | deliver frontend response => exact .inl rfl
    | answered http => exact .inl rfl

end

/-! ## An SP that asks for MFA -/

structure AsksMfa (services : List (Service (SamlWorld × OidcWorld))) (l : AssuranceLedger) (flow : AssuranceFlow)
    (state : State) : Prop where
  asked : flow.asked = [REFEDS_MFA]
  started : l.started "Saml2" = some flow
  passed : ∀ j < services.length, l.passed j = some flow
  sent : ∀ name, l.sent name = none ∨ l.sent name = some flow
  state : l.state = state

/-- A return behind the last service leaves what was asked as it is. -/
theorem AsksMfa.returned {services : List (Service (SamlWorld × OidcWorld))} {l : AssuranceLedger}
    {flow : AssuranceFlow} {state : State} (h : AsksMfa services l flow state) {r : Exchange (SamlWorld × OidcWorld)}
    {request : InternalData} {i : Nat} {pin : Option String} {ctx₁ : Context} (hlast : services.length = i + 1)
    (henter : (samlProxy services).proxy.enter r.world (r.context l.state) = (.ok (.request request (i + 1) pin), ctx₁)) :
    AsksMfa services ((samlProxy services).assuranceStep (fun _ => 500) l r) flow
      ((samlProxy services).proxy.serve (fun _ => 500) l.state r) where
  asked := h.asked
  started := (congrFun (started_of_resumed henter) "Saml2").trans h.started
  passed j hj := by
    unfold assuranceStep
    simp only [henter, Proxy.passing]
    rw [if_neg (by omega)]
    exact h.passed j hj
  sent name := by
    have hsent : ((samlProxy services).assuranceStep (fun _ => 500) l r).sent name = l.sent name ∨
        ((samlProxy services).assuranceStep (fun _ => 500) l r).sent name = l.passed i := sent_of_request henter name
    rcases hsent with hkept | hthis
    · rw [hkept]
      exact h.sent name
    · exact .inr (hthis.trans (h.passed i (by omega)))
  state := rfl

end Deployment

end Tunnelbana
