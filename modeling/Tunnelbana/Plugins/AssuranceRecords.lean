/-
What `accr` and `stepup` record of what an SP asks for, and what leaves it
alone. A request leg records it of every service that lets it through
(`leg_records`) and leaves the namespace of every other one (`leg_elsewhere`),
also where a service refuses it; a request that runs none leaves all records,
and only the response leg of its step-up keeps a response (`leg_snapshot`).
-/
import Mathlib.Data.List.Nodup
import Tunnelbana.Core.ResponsePipeline
import Tunnelbana.Plugins.BackendAgreement
import Tunnelbana.Plugins.NamespaceIsolation

namespace Tunnelbana

open Basis

/-! ## What a service records -/

namespace Service

variable {W : Type}

/-- The request asks something of the service: a class `accr` supports, or MFA. -/
def Asked (asked : List String) : Service W → Prop
  | .accr a => asked.filter a.supported.contains ≠ []
  | .stepup _ _ => REFEDS_MFA ∈ asked
  | _ => False

instance (asked : List String) : (s : Service W) → Decidable (s.Asked asked)
  | .accr a => inferInstanceAs (Decidable (asked.filter a.supported.contains ≠ []))
  | .stepup _ _ => inferInstanceAs (Decidable (REFEDS_MFA ∈ asked))
  | .disco _ => inferInstanceAs (Decidable False)
  | .transform _ => inferInstanceAs (Decidable False)

/-- Where the service records what was asked. -/
def record : Service W → Option (String × String)
  | .accr a => some (a.stateNamespace, KEY_ACCR_REQUESTED)
  | .stepup p _ => some (p.stateNamespace, KEY_REQUEST)
  | _ => none

def policy (request : InternalData) (ctx : Context) (ns : String) : Service W → Option RequestPolicy
  | .stepup p _ => if p.stateNamespace = ns then some (p.recordedPolicy ctx request) else none
  | _ => none

/-- What the request leg leaves of a request for the classes: those `accr`
supports, or the step-up's policy for it. -/
def Recorded (asked : List String) (policies : String → Option RequestPolicy) (state : State) : Service W → Prop
  | .accr a =>
    state.getValue a.stateNamespace KEY_ACCR_REQUESTED = some (Json.strings (asked.filter a.supported.contains))
  | .stepup p _ => ∃ policy, policies p.stateNamespace = some policy ∧ policy.originalRequesterLoas = asked ∧
      state.getValue p.stateNamespace KEY_REQUEST = some policy.toJson
  | _ => True

/-- Whatever is left of it is this, and a kept response is under that policy. -/
def Upheld (asked : List String) (policies : String → Option RequestPolicy) (state : State) : Service W → Prop
  | .accr a => ∀ v, state.getValue a.stateNamespace KEY_ACCR_REQUESTED = some v →
      v = Json.strings (asked.filter a.supported.contains)
  | .stepup p _ => ∃ policy, policies p.stateNamespace = some policy ∧ policy.originalRequesterLoas = asked ∧
      (∀ v, state.getValue p.stateNamespace KEY_REQUEST = some v → v = policy.toJson) ∧
      ∀ v, state.getValue p.stateNamespace KEY_SNAPSHOT = some v →
        ∃ snapshot : StepupSnapshot, v = snapshot.toJson ∧ snapshot.policy = policy
  | _ => True

/-- The service holds a response against what was asked: `accr` the class, a
step-up under the policy of the request. -/
def HeldTo (asked : List String) (policies : String → Option RequestPolicy) (data : InternalData) (ctx : Context) :
    Service W → Prop
  | .accr a => ∀ next ctx', a.processResponse data ctx = (.ok next, ctx') →
      a.accepted (asked.filter a.supported.contains) data.authInfo.authClassRef = .ok next.authInfo.authClassRef
  | .stepup p _ => ∃ policy, policies p.stateNamespace = some policy ∧ policy.originalRequesterLoas = asked ∧
      p.savedPolicy ctx data.requester = .ok policy
  | _ => True

end Service

namespace Deployment

variable {W : Type} (d : Deployment W)

/-- The policies the step-ups of a request leg compute, by namespace. -/
def policiesOf (w : W) : List (Service W) → InternalData → Context → String → Option RequestPolicy
  | [], _, _, _ => none
  | s :: rest, request, ctx, ns =>
    match s.policy request ctx ns with
    | some policy => some policy
    | none =>
      match s.microService.processRequest w request ctx with
      | (.ok next, ctx) => policiesOf w rest next ctx ns
      | _ => none

/-- The services beside `accr` and `stepup` leave what was asked on the request
leg. -/
def KeepsRequested : Prop :=
  ∀ t, .transform t ∈ d.services → ∀ w data next ctx ctx', t.processRequest w data ctx = (.ok next, ctx') →
    ctx'.decorationStrings KEY_REQUESTED_ACCR = ctx.decorationStrings KEY_REQUESTED_ACCR

variable {d}

/-! ## Services apart -/

def NamesApart (d : Deployment W) : Prop := (d.proxy.microservices.map (·.name)).Nodup

instance (d : Deployment W) : Decidable d.NamesApart :=
  inferInstanceAs (Decidable (d.proxy.microservices.map (·.name)).Nodup)

theorem NamesApart.unique (h : d.NamesApart) {s s' : Service W} (hs : s ∈ d.services) (hs' : s' ∈ d.services)
    (hname : s.microService.name = s'.microService.name) : s = s' := by
  have hnodup : (d.services.map fun s => s.microService.name).Nodup := by
    have hmap : d.proxy.microservices.map (·.name) = d.services.map fun s => s.microService.name := List.map_map
    exact hmap ▸ h
  exact List.inj_on_of_nodup_map hnodup hs hs' hname

theorem prefixed_inj {pre n n' : String} (h : pre ++ n = pre ++ n') : n = n' := by
  have hlist := congrArg String.toList h
  rw [String.toList_append, String.toList_append] at hlist
  exact String.toList_injective (List.append_cancel_left hlist)

theorem stepup_ne_accr (p : StepUp) (a : Accr) :
    p.stateNamespace ≠ a.stateNamespace ∧ p.saml.stateNamespace ≠ a.stateNamespace := by
  rw [p.samlNamespace]
  unfold StepUp.stateNamespace Accr.stateNamespace
  constructor
  · intro h
    have hlist := congrArg String.toList h
    simp [String.toList_append] at hlist
  · intro h
    have hlist := congrArg String.toList h
    simp [String.toList_append] at hlist

theorem disco_ne_accr (disco : DiscoToTargetIssuer) (a : Accr) : disco.stateNamespace ≠ a.stateNamespace := by
  unfold DiscoToTargetIssuer.stateNamespace Accr.stateNamespace
  intro h
  have hlist := congrArg String.toList h
  simp [String.toList_append] at hlist

/-- **No other service has the namespace a service records in.** -/
theorem NamesApart.record_apart (h : d.NamesApart) {s s' : Service W} (hs : s ∈ d.services) (hs' : s' ∈ d.services)
    (hne : s ≠ s') {ns key : String} (hrecord : s.record = some (ns, key)) : ns ∉ s'.namespaces := by
  have hnames : s.microService.name ≠ s'.microService.name := fun hname => hne (h.unique hs hs' hname)
  cases s with
  | disco disco => cases hrecord
  | transform t => cases hrecord
  | accr a =>
    cases hrecord
    cases s' with
    | disco disco =>
      intro hmem
      exact disco_ne_accr disco a (List.mem_singleton.mp hmem).symm
    | accr a' =>
      intro hmem
      exact hnames (prefixed_inj (List.mem_singleton.mp hmem))
    | stepup p view =>
      intro hmem
      rcases List.mem_cons.mp hmem with hown | hsaml
      · exact (stepup_ne_accr p a).1 hown.symm
      · exact (stepup_ne_accr p a).2 (List.mem_singleton.mp hsaml).symm
    | transform t => exact List.not_mem_nil
  | stepup p view =>
    cases hrecord
    cases s' with
    | disco disco =>
      intro hmem
      exact p.namespace_ne_disco disco (List.mem_singleton.mp hmem)
    | accr a =>
      intro hmem
      exact (stepup_ne_accr p a).1 (List.mem_singleton.mp hmem)
    | stepup p' view' =>
      intro hmem
      rcases List.mem_cons.mp hmem with hown | hsaml
      · exact hnames (prefixed_inj hown)
      · exact StepUp.keptNamespace_ne p' p (List.mem_singleton.mp hsaml).symm
    | transform t => exact List.not_mem_nil

/-! ## What an SP asks for -/

def KeepsAsked (ctx ctx' : Context) : Prop :=
  ctx'.decorationStrings KEY_REQUESTED_ACCR = ctx.decorationStrings KEY_REQUESTED_ACCR

instance : Action.Frame KeepsAsked where
  refl _ := rfl
  trans h h' := Eq.trans h' h

theorem keepsAsked_permits {ns : String} (keys : List String) {decorations : List String}
    (h : KEY_REQUESTED_ACCR ∉ decorations) : Permits KeepsAsked ns keys decorations where
  setValue _ _ _ _ := rfl
  clear _ := rfl
  decorate ctx key value hk := by
    have hne : key ≠ KEY_REQUESTED_ACCR := fun he => h (he ▸ hk)
    unfold KeepsAsked Context.decorationStrings
    rw [ctx.decoration_decorate_other value hne]
  undecorate ctx key hk := ctx.decorationStrings_undecorate_other fun he => h (he ▸ hk)

section
variable {w : W} {ctx ctx' : Context} {request next : InternalData}

theorem objects_permits (ns : String) (keys decorations : List String) :
    Permits (Spares fun _ _ => False) ns keys decorations := spares_permits decorations fun _ _ hkept => hkept

theorem KeepsRequested.service (hk : d.KeepsRequested) {s : Service W} (hs : s ∈ d.services)
    (h : s.microService.processRequest w request ctx = (.ok next, ctx')) : KeepsAsked ctx ctx' := by
  cases s with
  | disco disco => exact (disco.processRequest_keeps (keepsAsked_permits _ (by simp)) request).apply h
  | accr a => exact (a.processRequest_keeps (keepsAsked_permits _ (by decide)) request).apply h
  | stepup p view => exact (p.processRequest_keeps (keepsAsked_permits _ (by decide)) request).apply h
  | transform t => exact hk t hs w request next ctx ctx' h

/-- **A service that passes a request on has recorded what it asks for.** -/
theorem service_records {s : Service W} (hs : ctx.state.Objects)
    (h : s.microService.processRequest w request ctx = (.ok next, ctx')) :
    s.Recorded (ctx.decorationStrings KEY_REQUESTED_ACCR) (fun ns => s.policy request ctx ns) ctx'.state := by
  cases s with
  | disco disco => exact trivial
  | transform t => exact trivial
  | accr a =>
    have hrun : a.processRequest request ctx = (.ok next, ctx') := h
    unfold Accr.processRequest at hrun
    simp only [Flow.context, Action.read_bind_run] at hrun
    obtain ⟨requested, hfiltered, hrun⟩ := Action.lift_bind_ok.mp hrun
    simp only [Flow.modify, Flow.setValue, Action.update_bind_run] at hrun
    have hrequested : requested = (ctx.decorationStrings KEY_REQUESTED_ACCR).filter a.supported.contains := by
      unfold Accr.filtered at hfiltered
      simp only at hfiltered
      split at hfiltered
      · cases hfiltered
      · exact (Except.ok.inj hfiltered).symm
    have hforward : Spares (fun _ _ => False) ctx (a.forward (a.toForward ctx requested) ctx) :=
      a.forward_keeps (objects_permits _ _ _) (a.toForward ctx requested) ctx
    cases hrun
    subst hrequested
    exact State.getValue_setValue_self (hforward.objects hs) a.stateNamespace KEY_ACCR_REQUESTED _
  | stepup p view =>
    obtain ⟨ctx'', hrun, hstate, _, _⟩ := p.processRequest_run request ctx
    obtain ⟨_, rfl⟩ := Prod.mk.inj (h.symm.trans hrun)
    refine ⟨p.recordedPolicy ctx request, ?_, rfl, ?_⟩
    · exact if_pos rfl
    · rw [hstate]
      exact State.getValue_setValue_self hs _ _ _

theorem recorded_elsewhere {s : Service W} {asked : List String} {policies : String → Option RequestPolicy}
    {state state' : State} (h : s.Recorded asked policies state)
    (hkeep : ∀ ns key, s.record = some (ns, key) → state'.get ns = state.get ns) : s.Recorded asked policies state' := by
  have hvalue : ∀ ns key, s.record = some (ns, key) → state'.getValue ns key = state.getValue ns key := by
    intro ns key hrecord
    have hget := hkeep ns key hrecord
    unfold State.getValue
    exact congrArg (Option.bind · _) hget
  cases s with
  | disco disco => exact trivial
  | transform t => exact trivial
  | accr a => exact (hvalue _ _ rfl).trans h
  | stepup p view =>
    obtain ⟨policy, hpolicy, hasked, hrecord⟩ := h
    exact ⟨policy, hpolicy, hasked, (hvalue _ _ rfl).trans hrecord⟩

theorem recorded_under {s : Service W} {asked : List String} {policies policies' : String → Option RequestPolicy}
    {state : State} (h : s.Recorded asked policies state)
    (hsame : ∀ p view, s = .stepup p view → policies' p.stateNamespace = policies p.stateNamespace) :
    s.Recorded asked policies' state := by
  cases s with
  | disco disco => exact trivial
  | transform t => exact trivial
  | accr a => exact h
  | stepup p view =>
    obtain ⟨policy, hpolicy, hrest⟩ := h
    exact ⟨policy, (hsame p view rfl).trans hpolicy, hrest⟩

theorem NamesApart.policy_none (hnames : d.NamesApart) {s : Service W} {p : StepUp} {view : W → SamlWorld}
    (hs : s ∈ d.services) (hp : .stepup p view ∈ d.services) (hne : .stepup p view ≠ s) :
    s.policy request ctx p.stateNamespace = none := by
  cases s with
  | disco disco => rfl
  | transform t => rfl
  | accr a => rfl
  | stepup q qview =>
    have hapart : p.stateNamespace ∉ (Service.stepup q qview).namespaces := hnames.record_apart hp hs hne rfl
    have hns : q.stateNamespace ≠ p.stateNamespace := by
      intro hsame
      exact hapart (hsame ▸ List.mem_cons_self)
    exact if_neg hns

theorem NamesApart.request_elsewhere (hnames : d.NamesApart) {s s' : Service W} (hs : s ∈ d.services)
    (hs' : s' ∈ d.services) (hne : s ≠ s') {ns key : String} (hrecord : s.record = some (ns, key)) (w : W)
    (request : InternalData) : Action.Keeps (Elsewhere ns) (s'.microService.processRequest w request) := by
  have huntouched : ∀ ctx ctx' : Context, Untouched ctx ctx' → Elsewhere ns ctx ctx' := fun _ _ hu =>
    congrArg (State.get · ns) hu.state
  have hapart := hnames.record_apart hs hs' hne hrecord
  exact processRequest_keeps huntouched (Service.elsewhere_permitted hapart) w request

theorem service_refuses {s : Service W} {e : Error} (h : s.microService.processRequest w request ctx = (.error e, ctx')) :
    ctx'.state = ctx.state := by
  cases s with
  | disco disco =>
    rcases disco.processRequest_cases request ctx with hok | ⟨e', hfail⟩
    · cases h.symm.trans hok
    · cases h.symm.trans hfail
      rfl
  | accr a =>
    have hrun : a.processRequest request ctx = (.error e, ctx') := h
    unfold Accr.processRequest at hrun
    simp only [Flow.context, Action.read_bind_run] at hrun
    cases hfiltered : a.filtered (ctx.decorationStrings KEY_REQUESTED_ACCR) with
    | error e' =>
      rw [hfiltered] at hrun
      cases hrun
      rfl
    | ok requested =>
      rw [hfiltered] at hrun
      cases hrun
  | stepup p view =>
    obtain ⟨ctx'', hrun, _⟩ := p.processRequest_run request ctx
    cases h.symm.trans hrun
  | transform t => exact ((t.requestUntouched w request).apply h).state

def through (w : W) (services : List (Service W)) (request : InternalData) (ctx : Context) : List (Service W) :=
  services.take (Proxy.letThrough w (services.map (·.microService)) request ctx)

theorem through_refused {s : Service W} {rest : List (Service W)} {e : Error}
    (h : s.microService.processRequest w request ctx = (.error e, ctx')) : through w (s :: rest) request ctx = [] := by
  unfold through
  rw [List.map_cons, Proxy.letThrough, h]
  rfl

theorem through_passed {s : Service W} {rest : List (Service W)}
    (h : s.microService.processRequest w request ctx = (.ok next, ctx')) :
    through w (s :: rest) request ctx = s :: through w rest next ctx' := by
  unfold through
  rw [List.map_cons, Proxy.letThrough, h]
  rfl

/-- **A request leg leaves the record of a service that did not let it through.** -/
theorem NamesApart.leg_elsewhere (hnames : d.NamesApart) {s : Service W} (hs : s ∈ d.services) {ns key : String}
    (hrecord : s.record = some (ns, key)) {services : List (Service W)} (hmem : ∀ s ∈ services, s ∈ d.services)
    (hnot : s ∉ through w services request ctx) :
    (Proxy.requestServices w (services.map (·.microService)) request ctx).2.state.get ns = ctx.state.get ns := by
  induction services generalizing request ctx with
  | nil => rfl
  | cons s' rest ih =>
    have hs' := hmem s' List.mem_cons_self
    show ((s'.microService.processRequest w request >>= _) ctx).2.state.get ns = _
    rcases hrun : s'.microService.processRequest w request ctx with ⟨e | next, ctx₁⟩
    · rw [Action.bind_of_error hrun, service_refuses hrun]
    · rw [through_passed hrun, List.mem_cons, not_or] at hnot
      have hfirst : Elsewhere ns ctx ctx₁ := (hnames.request_elsewhere hs hs' hnot.1 hrecord w request).apply hrun
      rw [Action.bind_of_ok hrun]
      exact (ih (fun s hs => hmem s (List.mem_cons_of_mem _ hs)) hnot.2).trans hfirst

/-- **A request leg has recorded what it asks of every service that let it
through**, wherever it ends. -/
theorem leg_records (hnames : d.NamesApart) (hk : d.KeepsRequested) {services : List (Service W)}
    (hnodup : services.Nodup) (hmem : ∀ s ∈ services, s ∈ d.services) (hs : ctx.state.Objects) :
    ∀ s ∈ through w services request ctx, s.Recorded (ctx.decorationStrings KEY_REQUESTED_ACCR)
      (policiesOf w services request ctx)
      (Proxy.requestServices w (services.map (·.microService)) request ctx).2.state := by
  induction services generalizing request ctx with
  | nil => exact fun s hs => (by cases hs)
  | cons s rest ih =>
    have hsmem := hmem s List.mem_cons_self
    have hrestmem : ∀ s' ∈ rest, s' ∈ d.services := fun s' hs' => hmem s' (List.mem_cons_of_mem _ hs')
    obtain ⟨hnot, hrestnodup⟩ := List.nodup_cons.mp hnodup
    intro s' hs'
    rcases hrun : s.microService.processRequest w request ctx with ⟨e | next, ctx₁⟩
    · rw [through_refused hrun] at hs'
      cases hs'
    have hleg : Proxy.requestServices w ((s :: rest).map (·.microService)) request ctx =
        Proxy.requestServices w (rest.map (·.microService)) next ctx₁ := Action.bind_of_ok hrun
    rw [hleg]
    rw [through_passed hrun] at hs'
    rcases List.mem_cons.mp hs' with rfl | hlater
    · have hrecorded : s'.Recorded (ctx.decorationStrings KEY_REQUESTED_ACCR) (policiesOf w (s' :: rest) request ctx)
          ctx₁.state := by
        refine recorded_under (service_records hs hrun) fun p view hp => ?_
        subst hp
        have hown : (Service.stepup p view).policy request ctx p.stateNamespace = some (p.recordedPolicy ctx request) :=
          if_pos rfl
        simp only [policiesOf, hown]
      have hbehind : s' ∉ through w rest next ctx₁ := fun hin => hnot (List.mem_of_mem_take hin)
      exact recorded_elsewhere hrecorded fun ns key hrecord => hnames.leg_elsewhere hsmem hrecord hrestmem hbehind
    · have hobjects : ctx₁.state.Objects := by
        have hspares : Spares (fun _ _ => False) ctx ctx₁ :=
          (processRequest_keeps (fun _ _ => spares_untouched) (service_free objects_permits s) w request).apply hrun
        exact hspares.objects hs
      have hin : s' ∈ rest := List.mem_of_mem_take hlater
      have hrecorded := ih hrestnodup hrestmem hobjects s' hlater
      have hasked : ctx₁.decorationStrings KEY_REQUESTED_ACCR = ctx.decorationStrings KEY_REQUESTED_ACCR :=
        hk.service hsmem hrun
      rw [hasked] at hrecorded
      refine recorded_under hrecorded fun p view hp => ?_
      subst hp
      have hnone : s.policy request ctx p.stateNamespace = none :=
        hnames.policy_none hsmem (hrestmem _ hin) fun hsame => hnot (hsame ▸ hin)
      simp only [policiesOf, hnone, hrun]

end

/-! ## What a request leaves alone -/

/-- The keys what was asked is kept under. -/
def ASSURANCE_KEYS : List String := [KEY_ACCR_REQUESTED, KEY_REQUEST, KEY_SNAPSHOT]

/-- The records of the services that are asked something. -/
def recordedFor (d : Deployment W) (asked : List String) (ns key : String) : Prop :=
  ∃ s ∈ d.services, s.Asked asked ∧ s.record = some (ns, key)

/-- These, and the responses step-ups keep. -/
def assured (d : Deployment W) (asked : List String) (ns key : String) : Prop :=
  d.recordedFor asked ns key ∨ d.keptResponses ns key

section
variable {asked : List String} {ns key : String}

theorem recordedFor_key (h : d.recordedFor asked ns key) : key = KEY_ACCR_REQUESTED ∨ key = KEY_REQUEST := by
  obtain ⟨s, _, _, hrecord⟩ := h
  cases s with
  | disco disco => cases hrecord
  | transform t => cases hrecord
  | accr a =>
    cases hrecord
    exact .inl rfl
  | stepup p view =>
    cases hrecord
    exact .inr rfl

theorem not_assured (h : key ∉ ASSURANCE_KEYS) : ¬ d.assured asked ns key := by
  intro hassured
  rcases hassured with hrecorded | hkept
  · rcases recordedFor_key hrecorded with rfl | rfl
    · exact h (by decide)
    · exact h (by decide)
  · obtain ⟨rfl, _⟩ := hkept
    exact h (by decide)

theorem keys_unassured {keys : List String} (h : ∀ key ∈ keys, key ∉ ASSURANCE_KEYS) :
    ∀ key ∈ keys, ¬ d.assured asked ns key := fun key hkey => not_assured (h key hkey)

theorem disco_unassured (disco : DiscoToTargetIssuer) :
    ∀ key ∈ DiscoToTargetIssuer.stateKeys, ¬ d.assured asked disco.stateNamespace key := by
  intro key hkey hassured
  obtain rfl := List.mem_singleton.mp hkey
  rcases hassured with hrecorded | hkept
  · rcases recordedFor_key hrecorded with hsame | hsame
    · exact absurd hsame (by decide)
    · exact absurd hsame (by decide)
  · obtain ⟨_, p, view, _, hns⟩ := hkept
    exact p.namespace_ne_disco disco hns

/-! The frontends and backends, and the endpoints, leave it. -/

theorem downstream_assures (f : DownstreamPlugin W) : f.Permitted (Spares (d.assured asked)) := by
  cases f with
  | saml f view => exact spares_permits _ (keys_unassured (by decide))
  | oidc f view => exact spares_permits _ (keys_unassured (by decide))
  | federation f view => exact spares_permits _ (keys_unassured (by decide))

theorem upstream_assures (b : UpstreamPlugin W) : b.Permitted (Spares (d.assured asked)) := by
  cases b with
  | saml b own ordinary view => exact spares_permits _ (keys_unassured (by decide))
  | oidc b view => exact spares_permits _ (keys_unassured (by decide))
  | federation b view => exact spares_permits _ (keys_unassured (by decide))

theorem serviceEndpoint_assures (s : Service W) (w : W) (routeId : String) :
    Action.Keeps (Spares (d.assured asked)) (s.microService.handleEndpoint w routeId) := by
  cases s with
  | disco disco =>
    exact disco.handleEndpoint_keeps (spares_permits _ (disco_unassured disco)) spares_reroutes routeId
  | accr a => exact Action.keeps_fail _
  | stepup p view =>
    exact p.handleEndpoint_keeps (view w) (spares_permits _ (by simp)) (spares_permits _ (keys_unassured (by decide)))
      spares_reroutes routeId
  | transform t => exact Action.keeps_fail _

/-- **Entering a request leaves what was recorded.** -/
theorem enter_assures (w : W) (ctx : Context) : Spares (d.assured asked) ctx (d.proxy.enter w ctx).2 := by
  have hbase : ∀ ctx key v, key ∉ ASSURANCE_KEYS →
      Spares (d.assured asked) ctx (ctx.mapState fun s => s.setStr STATE_KEY_BASE key v) := fun ctx key v hkey =>
    spares_setStr (not_assured hkey) ctx v
  refine Proxy.enter_keeps w spares_targets (fun ctx key v hkey => ?_) (fun name f hget routeId => ?_)
    (fun name routeId b _ hget => ?_) fun ms hms routeId => ?_
  · refine hbase ctx key v ?_
    rcases hkey with rfl | rfl
    · decide
    · decide
  · obtain ⟨down, _, rfl, _⟩ := frontend_found hget
    exact endpoint_keeps (downstream_assures down) (fun ctx v => hbase ctx KEY_NAME_ID_FORMAT v (by decide)) d.lib w routeId
  · obtain ⟨up, _, rfl, _⟩ := backend_found hget
    exact backendEndpoint_keeps (upstream_assures up) w routeId
  · obtain ⟨s, _, rfl⟩ := service_found hms
    exact serviceEndpoint_assures s w routeId

/-- Any service leaves the responses kept, on the request leg. -/
theorem processRequest_keptResponses (s : Service W) (w : W) (request : InternalData) :
    Action.Keeps (Spares d.keptResponses) (s.microService.processRequest w request) :=
  (processRequest_spares s w request).weaken fun _ _ h => State.Spared.mono h fun _ _ hkept => (.inr hkept :
    d.guarded none _ _)

theorem processResponse_records (s : Service W) (w : W) (response : InternalData) :
    Action.Keeps (Spares (d.recordedFor asked)) (s.microService.processResponseAction w response) := by
  have hleaves : ∀ (ns : String) (keys decorations : List String), (∀ key ∈ keys, key ≠ KEY_ACCR_REQUESTED ∧ key ≠ KEY_REQUEST) →
      Permits (Spares (d.recordedFor asked)) ns keys decorations := by
    intro ns keys decorations hkeys
    refine spares_permits decorations fun key hkey hrecorded => ?_
    rcases recordedFor_key hrecorded with hsame | hsame
    · exact (hkeys key hkey).1 hsame
    · exact (hkeys key hkey).2 hsame
  cases s with
  | disco disco => exact (Action.keeps_pure response).bind fun next => Action.keeps_pure _
  | accr a => exact (a.processResponse_keeps (hleaves _ _ _ (by simp)) response).bind fun next => Action.keeps_pure _
  | stepup p view =>
    exact p.processResponseAction_keeps (view w) (hleaves _ _ _ (by decide)) (hleaves _ _ _ (by decide)) response
  | transform t =>
    exact ((t.responseUntouched w response).weaken fun _ _ => spares_untouched).bind fun next => Action.keeps_pure _

end

/-! ## The response leg -/

section
variable {w : W} {ctx ctx' : Context} {response data : InternalData} {asked : List String}
  {policies : String → Option RequestPolicy}

theorem NamesApart.nodup (hnames : d.NamesApart) : d.services.Nodup := by
  have hmap : d.proxy.microservices.map (·.name) = d.services.map fun s => s.microService.name := List.map_map
  have hnodup : (d.services.map fun s => s.microService.name).Nodup := hmap ▸ hnames
  exact hnodup.of_map

theorem NamesApart.mem_stretch (hnames : d.NamesApart) {s : Service W} {j : Nat} (hs : d.services[j]? = some s)
    (i n : Nat) : s ∈ (d.services.drop i).take n ↔ i ≤ j ∧ j < i + n := by
  obtain ⟨hbound, hget⟩ := List.getElem?_eq_some_iff.mp hs
  constructor
  · intro hmem
    obtain ⟨k, hk⟩ := List.mem_iff_getElem?.mp hmem
    rw [List.getElem?_take] at hk
    split at hk
    next hlt =>
      rw [List.getElem?_drop] at hk
      have hsame : j = i + k := (List.getElem?_inj hbound hnames.nodup).mp (hs.trans hk.symm)
      omega
    next => cases hk
  · intro ⟨hle, hlt⟩
    refine List.mem_iff_getElem?.mpr ⟨j - i, ?_⟩
    rw [List.getElem?_take_of_lt (by omega), List.getElem?_drop, Nat.add_sub_cancel' hle]
    exact hs

theorem mem_through (hnames : d.NamesApart) {s : Service W} {j : Nat} (hs : d.services[j]? = some s) (w : W)
    (startIndex : Nat) (request : InternalData) (ctx : Context) :
    s ∈ through w (d.services.drop startIndex) request ctx ↔
      startIndex ≤ j ∧ j < startIndex + Proxy.letThrough w (d.proxy.microservices.drop startIndex) request ctx := by
  have hmap : d.proxy.microservices.drop startIndex = (d.services.drop startIndex).map (·.microService) :=
    List.map_drop.symm
  rw [hmap]
  exact hnames.mem_stretch hs startIndex _

theorem NamesApart.response_elsewhere (hnames : d.NamesApart) {s s' : Service W} (hs : s ∈ d.services)
    (hs' : s' ∈ d.services) (hne : s ≠ s') {ns key : String} (hrecord : s.record = some (ns, key)) (w : W)
    (response : InternalData) : Action.Keeps (Elsewhere ns) (s'.microService.processResponseAction w response) := by
  have huntouched : ∀ ctx ctx' : Context, Untouched ctx ctx' → Elsewhere ns ctx ctx' := fun _ _ hu =>
    congrArg (State.get · ns) hu.state
  have hapart := hnames.record_apart hs hs' hne hrecord
  exact processResponse_keeps huntouched (Service.elsewhere_permitted hapart) w response

/-- **When a leg comes to a service, its namespace is as the leg found it.** -/
theorem NamesApart.reached_elsewhere (hnames : d.NamesApart) {i j : Nat} {s : Service W}
    (hs : d.services[i + j]? = some s) {ns key : String} (hrecord : s.record = some (ns, key))
    (h : Proxy.Continued w ((d.proxy.microservices.drop i).take j) response ctx data ctx') :
    ctx'.state.get ns = ctx.state.get ns := by
  have hbefore : s ∉ (d.services.drop i).take j := by
    intro hmem
    have hwithin := (hnames.mem_stretch hs i j).mp hmem
    omega
  have hkeeps : Elsewhere ns ctx ctx' := by
    refine h.keeps fun ms hms response => ?_
    have hmap : (d.proxy.microservices.drop i).take j = ((d.services.drop i).take j).map (·.microService) := by
      rw [List.map_take, List.map_drop]
      rfl
    rw [hmap] at hms
    obtain ⟨s', hs', rfl⟩ := List.mem_map.mp hms
    have hmem' : s' ∈ d.services := List.mem_of_mem_drop (List.mem_of_mem_take hs')
    exact hnames.response_elsewhere (List.mem_of_getElem? hs) hmem' (fun hsame => hbefore (hsame ▸ hs')) hrecord w response
  exact hkeeps

theorem upheld_elsewhere {s : Service W} {state state' : State} (h : s.Upheld asked policies state)
    (hkeep : ∀ ns key, s.record = some (ns, key) → state'.get ns = state.get ns) : s.Upheld asked policies state' := by
  have hvalue : ∀ ns key key', s.record = some (ns, key) → state'.getValue ns key' = state.getValue ns key' := by
    intro ns key key' hrecord
    unfold State.getValue
    exact congrArg (Option.bind · _) (hkeep ns key hrecord)
  cases s with
  | disco disco => exact trivial
  | transform t => exact trivial
  | accr a => exact fun v hv => h v ((hvalue _ _ _ rfl).symm.trans hv)
  | stepup p view =>
    obtain ⟨policy, hpolicy, hloas, hrequest, hsnapshot⟩ := h
    refine ⟨policy, hpolicy, hloas, fun v hv => hrequest v ((hvalue _ _ _ rfl).symm.trans hv), fun v hv => ?_⟩
    exact hsnapshot v ((hvalue _ _ _ rfl).symm.trans hv)

/-- **A service that finds its record holds the response against it.** -/
theorem upheld_held {s : Service W} {state : State} (h : s.Upheld asked policies state)
    (hstored : ∀ ns key, s.record = some (ns, key) → state.getValue ns key ≠ none)
    (hkeep : ∀ ns key, s.record = some (ns, key) → ctx.state.get ns = state.get ns) :
    s.HeldTo asked policies data ctx := by
  have hfound : ∀ ns key, s.record = some (ns, key) →
      ∃ v, state.getValue ns key = some v ∧ ctx.state.getValue ns key = some v := by
    intro ns key hrecord
    obtain ⟨v, hv⟩ := Option.ne_none_iff_exists'.mp (hstored ns key hrecord)
    refine ⟨v, hv, ?_⟩
    unfold State.getValue at hv ⊢
    exact (congrArg (Option.bind · _) (hkeep ns key hrecord)).trans hv
  cases s with
  | disco disco => exact trivial
  | transform t => exact trivial
  | accr a =>
    intro next ctx' hrun
    obtain ⟨v, hv, hctx⟩ := hfound _ _ rfl
    obtain rfl := h v hv
    unfold Accr.processResponse at hrun
    simp only [Flow.context, Action.read_bind_run] at hrun
    obtain ⟨classRef, haccepted, hrest⟩ := Action.lift_bind_ok.mp hrun
    have hrecorded : a.recorded ctx.state = asked.filter a.supported.contains := by
      unfold Accr.recorded
      rw [hctx]
      exact Json.asStrings_strings _
    rw [hrecorded] at haccepted
    simp only [Flow.clearNamespace, Flow.modify, Action.update_bind_run] at hrest
    cases hrest
    exact haccepted
  | stepup p view =>
    obtain ⟨policy, hpolicy, hasked, hrequest, _⟩ := h
    obtain ⟨v, hv, hctx⟩ := hfound _ _ rfl
    obtain rfl := hrequest v hv
    refine ⟨policy, hpolicy, hasked, ?_⟩
    unfold StepUp.savedPolicy
    rw [hctx]
    simp only [RequestPolicy.fromJson_toJson]

/-- A response a service keeps is under the policy the service held it to. -/
theorem service_snapshot (hnames : d.NamesApart) {s : Service W} {p : StepUp} {view : W → SamlWorld}
    (hmem : s ∈ d.services) (hp : .stepup p view ∈ d.services) (hs : ctx.state.Objects) {v : Json}
    (h : (s.microService.processResponseAction w response ctx).2.state.getValue p.stateNamespace KEY_SNAPSHOT = some v) :
    ctx.state.getValue p.stateNamespace KEY_SNAPSHOT = some v ∨
      s = .stepup p view ∧ ∃ snapshot : StepupSnapshot, v = snapshot.toJson ∧
        p.savedPolicy ctx response.requester = .ok snapshot.policy := by
  by_cases hown : .stepup p view = s
  · subst hown
    have hrun : (p.processResponseAction (view w) response ctx).2.state.getValue p.stateNamespace KEY_SNAPSHOT = some v := h
    rcases p.processResponseAction_cases (view w) response hs with
      ⟨e, ctx', hfail, _, hstate⟩ | ⟨_, _, ctx', _, _, hpass, _, hstate⟩ | ⟨snapshot, hpolicy, _, _, hwithin⟩
    · rw [hfail] at hrun
      refine .inl ?_
      rcases hstate with hsame | hcleared
      · exact hsame ▸ hrun
      · simp only [hcleared, State.getValue_clearNamespace, if_true] at hrun
        cases hrun
    · simp only [hpass, hstate, State.getValue_clearNamespace, if_true] at hrun
      cases hrun
    · rw [hwithin.value _ _ p.namespace_ne, State.getValue_setValue_self hs] at hrun
      exact .inr ⟨rfl, snapshot, (Option.some.inj hrun).symm, hpolicy⟩
  · have hkeeps := hnames.response_elsewhere hp hmem hown rfl w response ctx
    refine .inl ?_
    unfold State.getValue at h ⊢
    exact (congrArg (Option.bind · _) hkeeps).symm.trans h

/-- The leg comes to the step-up, which keeps the response under the policy it
holds it to. -/
def KeptUnder (w : W) (services : List (Service W)) (response : InternalData) (ctx : Context) (p : StepUp)
    (view : W → SamlWorld) (v : Json) : Prop :=
  ∃ j data ctx', Proxy.Continued w ((services.map (·.microService)).take j) response ctx data ctx' ∧
    services[j]? = some (.stepup p view) ∧ ∃ snapshot : StepupSnapshot, v = snapshot.toJson ∧
      p.savedPolicy ctx' data.requester = .ok snapshot.policy

/-- **A response a leg keeps is under the policy its step-up held it to.** -/
theorem leg_snapshot (hnames : d.NamesApart) {p : StepUp} {view : W → SamlWorld} (hp : .stepup p view ∈ d.services)
    {services : List (Service W)} (hmem : ∀ s ∈ services, s ∈ d.services) (hs : ctx.state.Objects) {v : Json}
    (h : (Proxy.responseServices w (services.map (·.microService)) response ctx).2.state.getValue p.stateNamespace
      KEY_SNAPSHOT = some v) :
    ctx.state.getValue p.stateNamespace KEY_SNAPSHOT = some v ∨ KeptUnder w services response ctx p view v := by
  induction services generalizing response ctx with
  | nil => exact .inl h
  | cons s rest ih =>
    have hsmem := hmem s List.mem_cons_self
    have hfirst : (s.microService.processResponseAction w response ctx).2.state.getValue p.stateNamespace KEY_SNAPSHOT =
        some v → ctx.state.getValue p.stateNamespace KEY_SNAPSHOT = some v ∨
          KeptUnder w (s :: rest) response ctx p view v := by
      intro hone
      rcases service_snapshot hnames hsmem hp hs hone with hbefore | ⟨hself, hsnapshot⟩
      · exact .inl hbefore
      · exact .inr ⟨0, response, ctx, .nil response ctx, congrArg some hself, hsnapshot⟩
    have hobjects : Spares (fun _ _ => False) ctx (s.microService.processResponseAction w response ctx).2 :=
      processResponse_keeps (fun _ _ => spares_untouched) (service_free objects_permits s) w response ctx
    have hleg : (Proxy.responseServices w (s.microService :: rest.map (·.microService)) response ctx).2.state.getValue
      p.stateNamespace KEY_SNAPSHOT = some v := h
    unfold Proxy.responseServices at hleg
    rcases hrun : s.microService.processResponseAction w response ctx with ⟨e | action, ctx₁⟩
    · rw [Action.bind_of_error hrun] at hleg
      rw [hrun] at hfirst
      exact hfirst hleg
    · rw [Action.bind_of_ok hrun] at hleg
      rw [hrun] at hfirst hobjects
      cases action with
      | respond http => exact hfirst hleg
      | «continue» next =>
        have hrest := ih (fun s' hs' => hmem s' (List.mem_cons_of_mem _ hs')) (hobjects.objects hs) hleg
        rcases hrest with hbefore | ⟨j, data, ctx', hcontinued, hat, hsnapshot⟩
        · exact hfirst hbefore
        · exact .inr ⟨j + 1, data, ctx', .cons hrun hcontinued, hat, hsnapshot⟩

end

end Deployment

end Tunnelbana
