/-
The MFA guarantee of the step-up service. A run calls its request leg, its
response leg and its endpoints in any order over one state, each with
decorations of its own; the ledger keeps the policy of the most recent request
and the account the last step-up since then was started for.

While the recorded policy is still stored, whatever the service lets through
is satisfied by the initial provider or by the second exchange
(`mfa_enforced`). Once its namespace was cleared, by a rejected response too,
the policy is computed anew from decorations the response leg does not have.
-/
import Tunnelbana.Basis.Run
import Tunnelbana.Plugins.SamlCorrelation
import Tunnelbana.Plugins.StepUp

namespace Tunnelbana

open Basis

theorem Context.decoration_undecorate_other (ctx : Context) {k k' : String} (h : k ≠ k') :
    (ctx.undecorate k).decoration k' = ctx.decoration k' := by
  show Assoc.get k' (Assoc.erase k ctx.decorations) = Assoc.get k' ctx.decorations
  rw [Assoc.get_erase, if_neg h]

theorem Context.decorationStrings_undecorate_other (ctx : Context) {k k' : String} (h : k ≠ k') :
    (ctx.undecorate k).decorationStrings k' = ctx.decorationStrings k' := by
  unfold Context.decorationStrings
  rw [ctx.decoration_undecorate_other h]

namespace StepUp

variable (p : StepUp) (w : SamlWorld) {ctx : Context} {data : InternalData}

/-! ## Policies -/

theorem wantsMfa_iff {policy : RequestPolicy} : policy.wantsMfa = true ↔ REFEDS_MFA ∈ policy.requesterLoas := by
  unfold RequestPolicy.wantsMfa
  rw [List.contains_iff_mem]

/-- **A policy that wants MFA asks for something**: a configured one was
checked, and without one REFEDS MFA itself is asked for. -/
theorem requestPolicy_requested {requester : Option String}
    (h : (p.requestPolicy ctx requester).wantsMfa = true) :
    (p.requestPolicy ctx requester).loaSettings.requested ≠ [] := by
  have hmem := wantsMfa_iff.mp h
  revert hmem
  unfold requestPolicy
  simp only
  generalize hconfigured : resolvePolicy p.mfa requester _ p.behavior .requester = configured
  intro hmem hnil
  cases configured with
  | none =>
    have hfilter : REFEDS_MFA ∈ (ctx.decorationStrings KEY_REQUESTED_ACCR).filter (· = REFEDS_MFA) :=
      List.mem_filter.mpr ⟨hmem, by simp⟩
    simp only [Option.getD_none] at hnil
    rw [hnil] at hfilter
    cases hfilter
  | some settings =>
    exact requested_of_validateMfa p.mfaValid (resolvePolicy_mem hconfigured) hnil

/-! ## What each leg does -/

theorem processRequest_run (data : InternalData) (ctx : Context) :
    ∃ ctx', p.processRequest data ctx = (.ok data, ctx') ∧
      ctx'.state = ctx.state.setValue p.stateNamespace KEY_REQUEST (p.recordedPolicy ctx data).toJson ∧
      ctx'.targetFrontend = ctx.targetFrontend ∧ ctx'.targetBackend = ctx.targetBackend := by
  unfold processRequest
  simp only [Flow.context, Action.read_bind_run, Flow.modify, Action.update_bind_run, Flow.setValue]
  refine ⟨_, rfl, ?_, ?_, ?_⟩ <;> cases (p.recordedPolicy ctx data).wantsMfa <;> rfl

/-- The response that passes was asked for no MFA, was satisfied, or had a
policy that asks for nothing. -/
def Passes (ctx : Context) (data : InternalData) (policy : RequestPolicy) : Prop :=
  policy.wantsMfa = false ∨
  (∃ returned, initialLoaDecision policy.behavior (p.initialProviderPolicy ctx data.authInfo.issuer policy.behavior)
    policy.requesterLoas data.authInfo.authClassRef = .satisfied returned) ∨
  policy.loaSettings.requested = []

/-- What the examination of a response comes to, from the decision on. -/
inductive Examined (ctx : Context) (data : InternalData) (policy : RequestPolicy) :
    Except Error Verdict × Context → Prop
  | pass (response : InternalData) (ctx' : Context) (hstate : ctx'.state = ctx.state)
      (hpasses : p.Passes ctx data policy) : Examined ctx data policy (.ok (.pass response), ctx')
  | stepUp (snapshot : StepupSnapshot) (ctx' : Context) (hwants : policy.wantsMfa = true)
      (haccount : linkedAccount ctx = .ok snapshot.account) (hpolicy : snapshot.policy = policy)
      (hresponse : snapshot.response = data) (hfrontend : snapshot.targetFrontend = ctx.targetFrontend)
      (hstate : ctx'.state = ctx.state.setValue p.stateNamespace KEY_SNAPSHOT snapshot.toJson) :
      Examined ctx data policy (.ok (.stepUp policy snapshot.account), ctx')
  | fail (e : Error) (ctx' : Context)
      (hstate : ctx'.state = ctx.state ∨ ctx'.state = ctx.state.clearNamespace p.stateNamespace) :
      Examined ctx data policy (.error e, ctx')

theorem keepResponse_examined {policy : RequestPolicy} {account : MfaStepupAccount}
    (hwants : policy.wantsMfa = true) (haccount : linkedAccount ctx = .ok account) :
    p.Examined ctx data policy (p.keepResponse policy account data ctx) := by
  unfold keepResponse
  cases internalNameForExternal p.mapper account.attributeName policy.behavior with
  | error e => exact .fail e ctx (.inl rfl)
  | ok _ =>
    rw [Action.lift_ok_bind_run]
    cases internalNameForExternal p.mapper account.assurance policy.behavior with
    | error e => exact .fail e ctx (.inl rfl)
    | ok _ =>
      simp only [Action.lift_ok_bind_run, Flow.context, Action.read_bind_run, Flow.require]
      split
      · exact .stepUp ⟨data, account, policy, ctx.targetBackend, ctx.targetFrontend, ctx.decorations⟩ _ hwants
          haccount rfl rfl rfl rfl
      · exact .fail _ ctx (.inl rfl)

theorem requireStepup_examined {policy : RequestPolicy} (hwants : policy.wantsMfa = true) :
    p.Examined ctx data policy (p.requireStepup policy data ctx) := by
  unfold requireStepup
  split
  · exact .fail _ _ (.inl rfl)
  · simp only [Flow.context, Action.read_bind_run]
    cases haccount : linkedAccount ctx with
    | error e => exact .fail e ctx (.inl rfl)
    | ok account =>
      rw [Action.lift_ok_bind_run]
      cases p.saml.validateStepupTarget account.entityId with
      | error e => exact .fail e ctx (.inl rfl)
      | ok _ =>
        rw [Action.lift_ok_bind_run]
        split
        next hempty =>
          refine .pass data ctx rfl (.inr (.inr ?_))
          rcases hempty with hnil | hnil
          · have hmem := wantsMfa_iff.mp hwants
            rw [hnil] at hmem
            cases hmem
          · exact hnil
        next => exact p.keepResponse_examined hwants haccount

theorem decide_examined {policy : RequestPolicy} (hwants : policy.wantsMfa = true) :
    p.Examined ctx data policy (p.decide policy data ctx) := by
  unfold decide
  simp only [Flow.context, Action.read_bind_run]
  generalize hdecision : initialLoaDecision policy.behavior _ policy.requesterLoas data.authInfo.authClassRef
    = decision
  cases decision with
  | satisfied returned => exact .pass _ ctx rfl (.inr (.inl ⟨returned, hdecision⟩))
  | rejected => exact .fail _ _ (.inr rfl)
  | needsStepup => exact p.requireStepup_examined hwants

/-- **A response is examined under the saved policy.** -/
theorem examine_cases (data : InternalData) (ctx : Context) :
    (∃ policy, p.savedPolicy ctx data.requester = .ok policy ∧
      p.Examined (ctx.undecorate KEY_STEPUP_INITIAL_POLICY) data policy (p.examine data ctx)) ∨
    ∃ e, p.examine data ctx = (.error e, ctx) := by
  unfold examine
  simp only [Flow.context, Action.read_bind_run]
  cases hpolicy : p.savedPolicy ctx data.requester with
  | error e => exact .inr ⟨e, rfl⟩
  | ok policy =>
    simp only [Action.lift_ok_bind_run, Flow.undecorate, Flow.modify, Action.update_bind_run]
    refine .inl ⟨policy, rfl, ?_⟩
    cases hwants : policy.wantsMfa with
    | true => exact p.decide_examined hwants
    | false => exact .pass data _ rfl (.inl hwants)

/-- The undecorated handoff plays no part in whether a response passes. -/
theorem passes_undecorate {policy : RequestPolicy}
    (h : p.Passes (ctx.undecorate KEY_STEPUP_INITIAL_POLICY) data policy) : p.Passes ctx data policy := by
  have hsame : p.initialProviderPolicy (ctx.undecorate KEY_STEPUP_INITIAL_POLICY) data.authInfo.issuer policy.behavior
      = p.initialProviderPolicy ctx data.authInfo.issuer policy.behavior := by
    unfold initialProviderPolicy
    rw [ctx.decorationStrings_undecorate_other (by decide), ctx.decorationStrings_undecorate_other (by decide)]
  unfold Passes at h
  rw [hsame] at h
  exact h

theorem linkedAccount_undecorate :
    linkedAccount (ctx.undecorate KEY_STEPUP_INITIAL_POLICY) = linkedAccount ctx := by
  unfold linkedAccount
  rw [ctx.decoration_undecorate_other (by decide)]

/-! ## Namespaces -/

theorem namespace_ne : p.saml.stateNamespace ≠ p.stateNamespace := by
  rw [p.samlNamespace]
  unfold stateNamespace
  intro h
  have hlist := congrArg String.toList h
  simp [String.toList_append] at hlist

/-- Sending the user to the provider answers or fails, and leaves the service's
own namespace. -/
theorem redirectStepup_cases (policy : RequestPolicy) (account : MfaStepupAccount) (data : InternalData)
    (hs : ctx.state.Objects) :
    ((∃ r, (p.redirectStepup w policy account data ctx).1 = .ok (.respond r)) ∨
      ∃ e, (p.redirectStepup w policy account data ctx).1 = .error e) ∧
    ctx.state.Within p.saml.stateNamespace (p.redirectStepup w policy account data ctx).2.state := by
  unfold redirectStepup
  simp only [Flow.decorate, Flow.modify, Action.update_bind_run]
  generalize hctx : Context.decorate (Context.decorate (Context.decorate ctx _ _) _ _) _ _ = ctx₁
  have hstate : ctx₁.state = ctx.state := by rw [← hctx]; rfl
  rw [← hstate] at hs ⊢
  have hwithin := p.saml.startAuth_within w
    { subjectId := some account.identifier, requester := data.requester } hs
  rw [Action.bind_run]
  rcases hrun : p.saml.startAuth w { subjectId := some account.identifier, requester := data.requester } ctx₁ with
    ⟨e | redirect, ctx'⟩
  · rw [hrun] at hwithin
    exact ⟨.inr ⟨e, rfl⟩, hwithin⟩
  · rw [hrun] at hwithin
    exact ⟨.inl ⟨redirect, rfl⟩, hwithin⟩

/-- A second exchange ends in the completed response or fails; either way the
state stays. -/
theorem finishStepup_cases (snapshot : StepupSnapshot) (response : InternalData) (ctx : Context) :
    (∃ e, p.finishStepup snapshot response ctx = (.error e, ctx)) ∨
    ∃ internal assurance ctx',
      internalNameForExternal p.mapper snapshot.account.attributeName snapshot.policy.behavior = .ok internal ∧
      satisfies snapshot internal response = true ∧
      p.finishStepup snapshot response ctx = (.ok (completed snapshot assurance response), ctx') ∧
      ctx'.state = ctx.state ∧ ctx'.targetFrontend = snapshot.targetFrontend := by
  unfold finishStepup
  cases hinternal : internalNameForExternal p.mapper snapshot.account.attributeName snapshot.policy.behavior with
  | error e => exact .inl ⟨e, rfl⟩
  | ok internal =>
    rw [Action.lift_ok_bind_run]
    by_cases hsatisfies : satisfies snapshot internal response = true
    · simp only [Flow.require, if_pos hsatisfies, Action.pure_bind_run]
      cases internalNameForExternal p.mapper snapshot.account.assurance snapshot.policy.behavior with
      | error e => exact .inl ⟨e, rfl⟩
      | ok assurance => exact .inr ⟨internal, assurance, _, rfl, hsatisfies, rfl, rfl, rfl⟩
    · simp only [Flow.require, if_neg hsatisfies, Action.fail_bind_run, Flow.fail]
      exact .inl ⟨_, rfl⟩

/-- **An ACS answers with the response of its snapshot, satisfied by the second
one, or fails.** Nothing of the service's namespace survives an answer. -/
theorem handleAcs_cases (hs : ctx.state.Objects) :
    (∃ e ctx', p.handleAcs w ctx = (.error e, ctx') ∧ ctx'.state.Objects ∧
      ((∀ key, ctx'.state.getValue p.stateNamespace key = ctx.state.getValue p.stateNamespace key) ∨
        ∀ key, ctx'.state.getValue p.stateNamespace key = none)) ∨
    ∃ snapshot response internal assurance ctx',
      p.snapshot ctx = .ok snapshot ∧
      (p.saml.handleEndpoint w "acs" ctx).1 = .ok (.authResponse response) ∧
      internalNameForExternal p.mapper snapshot.account.attributeName snapshot.policy.behavior = .ok internal ∧
      satisfies snapshot internal response = true ∧
      p.handleAcs w ctx = (.ok (.resumeResponse (completed snapshot assurance response)), ctx') ∧
      ctx'.state.Objects ∧ (∀ key, ctx'.state.getValue p.stateNamespace key = none) ∧
      ctx'.targetFrontend = snapshot.targetFrontend := by
  unfold handleAcs
  simp only [Flow.context, Action.read_bind_run]
  cases hsnapshot : p.snapshot ctx with
  | error e => exact .inl ⟨e, ctx, rfl, hs, .inl fun _ => rfl⟩
  | ok snapshot =>
    rw [Action.lift_ok_bind_run, Action.bind_run]
    have hwithin := p.saml.handleEndpoint_within w "acs" hs
    rcases hrun : p.saml.handleEndpoint w "acs" ctx with ⟨e | action, ctx'⟩
    · rw [hrun] at hwithin
      exact .inl ⟨e, ctx', rfl, hwithin.objects hs, .inl fun key => hwithin.value _ key p.namespace_ne⟩
    · rw [hrun] at hwithin
      have hs' : ctx'.state.Objects := hwithin.objects hs
      cases action with
      | respond r =>
        exact .inl ⟨_, ctx', rfl, hs', .inl fun key => hwithin.value _ key p.namespace_ne⟩
      | authResponse response =>
        simp only [completeExchange, Flow.clearNamespace, Flow.modify, Action.update_bind_run]
        have hcleared : (ctx'.mapState fun s => s.clearNamespace p.stateNamespace).state.Objects :=
          hs'.clearNamespace _
        have hgone : ∀ key, (ctx'.mapState fun s => s.clearNamespace p.stateNamespace).state.getValue
            p.stateNamespace key = none :=
          fun key => (State.getValue_clearNamespace _ _ _ _).trans (if_pos rfl)
        rcases p.finishStepup_cases snapshot response (ctx'.mapState fun s => s.clearNamespace p.stateNamespace) with
          ⟨e, hfinish⟩ | ⟨internal, assurance, ctx'', hinternal, hsatisfies, hfinish, hstate, hfrontend⟩
        · rw [Action.bind_of_error hfinish]
          exact .inl ⟨e, _, rfl, hcleared, .inr hgone⟩
        · rw [Action.bind_of_ok hfinish]
          refine .inr ⟨snapshot, response, internal, assurance, ctx'', rfl, rfl, hinternal, hsatisfies, rfl, ?_, ?_,
            hfrontend⟩
          · rw [hstate]
            exact hcleared
          · rw [hstate]
            exact hgone

/-- No other endpoint resumes a response or touches the service's namespace. -/
theorem handleEndpoint_cases {routeId : String} (hroute : routeId ≠ "acs") (hs : ctx.state.Objects) :
    (∀ next, (p.handleEndpoint w routeId ctx).1 ≠ .ok (.resumeResponse next)) ∧
    (p.handleEndpoint w routeId ctx).2.state.Objects ∧
    ∀ key, (p.handleEndpoint w routeId ctx).2.state.getValue p.stateNamespace key =
      ctx.state.getValue p.stateNamespace key := by
  unfold handleEndpoint
  split
  · have hwithin := p.saml.handleEndpoint_within w routeId hs
    rw [Action.bind_run]
    rcases hrun : p.saml.handleEndpoint w routeId ctx with ⟨e | action, ctx'⟩
    · rw [hrun] at hwithin
      exact ⟨fun next h => (by cases h), hwithin.objects hs, fun key => hwithin.value _ key p.namespace_ne⟩
    · rw [hrun] at hwithin
      cases action with
      | respond r => exact ⟨fun next h => (by cases h), hwithin.objects hs, fun key => hwithin.value _ key p.namespace_ne⟩
      | authResponse response =>
        exact ⟨fun next h => (by cases h), hwithin.objects hs, fun key => hwithin.value _ key p.namespace_ne⟩
  · exact ⟨fun next h => (by cases h), hs, fun _ => rfl⟩

def steppedUp (data : InternalData) (ctx : Context) : Option MfaStepupAccount :=
  match (p.examine data ctx).1 with
  | .ok (.stepUp _ _) => (linkedAccount ctx).toOption
  | _ => none

/-- **A response passes and consumes the namespace, is kept in a snapshot, or
fails**; a failing one leaves the namespace, or drops it. -/
theorem processResponseAction_cases (data : InternalData) (hs : ctx.state.Objects) :
    (∃ e ctx', p.processResponseAction w data ctx = (.error e, ctx') ∧ p.steppedUp data ctx = none ∧
      (ctx'.state = ctx.state ∨ ctx'.state = ctx.state.clearNamespace p.stateNamespace)) ∨
    (∃ policy response ctx', p.savedPolicy ctx data.requester = .ok policy ∧ p.Passes ctx data policy ∧
      p.processResponseAction w data ctx = (.ok (.continue response), ctx') ∧ p.steppedUp data ctx = none ∧
      ctx'.state = ctx.state.clearNamespace p.stateNamespace) ∨
    ∃ snapshot : StepupSnapshot, p.savedPolicy ctx data.requester = .ok snapshot.policy ∧
      p.steppedUp data ctx = some snapshot.account ∧
      (∀ next, (p.processResponseAction w data ctx).1 ≠ .ok (.continue next)) ∧
      (ctx.state.setValue p.stateNamespace KEY_SNAPSHOT snapshot.toJson).Within p.saml.stateNamespace
        (p.processResponseAction w data ctx).2.state := by
  unfold processResponseAction steppedUp
  rcases p.examine_cases data ctx with ⟨policy, hpolicy, hexamined⟩ | ⟨e, hfail⟩
  · have hstate : (ctx.undecorate KEY_STEPUP_INITIAL_POLICY).state = ctx.state := rfl
    generalize hrun : p.examine data ctx = run at hexamined
    cases hexamined with
    | pass response ctx' hkept hpasses =>
      rw [Action.bind_of_ok hrun]
      refine .inr (.inl ⟨policy, response, _, hpolicy, p.passes_undecorate hpasses, rfl, rfl, ?_⟩)
      show ctx'.state.clearNamespace _ = _
      rw [hkept, hstate]
    | stepUp snapshot ctx' hwants haccount hsame hresponse hfrontend hkept =>
      rw [Action.bind_of_ok hrun]
      rw [linkedAccount_undecorate] at haccount
      subst hsame
      have hs' : ctx'.state.Objects := by
        rw [hkept, hstate]
        exact hs.setValue _ _ _
      obtain ⟨haction, hwithin⟩ := p.redirectStepup_cases w snapshot.policy snapshot.account data hs'
      rw [hkept, hstate] at hwithin
      refine .inr (.inr ⟨snapshot, hpolicy, ?_, fun next hnext => ?_, hwithin⟩)
      · show (linkedAccount ctx).toOption = _
        rw [haccount]
        rfl
      · rcases haction with ⟨r, hr⟩ | ⟨e, he⟩
        · cases hr.symm.trans hnext
        · cases he.symm.trans hnext
    | fail e ctx' hkept =>
      rw [Action.bind_of_error hrun]
      exact .inl ⟨e, ctx', rfl, rfl, hkept⟩
  · rw [Action.bind_of_error hfail, hfail]
    exact .inl ⟨e, ctx, rfl, rfl, .inl rfl⟩

/-! ## Runs -/

inductive Call where
  | request (data : InternalData)
  | response (data : InternalData)
  | endpoint (routeId : String)

/-- A call with the context it is made in, but for the state. -/
structure Visit where
  world : SamlWorld
  http : HttpRequestData := {}
  decorations : Assoc Json := []
  targetBackend : Option String := none
  targetFrontend : Option String := none
  call : Call

def Visit.context (v : Visit) (s : State) : Context :=
  { request := v.http, targetBackend := v.targetBackend, targetFrontend := v.targetFrontend, state := s,
    decorations := v.decorations }

/-- The state, the policy of the most recent request and the account the last
step-up since was started for. -/
structure Ledger where
  state : State
  recorded : Option RequestPolicy := none
  linked : Option MfaStepupAccount := none

def step (l : Ledger) (v : Visit) : Ledger :=
  let ctx := v.context l.state
  match v.call with
  | .request data =>
    { state := (p.processRequest data ctx).2.state, recorded := some (p.recordedPolicy ctx data) }
  | .response data =>
    { l with
      state := (p.processResponseAction v.world data ctx).2.state
      linked := (p.steppedUp data ctx).or l.linked }
  | .endpoint routeId => { l with state := (p.handleEndpoint v.world routeId ctx).2.state }

def InitiallySatisfied (ctx : Context) (policy : RequestPolicy) (data : InternalData) : Prop :=
  ∃ returned, initialLoaDecision policy.behavior (p.initialProviderPolicy ctx data.authInfo.issuer policy.behavior)
    policy.requesterLoas data.authInfo.authClassRef = .satisfied returned

/-- The second response is the linked provider's, at a LoA the policy asks for
and with the linked identifier. -/
def Confirms (policy : RequestPolicy) (account : MfaStepupAccount) (response : InternalData) : Prop :=
  response.authInfo.issuer = some account.entityId ∧
  (∃ loa ∈ policy.loaSettings.requested, response.authInfo.authClassRef = some loa) ∧
  ∃ internal values, internalNameForExternal p.mapper account.attributeName policy.behavior = .ok internal ∧
    response.attributes.get internal = some values ∧ account.identifier ∈ values

/-- **Under a recorded policy that wants MFA**, a response is let through when
the initial provider satisfied it, and one is resumed when the second response
of this call confirms the account the flow was stepped up with. -/
def Justified (l : Ledger) (v : Visit) : Prop :=
  ∀ policy, l.recorded = some policy → policy.wantsMfa = true →
    (∀ data next, v.call = .response data →
      (p.processResponseAction v.world data (v.context l.state)).1 = .ok (.continue next) →
      p.InitiallySatisfied (v.context l.state) policy data) ∧
    (∀ routeId next, v.call = .endpoint routeId →
      (p.handleEndpoint v.world routeId (v.context l.state)).1 = .ok (.resumeResponse next) →
      ∃ response account,
        (p.saml.handleEndpoint v.world "acs" (v.context l.state)).1 = .ok (.authResponse response) ∧
        l.linked = some account ∧ p.Confirms policy account response)

/-- A response comes while the recorded policy is stored, or what is computed
in its place asks for the same; an ACS comes with a snapshot only when it is one
taken since the most recent request. -/
def Kept (l : Ledger) (v : Visit) : Prop :=
  ∀ policy, l.recorded = some policy → policy.wantsMfa = true →
    (∀ data, v.call = .response data → l.state.getValue p.stateNamespace KEY_REQUEST = none →
      (p.requestPolicy (v.context l.state) data.requester).requesterLoas = policy.requesterLoas ∧
      (p.requestPolicy (v.context l.state) data.requester).loaSettings = policy.loaSettings) ∧
    (v.call = .endpoint "acs" → l.state.getValue p.stateNamespace KEY_SNAPSHOT ≠ none → l.linked ≠ none)

/-- The stored policy is the recorded one, which asks for something under the
service's own behavior; a snapshot taken since keeps the account and the LoAs. -/
structure Guarded (l : Ledger) : Prop where
  objects : l.state.Objects
  stored : ∀ policy, l.recorded = some policy → ∀ v,
    l.state.getValue p.stateNamespace KEY_REQUEST = some v → v = policy.toJson
  behavior : ∀ policy, l.recorded = some policy → policy.behavior = p.behavior
  requested : ∀ policy, l.recorded = some policy → policy.wantsMfa = true → policy.loaSettings.requested ≠ []
  snapshot : ∀ policy account, l.recorded = some policy → policy.wantsMfa = true → l.linked = some account → ∀ v,
    l.state.getValue p.stateNamespace KEY_SNAPSHOT = some v → ∃ snapshot : StepupSnapshot,
      v = snapshot.toJson ∧ snapshot.account = account ∧ snapshot.policy.behavior = p.behavior ∧
      snapshot.policy.loaSettings = policy.loaSettings

variable {p} {l : Ledger} {v : Visit}

theorem guarded_start {s : State} (hs : s.Objects) : p.Guarded { state := s } where
  objects := hs
  stored _ h := by cases h
  behavior _ h := by cases h
  requested _ h := by cases h
  snapshot _ _ h := by cases h

theorem Guarded.request {data : InternalData} (h : p.Guarded l) (hcall : v.call = .request data) :
    p.Guarded (p.step l v) := by
  have hs : (v.context l.state).state.Objects := h.objects
  obtain ⟨ctx', hrun, hstate, _, _⟩ := p.processRequest_run data (v.context l.state)
  simp only [step, hcall, hrun]
  refine ⟨?_, fun policy hpolicy v' hv => ?_, fun policy hpolicy => ?_, fun policy hpolicy hwants => ?_,
    fun _ _ _ _ hlinked => by cases hlinked⟩
  · rw [hstate]
    exact hs.setValue _ _ _
  · cases hpolicy
    rw [hstate, State.getValue_setValue_self hs] at hv
    exact (Option.some.inj hv).symm
  · cases hpolicy
    rfl
  · cases hpolicy
    exact p.requestPolicy_requested hwants

/-- Under the condition a response is examined under the recorded LoAs. -/
theorem Guarded.savedPolicy {data : InternalData} {recorded policy : RequestPolicy} (h : p.Guarded l)
    (hc : p.Kept l v) (hcall : v.call = .response data) (hrecorded : l.recorded = some recorded)
    (hwants : recorded.wantsMfa = true)
    (hpolicy : p.savedPolicy (v.context l.state) data.requester = .ok policy) :
    policy.behavior = recorded.behavior ∧ policy.requesterLoas = recorded.requesterLoas ∧
      policy.loaSettings = recorded.loaSettings := by
  unfold StepUp.savedPolicy at hpolicy
  have hstate : (v.context l.state).state = l.state := rfl
  rw [hstate] at hpolicy
  cases hstored : l.state.getValue p.stateNamespace KEY_REQUEST with
  | none =>
    simp only [hstored] at hpolicy
    cases hpolicy
    obtain ⟨hloas, hsettings⟩ := (hc recorded hrecorded hwants).1 data hcall hstored
    exact ⟨(h.behavior recorded hrecorded).symm, hloas, hsettings⟩
  | some value =>
    have hvalue := h.stored recorded hrecorded value hstored
    subst hvalue
    simp only [hstored, RequestPolicy.fromJson_toJson] at hpolicy
    cases hpolicy
    exact ⟨rfl, rfl, rfl⟩

theorem Guarded.of_none (h : p.Guarded l) {s : State} (hs : s.Objects) (linked : Option MfaStepupAccount)
    (hnone : ∀ key, s.getValue p.stateNamespace key = none) :
    p.Guarded { state := s, recorded := l.recorded, linked } := by
  refine ⟨hs, fun _ _ v hv => ?_, h.behavior, h.requested, fun _ _ _ _ _ v hv => ?_⟩
  · cases (hnone KEY_REQUEST).symm.trans hv
  · cases (hnone KEY_SNAPSHOT).symm.trans hv

theorem Guarded.of_same (h : p.Guarded l) {s : State} (hs : s.Objects)
    (hsame : ∀ key, s.getValue p.stateNamespace key = l.state.getValue p.stateNamespace key) :
    p.Guarded { l with state := s } := by
  refine ⟨hs, fun policy hpolicy v hv => ?_, h.behavior, h.requested,
    fun policy account hpolicy hwants hlinked v hv => ?_⟩
  · exact h.stored policy hpolicy v ((hsame KEY_REQUEST).symm.trans hv)
  · exact h.snapshot policy account hpolicy hwants hlinked v ((hsame KEY_SNAPSHOT).symm.trans hv)

/-- **A response keeps the invariant**: what it keeps is kept under the recorded
LoAs. -/
theorem Guarded.response {data : InternalData} (h : p.Guarded l) (hc : p.Kept l v) (hcall : v.call = .response data) :
    p.Guarded (p.step l v) := by
  have hs : (v.context l.state).state.Objects := h.objects
  simp only [step, hcall]
  rcases p.processResponseAction_cases v.world data hs with ⟨e, ctx', hrun, hstepped, hstate | hstate⟩ |
    ⟨policy, response, ctx', _, _, hrun, hstepped, hstate⟩ | ⟨snapshot, hpolicy, hstepped, _, hwithin⟩
  · rw [hrun, hstepped]
    exact h.of_same (hstate ▸ hs) fun key => by rw [hstate]; rfl
  · rw [hrun, hstepped]
    refine h.of_none (hstate ▸ hs.clearNamespace _) _ fun key => ?_
    rw [hstate]
    exact (State.getValue_clearNamespace _ _ _ _).trans (if_pos rfl)
  · rw [hrun, hstepped]
    refine h.of_none (hstate ▸ hs.clearNamespace _) _ fun key => ?_
    rw [hstate]
    exact (State.getValue_clearNamespace _ _ _ _).trans (if_pos rfl)
  · rw [hstepped]
    have hkept : ∀ key, (p.processResponseAction v.world data (v.context l.state)).2.state.getValue p.stateNamespace key
        = (l.state.setValue p.stateNamespace KEY_SNAPSHOT snapshot.toJson).getValue p.stateNamespace key :=
      fun key => hwithin.value _ key p.namespace_ne
    refine ⟨hwithin.objects (hs.setValue _ _ _), fun policy hrecorded v' hv => ?_, h.behavior, h.requested,
      fun policy account hrecorded hwants hlinked v' hv => ?_⟩
    · refine h.stored policy hrecorded v' ?_
      rw [← hv]
      refine ((hkept KEY_REQUEST).trans (State.getValue_setValue_other _ _ ?_)).symm
      simp [KEY_SNAPSHOT, KEY_REQUEST]
    · cases hlinked
      rw [hkept, State.getValue_setValue_self h.objects] at hv
      obtain ⟨hbehavior, _, hsettings⟩ := h.savedPolicy hc hcall hrecorded hwants hpolicy
      exact ⟨snapshot, (Option.some.inj hv).symm, rfl, hbehavior.trans (h.behavior policy hrecorded), hsettings⟩

theorem Guarded.step (h : p.Guarded l) (hc : p.Kept l v) : p.Guarded (p.step l v) := by
  have hs : (v.context l.state).state.Objects := h.objects
  cases hcall : v.call with
  | request data => exact h.request hcall
  | response data => exact h.response hc hcall
  | endpoint routeId =>
    simp only [StepUp.step, hcall]
    by_cases hroute : routeId = "acs"
    · subst hroute
      have hacs : p.handleEndpoint v.world "acs" (v.context l.state) = p.handleAcs v.world (v.context l.state) := rfl
      rw [hacs]
      rcases p.handleAcs_cases v.world hs with ⟨e, ctx', hrun, hobjects, hsame | hgone⟩ |
        ⟨_, _, _, _, ctx', _, _, _, _, hrun, hobjects, hgone, _⟩
      · rw [hrun]
        exact h.of_same hobjects hsame
      · rw [hrun]
        exact h.of_none hobjects _ hgone
      · rw [hrun]
        exact h.of_none hobjects _ hgone
    · obtain ⟨_, hobjects, hsame⟩ := p.handleEndpoint_cases v.world hroute hs
      exact h.of_same hobjects hsame

/-! ## What is let through -/

theorem Guarded.continues {data next : InternalData} {recorded : RequestPolicy} (h : p.Guarded l) (hc : p.Kept l v)
    (hcall : v.call = .response data) (hrecorded : l.recorded = some recorded) (hwants : recorded.wantsMfa = true)
    (hrun : (p.processResponseAction v.world data (v.context l.state)).1 = .ok (.continue next)) :
    p.InitiallySatisfied (v.context l.state) recorded data := by
  have hs : (v.context l.state).state.Objects := h.objects
  rcases p.processResponseAction_cases v.world data hs with ⟨e, ctx', hfail, _, _⟩ |
    ⟨policy, response, ctx', hpolicy, hpasses, _, _, _⟩ | ⟨_, _, _, hnever, _⟩
  · rw [hfail] at hrun
    cases hrun
  · obtain ⟨hbehavior, hloas, hsettings⟩ := h.savedPolicy hc hcall hrecorded hwants hpolicy
    rcases hpasses with hwithout | ⟨returned, hsatisfied⟩ | hempty
    · have hstill : policy.wantsMfa = true := by
        unfold RequestPolicy.wantsMfa at hwants ⊢
        rw [hloas]
        exact hwants
      rw [hstill] at hwithout
      cases hwithout
    · refine ⟨returned, ?_⟩
      rw [← hbehavior, ← hloas]
      exact hsatisfied
    · exact absurd (hsettings ▸ hempty) (h.requested recorded hrecorded hwants)
  · exact absurd hrun (hnever next)

theorem confirms_of_satisfies {snapshot : StepupSnapshot} {policy : RequestPolicy} {internal : String}
    {response : InternalData} (hbehavior : snapshot.policy.behavior = policy.behavior)
    (hsettings : snapshot.policy.loaSettings = policy.loaSettings)
    (hinternal : internalNameForExternal p.mapper snapshot.account.attributeName snapshot.policy.behavior = .ok internal)
    (hsatisfies : satisfies snapshot internal response = true) : p.Confirms policy snapshot.account response := by
  unfold satisfies at hsatisfies
  obtain ⟨hissuerLoa, hidentifier⟩ := Bool.and_eq_true_iff.mp hsatisfies
  obtain ⟨hissuer, hloa⟩ := Bool.and_eq_true_iff.mp hissuerLoa
  refine ⟨of_decide_eq_true hissuer, ?_, ?_⟩
  · cases hclass : response.authInfo.authClassRef with
    | none =>
      rw [hclass] at hloa
      cases hloa
    | some loa =>
      rw [hclass, hsettings] at hloa
      exact ⟨loa, List.contains_iff_mem.mp hloa, rfl⟩
  · cases hvalues : response.attributes.get internal with
    | none =>
      rw [hvalues] at hidentifier
      cases hidentifier
    | some values =>
      rw [hvalues] at hidentifier
      exact ⟨internal, values, hbehavior ▸ hinternal, hvalues, List.contains_iff_mem.mp hidentifier⟩

/-- A resumed response is confirmed by the linked account's provider. -/
theorem Guarded.resumes {routeId : String} {next : InternalData} {recorded : RequestPolicy} (h : p.Guarded l)
    (hc : p.Kept l v) (hcall : v.call = .endpoint routeId) (hrecorded : l.recorded = some recorded)
    (hwants : recorded.wantsMfa = true)
    (hrun : (p.handleEndpoint v.world routeId (v.context l.state)).1 = .ok (.resumeResponse next)) :
    ∃ response account,
      (p.saml.handleEndpoint v.world "acs" (v.context l.state)).1 = .ok (.authResponse response) ∧
      l.linked = some account ∧ p.Confirms recorded account response := by
  have hs : (v.context l.state).state.Objects := h.objects
  by_cases hroute : routeId = "acs"
  · subst hroute
    have hacs : p.handleEndpoint v.world "acs" (v.context l.state) = p.handleAcs v.world (v.context l.state) := rfl
    rw [hacs] at hrun
    rcases p.handleAcs_cases v.world hs with ⟨e, ctx', hfail, _, _⟩ |
      ⟨snapshot, response, internal, _, _, hsnapshot, hresponse, hinternal, hsatisfies, _, _, _, _⟩
    · rw [hfail] at hrun
      cases hrun
    · unfold StepUp.snapshot at hsnapshot
      have hstate : (v.context l.state).state = l.state := rfl
      rw [hstate] at hsnapshot
      cases hstored : l.state.getValue p.stateNamespace KEY_SNAPSHOT with
      | none =>
        simp only [hstored] at hsnapshot
        cases hsnapshot
      | some value =>
        have hlinked := (hc recorded hrecorded hwants).2 hcall (by rw [hstored]; simp)
        cases haccount : l.linked with
        | none => exact absurd haccount hlinked
        | some account =>
          obtain ⟨kept, hvalue, hkept, hbehavior, hsettings⟩ :=
            h.snapshot recorded account hrecorded hwants haccount value hstored
          subst hvalue
          simp only [hstored, StepupSnapshot.fromJson_toJson] at hsnapshot
          cases hsnapshot
          subst hkept
          exact ⟨response, snapshot.account, hresponse, rfl, confirms_of_satisfies
            (hbehavior.trans (h.behavior recorded hrecorded).symm) hsettings hinternal hsatisfies⟩
  · exact absurd hrun ((p.handleEndpoint_cases v.world hroute hs).1 next)

/-- **On every run of the service over one state, whatever it lets through under
a recorded policy that wants MFA is satisfied by the initial provider or by
the linked account's**: as long as each response finds the recorded policy, or
one that asks for the same, and each ACS a snapshot of the recorded request. -/
theorem mfa_enforced (p : StepUp) (s : State) (hs : s.Objects) (vs : List Visit)
    (h : Along p.step p.Kept { state := s } vs) : Along p.step p.Justified { state := s } vs := by
  refine Along.of_invariant (fun _ _ hl hc => hl.step hc) (fun l v hl hc policy hrecorded hwants => ⟨?_, ?_⟩)
    (guarded_start hs) h
  · intro data next hcall hrun
    exact hl.continues hc hcall hrecorded hwants hrun
  · intro routeId next hcall hrun
    exact hl.resumes hc hcall hrecorded hwants hrun

/-! ## A rejected response, presented again -/

/-- A service with a policy for one provider, which asks for REFEDS MFA. -/
def eduid : StepUp where
  name := "mfa"
  behavior := .eduid
  mfa := { byEntityId := [("https://idp.example", { requested := [REFEDS_MFA], returned := some REFEDS_MFA })] }
  saml := { Saml2Backend.discovering with stateNamespace := "stepup_saml:mfa", requestSubject := true }
  mapper := {}
  mfaValid := rfl
  samlNamespace := rfl
  samlSubject := rfl

def stepUpWorld : SamlWorld := Saml2Backend.answering "_q1"

def mfaRequest : Visit where
  world := stepUpWorld
  decorations := [(KEY_REQUESTED_ACCR, Json.strings [REFEDS_MFA])]
  call := .request (InternalData.request "https://sp.example")

def asserting (loa : String) : InternalData :=
  { InternalData.request "https://sp.example" with
    authInfo := { issuer := some "https://idp.example", authClassRef := some loa } }

def providerResponse (loa : String) : Visit where
  world := stepUpWorld
  call := .response (asserting loa)

def linkedMap : AttributeMapper where
  attributes := .ofList [("assurance", .ofList [("saml", { names := ["eduPersonAssurance"] })]),
    ("eppn", .ofList [("saml", { names := ["eduPersonPrincipalName"] })])]

/-- A service with no policy for any provider: the linked account's is asked. -/
def secondProvider : StepUp where
  name := "second"
  mfa := {}
  saml := { eduid.saml with stateNamespace := "stepup_saml:second", mapper := linkedMap }
  mapper := linkedMap
  mfaValid := rfl
  samlNamespace := rfl
  samlSubject := rfl

/-- A password response of a user with a linked account. -/
def linkedResponse : Visit :=
  { providerResponse "password" with
    decorations := [(KEY_MFA_STEPUP_ACCOUNTS,
      .arr [({ entityId := "https://idp.example", identifier := "anna@idp" } : MfaStepupAccount).toJson])] }

/-- The account's provider answers the exchange it was asked for. -/
def linkedAnswer : Visit where
  world :=
    { stepUpWorld with
      parseXml := fun _ => .ok {
        response := .ok { Saml2Backend.answer with
          assertions := [{
            id := "_a1"
            issuer := "https://idp.example"
            nameId := some (.nameId { value := "anna", format := some NAMEID_PERSISTENT })
            authnStatements := [{ authnContextClassRef := some REFEDS_MFA }]
            attributeStatements := [[{ name := "eduPersonPrincipalName", values := [.string "anna@idp"] }]] }] }
        assertionSources := some [some "<Assertion/>"] } }
  http := { form := [("SAMLResponse", "x")] }
  call := .endpoint "acs"

/-- The LoA of the response that is resumed once the account's provider answered. -/
def resumedLoa (l : Ledger) : Option String :=
  match (secondProvider.handleEndpoint linkedAnswer.world "acs" (linkedAnswer.context l.state)).1 with
  | .ok (.resumeResponse next) => next.authInfo.authClassRef
  | _ => none

/-- The second exchange is started, and its answer resumes the response. -/
theorem mfa_enforced_demo :
    Along secondProvider.step secondProvider.Justified { state := State.new } [mfaRequest, linkedResponse, linkedAnswer] ∧
      resumedLoa ([mfaRequest, linkedResponse].foldl secondProvider.step { state := State.new }) = some REFEDS_MFA := by
  refine ⟨mfa_enforced secondProvider State.new State.objects_new _ ⟨fun policy h => ?_,
    fun policy h _ => ⟨fun data hcall hnone => ?_, fun hcall => ?_⟩,
    fun policy h _ => ⟨fun data hcall => ?_, fun _ _ hlinked => ?_⟩, trivial⟩, by decide +kernel⟩
  · cases h
  · cases hnone
  · cases hcall
  · cases hcall
  · exact absurd hlinked (by decide +kernel)

/-- A password instead, and the same response once more. -/
def rejectedFlow : List Visit :=
  [mfaRequest, providerResponse "password", providerResponse "password"]

/-- The first is rejected and takes the recorded policy with it; the second passes. -/
theorem rejectedFlow_passes : ¬ Along eduid.step eduid.Justified { state := State.new } rejectedFlow := by
  intro h
  obtain ⟨_, _, hagain, _⟩ := h
  obtain ⟨hresponse, _⟩ := hagain _ rfl rfl
  obtain ⟨returned, hsatisfied⟩ := hresponse _ _ rfl rfl
  cases hsatisfied

end StepUp

end Tunnelbana
