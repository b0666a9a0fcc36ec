/-
What the SAML2 backend's steps do to its namespace: starting an
authentication, building an AuthnRequest, the discovery return and the ACS,
one lemma for each. The results about runs use these and open none of the
definitions again.
-/
import Tunnelbana.Plugins.Saml2Acs

namespace Tunnelbana

open Basis

theorem State.Writes.flag {ns key : String} {keys : List String} {s t : State} (h : s.Writes ns keys t)
    (hk : key ∉ keys) : t.flag ns key = s.flag ns key := by
  unfold State.flag
  rw [h.getValue hk]

theorem State.flag_of_value {s : State} {ns key : String} {v : Bool} (h : s.getValue ns key = some (.bool v)) :
    s.flag ns key = v := by
  unfold State.flag
  rw [h]
  rfl

namespace Saml2Backend

/-- What building an AuthnRequest writes before it has an id. -/
def selectionKeys : List String :=
  ["idp_entity_id", STATE_INITIAL_STEPUP_POLICY, STATE_TARGET_ACCR, STATE_TARGET_ACCR_COMPARISON]

def constraintKeys : List String :=
  ["force_authn", "is_passive", STATE_INITIAL_STEPUP_POLICY, STATE_TARGET_ACCR, STATE_TARGET_ACCR_COMPARISON,
    "requested_subject"]

def expectedIdp (b : Saml2Backend) (s : State) : Option String :=
  match b.idpMetadata with
  | .static .. => b.idpEntityId
  | .mdq => (s.getStr b.stateNamespace "idp_entity_id").or b.idpEntityId

/-- An AuthnRequest to the target can be built: its IdP resolves, the policy
handed over is readable, an id is created and a step-up has its subject. -/
structure CanBuild (b : Saml2Backend) (w : SamlWorld) (target : Option String) (handoff : Option Json)
    (subject : Option String) : Prop where
  idp : ∃ found, b.lookupIdp w target = .ok found
  handoff : ∀ v, handoff = some v → ∃ h, InitialPolicyHandoff.fromJson v = some h
  id : ∃ id, w.newRequestId = .ok id
  subject : b.requestSubject = true → ∃ subject', subject = some subject'

variable (b : Saml2Backend) (w : SamlWorld) {s : State} {ctx : Context}

theorem not_selectionKey {key : String}
    (h : key = "authn_id" ∨ key = "requested_subject" ∨ key = "force_authn" ∨ key = "is_passive") :
    key ∉ selectionKeys := by
  rcases h with rfl | rfl | rfl | rfl <;>
    simp [selectionKeys, STATE_INITIAL_STEPUP_POLICY, STATE_TARGET_ACCR, STATE_TARGET_ACCR_COMPARISON]

/-! ## Building -/

/-- An AuthnRequest was built: its id and its IdP are kept together, and it
carries the flags the namespace holds. -/
structure Builds (target : Option String) (ctx ctx' : Context) (built : BuiltRequest) : Prop where
  run : b.buildAuthnRequest w target ctx = (.ok built, ctx')
  can : b.CanBuild w target (b.handoffValue ctx) (ctx.state.getStr b.stateNamespace "requested_subject")
  writes : ctx.state.Writes b.stateNamespace ("authn_id" :: selectionKeys) ctx'.state
  authnId : ctx'.state.getStr b.stateNamespace "authn_id" = some built.request.id
  idp : b.expectedIdp ctx'.state = some built.idp
  forceAuthn : built.request.forceAuthn = if ctx.state.flag b.stateNamespace "force_authn" then some true else none
  isPassive : built.request.isPassive = if ctx.state.flag b.stateNamespace "is_passive" then some true else none

/-- What a build that failed after its IdP resolved did. -/
structure Unbuilt (target : Option String) (s t : State) : Prop where
  writes : s.Writes b.stateNamespace selectionKeys t
  idp : b.isDynamicIdpSelection = true → t.getStr b.stateNamespace "idp_entity_id" = target

/-- No AuthnRequest was built; the id of an earlier one stays. -/
structure BuildFails (target : Option String) (ctx ctx' : Context) (e : Error) : Prop where
  run : b.buildAuthnRequest w target ctx = (.error e, ctx')
  cannot : ¬ b.CanBuild w target (b.handoffValue ctx) (ctx.state.getStr b.stateNamespace "requested_subject")
  state : ctx'.state = ctx.state ∨
    (∃ found, b.lookupIdp w target = .ok found) ∧ b.Unbuilt target ctx.state ctx'.state

theorem keepIdp_writes (idp : String) (s : State) :
    s.Writes b.stateNamespace ["idp_entity_id"] (b.keepIdp idp s) := by
  unfold keepIdp
  split
  · exact State.Writes.setStr s idp (by simp)
  · exact State.Writes.refl s

theorem consumeSelection_writes (ctx : Context) :
    ctx.state.Writes b.stateNamespace [STATE_INITIAL_STEPUP_POLICY, STATE_TARGET_ACCR, STATE_TARGET_ACCR_COMPARISON]
      (b.consumeSelection ctx).state := by
  unfold consumeSelection
  have h : ctx.state.Writes b.stateNamespace
      [STATE_INITIAL_STEPUP_POLICY, STATE_TARGET_ACCR, STATE_TARGET_ACCR_COMPARISON] ctx.state := State.Writes.refl _
  exact ((h.andSetValue .null (by simp)).andSetValue .null (by simp)).andSetValue .null (by simp)

theorem lookupIdp_ok {target : Option String} {ssoUrl idp : String} {policyValues : MetadataPolicyValues}
    (h : b.lookupIdp w target = .ok (ssoUrl, idp, policyValues)) :
    (b.isDynamicIdpSelection = true ∧ target = some idp) ∨
      (b.isDynamicIdpSelection = false ∧ b.idpEntityId = some idp) := by
  unfold lookupIdp at h
  unfold isDynamicIdpSelection
  split at h
  next =>
    split at h
    next idp' hidp =>
      cases h
      exact .inr ⟨rfl, hidp⟩
    next => cases h
  next =>
    split at h
    next => cases h
    next target' =>
      obtain ⟨resolved, _, hurl⟩ := except_bind_ok.mp h
      obtain ⟨url, _, hret⟩ := except_bind_ok.mp hurl
      cases hret
      exact .inl ⟨rfl, rfl⟩

theorem overrideAccr_ok_iff (handoff : Option Json) (idp : String) (policyValues : MetadataPolicyValues)
    (selected : List String × Option AuthnContextComparison) :
    (∃ chosen, overrideAccr handoff idp policyValues selected = .ok chosen) ↔
      ∀ v, handoff = some v → ∃ h, InitialPolicyHandoff.fromJson v = some h := by
  unfold overrideAccr
  cases handoff with
  | none => simp
  | some v =>
    cases hread : InitialPolicyHandoff.fromJson v with
    | none => simp [hread]
    | some h =>
      simp only [Option.some.injEq, forall_eq', hread, exists_eq', iff_true]
      split
      · split <;> exact ⟨_, rfl⟩
      · exact ⟨_, rfl⟩

theorem requestedSubject_ok_iff (ctx : Context) :
    (∃ subject, b.requestedSubject ctx = .ok subject) ↔
      (b.requestSubject = true → ∃ subject, ctx.state.getStr b.stateNamespace "requested_subject" = some subject) := by
  unfold requestedSubject
  by_cases hsub : b.requestSubject = true
  · simp only [hsub, if_true, true_implies]
    cases ctx.state.getStr b.stateNamespace "requested_subject" <;> simp
  · simp [hsub]

theorem expectedIdp_kept {idp : String} (hs : s.Objects) {target : Option String} {ssoUrl : String}
    {policyValues : MetadataPolicyValues} (h : b.lookupIdp w target = .ok (ssoUrl, idp, policyValues)) :
    b.expectedIdp (b.keepIdp idp s) = some idp := by
  have hcases := b.lookupIdp_ok w h
  unfold expectedIdp keepIdp
  unfold isDynamicIdpSelection at hcases ⊢
  cases hmode : b.idpMetadata with
  | static ssoUrl verifier policyValues =>
    rw [hmode] at hcases
    rcases hcases with ⟨hdyn, _⟩ | ⟨_, hidp⟩
    · cases hdyn
    · exact hidp
  | mdq =>
    show Option.or ((s.setStr b.stateNamespace "idp_entity_id" idp).getStr b.stateNamespace "idp_entity_id")
      b.idpEntityId = some idp
    rw [State.getStr_setStr_self hs]
    rfl

theorem expectedIdp_congr {s t : State}
    (h : t.getStr b.stateNamespace "idp_entity_id" = s.getStr b.stateNamespace "idp_entity_id") :
    b.expectedIdp t = b.expectedIdp s := by
  unfold expectedIdp
  rw [h]

theorem expectedIdp_static {s t : State} (h : b.isDynamicIdpSelection = false) :
    b.expectedIdp t = b.expectedIdp s := by
  unfold expectedIdp
  unfold isDynamicIdpSelection at h
  cases hmode : b.idpMetadata with
  | static ssoUrl verifier policyValues => rfl
  | mdq =>
    rw [hmode] at h
    cases h

theorem handoffValue_congr {ctx ctx' : Context} {keys : List String}
    (hdecoration : ctx'.decoration KEY_STEPUP_INITIAL_POLICY = ctx.decoration KEY_STEPUP_INITIAL_POLICY)
    (hwrites : ctx.state.Writes b.stateNamespace keys ctx'.state) (hkey : STATE_INITIAL_STEPUP_POLICY ∉ keys) :
    b.handoffValue ctx' = b.handoffValue ctx := by
  unfold handoffValue
  rw [hdecoration, hwrites.getValue hkey]

/-- **Building an AuthnRequest succeeds exactly when it can.** -/
theorem buildAuthnRequest_cases (target : Option String) (hs : ctx.state.Objects) :
    (∃ built ctx', b.Builds w target ctx ctx' built) ∨ (∃ e ctx', b.BuildFails w target ctx ctx' e) := by
  have hrun := Eq.refl (b.buildAuthnRequest w target ctx)
  conv at hrun => rhs; unfold buildAuthnRequest
  cases hfound : b.lookupIdp w target with
  | error e =>
    rw [hfound] at hrun
    refine .inr ⟨e, ctx, hrun, fun hcan => ?_, .inl rfl⟩
    obtain ⟨found, hok⟩ := hcan.idp
    rw [hfound] at hok
    cases hok
  | ok found =>
    obtain ⟨ssoUrl, idp, policyValues⟩ := found
    have hkept : b.Unbuilt target ctx.state (b.keepIdp idp ctx.state) := by
      refine ⟨(b.keepIdp_writes idp ctx.state).mono (by simp [selectionKeys]), fun hdyn => ?_⟩
      rcases b.lookupIdp_ok w hfound with ⟨_, htarget⟩ | ⟨hstatic, _⟩
      · unfold keepIdp
        rw [if_pos hdyn, State.getStr_setStr_self hs, htarget]
      · rw [hdyn] at hstatic
        cases hstatic
    have hexpected := b.expectedIdp_kept w hs hfound
    have hhandoff : b.handoffValue (ctx.mapState (b.keepIdp idp)) = b.handoffValue ctx :=
      b.handoffValue_congr rfl (b.keepIdp_writes idp ctx.state) (by simp [STATE_INITIAL_STEPUP_POLICY])
    generalize hctx₁ : ctx.mapState (b.keepIdp idp) = ctx₁ at hhandoff
    have hstate₁ : ctx₁.state = b.keepIdp idp ctx.state := by rw [← hctx₁]; rfl
    simp only [hfound, Action.lift_ok_bind_run, Flow.modify, Flow.context, Flow.undecorate, Action.update_bind_run,
      Action.read_bind_run, hctx₁] at hrun
    rw [← hstate₁] at hkept hexpected
    have hreadable := overrideAccr_ok_iff (b.handoffValue ctx₁) idp policyValues (readTargetAccr ctx₁ b.stateNamespace)
    cases hselected : overrideAccr (b.handoffValue ctx₁) idp policyValues (readTargetAccr ctx₁ b.stateNamespace) with
    | error e =>
      rw [hselected] at hrun
      refine .inr ⟨e, _, hrun, fun hcan => ?_, .inr ⟨⟨_, hfound⟩, hkept⟩⟩
      obtain ⟨chosen, hok⟩ := hreadable.mpr (by rw [hhandoff]; exact hcan.handoff)
      rw [hselected] at hok
      cases hok
    | ok selected =>
      have hread := hreadable.mp ⟨selected, hselected⟩
      rw [hhandoff] at hread
      simp only [hselected, Action.lift_ok_bind_run, Action.update_bind_run, Action.read_bind_run] at hrun
      have hconsume := b.consumeSelection_writes (ctx₁.undecorate KEY_STEPUP_INITIAL_POLICY)
      generalize b.consumeSelection (ctx₁.undecorate KEY_STEPUP_INITIAL_POLICY) = ctx₂ at hconsume hrun
      have hwrites : ctx.state.Writes b.stateNamespace selectionKeys ctx₂.state :=
        hkept.writes.trans (hconsume.mono (by simp [selectionKeys]))
      have hidp : ctx₂.state.getStr b.stateNamespace "idp_entity_id" =
          ctx₁.state.getStr b.stateNamespace "idp_entity_id" :=
        hconsume.getStr (by simp [STATE_INITIAL_STEPUP_POLICY, STATE_TARGET_ACCR, STATE_TARGET_ACCR_COMPARISON])
      have hunbuilt : b.Unbuilt target ctx.state ctx₂.state := ⟨hwrites, fun hdyn => hidp.trans (hkept.idp hdyn)⟩
      have hsubject : ctx₂.state.getStr b.stateNamespace "requested_subject" =
          ctx.state.getStr b.stateNamespace "requested_subject" := hwrites.getStr (not_selectionKey (by simp))
      have hflag : ∀ key ∈ ["force_authn", "is_passive"],
          ctx₂.state.flag b.stateNamespace key = ctx.state.flag b.stateNamespace key := by
        intro key hkey
        exact hwrites.flag (not_selectionKey (.inr (.inr (by simpa using hkey))))
      have hasked := b.requestedSubject_ok_iff ctx₂
      rw [hsubject] at hasked
      cases hid : w.newRequestId with
      | error e =>
        rw [hid] at hrun
        refine .inr ⟨_, ctx₂, hrun, fun hcan => ?_, .inr ⟨⟨_, hfound⟩, hunbuilt⟩⟩
        obtain ⟨id, hok⟩ := hcan.id
        rw [hid] at hok
        cases hok
      | ok id =>
        simp only [hid, except_mapError_of_ok, Action.lift_ok_bind_run] at hrun
        cases hsub : b.requestedSubject ctx₂ with
        | error e =>
          rw [hsub] at hrun
          refine .inr ⟨e, ctx₂, hrun, fun hcan => ?_, .inr ⟨⟨_, hfound⟩, hunbuilt⟩⟩
          obtain ⟨subject, hok⟩ := hasked.mpr hcan.subject
          rw [hsub] at hok
          cases hok
        | ok subject =>
          have hobjects := hwrites.objects hs
          rw [hsub] at hrun
          refine .inl ⟨_, _, hrun, ⟨⟨_, hfound⟩, hread, ⟨id, hid⟩, hasked.mp ⟨subject, hsub⟩⟩, ?_,
            State.getStr_setStr_self hobjects _ _ _, ?_, ?_, ?_⟩
          · exact (hwrites.mono fun _ hk => List.mem_cons_of_mem _ hk).trans (State.Writes.setStr _ _ (by simp))
          · refine (b.expectedIdp_congr ?_).trans hexpected
            exact (State.getStr_setStr_other _ _ (by simp)).trans hidp
          · show (if ctx₂.state.flag _ "force_authn" then _ else _) = _
            rw [hflag "force_authn" (by simp)]
          · show (if ctx₂.state.flag _ "is_passive" then _ else _) = _
            rw [hflag "is_passive" (by simp)]

def sent (built : BuiltRequest) : Response :=
  { status := 302, location := some (.authnRequest built.ssoUrl built.request b.signRequests) }

theorem redirectAuthnRequest_cases (built : BuiltRequest) (ctx : Context) :
    b.redirectAuthnRequest w built ctx = (.ok (b.sent built), ctx) ∨
      ∃ e, b.redirectAuthnRequest w built ctx = (.error e, ctx) := by
  unfold redirectAuthnRequest
  cases w.toXmlString built.request with
  | error e => exact .inr ⟨_, rfl⟩
  | ok _ =>
    cases w.redirectEncode built.request with
    | error e => exact .inr ⟨_, by simp only [except_mapError_of_ok, Action.lift_ok_bind_run]; rfl⟩
    | ok _ => exact .inl (by simp only [except_mapError_of_ok, Action.lift_ok_bind_run]; rfl)

/-- A redirect is a built request sent; encoding changes no state. -/
theorem buildAuthnRedirect_cases (target : Option String) (hs : ctx.state.Objects) :
    (∃ built ctx', b.Builds w target ctx ctx' built ∧
      (b.buildAuthnRedirect w target ctx = (.ok (b.sent built), ctx') ∨
        ∃ e, b.buildAuthnRedirect w target ctx = (.error e, ctx'))) ∨
    (∃ e ctx', b.BuildFails w target ctx ctx' e ∧ b.buildAuthnRedirect w target ctx = (.error e, ctx')) := by
  unfold buildAuthnRedirect
  rcases b.buildAuthnRequest_cases w target hs with ⟨built, ctx', hbuilds⟩ | ⟨e, ctx', hfails⟩
  · rw [Action.bind_of_ok hbuilds.run]
    exact .inl ⟨built, ctx', hbuilds, b.redirectAuthnRequest_cases w built ctx'⟩
  · exact .inr ⟨e, ctx', hfails, Action.bind_of_error hfails.run⟩

/-! ## Starting -/

structure Prepared (request : InternalData) (s t : State) : Prop where
  writes : s.Writes b.stateNamespace constraintKeys t
  forceAuthn : t.getValue b.stateNamespace "force_authn" = some (.bool request.forceAuthn)
  isPassive : t.getValue b.stateNamespace "is_passive" = some (.bool request.isPassive)

theorem persistConstraints_prepared (request : InternalData) (hs : ctx.state.Objects) :
    b.Prepared request ctx.state (b.persistConstraints request ctx).state := by
  unfold persistConstraints
  simp only [Context.state_mapState]
  have h : ctx.state.Writes b.stateNamespace constraintKeys ctx.state := State.Writes.refl _
  have h₁ := hs.setValue b.stateNamespace "force_authn" (.bool request.forceAuthn)
  refine ⟨?_, ?_, ?_⟩
  · exact ((((h.andSetValue _ (by simp [constraintKeys])).andSetValue _ (by simp [constraintKeys])).andSetValue _
      (by simp [constraintKeys])).andSetValue _ (by simp [constraintKeys])).andSetValue _ (by simp [constraintKeys])
  · rw [State.getValue_setValue_other _ _ (by simp [STATE_TARGET_ACCR_COMPARISON]),
      State.getValue_setValue_other _ _ (by simp [STATE_TARGET_ACCR]),
      State.getValue_setValue_other _ _ (by simp [STATE_INITIAL_STEPUP_POLICY]),
      State.getValue_setValue_other _ _ (by simp), State.getValue_setValue_self hs]
  · rw [State.getValue_setValue_other _ _ (by simp [STATE_TARGET_ACCR_COMPARISON]),
      State.getValue_setValue_other _ _ (by simp [STATE_TARGET_ACCR]),
      State.getValue_setValue_other _ _ (by simp [STATE_INITIAL_STEPUP_POLICY]),
      State.getValue_setValue_self h₁]

/-- The policy handed over by a start_auth is this request's: the stored one
is replaced. -/
theorem handoffValue_persistConstraints (request : InternalData) (hs : ctx.state.Objects) :
    b.handoffValue (b.persistConstraints request ctx) = ctx.decoration KEY_STEPUP_INITIAL_POLICY := by
  have h₁ := (hs.setValue b.stateNamespace "force_authn" (.bool request.forceAuthn)).setValue b.stateNamespace
    "is_passive" (.bool request.isPassive)
  have hstored : (b.persistConstraints request ctx).state.getValue b.stateNamespace STATE_INITIAL_STEPUP_POLICY =
      some ((ctx.decoration KEY_STEPUP_INITIAL_POLICY).getD .null) := by
    unfold persistConstraints
    simp only [Context.state_mapState]
    rw [State.getValue_setValue_other _ _ (by simp [STATE_TARGET_ACCR_COMPARISON, STATE_INITIAL_STEPUP_POLICY]),
      State.getValue_setValue_other _ _ (by simp [STATE_TARGET_ACCR, STATE_INITIAL_STEPUP_POLICY]),
      State.getValue_setValue_self h₁]
  unfold handoffValue
  rw [hstored]
  show Option.or (ctx.decoration KEY_STEPUP_INITIAL_POLICY) _ = _
  cases ctx.decoration KEY_STEPUP_INITIAL_POLICY <;> rfl

/-- **Preparing a request stores its flags, whatever comes of it.** Where it
goes on, its policy and its subject are this request's. -/
theorem prepare_cases (request : InternalData) (hs : ctx.state.Objects) :
    (∃ ctx', b.prepare request ctx = (.ok (b.idpTarget ctx), ctx') ∧
      b.Prepared request ctx.state ctx'.state ∧
      b.handoffValue ctx' = ctx.decoration KEY_STEPUP_INITIAL_POLICY ∧
      (b.requestSubject = true → (∃ subject, request.subjectId.filter (· ≠ "") = some subject) ∧
        ctx'.state.getStr b.stateNamespace "requested_subject" = request.subjectId.filter (· ≠ ""))) ∨
    (∃ e ctx', b.prepare request ctx = (.error e, ctx') ∧ b.Prepared request ctx.state ctx'.state ∧
      b.requestSubject = true ∧ request.subjectId.filter (· ≠ "") = none) := by
  have hprepared := b.persistConstraints_prepared request hs
  have hhandoff := b.handoffValue_persistConstraints request hs
  have htarget : b.idpTarget (b.persistConstraints request ctx) = b.idpTarget ctx := rfl
  unfold prepare
  simp only [Flow.modify, Action.update_bind_run]
  generalize b.persistConstraints request ctx = ctx₁ at hprepared hhandoff htarget
  unfold persistSubject
  by_cases hsub : b.requestSubject = true
  · rw [if_pos hsub]
    cases hsubject : request.subjectId.filter (· ≠ "") with
    | none => exact .inr ⟨_, ctx₁, rfl, hprepared, hsub, rfl⟩
    | some subject =>
      have hwrites : ctx₁.state.Writes b.stateNamespace ["requested_subject"]
          (ctx₁.state.setStr b.stateNamespace "requested_subject" subject) := State.Writes.setStr _ _ (by simp)
      refine .inl ⟨ctx₁.mapState fun s => s.setStr b.stateNamespace "requested_subject" subject, ?_, ⟨?_, ?_, ?_⟩, ?_,
        fun _ => ⟨⟨subject, rfl⟩, State.getStr_setStr_self (hprepared.writes.objects hs) _ _ _⟩⟩
      · rw [← htarget]
        rfl
      · exact hprepared.writes.trans (hwrites.mono (by simp [constraintKeys]))
      · exact (hwrites.getValue (by simp)).trans hprepared.forceAuthn
      · exact (hwrites.getValue (by simp)).trans hprepared.isPassive
      · rw [← hhandoff]
        exact b.handoffValue_congr rfl hwrites (by simp [STATE_INITIAL_STEPUP_POLICY])
  · rw [if_neg hsub]
    refine .inl ⟨ctx₁, ?_, hprepared, hhandoff, fun h => absurd h hsub⟩
    rw [← htarget]
    rfl

/-- The discovery redirect, and the failures before it, change no state. -/
theorem startDiscovery_cases (request : InternalData) (ctx : Context) :
    (∃ disco, b.discoSrv = some disco ∧ request.isPassive = false ∧
      b.startDiscovery request ctx = (.ok (b.discoRedirect disco), ctx)) ∨
    (∃ e ctx', b.startDiscovery request ctx = (.error e, ctx') ∧ ctx'.state = ctx.state) := by
  unfold startDiscovery
  by_cases hpassive : request.isPassive = true
  · rw [if_pos hpassive]
    exact .inr ⟨_, _, rfl, rfl⟩
  · rw [if_neg hpassive]
    cases hdisco : b.discoSrv with
    | none => exact .inr ⟨_, _, rfl, rfl⟩
    | some disco => exact .inl ⟨disco, rfl, by simpa using hpassive, rfl⟩

/-- **A start_auth stores the request's flags, and then builds an AuthnRequest
for an IdP or leaves the state**, going to discovery or failing. -/
theorem startAuth_cases (request : InternalData) (hs : ctx.state.Objects) :
    ∃ ctx₁, b.Prepared request ctx.state ctx₁.state ∧
      ((∃ target built ctx', b.prepare request ctx = (.ok (some target), ctx₁) ∧
          b.Builds w target ctx₁ ctx' built ∧ (b.startAuth w request ctx = (.ok (b.sent built), ctx') ∨
            ∃ e, b.startAuth w request ctx = (.error e, ctx'))) ∨
        (∃ target e ctx', b.prepare request ctx = (.ok (some target), ctx₁) ∧
          b.BuildFails w target ctx₁ ctx' e ∧ b.startAuth w request ctx = (.error e, ctx')) ∨
        ((∀ target ctx', b.prepare request ctx ≠ (.ok (some target), ctx')) ∧
          ((∃ disco, b.discoSrv = some disco ∧ request.isPassive = false ∧
              b.startAuth w request ctx = (.ok (b.discoRedirect disco), ctx₁)) ∨
            ∃ e ctx', b.startAuth w request ctx = (.error e, ctx') ∧ ctx'.state = ctx₁.state))) := by
  unfold startAuth
  rcases b.prepare_cases request hs with ⟨ctx₁, hprepare, hprepared, _⟩ | ⟨e, ctx₁, hprepare, hprepared, _⟩
  · refine ⟨ctx₁, hprepared, ?_⟩
    rw [Action.bind_of_ok hprepare, hprepare]
    cases htarget : b.idpTarget ctx with
    | some target =>
      have hobjects := hprepared.writes.objects hs
      rcases b.buildAuthnRedirect_cases w target hobjects with ⟨built, ctx', hbuilds, hrun⟩ | ⟨e, ctx', hfails, hrun⟩
      · exact .inl ⟨target, built, ctx', rfl, hbuilds, hrun⟩
      · exact .inr (.inl ⟨target, e, ctx', rfl, hfails, hrun⟩)
    | none =>
      refine .inr (.inr ⟨fun target ctx' h => ?_, b.startDiscovery_cases request ctx₁⟩)
      cases h
  · refine ⟨ctx₁, hprepared, .inr (.inr ⟨fun target ctx' h => ?_, .inr ⟨e, ctx₁, Action.bind_of_error hprepare, rfl⟩⟩)⟩
    rw [hprepare] at h
    cases h

/-! ## Endpoints -/

theorem handleDisco_cases (hs : ctx.state.Objects) :
    (∃ target built ctx', discoTarget ctx.request = some target ∧ b.Builds w (some target) ctx ctx' built ∧
      (b.handleDisco w ctx = (.ok (.respond (b.sent built)), ctx') ∨
        ∃ e, b.handleDisco w ctx = (.error e, ctx'))) ∨
    (∃ target e ctx', discoTarget ctx.request = some target ∧ b.BuildFails w (some target) ctx ctx' e ∧
      b.handleDisco w ctx = (.error e, ctx')) ∨
    (discoTarget ctx.request = none ∧ ∃ e, b.handleDisco w ctx = (.error e, ctx)) := by
  unfold handleDisco
  simp only [Flow.context, Action.read_bind_run]
  cases discoTarget ctx.request with
  | none => exact .inr (.inr ⟨rfl, _, rfl⟩)
  | some target =>
    simp only [Action.orFail_some, Action.pure_bind_run]
    rcases b.buildAuthnRedirect_cases w (some target) hs with
      ⟨built, ctx', hbuilds, hok | ⟨e, hfail⟩⟩ | ⟨e, ctx', hfails, hrun⟩
    · rw [Action.bind_of_ok hok]
      exact .inl ⟨target, built, ctx', rfl, hbuilds, .inl rfl⟩
    · rw [Action.bind_of_error hfail]
      exact .inl ⟨target, built, ctx', rfl, hbuilds, .inr ⟨e, rfl⟩⟩
    · rw [Action.bind_of_error hrun]
      exact .inr (.inl ⟨target, e, ctx', rfl, hfails, rfl⟩)

theorem checkStatus_cases (status : SamlStatus) (ctx : Context) :
    b.checkStatus w status ctx = (.ok (), ctx) ∨
      ∃ e ctx', b.checkStatus w status ctx = (.error e, ctx') ∧ ctx'.state = ctx.state := by
  unfold checkStatus
  split
  · exact .inl rfl
  · simp only [Flow.context, Action.read_bind_run]
    split
    · exact .inr ⟨_, _, rfl, rfl⟩
    · exact .inr ⟨_, _, rfl, rfl⟩

theorem handleMetadata_cases (ctx : Context) :
    (∃ r, handleMetadata w ctx = (.ok (.respond r), ctx) ∧ r.location = none) ∨
      ∃ e, handleMetadata w ctx = (.error e, ctx) := by
  unfold handleMetadata
  cases w.metadataXml with
  | error e => exact .inr ⟨_, rfl⟩
  | ok xml => exact .inl ⟨_, rfl, rfl⟩

/-- **An ACS fails and leaves the state as it was, or answers and consumes the
namespace.** -/
theorem handleAcs_cases (ctx : Context) :
    (∃ e ctx', b.handleAcs w ctx = (.error e, ctx') ∧ ctx'.state = ctx.state) ∨
    (∃ data ctx', b.handleAcs w ctx = (.ok (.authResponse data), ctx') ∧
      ctx'.state = ctx.state.clearNamespace b.stateNamespace) := by
  unfold handleAcs
  simp only [Flow.context, Action.read_bind_run]
  cases b.selectedIdp w ctx.state with
  | error e => exact .inl ⟨e, ctx, rfl, rfl⟩
  | ok selected =>
    obtain ⟨verifier, expected, scopes, policyValues⟩ := selected
    simp only [Action.lift_ok_bind_run]
    unfold processAcs
    simp only [Flow.context, Action.read_bind_run]
    cases b.readMessage w ctx.request verifier expected with
    | error e => exact .inl ⟨e, ctx, rfl, rfl⟩
    | ok m =>
      rw [Action.lift_ok_bind_run, Action.bind_run]
      rcases b.checkStatus_cases w m.response.status ctx with hok | ⟨e, ctx', hfail, hstate⟩
      · rw [hok]
        show (∃ e ctx', (Flow.require _ _ >>= _) ctx = _ ∧ _) ∨ ∃ data ctx', (Flow.require _ _ >>= _) ctx = _ ∧ _
        unfold Flow.require
        by_cases hassertions : m.response.assertions ≠ []
        · rw [if_pos hassertions, Action.pure_bind_run]
          cases b.expectedRequestId ctx.state m.response with
          | error e => exact .inl ⟨e, ctx, rfl, rfl⟩
          | ok expectedId =>
            rw [Action.lift_ok_bind_run]
            cases b.validate w expected expectedId m with
            | error e => exact .inl ⟨e, ctx, rfl, rfl⟩
            | ok _ =>
              rw [Action.lift_ok_bind_run]
              cases b.extractIdentity w m.response with
              | error e => exact .inl ⟨e, ctx, rfl, rfl⟩
              | ok data => exact .inr ⟨data, _, rfl, rfl⟩
        · rw [if_neg hassertions]
          exact .inl ⟨_, ctx, rfl, rfl⟩
      · rw [hfail]
        exact .inl ⟨e, ctx', rfl, hstate⟩

/-- A build, failed or not, leaves the flags. -/
theorem BuildFails.getValue {target : Option String} {ctx' : Context} {e : Error} {key : String}
    (h : b.BuildFails w target ctx ctx' e) (hkey : key = "force_authn" ∨ key = "is_passive") :
    ctx'.state.getValue b.stateNamespace key = ctx.state.getValue b.stateNamespace key := by
  rcases h.state with hstate | ⟨_, hunbuilt⟩
  · rw [hstate]
  · exact hunbuilt.writes.getValue (not_selectionKey (.inr (.inr hkey)))

theorem Builds.getValue {target : Option String} {ctx' : Context} {built : BuiltRequest} {key : String}
    (h : b.Builds w target ctx ctx' built) (hkey : key = "force_authn" ∨ key = "is_passive") :
    ctx'.state.getValue b.stateNamespace key = ctx.state.getValue b.stateNamespace key := by
  refine h.writes.getValue fun hmem => ?_
  rcases List.mem_cons.mp hmem with heq | hmem
  · subst heq
    simp at hkey
  · exact not_selectionKey (.inr (.inr hkey)) hmem

/-- **After a start_auth the namespace holds the request's flags**, also when it
fails. -/
theorem startAuth_flags (request : InternalData) (hs : ctx.state.Objects) :
    (b.startAuth w request ctx).2.state.getValue b.stateNamespace "force_authn" = some (.bool request.forceAuthn) ∧
      (b.startAuth w request ctx).2.state.getValue b.stateNamespace "is_passive" = some (.bool request.isPassive) := by
  obtain ⟨ctx₁, hprepared, hcases⟩ := b.startAuth_cases w request hs
  rcases hcases with ⟨target, built, ctx', _, hbuilds, hrun | ⟨e, hrun⟩⟩ | ⟨target, e, ctx', _, hfails, hrun⟩ |
    ⟨_, ⟨disco, _, _, hrun⟩ | ⟨e, ctx', hrun, hstate⟩⟩
  · rw [hrun]
    exact ⟨(hbuilds.getValue b w (by simp)).trans hprepared.forceAuthn,
      (hbuilds.getValue b w (by simp)).trans hprepared.isPassive⟩
  · rw [hrun]
    exact ⟨(hbuilds.getValue b w (by simp)).trans hprepared.forceAuthn,
      (hbuilds.getValue b w (by simp)).trans hprepared.isPassive⟩
  · rw [hrun]
    exact ⟨(hfails.getValue b w (by simp)).trans hprepared.forceAuthn,
      (hfails.getValue b w (by simp)).trans hprepared.isPassive⟩
  · rw [hrun]
    exact ⟨hprepared.forceAuthn, hprepared.isPassive⟩
  · rw [hrun, hstate]
    exact ⟨hprepared.forceAuthn, hprepared.isPassive⟩

/-- An endpoint leaves the flags, or consumes them with the namespace. -/
theorem handleEndpoint_flags (routeId : String) (hs : ctx.state.Objects) :
    (∀ key, key = "force_authn" ∨ key = "is_passive" →
      (b.handleEndpoint w routeId ctx).2.state.getValue b.stateNamespace key =
        ctx.state.getValue b.stateNamespace key) ∨
    (∀ key, (b.handleEndpoint w routeId ctx).2.state.getValue b.stateNamespace key = none) := by
  unfold handleEndpoint
  split
  · rcases b.handleAcs_cases w ctx with ⟨e, ctx', hrun, hstate⟩ | ⟨data, ctx', hrun, hstate⟩
    · rw [hrun, hstate]
      exact .inl fun _ _ => rfl
    · rw [hrun, hstate]
      exact .inr fun key => by rw [State.getValue_clearNamespace, if_pos rfl]
  · split
    · rcases b.handleDisco_cases w hs with ⟨target, built, ctx', _, hbuilds, hrun | ⟨e, hrun⟩⟩ |
        ⟨target, e, ctx', _, hfails, hrun⟩ | ⟨_, e, hrun⟩
      · rw [hrun]
        exact .inl fun key hkey => hbuilds.getValue b w hkey
      · rw [hrun]
        exact .inl fun key hkey => hbuilds.getValue b w hkey
      · rw [hrun]
        exact .inl fun key hkey => hfails.getValue b w hkey
      · rw [hrun]
        exact .inl fun _ _ => rfl
    · split
      · rcases handleMetadata_cases w ctx with ⟨r, hrun, _⟩ | ⟨e, hrun⟩
        · rw [hrun]
          exact .inl fun _ _ => rfl
        · rw [hrun]
          exact .inl fun _ _ => rfl
      · exact .inl fun _ _ => rfl

theorem BuildFails.within {target : Option String} {ctx' : Context} {e : Error}
    (h : b.BuildFails w target ctx ctx' e) : ctx.state.Within b.stateNamespace ctx'.state := by
  rcases h.state with hstate | ⟨_, hunbuilt⟩
  · rw [hstate]
    exact State.Within.refl _
  · exact hunbuilt.writes.within

theorem startAuth_within (request : InternalData) (hs : ctx.state.Objects) :
    ctx.state.Within b.stateNamespace (b.startAuth w request ctx).2.state := by
  obtain ⟨ctx₁, hprepared, hcases⟩ := b.startAuth_cases w request hs
  have hwithin := hprepared.writes.within
  rcases hcases with ⟨target, built, ctx', _, hbuilds, hrun | ⟨e, hrun⟩⟩ | ⟨target, e, ctx', _, hfails, hrun⟩ |
    ⟨_, ⟨disco, _, _, hrun⟩ | ⟨e, ctx', hrun, hstate⟩⟩
  · rw [hrun]
    exact hwithin.trans hbuilds.writes.within
  · rw [hrun]
    exact hwithin.trans hbuilds.writes.within
  · rw [hrun]
    exact hwithin.trans (hfails.within b w)
  · rw [hrun]
    exact hwithin
  · rw [hrun, hstate]
    exact hwithin

theorem handleEndpoint_within (routeId : String) (hs : ctx.state.Objects) :
    ctx.state.Within b.stateNamespace (b.handleEndpoint w routeId ctx).2.state := by
  unfold handleEndpoint
  split
  · rcases b.handleAcs_cases w ctx with ⟨e, ctx', hrun, hstate⟩ | ⟨data, ctx', hrun, hstate⟩
    · rw [hrun, hstate]
      exact State.Within.refl _
    · rw [hrun, hstate]
      exact State.Within.clearNamespace _ _
  · split
    · rcases b.handleDisco_cases w hs with ⟨target, built, ctx', _, hbuilds, hrun | ⟨e, hrun⟩⟩ |
        ⟨target, e, ctx', _, hfails, hrun⟩ | ⟨_, e, hrun⟩
      · rw [hrun]
        exact hbuilds.writes.within
      · rw [hrun]
        exact hbuilds.writes.within
      · rw [hrun]
        exact hfails.within b w
      · rw [hrun]
        exact State.Within.refl _
    · split
      · rcases handleMetadata_cases w ctx with ⟨r, hrun, _⟩ | ⟨e, hrun⟩
        · rw [hrun]
          exact State.Within.refl _
        · rw [hrun]
          exact State.Within.refl _
      · exact State.Within.refl _

end Saml2Backend

end Tunnelbana
