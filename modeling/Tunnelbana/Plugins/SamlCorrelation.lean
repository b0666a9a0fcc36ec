/-
Which AuthnRequest an accepted Response answers. A run interleaves the
start_auth calls, discovery returns and ACS posts of one SAML2 backend over
one state; the ledger keeps the requests built for the most recent
start_auth, each with the IdP it was issued to.

The namespace keeps one request id and the IdP chosen with it. A start_auth
that builds no request (it goes to discovery, or fails) leaves both, so what
the ACS takes belongs to the most recent start_auth as long as such a start
finds no id outstanding (`responses_answer_current`).
-/
import Tunnelbana.Basis.Run
import Tunnelbana.Plugins.Saml2Facts
import Tunnelbana.Plugins.SamlSignature

namespace Tunnelbana

open Basis

/-- A Response is valid only if it answers the expected request and its
assertions are the expected IdP's: the library's correlation and issuer checks. -/
def SamlWorld.ChecksCorrelation (w : SamlWorld) : Prop :=
  ∀ cfg response params, w.validateResponse cfg response params = [] →
    (∀ id, params.expectedRequestId = some id → response.inResponseTo = some id) ∧
      ∀ a ∈ response.assertions, a.issuer = params.expectedIdpEntityId

/-! ## Runs -/

inductive SamlCall where
  | startAuth (request : InternalData)
  | endpoint (routeId : String)

structure SamlRequest where
  world : SamlWorld
  http : HttpRequestData
  decorations : Assoc Json := []
  call : SamlCall

def SamlRequest.context (r : SamlRequest) (s : State) : Context :=
  { request := r.http, state := s, decorations := r.decorations }

/-- The state, whether a start_auth came before, and the requests built for
the most recent one with the IdP each was issued to. -/
structure SamlLedger where
  state : State
  started : Bool := false
  issued : List (String × String) := []

def SamlLedger.start (s : State) : SamlLedger := { state := s }

namespace Saml2Backend

variable (b : Saml2Backend)

def built (w : SamlWorld) (ctx : Context) : SamlCall → Option BuiltRequest
  | .startAuth request =>
    match b.prepare request ctx with
    | (.ok (some target), ctx) => (b.buildAuthnRequest w target ctx).1.toOption
    | _ => none
  | .endpoint routeId =>
    if routeId = "disco" then
      (discoTarget ctx.request).bind fun target => (b.buildAuthnRequest w (some target) ctx).1.toOption
    else none

def issuance (built : Option BuiltRequest) : List (String × String) :=
  built.toList.map fun r => (r.request.id, r.idp)

/-- One request. A discovery return builds for the most recent start_auth. -/
def step (l : SamlLedger) (r : SamlRequest) : SamlLedger :=
  let ctx := r.context l.state
  let built := b.built r.world ctx r.call
  match r.call with
  | .startAuth request =>
    { state := (b.startAuth r.world request ctx).2.state, started := true, issued := issuance built }
  | .endpoint routeId =>
    { state := (b.handleEndpoint r.world routeId ctx).2.state
      started := l.started
      issued := if l.started then l.issued ++ issuance built else l.issued }

/-- An accepted Response that answers a request answers one built for the most
recent start_auth, and is from the IdP that request was issued to. -/
def AcceptsCurrent (l : SamlLedger) (r : SamlRequest) : Prop :=
  let ctx := r.context l.state
  r.call = .endpoint "acs" → ∀ data, (b.handleEndpoint r.world "acs" ctx).1 = .ok (.authResponse data) →
    ∀ verifier expected rest m id, b.selectedIdp r.world ctx.state = .ok (verifier, expected, rest) →
      b.readMessage r.world ctx.request verifier expected = .ok m → m.response.inResponseTo = some id →
        l.started = true ∧ ∃ idp, (id, idp) ∈ l.issued ∧ data.authInfo.issuer = some idp

/-- A start_auth goes to an IdP, and its AuthnRequest can be built. -/
def Reaches (w : SamlWorld) (request : InternalData) (ctx : Context) : Prop :=
  ∃ target, b.idpTarget ctx = some target ∧
    b.CanBuild w target (ctx.decoration KEY_STEPUP_INITIAL_POLICY) (request.subjectId.filter (· ≠ ""))

/-- While a request id is outstanding every start_auth reaches an IdP; a
discovery return that can build comes after a start_auth; and one that cannot,
with an id outstanding, names the IdP already chosen when it resolves at all. -/
def Uncrossed (l : SamlLedger) (r : SamlRequest) : Prop :=
  let ctx := r.context l.state
  let outstanding := l.state.getStr b.stateNamespace "authn_id" ≠ none
  (∀ request, r.call = .startAuth request → outstanding → b.Reaches r.world request ctx) ∧
  (∀ target, r.call = .endpoint "disco" → discoTarget r.http = some target →
    let can := b.CanBuild r.world (some target) (b.handoffValue ctx)
      (l.state.getStr b.stateNamespace "requested_subject")
    (can → l.started = true) ∧
    (¬ can → outstanding → b.isDynamicIdpSelection = true →
      (∃ found, b.lookupIdp r.world (some target) = .ok found) →
        l.state.getStr b.stateNamespace "idp_entity_id" = some target))

/-! ## The invariant -/

/-- An outstanding id was issued, to the IdP the ACS expects, for the most
recent start_auth. -/
structure Current (l : SamlLedger) : Prop where
  objects : l.state.Objects
  pending : ∀ id, l.state.getStr b.stateNamespace "authn_id" = some id →
    l.started = true ∧ ∃ idp, b.expectedIdp l.state = some idp ∧ (id, idp) ∈ l.issued

variable {b} {l : SamlLedger} {r : SamlRequest}

theorem current_start {s : State} (hs : s.Objects) (hnew : s.getStr b.stateNamespace "authn_id" = none) :
    b.Current (.start s) := by
  refine ⟨hs, fun id hid => ?_⟩
  rw [show (SamlLedger.start s).state = s from rfl, hnew] at hid
  cases hid

theorem current_of_none {l : SamlLedger} (hs : l.state.Objects)
    (hnone : l.state.getStr b.stateNamespace "authn_id" = none) : b.Current l := by
  refine ⟨hs, fun id hid => ?_⟩
  rw [hnone] at hid
  cases hid

theorem Reaches.prepared {w : SamlWorld} {request : InternalData} {ctx : Context} (h : b.Reaches w request ctx)
    (hs : ctx.state.Objects) :
    ∃ target ctx₁, b.prepare request ctx = (.ok (some target), ctx₁) ∧
      b.CanBuild w target (b.handoffValue ctx₁) (ctx₁.state.getStr b.stateNamespace "requested_subject") := by
  obtain ⟨target, htarget, hcan⟩ := h
  rcases b.prepare_cases request hs with ⟨ctx₁, hprepare, _, hhandoff, hsubject⟩ | ⟨e, ctx₁, _, _, hsub, hnone⟩
  · rw [htarget] at hprepare
    refine ⟨target, ctx₁, hprepare, hcan.idp, hhandoff ▸ hcan.handoff, hcan.id, fun hsub => ?_⟩
    rw [(hsubject hsub).2]
    exact hcan.subject hsub
  · obtain ⟨subject, hsome⟩ := hcan.subject hsub
    rw [hnone] at hsome
    cases hsome

theorem not_built {key : String} (hkey : key = "authn_id") : key ∉ constraintKeys := by
  subst hkey
  simp [constraintKeys, STATE_INITIAL_STEPUP_POLICY, STATE_TARGET_ACCR, STATE_TARGET_ACCR_COMPARISON]

/-- **A start_auth keeps the invariant**: what it builds is current, and when
it builds nothing no id is outstanding. -/
theorem Current.startAuth {request : InternalData} (h : b.Current l) (hc : b.Uncrossed l r)
    (hcall : r.call = .startAuth request) : b.Current (b.step l r) := by
  have hs : (r.context l.state).state.Objects := h.objects
  have hreach := hc.1 request hcall
  have hnone : ¬ b.Reaches r.world request (r.context l.state) →
      l.state.getStr b.stateNamespace "authn_id" = none := by
    intro hnot
    cases hid : l.state.getStr b.stateNamespace "authn_id" with
    | none => rfl
    | some id => exact absurd (hreach (by rw [hid]; simp)) hnot
  simp only [step, hcall]
  obtain ⟨ctx₁, hprepared, hcases⟩ := b.startAuth_cases r.world request hs
  have hkept : ctx₁.state.getStr b.stateNamespace "authn_id" = l.state.getStr b.stateNamespace "authn_id" :=
    hprepared.writes.getStr (not_built rfl)
  rcases hcases with ⟨target, built, ctx', hprepare, hbuilds, hrun⟩ | ⟨target, e, ctx', hprepare, hfails, hrun⟩ |
    ⟨hnot, hrun⟩
  · have hstate : (b.startAuth r.world request (r.context l.state)).2.state = ctx'.state := by
      rcases hrun with hrun | ⟨e, hrun⟩ <;> rw [hrun]
    have hissued : b.built r.world (r.context l.state) (.startAuth request) = some built := by
      simp only [Saml2Backend.built, hprepare, hbuilds.run]
      rfl
    rw [hstate, hissued]
    refine ⟨hbuilds.writes.objects (hprepared.writes.objects hs), fun id hid => ⟨rfl, built.idp, hbuilds.idp, ?_⟩⟩
    have hsame : built.request.id = id := Option.some.inj (hbuilds.authnId.symm.trans hid)
    subst hsame
    exact List.mem_singleton.mpr rfl
  · have hold : l.state.getStr b.stateNamespace "authn_id" = none := by
      refine hnone fun hreaches => hfails.cannot ?_
      obtain ⟨target', ctx₁', hprepare', hcan⟩ := hreaches.prepared hs
      rw [hprepare] at hprepare'
      cases hprepare'
      exact hcan
    rw [hrun]
    have hobjects := hprepared.writes.objects hs
    rcases hfails.state with hstate | ⟨_, hunbuilt⟩
    · refine current_of_none (hstate ▸ hobjects) ?_
      show ctx'.state.getStr _ _ = none
      rw [hstate, hkept, hold]
    · refine current_of_none (hunbuilt.writes.objects hobjects) ?_
      show ctx'.state.getStr _ _ = none
      rw [hunbuilt.writes.getStr (not_selectionKey (by simp)), hkept, hold]
  · have hold : l.state.getStr b.stateNamespace "authn_id" = none := by
      refine hnone fun hreaches => ?_
      obtain ⟨target, ctx', hprepare, _⟩ := hreaches.prepared hs
      exact hnot target ctx' hprepare
    have hstate : (b.startAuth r.world request (r.context l.state)).2.state = ctx₁.state := by
      rcases hrun with ⟨disco, _, _, hrun⟩ | ⟨e, ctx', hrun, hstate⟩
      · rw [hrun]
      · rw [hrun]
        exact hstate
    rw [hstate]
    exact current_of_none (hprepared.writes.objects hs) (hkept.trans hold)

theorem Current.disco (h : b.Current l) (hc : b.Uncrossed l r) (hcall : r.call = .endpoint "disco") :
    b.Current (b.step l r) := by
  have hs : (r.context l.state).state.Objects := h.objects
  have hcond := hc.2
  have hrun' : b.handleEndpoint r.world "disco" (r.context l.state) = b.handleDisco r.world (r.context l.state) := rfl
  simp only [step, hcall, hrun']
  rcases b.handleDisco_cases r.world hs with ⟨target, built, ctx', htarget, hbuilds, hrun⟩ |
    ⟨target, e, ctx', htarget, hfails, hrun⟩ | ⟨htarget, e, hrun⟩
  · have hstarted := (hcond target hcall htarget).1 hbuilds.can
    have hstate : (b.handleDisco r.world (r.context l.state)).2.state = ctx'.state := by
      rcases hrun with hrun | ⟨e, hrun⟩ <;> rw [hrun]
    have hissued : b.built r.world (r.context l.state) (.endpoint "disco") = some built := by
      simp only [Saml2Backend.built, if_true, htarget, Option.bind_some, hbuilds.run]
      rfl
    rw [hstate, hissued, if_pos hstarted]
    refine ⟨hbuilds.writes.objects hs, fun id hid => ⟨hstarted, built.idp, hbuilds.idp, ?_⟩⟩
    have hsame : built.request.id = id := Option.some.inj (hbuilds.authnId.symm.trans hid)
    subst hsame
    exact List.mem_append.mpr (.inr (List.mem_singleton.mpr rfl))
  · have hissued : b.built r.world (r.context l.state) (.endpoint "disco") = none := by
      simp only [Saml2Backend.built, if_true, htarget, Option.bind_some, hfails.run]
      rfl
    have hlist : (if l.started = true then l.issued ++ issuance none else l.issued) = l.issued := by
      split <;> simp [issuance]
    rw [hrun, hissued, hlist]
    rcases hfails.state with hstate | ⟨hfound, hunbuilt⟩
    · show b.Current { l with state := ctx'.state }
      rw [hstate]
      exact h
    · refine ⟨hunbuilt.writes.objects hs, fun id hid => ?_⟩
      have hold : l.state.getStr b.stateNamespace "authn_id" = some id :=
        (hunbuilt.writes.getStr (not_selectionKey (by simp))).symm.trans hid
      obtain ⟨hstarted, idp, hidp, hmem⟩ := h.pending id hold
      refine ⟨hstarted, idp, ?_, hmem⟩
      rw [← hidp]
      cases hdyn : b.isDynamicIdpSelection with
      | true =>
        have hnamed := (hcond target hcall htarget).2 hfails.cannot (by rw [hold]; simp) hdyn hfound
        exact b.expectedIdp_congr ((hunbuilt.idp hdyn).trans hnamed.symm)
      | false => exact b.expectedIdp_static hdyn
  · have hissued : b.built r.world (r.context l.state) (.endpoint "disco") = none := by
      simp only [Saml2Backend.built, if_true, htarget, Option.bind_none]
    have hlist : (if l.started = true then l.issued ++ issuance none else l.issued) = l.issued := by
      split <;> simp [issuance]
    rw [hrun, hissued, hlist]
    exact h

theorem Current.step (h : b.Current l) (hc : b.Uncrossed l r) : b.Current (b.step l r) := by
  cases hcall : r.call with
  | startAuth request => exact h.startAuth hc hcall
  | endpoint routeId =>
    by_cases hdisco : routeId = "disco"
    · subst hdisco
      exact h.disco hc hcall
    · have hissued : b.built r.world (r.context l.state) (.endpoint routeId) = none := by
        simp only [Saml2Backend.built, if_neg hdisco]
      have hlist : (if l.started = true then l.issued ++ issuance none else l.issued) = l.issued := by
        split <;> simp [issuance]
      simp only [Saml2Backend.step, hcall, hissued, hlist, handleEndpoint, if_neg hdisco]
      split
      · rcases b.handleAcs_cases r.world (r.context l.state) with ⟨e, ctx', hrun, hstate⟩ | ⟨data, ctx', hrun, hstate⟩
        · rw [hrun]
          show b.Current { l with state := ctx'.state }
          rw [hstate]
          exact h
        · rw [hrun]
          show b.Current { l with state := ctx'.state }
          rw [hstate]
          refine current_of_none (h.objects.clearNamespace _) (State.getStr_none ?_)
          exact (State.getValue_clearNamespace _ _ _ _).trans (if_pos rfl)
      · split
        · rcases handleMetadata_cases r.world (r.context l.state) with ⟨x, hrun, _⟩ | ⟨e, hrun⟩
          · rw [hrun]
            exact h
          · rw [hrun]
            exact h
        · exact h

/-! ## Accepted Responses -/

theorem selectedIdp_expected {w : SamlWorld} {s : State} {v : SamlVerifier} {expected : String}
    {rest : List String × MetadataPolicyValues} (h : b.selectedIdp w s = .ok (v, expected, rest)) :
    b.expectedIdp s = some expected := by
  unfold selectedIdp at h
  unfold expectedIdp
  cases hmode : b.idpMetadata with
  | static ssoUrl verifier policyValues =>
    simp only [hmode] at h ⊢
    split at h
    next hidp =>
      cases h
      exact hidp
    next => cases h
  | mdq =>
    simp only [hmode] at h ⊢
    split at h
    next => cases h
    next hidp =>
      obtain ⟨_, _, hverifier⟩ := except_bind_ok.mp h
      obtain ⟨_, _, hret⟩ := except_bind_ok.mp hverifier
      cases hret
      exact hidp

theorem extractIdentity_issuer {w : SamlWorld} {response : SamlResponse} {data : InternalData}
    (h : b.extractIdentity w response = .ok data) :
    ∃ a ∈ response.assertions, data.authInfo.issuer = some a.issuer := by
  unfold extractIdentity at h
  split at h
  next => cases h
  next a ha =>
    obtain ⟨_, _, hret⟩ := except_bind_ok.mp h
    cases hret
    exact ⟨a, List.mem_of_find?_eq_some ha, rfl⟩

/-- **An accepted Response answers the outstanding request.** -/
theorem Current.acceptsCurrent (h : b.Current l) (hw : r.world.ChecksCorrelation) : b.AcceptsCurrent l r := by
  intro _ data hrun verifier expected rest m id hselected hm hid
  obtain ⟨v, expected', rest', m', expectedId, hselected', hm', hexpected, hvalid, hdata⟩ :=
    handleAcs_ok hrun
  rw [hselected] at hselected'
  cases hselected'
  rw [hm] at hm'
  cases hm'
  obtain ⟨hcorrelated, hissuers⟩ := hw _ _ _ hvalid
  obtain ⟨a, ha, hissuer⟩ := extractIdentity_issuer hdata
  rw [hissuers a ha] at hissuer
  have hpending : l.state.getStr b.stateNamespace "authn_id" = some id := by
    unfold expectedRequestId at hexpected
    split at hexpected
    next stored hstored =>
      cases hexpected
      have hsame := hcorrelated stored rfl
      rw [hid] at hsame
      rw [Option.some.inj hsame]
      exact hstored
    next =>
      split at hexpected
      · split at hexpected
        next hnone =>
          rw [hid] at hnone
          cases hnone
        next => cases hexpected
      · cases hexpected
  obtain ⟨hstarted, idp, hidp, hmem⟩ := h.pending id hpending
  have hsame : expected = idp := Option.some.inj ((selectedIdp_expected hselected).symm.trans hidp)
  subst hsame
  exact ⟨hstarted, expected, hmem, hissuer⟩

/-- **On every run over one state, an accepted Response answers an AuthnRequest
built for the most recent start_auth and issued to the IdP it is from**: as
long as no start_auth leaves an older request outstanding. -/
theorem responses_answer_current (b : Saml2Backend) (s : State) (hs : s.Objects)
    (hnew : s.getStr b.stateNamespace "authn_id" = none) (rs : List SamlRequest)
    (hw : ∀ r ∈ rs, r.world.ChecksCorrelation) (h : Along b.step b.Uncrossed (.start s) rs) :
    Along b.step b.AcceptsCurrent (.start s) rs :=
  Along.of_invariant (fun _ _ hl hc => hl.step hc.2) (fun _ _ hl hc => hl.acceptsCurrent hc.1)
    (current_start hs hnew) (h.and_mem hw)

/-! ## An older request -/

def discovering : Saml2Backend where
  name := "Saml2"
  stateNamespace := "Saml2"
  spEntityId := "https://proxy.example/Saml2"
  acsUrl := "https://proxy.example/Saml2/acs"
  discoSrv := some "https://disco.example"
  discoReturnUrl := "https://proxy.example/Saml2/disco"
  idpMetadata := .mdq

/-- The verifier of a Response whose one signature was checked. -/
def responseVerifier : SamlVerifier where
  verifyAllEnveloped _ := .ok [.valid [{ uri := "#_r1", digestVerified := true }]]
  verifyEnveloped _ := .ok (.valid [{ uri := "#_r1", digestVerified := true }])
  redirectVerifySignature _ := .ok false

/-- The signed Response of the IdP to the request `_q1`. -/
def answer : SamlResponse where
  id := "_r1"
  issuer := some "https://idp.example"
  inResponseTo := some "_q1"
  hasSignature := true
  assertions := [{
    id := "_a1"
    issuer := "https://idp.example"
    nameId := some (.nameId { value := "alice", format := some NAMEID_PERSISTENT })
    authnStatements := [{}] }]

/-- A world whose next request id is `id`: one IdP in the metadata service, and
the library's correlation, issuer and signature checks. -/
def answering (id : String) : SamlWorld where
  newRequestId := .ok id
  redirectDecode _ := .error "no redirects"
  base64Decode _ := .ok (.ok "<Response/>")
  parseXml _ := .ok { response := .ok answer, assertionSources := some [some "<Assertion/>"] }
  loadCerts _ := .ok responseVerifier
  mdq target := .ok {
    entity := {
      entityId := target
      idpSsoDescriptors := [{ redirectLocation := some "https://idp.example/sso", signingCertificatesDer := ["c1"] }] } }
  validateResponse _ response params :=
    if params.expectedRequestId.all (fun id => response.inResponseTo = some id) &&
        response.assertions.all (fun a => a.issuer = params.expectedIdpEntityId &&
          (!a.hasSignature || params.verifiedSignedIds.contains a.id || params.verifiedSignedIds.contains response.id))
    then [] else ["invalid response"]
  isSuccess status := status.code = STATUS_SUCCESS
  extractAttributes := List.flatten
  toLowercase s := s
  now := "2026-01-01T00:00:00Z"
  metadataXml := .error "no metadata"
  spMdq _ := .error "no metadata"
  processAuthnRequest _ _ _ := .error "no requests"
  freshNameId := "_fresh"

theorem answering_checks (id : String) : (answering id).ChecksCorrelation := by
  intro cfg response params hvalid
  simp only [answering] at hvalid
  split at hvalid
  next hall =>
    obtain ⟨hid, hissuers⟩ := Bool.and_eq_true_iff.mp hall
    refine ⟨fun id hexpected => ?_, fun a ha => ?_⟩
    · rw [hexpected] at hid
      exact of_decide_eq_true hid
    · have h := List.all_eq_true.mp hissuers a ha
      exact of_decide_eq_true (Bool.and_eq_true_iff.mp h).1
  next => cases hvalid

/-- To the IdP named in the request, and the answer. -/
def answeredFlow : List SamlRequest :=
  [{ world := answering "_q1", http := { query := [("entityID", "https://idp.example")] }
     call := .startAuth (.request "https://sp.example") },
    { world := answering "_q2", http := postedRequest, call := .endpoint "acs" }]

/-- To discovery and back to the IdP, then started again, to the IdP at once. -/
def twiceStarted : List SamlRequest :=
  [{ world := answering "_q0", http := {}, call := .startAuth (.request "https://other.example") },
    { world := answering "_q5", http := { query := [("entityID", "https://idp.example")] }, call := .endpoint "disco" }] ++
    answeredFlow

/-- The second start_auth finds the id of the first, and its own is answered. -/
theorem responses_answer_current_demo :
    Along discovering.step discovering.AcceptsCurrent (.start State.new) twiceStarted ∧
      ∃ data ctx', discovering.handleEndpoint (answering "_q2") "acs"
        ({ world := answering "_q2", http := postedRequest, call := .endpoint "acs" : SamlRequest }.context
          ((twiceStarted.take 3).foldl discovering.step (.start State.new)).state) = (.ok (.authResponse data), ctx') := by
  refine ⟨responses_answer_current discovering State.new State.objects_new rfl twiceStarted (fun r hr => ?_)
    ⟨⟨fun request _ hout => absurd rfl hout, fun target hcall => ?_⟩,
      ⟨fun request hcall => ?_, fun target _ htarget => ⟨fun _ => rfl, fun _ hout => absurd rfl hout⟩⟩,
      ⟨fun request hcall _ => ⟨some "https://idp.example", rfl, ⟨_, rfl⟩, fun v hv => ?_, ⟨_, rfl⟩, fun h => ?_⟩,
        fun target hcall => ?_⟩,
      ⟨fun request hcall => ?_, fun target hcall => ?_⟩, trivial⟩, _, _, rfl⟩
  · simp only [twiceStarted, answeredFlow, List.cons_append, List.nil_append, List.mem_cons, List.not_mem_nil,
      or_false] at hr
    rcases hr with rfl | rfl | rfl | rfl <;> exact answering_checks _
  · cases hcall
  · cases hcall
  · cases hv
  · cases h
  · cases hcall
  · cases hcall
  · simp at hcall

/-- The same with a second start_auth before the answer: it goes to discovery
and leaves the request of the first. -/
def restartedFlow : List SamlRequest :=
  answeredFlow.take 1 ++
    { world := answering "_q3", http := {}, call := .startAuth (.request "https://other.example") } ::
      answeredFlow.drop 1

theorem restartedFlow_accepted :
    (∀ r ∈ restartedFlow, r.world.ChecksCorrelation) ∧
      ¬ Along discovering.step discovering.AcceptsCurrent (.start State.new) restartedFlow := by
  constructor
  · intro r hr
    simp only [restartedFlow, answeredFlow, List.take, List.drop, List.cons_append, List.nil_append, List.mem_cons,
      List.not_mem_nil, or_false] at hr
    rcases hr with rfl | rfl | rfl <;> exact answering_checks _
  · intro h
    obtain ⟨_, _, hacs, _⟩ := h
    obtain ⟨_, idp, hmem, _⟩ := hacs rfl _ rfl responseVerifier "https://idp.example" _ _ "_q1" rfl rfl rfl
    cases hmem

end Saml2Backend

end Tunnelbana
