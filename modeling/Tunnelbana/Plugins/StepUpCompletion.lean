/-
What a second exchange leaves behind. `mergeAssurances_eq` describes the merged
assurances; `finishStepup_frame` bounds what completing may change, whatever
context the callback left.
-/
import Tunnelbana.Plugins.StepUpGuarantee

namespace Tunnelbana

open Basis

/-- What the assurances of the second exchange add to those already held. -/
def addedAssurances (held source : List String) : StepupBehavior → List String
  | .eduid => source
  | .hardened => (source.filter fun a => a ∉ held).eraseDups

theorem mergeAssurances_nil (held : List String) (behavior : StepupBehavior) :
    mergeAssurances held [] behavior = held := rfl

theorem mergeAssurances_cons (held source : List String) (a : String) (behavior : StepupBehavior) :
    mergeAssurances held (a :: source) behavior =
      mergeAssurances (if behavior = .eduid || !held.contains a then held ++ [a] else held) source behavior := rfl

theorem addedAssurances_cons (held source : List String) (a : String) :
    addedAssurances held (a :: source) .hardened =
      if a ∈ held then addedAssurances held source .hardened
      else a :: addedAssurances (held ++ [a]) source .hardened := by
  unfold addedAssurances
  by_cases ha : a ∈ held
  · simp [ha]
  · have hagain : (source.filter fun b => decide (b ∉ held)).filter (fun b => !b == a) =
        source.filter fun b => decide (b ∉ held ++ [a]) := by
      rw [List.filter_filter]
      refine List.filter_congr fun b _ => ?_
      by_cases hb : b = a <;> simp [hb]
    rw [if_neg ha, List.filter_cons_of_pos (by simpa using ha), List.eraseDups_cons, hagain]

/-- **The held assurances come first, then what the second exchange adds.** -/
theorem mergeAssurances_eq (held source : List String) (behavior : StepupBehavior) :
    mergeAssurances held source behavior = held ++ addedAssurances held source behavior := by
  cases behavior with
  | eduid =>
    induction source generalizing held with
    | nil => simp [mergeAssurances_nil, addedAssurances]
    | cons a source ih =>
      have hrest := ih (held ++ [a])
      simp only [addedAssurances] at hrest ⊢
      simp [mergeAssurances_cons, hrest]
  | hardened =>
    induction source generalizing held with
    | nil => simp [mergeAssurances_nil, addedAssurances]
    | cons a source ih =>
      rw [mergeAssurances_cons, addedAssurances_cons, ih]
      by_cases ha : a ∈ held <;> simp [ha]

namespace StepUp

/-- What the completed response keeps of the snapshot, and what it adds. -/
structure CompletionFrame (mapper : AttributeMapper) (snapshot : StepupSnapshot) (response data : InternalData)
    (assurance : String) : Prop where
  mapped : internalNameForExternal mapper snapshot.account.assurance snapshot.policy.behavior = .ok assurance
  kept : data = { snapshot.response with
    attributes := data.attributes
    authInfo := { snapshot.response.authInfo with authClassRef := data.authInfo.authClassRef } }
  others : ∀ n, n ≠ assurance → data.attributes.get n = snapshot.response.attributes.get n
  merged : ∀ source, response.attributes.get assurance = some source →
    data.attributes.get assurance =
      some ((snapshot.response.attributes.get assurance).getD [] ++
        addedAssurances ((snapshot.response.attributes.get assurance).getD []) source snapshot.policy.behavior)
  unasserted : response.attributes.get assurance = none → data.attributes = snapshot.response.attributes

/-- The context of the snapshot, over the state of the callback. -/
def restored (snapshot : StepupSnapshot) (ctx : Context) : Context :=
  { ctx with
    targetBackend := snapshot.targetBackend
    targetFrontend := snapshot.targetFrontend
    decorations := snapshot.decorations }

theorem completed_frame {mapper : AttributeMapper} {snapshot : StepupSnapshot} {assurance : String}
    (response : InternalData)
    (h : internalNameForExternal mapper snapshot.account.assurance snapshot.policy.behavior = .ok assurance) :
    CompletionFrame mapper snapshot response (completed snapshot assurance response) assurance where
  mapped := h
  kept := rfl
  others := by
    intro n hn
    unfold completed
    cases response.attributes.get assurance with
    | none => rfl
    | some source => exact (SortedMap.get_insert _ _ _ _).trans (if_neg fun he => hn he.symm)
  merged := by
    intro source hsource
    unfold completed
    simp only [hsource, SortedMap.get_insert, if_true, mergeAssurances_eq]
  unasserted := by
    intro hnone
    unfold completed
    simp only [hnone]

variable (p : StepUp)

/-- Completing answers with the completed response in the restored context, or
fails in the context it was called in. -/
theorem finishStepup_run (snapshot : StepupSnapshot) (response : InternalData) (ctx : Context) :
    (∃ internal assurance,
      internalNameForExternal p.mapper snapshot.account.attributeName snapshot.policy.behavior = .ok internal ∧
      internalNameForExternal p.mapper snapshot.account.assurance snapshot.policy.behavior = .ok assurance ∧
      satisfies snapshot internal response = true ∧
      p.finishStepup snapshot response ctx = (.ok (completed snapshot assurance response), restored snapshot ctx)) ∨
    ∃ e, p.finishStepup snapshot response ctx = (.error e, ctx) := by
  unfold finishStepup
  cases hinternal : internalNameForExternal p.mapper snapshot.account.attributeName snapshot.policy.behavior with
  | error e => exact .inr ⟨e, rfl⟩
  | ok internal =>
    rw [Action.lift_ok_bind_run]
    by_cases hsatisfies : satisfies snapshot internal response = true
    · simp only [Flow.require, if_pos hsatisfies, Action.pure_bind_run]
      cases hassurance : internalNameForExternal p.mapper snapshot.account.assurance snapshot.policy.behavior with
      | error e => exact .inr ⟨e, rfl⟩
      | ok assurance => exact .inl ⟨internal, assurance, rfl, rfl, hsatisfies, rfl⟩
    · simp only [Flow.require, if_neg hsatisfies, Action.fail_bind_run, Flow.fail]
      exact .inr ⟨_, rfl⟩

/-- **Completing changes nothing of the kept response but its LoA and its
assurances, and nothing of the callback's context is left; a response that does
not confirm the linked account fails and changes nothing.** -/
theorem finishStepup_frame (snapshot : StepupSnapshot) (response : InternalData) (ctx : Context) :
    (∀ data ctx', p.finishStepup snapshot response ctx = (.ok data, ctx') →
      p.Confirms snapshot.policy snapshot.account response ∧
      (∃ assurance, CompletionFrame p.mapper snapshot response data assurance) ∧
      ctx' = restored snapshot ctx) ∧
    (¬ p.Confirms snapshot.policy snapshot.account response →
      ∃ e, p.finishStepup snapshot response ctx = (.error e, ctx)) := by
  rcases p.finishStepup_run snapshot response ctx with
    ⟨internal, assurance, hinternal, hassurance, hsatisfies, hrun⟩ | ⟨e, hrun⟩
  · have hconfirms : p.Confirms snapshot.policy snapshot.account response :=
      confirms_of_satisfies rfl rfl hinternal hsatisfies
    constructor
    · intro data ctx' h
      rw [hrun] at h
      cases h
      exact ⟨hconfirms, ⟨assurance, completed_frame response hassurance⟩, rfl⟩
    · intro hnot
      exact absurd hconfirms hnot
  · constructor
    · intro data ctx' h
      rw [hrun] at h
      cases h
    · intro _
      exact ⟨e, hrun⟩

def mapped : StepUp where
  name := "mfa"
  mfa := eduid.mfa
  saml := eduid.saml
  mapper := linkedMap
  mfaValid := rfl
  samlNamespace := rfl
  samlSubject := rfl

def keptSnapshot : StepupSnapshot where
  response := { InternalData.request "https://sp.example" with
    attributes := .ofList [("assurance", ["al1"]), ("mail", ["anna@example.org"])] }
  account := { entityId := "https://idp.example", identifier := "anna@idp" }
  policy :=
    { behavior := .hardened
      originalRequesterLoas := [REFEDS_MFA]
      requesterLoas := [REFEDS_MFA]
      loaSettings := { requested := [REFEDS_MFA] } }
  targetBackend := some "Saml2"
  targetFrontend := some "Saml2IDP"
  decorations := [(KEY_REQUESTED_ACCR, Json.strings [REFEDS_MFA])]

def confirming : InternalData :=
  { asserting REFEDS_MFA with attributes := .ofList [("assurance", ["al1", "al2"]), ("eppn", ["anna@idp"])] }

/-- Only the new assurance is added, and the callback's decorations are gone. -/
theorem finishStepup_frame_demo :
    ∃ data assurance, CompletionFrame mapped.mapper keptSnapshot confirming data assurance ∧
      data.attributes.get "assurance" = some ["al1", "al2"] ∧
      restored keptSnapshot { decorations := [("callback", .null)] } =
        { decorations := keptSnapshot.decorations, targetBackend := some "Saml2", targetFrontend := some "Saml2IDP" } := by
  obtain ⟨_, ⟨assurance, hframe⟩, _⟩ :=
    (finishStepup_frame mapped keptSnapshot confirming { decorations := [("callback", .null)] }).1 _ _ rfl
  exact ⟨_, assurance, hframe, rfl, rfl⟩

variable {w : SamlWorld} {ctx ctx' : Context} {data : InternalData}

/-- **An ACS that resumes a response resumes the kept one**, in the context it
was kept in: of the embedded backend's exchange only the state is left. -/
theorem handleAcs_frame (h : p.handleAcs w ctx = (.ok (.resumeResponse data), ctx')) :
    ∃ snapshot response after assurance,
      p.snapshot ctx = .ok snapshot ∧
      p.saml.handleEndpoint w "acs" ctx = (.ok (.authResponse response), after) ∧
      CompletionFrame p.mapper snapshot response data assurance ∧
      ctx' = restored snapshot (after.mapState fun s => s.clearNamespace p.stateNamespace) := by
  unfold handleAcs at h
  obtain ⟨_, _, hread, h⟩ := Action.bind_ok.mp h
  cases hread
  obtain ⟨snapshot, hsnapshot, h⟩ := Action.lift_bind_ok.mp h
  obtain ⟨action, after, hrun, h⟩ := Action.bind_ok.mp h
  cases action with
  | respond r => cases h
  | authResponse response =>
    simp only [completeExchange, Flow.clearNamespace, Flow.modify, Action.update_bind_run] at h
    obtain ⟨next, ctx'', hfinish, h⟩ := Action.bind_ok.mp h
    cases h
    rcases p.finishStepup_run snapshot response (after.mapState fun s => s.clearNamespace p.stateNamespace) with
      ⟨_, assurance, _, hassurance, _, hdone⟩ | ⟨e, hfail⟩
    · rw [hdone] at hfinish
      cases hfinish
      exact ⟨snapshot, response, after, assurance, hsnapshot, hrun, completed_frame response hassurance, rfl⟩
    · rw [hfail] at hfinish
      cases hfinish

end StepUp

end Tunnelbana
