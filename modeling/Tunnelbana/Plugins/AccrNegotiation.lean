/-
What an SP gets back from `accr` for the class an IdP asserts.

The service rewrites on the request leg and undoes it on the response leg. What
is checked as it is built makes the rewrite map invertible, not the rewriting as
a whole: a class that is left as it is can be the target of another
(`round_trips_iff`). A stronger class is mapped down along the configured list,
from the first place of the class asserted; a class listed twice can be reached
from below (`never_inflates_iff`).
-/
import Mathlib.Data.List.Basic
import Tunnelbana.Basis.Ranking
import Tunnelbana.Plugins.Accr

namespace Tunnelbana

open Basis

namespace Accr

variable (a : Accr)

def kept (requested : List String) : List String := requested.filter a.supported.contains

/-- What a class is called upstream. -/
def rewritten (v : String) : String := (a.rewrite.get v).getD v

/-- What a class asserted upstream is called here. -/
def restored (u : String) : String := (a.reverseRewrite.get u).getD u

/-- The class a response asserts, as it is called here. -/
def received (response : InternalData) : Option String := response.authInfo.authClassRef.map a.restored

variable {a}

theorem reverseRewrite_eq_some {origin u : String} :
    a.reverseRewrite.get u = some origin ↔ a.rewrite.get origin = some u := SortedMap.get_ofList_swap a.rewriteInjective

theorem restored_of_origin {origin u : String} (h : a.rewrite.get origin = some u) : a.restored u = origin := by
  unfold restored
  rw [reverseRewrite_eq_some.mpr h]
  rfl

theorem restored_of_none {u : String} (h : ∀ origin, a.rewrite.get origin ≠ some u) : a.restored u = u := by
  unfold restored
  cases hget : a.reverseRewrite.get u with
  | none => rfl
  | some origin => exact absurd (reverseRewrite_eq_some.mp hget) (h origin)

theorem mem_kept {requested : List String} {v : String} : v ∈ a.kept requested ↔ v ∈ requested ∧ v ∈ a.supported := by
  simp [kept]

/-! ## The response leg -/

theorem safeFallback_eq_some {requested : List String} {r v : String} (h : r ∉ requested) :
    a.safeFallback requested r = some v ↔ ∃ above, ChosenBelow requested.contains a.supported above r v :=
  find?_dropWhile_eq_some (by simpa using h)

/-- **What is accepted of a request that names a class**: one of the classes
requested, which is the one asserted or, where that is allowed, chosen below it. -/
theorem accepted_eq_ok {requested : List String} (hne : requested ≠ []) {asserted classRef : Option String} :
    a.accepted requested asserted = .ok classRef ↔
      ∃ u v, asserted = some u ∧ classRef = some v ∧
        ((v = a.restored u ∧ v ∈ requested) ∨
          (a.restored u ∉ requested ∧ a.allowStrongerAccrFallback = true ∧
            ∃ above, ChosenBelow requested.contains a.supported above (a.restored u) v)) := by
  unfold accepted
  rw [if_neg hne]
  cases asserted with
  | none => simp
  | some u =>
    have hrestored : (a.reverseRewrite.get u).getD u = a.restored u := rfl
    simp only [Option.map_some, Option.any_some]
    show (if requested.contains (a.restored u) = true then _ else _) = _ ↔ _
    by_cases hin : a.restored u ∈ requested
    · rw [if_pos (by simpa using hin)]
      constructor
      · intro h
        exact ⟨u, a.restored u, rfl, (Except.ok.inj h).symm, .inl ⟨rfl, hin⟩⟩
      · rintro ⟨u', v, hu, rfl, ⟨rfl, _⟩ | ⟨hnot, _⟩⟩
        · cases hu
          rfl
        · cases hu
          exact absurd hin hnot
    · rw [if_neg (by simpa using hin)]
      simp only [Option.bind_some]
      by_cases hallow : a.allowStrongerAccrFallback = true
      · simp only [if_pos hallow, hrestored]
        cases hfallback : a.safeFallback requested (a.restored u) with
        | some v =>
          constructor
          · intro h
            exact ⟨u, v, rfl, (Except.ok.inj h).symm, .inr ⟨hin, hallow, (safeFallback_eq_some hin).mp hfallback⟩⟩
          · rintro ⟨u', v', hu, rfl, ⟨rfl, hmem⟩ | ⟨_, _, hchosen⟩⟩
            · cases hu
              exact absurd hmem hin
            · cases hu
              rw [(safeFallback_eq_some hin).mpr hchosen] at hfallback
              cases hfallback
              rfl
        | none =>
          constructor
          · intro h
            cases h
          · rintro ⟨u', v', hu, rfl, ⟨rfl, hmem⟩ | ⟨_, _, hchosen⟩⟩
            · cases hu
              exact absurd hmem hin
            · cases hu
              rw [(safeFallback_eq_some hin).mpr hchosen] at hfallback
              cases hfallback
      · simp only [if_neg hallow]
        constructor
        · intro h
          cases h
        · rintro ⟨u', v', hu, rfl, ⟨rfl, hmem⟩ | ⟨_, hallow', _⟩⟩
          · cases hu
            exact absurd hmem hin
          · exact absurd hallow' hallow

theorem processResponse_of_ok {response : InternalData} {ctx : Context} {classRef : Option String}
    (h : a.accepted (a.recorded ctx.state) response.authInfo.authClassRef = .ok classRef) :
    a.processResponse response ctx =
      (.ok { response with authInfo := { response.authInfo with authClassRef := classRef } },
        ctx.mapState fun s => s.clearNamespace a.stateNamespace) := by
  unfold processResponse
  simp only [Flow.context, Action.read_bind_run, h, Action.lift_ok_bind_run]
  rfl

theorem processResponse_of_error {response : InternalData} {ctx : Context} {e : Error}
    (h : a.accepted (a.recorded ctx.state) response.authInfo.authClassRef = .error e) :
    a.processResponse response ctx = (.error e, ctx) := by
  unfold processResponse
  simp only [Flow.context, Action.read_bind_run, h, Action.lift_error_bind_run]

/-! ## The request leg -/

theorem recorded_of_getValue {s : State} {classes : List String}
    (h : s.getValue a.stateNamespace KEY_ACCR_REQUESTED = some (Json.strings classes)) : a.recorded s = classes := by
  unfold recorded
  rw [h]
  simp

theorem forward_state (accrs : List String) (ctx : Context) : (a.forward accrs ctx).state = ctx.state := by
  unfold forward
  split
  · dsimp only
    split <;> rfl
  · rfl

/-- Nothing else claims the decoration: what is sent upstream is in it. -/
theorem forward_strings {accrs : List String} {ctx : Context}
    (h : ctx.decoration KEY_TARGET_AUTHN_CONTEXT_CLASS_REF = none) :
    (a.forward accrs ctx).decorationStrings KEY_TARGET_AUTHN_CONTEXT_CLASS_REF = accrs := by
  unfold forward
  by_cases hempty : accrs = []
  · rw [if_neg (by simp [hempty]), hempty]
    unfold Context.decorationStrings
    rw [h]
    rfl
  · rw [if_pos (by simp [h, hempty])]
    have hdecorated : ∀ ctx' : Context,
        ctx'.decoration KEY_TARGET_AUTHN_CONTEXT_CLASS_REF = some (Json.strings accrs) →
          ctx'.decorationStrings KEY_TARGET_AUTHN_CONTEXT_CLASS_REF = accrs := by
      intro ctx' hctx
      unfold Context.decorationStrings
      rw [hctx]
      simp
    dsimp only
    split
    · refine hdecorated _ ?_
      rw [Context.decoration_decorate_other _ _ (by decide), Context.decoration_decorate_self]
    · exact hdecorated _ (Context.decoration_decorate_self _ _ _)

/-- **What the request leg leaves**: the supported classes on record, and what
is sent upstream among the decorations. -/
theorem processRequest_ok {data out : InternalData} {ctx ctx₁ : Context} (hobjects : ctx.state.Objects)
    (h : a.processRequest data ctx = (.ok out, ctx₁)) :
    a.recorded ctx₁.state = a.kept (ctx.decorationStrings KEY_REQUESTED_ACCR) ∧
      ctx₁.decorations =
        (a.forward (a.toForward ctx (a.kept (ctx.decorationStrings KEY_REQUESTED_ACCR))) ctx).decorations := by
  have hfiltered : ∀ requested, a.filtered (ctx.decorationStrings KEY_REQUESTED_ACCR) = .ok requested →
      requested = a.kept (ctx.decorationStrings KEY_REQUESTED_ACCR) := by
    intro requested hok
    unfold filtered at hok
    dsimp only at hok
    split at hok
    · cases hok
    · exact (Except.ok.inj hok).symm
  unfold processRequest at h
  simp only [Flow.context, Action.read_bind_run] at h
  cases hclasses : a.filtered (ctx.decorationStrings KEY_REQUESTED_ACCR) with
  | error e =>
    rw [hclasses] at h
    cases h
  | ok requested =>
    rw [hclasses] at h
    obtain rfl := hfiltered requested hclasses
    cases h
    refine ⟨recorded_of_getValue ?_, rfl⟩
    refine State.getValue_setValue_self ?_ _ _ _
    rw [forward_state]
    exact hobjects

/-! ## The round trip -/

variable (a)

/-- Whichever class of those sent upstream is asserted, the SP gets the one it
was requested as. The request goes out in one context, and the response arrives
in another where the record of the service is the same. -/
def RoundTrips (data : InternalData) (ctx : Context) : Prop :=
  ∀ out ctx₁, a.processRequest data ctx = (.ok out, ctx₁) →
  ∀ (i : Nat) (requested sent : String), (a.kept (ctx.decorationStrings KEY_REQUESTED_ACCR))[i]? = some requested →
    (ctx₁.decorationStrings KEY_TARGET_AUTHN_CONTEXT_CLASS_REF)[i]? = some sent →
  ∀ ctx₂ response, a.recorded ctx₂.state = a.recorded ctx₁.state → response.authInfo.authClassRef = some sent →
    ∃ next ctx₃, a.processResponse response ctx₂ = (.ok next, ctx₃) ∧ next.authInfo.authClassRef = some requested

/-- A class left as it is comes back as itself: no origin is rewritten to it,
unless that one is not requested, and mapping it down leads to the class. -/
def Reversible (requested : List String) : Prop :=
  ∀ v ∈ requested, a.rewrite.get v = none → ∀ origin, a.rewrite.get origin = some v →
    origin ∉ requested ∧ a.allowStrongerAccrFallback = true ∧
      ∃ above, ChosenBelow requested.contains a.supported above origin v

def NoMinimum (ctx : Context) : Prop :=
  (ctx.targetFrontend.or (ctx.state.getStr STATE_KEY_BASE KEY_TARGET_FRONTEND)).bind a.lowest.get = none

variable {a}

theorem toForward_of_noMinimum {ctx : Context} (h : a.NoMinimum ctx) (requested : List String) :
    a.toForward ctx requested = requested.map a.rewritten := by
  have hrange : a.minimumRange (ctx.targetFrontend.or (ctx.state.getStr STATE_KEY_BASE KEY_TARGET_FRONTEND)) = none := by
    unfold minimumRange
    rw [h]
    rfl
  unfold toForward
  simp only [hrange]
  rfl

theorem accepted_rewritten {requested : List String} {v : String} (hv : v ∈ requested) :
    a.accepted requested (some (a.rewritten v)) = .ok (some v) ↔
      (a.rewrite.get v = none → ∀ origin, a.rewrite.get origin = some v →
        origin ∉ requested ∧ a.allowStrongerAccrFallback = true ∧
          ∃ above, ChosenBelow requested.contains a.supported above origin v) := by
  have hne : requested ≠ [] := List.ne_nil_of_mem hv
  have hiff : a.accepted requested (some (a.rewritten v)) = .ok (some v) ↔
      v = a.restored (a.rewritten v) ∨
        (a.restored (a.rewritten v) ∉ requested ∧ a.allowStrongerAccrFallback = true ∧
          ∃ above, ChosenBelow requested.contains a.supported above (a.restored (a.rewritten v)) v) := by
    rw [accepted_eq_ok hne]
    constructor
    · rintro ⟨u, v', hu, hv', hcases⟩
      cases hu
      cases hv'
      exact hcases.imp And.left id
    · intro hcases
      exact ⟨_, v, rfl, rfl, hcases.imp (fun he => ⟨he, hv⟩) id⟩
  rw [hiff]
  cases hget : a.rewrite.get v with
  | some u =>
    have hsame : a.restored (a.rewritten v) = v := by
      unfold rewritten
      rw [hget]
      exact restored_of_origin hget
    simp [hsame]
  | none =>
    have hunchanged : a.rewritten v = v := by
      unfold rewritten
      rw [hget]
      rfl
    rw [hunchanged]
    constructor
    · rintro hcases _ origin horigin
      rw [restored_of_origin horigin] at hcases
      rcases hcases with rfl | hchosen
      · rw [hget] at horigin
        cases horigin
      · exact hchosen
    · intro hreversible
      cases hreverse : a.reverseRewrite.get v with
      | none =>
        refine .inl (restored_of_none fun origin horigin => ?_).symm
        rw [reverseRewrite_eq_some.mpr horigin] at hreverse
        cases hreverse
      | some origin =>
        have horigin := reverseRewrite_eq_some.mp hreverse
        rw [restored_of_origin horigin]
        exact .inr (hreversible rfl origin horigin)

/-- **The classes sent upstream come back as they were requested exactly when
those left as they are do.** No minimum applies, and no earlier service chose
the classes. -/
theorem round_trips_iff (a : Accr) (data : InternalData) (ctx : Context) (hobjects : ctx.state.Objects)
    (hminimum : a.NoMinimum ctx) (hfirst : ctx.decoration KEY_TARGET_AUTHN_CONTEXT_CLASS_REF = none) :
    a.RoundTrips data ctx ↔ a.Reversible (a.kept (ctx.decorationStrings KEY_REQUESTED_ACCR)) := by
  have hsent : ∀ out ctx₁, a.processRequest data ctx = (.ok out, ctx₁) →
      a.recorded ctx₁.state = a.kept (ctx.decorationStrings KEY_REQUESTED_ACCR) ∧
      ctx₁.decorationStrings KEY_TARGET_AUTHN_CONTEXT_CLASS_REF =
        (a.kept (ctx.decorationStrings KEY_REQUESTED_ACCR)).map a.rewritten := by
    intro out ctx₁ h
    obtain ⟨hrecorded, hdecorations⟩ := processRequest_ok hobjects h
    refine ⟨hrecorded, ?_⟩
    have hforward : (a.forward (a.toForward ctx (a.kept (ctx.decorationStrings KEY_REQUESTED_ACCR))) ctx).decorationStrings
        KEY_TARGET_AUTHN_CONTEXT_CLASS_REF = a.toForward ctx (a.kept (ctx.decorationStrings KEY_REQUESTED_ACCR)) :=
      forward_strings hfirst
    rw [toForward_of_noMinimum hminimum] at hforward hdecorations
    refine Eq.trans ?_ hforward
    unfold Context.decorationStrings Context.decoration
    rw [hdecorations]
    rfl
  generalize hkept : a.kept (ctx.decorationStrings KEY_REQUESTED_ACCR) = requested at hsent ⊢
  constructor
  · intro h v hv
    obtain ⟨i, hi⟩ := List.getElem?_of_mem hv
    have hrequest : ∃ ctx₁, a.processRequest data ctx = (.ok data, ctx₁) := by
      have hok : a.filtered (ctx.decorationStrings KEY_REQUESTED_ACCR) = .ok requested := by
        unfold filtered
        dsimp only
        rw [if_neg, ← hkept]
        · rfl
        · rintro ⟨_, hempty⟩
          have : requested = [] := hkept.symm.trans hempty
          rw [this] at hv
          cases hv
      unfold processRequest
      simp only [Flow.context, Action.read_bind_run, hok, Action.lift_ok_bind_run]
      exact ⟨_, rfl⟩
    obtain ⟨ctx₁, hrun⟩ := hrequest
    obtain ⟨hrecorded, hstrings⟩ := hsent data ctx₁ hrun
    have hi₁ : (ctx₁.decorationStrings KEY_TARGET_AUTHN_CONTEXT_CLASS_REF)[i]? = some (a.rewritten v) := by
      rw [hstrings, List.getElem?_map, hi]
      rfl
    obtain ⟨next, ctx₃, hresponse, hnext⟩ :=
      h data ctx₁ hrun i v _ (by rw [hkept]; exact hi) hi₁ ctx₁
        { data with authInfo := { data.authInfo with authClassRef := some (a.rewritten v) } } rfl rfl
    cases haccepted : a.accepted requested (some (a.rewritten v)) with
    | error e =>
      rw [processResponse_of_error (by rw [hrecorded]; exact haccepted)] at hresponse
      cases hresponse
    | ok classRef =>
      rw [processResponse_of_ok (by rw [hrecorded]; exact haccepted)] at hresponse
      cases hresponse
      have hclass : classRef = some v := hnext
      subst hclass
      exact (accepted_rewritten hv).mp haccepted
  · intro h out ctx₁ hrun i v sent hi hi₁ ctx₂ response hsame hasserted
    obtain ⟨hrecorded, hstrings⟩ := hsent out ctx₁ hrun
    rw [hkept] at hi
    rw [hstrings, List.getElem?_map, hi] at hi₁
    cases hi₁
    have hv : v ∈ requested := List.mem_of_getElem? hi
    have haccepted := (accepted_rewritten hv).mpr (h v hv)
    exact ⟨_, _, processResponse_of_ok (by rw [hsame, hrecorded, hasserted]; exact haccepted), rfl⟩

/-! Two levels the IdP calls by other names. -/

/-- MFA goes upstream under a name of the IdP's; the rest as it is. -/
def mfaCalled (name : String) : Accr where
  name := "accr"
  supported := ["mfa", "sfa"]
  rewrite := SortedMap.ofList [("mfa", name)]
  supportedNonempty := by simp
  lowestSupported := fun _ _ h => by cases h
  rewriteInjective := by simp [SortedMap.ofList, SortedMap.extend, SortedMap.insert, SortedMap.empty, Assoc.insert]

def askingBoth : Context := { decorations := [(KEY_REQUESTED_ACCR, Json.strings ["mfa", "sfa"])] }

theorem askingBoth_kept (name : String) :
    (mfaCalled name).kept (askingBoth.decorationStrings KEY_REQUESTED_ACCR) = ["mfa", "sfa"] := rfl

def asking : InternalData := .request "https://sp.example"

def asserting (classRef : String) : InternalData := { authInfo := { authClassRef := some classRef } }

/-- Under a name of its own MFA comes back as MFA, and SFA as SFA. -/
theorem round_trips_apart : (mfaCalled "upstream").RoundTrips asking askingBoth := by
  rw [round_trips_iff (mfaCalled "upstream") asking askingBoth State.objects_new rfl rfl, askingBoth_kept]
  intro v hv hnone origin horigin
  have hentry : (origin, v) ∈ (mfaCalled "upstream").rewrite.entries := SortedMap.get_eq_some.mp horigin
  have hpair : (origin, v) = ("mfa", "upstream") := List.mem_singleton.mp hentry
  obtain ⟨rfl, rfl⟩ := Prod.mk.inj hpair
  simp at hv

/-- Where MFA goes upstream under the name of SFA, both go out as "sfa", and an
IdP that asserts "sfa" is taken to have done MFA. -/
theorem round_trips_shared : ¬ (mfaCalled "sfa").RoundTrips asking askingBoth ∧
    ∃ ctx₁ next ctx₂, (mfaCalled "sfa").processRequest asking askingBoth = (.ok asking, ctx₁) ∧
      ctx₁.decorationStrings KEY_TARGET_AUTHN_CONTEXT_CLASS_REF = ["sfa", "sfa"] ∧
      (mfaCalled "sfa").processResponse (asserting "sfa") ctx₁ = (.ok next, ctx₂) ∧
      next.authInfo.authClassRef = some "mfa" := by
  have hrequest : (mfaCalled "sfa").processRequest asking askingBoth =
      (.ok asking, ((mfaCalled "sfa").processRequest asking askingBoth).2) := rfl
  have hsent : ((mfaCalled "sfa").processRequest asking askingBoth).2.decorationStrings
      KEY_TARGET_AUTHN_CONTEXT_CLASS_REF = ["sfa", "sfa"] := rfl
  refine ⟨fun h => ?_, _, _, _, hrequest, hsent, processResponse_of_ok rfl, rfl⟩
  obtain ⟨next, ctx₂, hresponse, hnext⟩ := h _ _ hrequest 1 "sfa" "sfa" rfl (by rw [hsent]; rfl) _ (asserting "sfa") rfl rfl
  rw [processResponse_of_ok rfl] at hresponse
  cases hresponse
  have hclass : (some "mfa" : Option String) = some "sfa" := hnext
  exact absurd hclass (by decide)

/-! ## Assurance is not inflated -/

/-- What becomes of a response where these classes were requested. A class is
handed on when it was requested, is supported and ranks no higher, by its first
place in the list, than the one asserted; an assertion that matches none of them
is only taken when a supported one may be mapped down. -/
structure NeverInflates (a : Accr) (requested : List String) (response : InternalData) (ctx : Context) : Prop where
  accepts : a.kept requested ≠ [] → ∀ next ctx', a.processResponse response ctx = (.ok next, ctx') →
    ∃ r v, a.received response = some r ∧ next.authInfo.authClassRef = some v ∧ v ∈ requested ∧ v ∈ a.supported ∧
      a.supported.idxOf r ≤ a.supported.idxOf v
  unmatched : a.kept requested ≠ [] → (∀ r, a.received response = some r → r ∉ a.kept requested) →
    ((∃ next ctx', a.processResponse response ctx = (.ok next, ctx')) ↔
      a.allowStrongerAccrFallback = true ∧ ∃ r v, a.received response = some r ∧ r ∈ a.supported ∧
        v ∈ a.kept requested ∧ a.supported.idxOf r < a.supported.idxOf v)
  removed : ∀ next ctx', a.processResponse response ctx = (.ok next, ctx') →
    ctx'.state = ctx.state.clearNamespace a.stateNamespace
  unchanged : ∀ e ctx', a.processResponse response ctx = (.error e, ctx') → ctx'.state = ctx.state

/-- Mapping a class down from the one asserted reaches an entry that is listed
above it as well. -/
def MapsUp (a : Accr) (requested : List String) (r : String) : Prop :=
  r ∉ requested ∧ ∃ above v, ChosenBelow requested.contains a.supported above r v ∧ v ∈ above

theorem not_mapsUp_of_nodup (hnodup : a.supported.Nodup) (requested : List String) (r : String) :
    ¬ a.MapsUp requested r := by
  rintro ⟨_, above, v, hchosen, hv⟩
  exact hchosen.not_mem_above hnodup hv

theorem processResponse_cases (a : Accr) (response : InternalData) (ctx : Context) :
    (∃ classRef, a.accepted (a.recorded ctx.state) response.authInfo.authClassRef = .ok classRef ∧
      a.processResponse response ctx =
        (.ok { response with authInfo := { response.authInfo with authClassRef := classRef } },
          ctx.mapState fun s => s.clearNamespace a.stateNamespace)) ∨
    ∃ e, a.accepted (a.recorded ctx.state) response.authInfo.authClassRef = .error e ∧
      a.processResponse response ctx = (.error e, ctx) := by
  cases h : a.accepted (a.recorded ctx.state) response.authInfo.authClassRef with
  | ok classRef => exact .inl ⟨classRef, rfl, processResponse_of_ok h⟩
  | error e => exact .inr ⟨e, rfl, processResponse_of_error h⟩

/-- The response leg ends well exactly when the class is accepted. -/
theorem processResponse_ok_iff {response next : InternalData} {ctx ctx' : Context} :
    a.processResponse response ctx = (.ok next, ctx') ↔
      ∃ classRef, a.accepted (a.recorded ctx.state) response.authInfo.authClassRef = .ok classRef ∧
        next = { response with authInfo := { response.authInfo with authClassRef := classRef } } ∧
        ctx' = ctx.mapState fun s => s.clearNamespace a.stateNamespace := by
  rcases a.processResponse_cases response ctx with ⟨classRef, haccepted, hrun⟩ | ⟨e, haccepted, hrun⟩
  · rw [hrun, haccepted]
    constructor
    · intro h
      cases h
      exact ⟨classRef, rfl, rfl, rfl⟩
    · rintro ⟨classRef', hclass, rfl, rfl⟩
      cases hclass
      rfl
  · rw [hrun, haccepted]
    constructor
    · intro h
      cases h
    · rintro ⟨classRef, hclass, _⟩
      cases hclass

/-- **Assurance is not inflated exactly when no assertion is mapped up.** The
request leg and the response leg run on one record of the service. -/
theorem never_inflates_iff (a : Accr) {data out : InternalData} {ctx ctx₁ : Context} (hobjects : ctx.state.Objects)
    (hrequest : a.processRequest data ctx = (.ok out, ctx₁)) (ctx₂ : Context)
    (hsame : a.recorded ctx₂.state = a.recorded ctx₁.state) (response : InternalData) :
    a.NeverInflates (ctx.decorationStrings KEY_REQUESTED_ACCR) response ctx₂ ↔
      (a.allowStrongerAccrFallback = true → ∀ r, a.received response = some r →
        ¬ a.MapsUp (a.kept (ctx.decorationStrings KEY_REQUESTED_ACCR)) r) := by
  have hrecorded := hsame.trans (processRequest_ok hobjects hrequest).1
  generalize ctx.decorationStrings KEY_REQUESTED_ACCR = requested at hrecorded ⊢
  have hreceived : ∀ u, response.authInfo.authClassRef = some u → a.received response = some (a.restored u) := by
    intro u hu
    unfold received
    rw [hu]
    rfl
  have hasserted : ∀ r, a.received response = some r → ∃ u, response.authInfo.authClassRef = some u ∧ a.restored u = r :=
    fun r hr => Option.map_eq_some_iff.mp hr
  constructor
  · rintro h hallow r hr ⟨hnot, above, v, hchosen, habove⟩
    obtain ⟨u, hu, rfl⟩ := hasserted r hr
    have hv : v ∈ a.kept requested := by simpa using hchosen.2.1
    have hne : a.kept requested ≠ [] := List.ne_nil_of_mem hv
    have haccepted : a.accepted (a.recorded ctx₂.state) response.authInfo.authClassRef = .ok (some v) := by
      rw [hrecorded, accepted_eq_ok hne]
      exact ⟨u, v, hu, rfl, .inr ⟨hnot, hallow, above, hchosen⟩⟩
    obtain ⟨r', v', hr', hv', _, _, hrank⟩ := h.accepts hne _ _ (processResponse_of_ok haccepted)
    rw [hreceived u hu] at hr'
    cases hr'
    cases hv'
    exact hchosen.idxOf_le_iff.mp hrank habove
  · intro hmaps
    refine ⟨fun hne next ctx' hrun => ?_, fun hne hunmatched => ⟨?_, ?_⟩, fun next ctx' hrun => ?_, fun e ctx' hrun => ?_⟩
    · obtain ⟨classRef, haccepted, rfl, rfl⟩ := processResponse_ok_iff.mp hrun
      rw [hrecorded, accepted_eq_ok hne] at haccepted
      obtain ⟨u, v, hu, rfl, hcases⟩ := haccepted
      refine ⟨a.restored u, v, hreceived u hu, rfl, ?_⟩
      rcases hcases with ⟨rfl, hmem⟩ | ⟨hnot, hallow, above, hchosen⟩
      · obtain ⟨hin, hsupported⟩ := mem_kept.mp hmem
        exact ⟨hin, hsupported, Nat.le_refl _⟩
      · have hmem : v ∈ a.kept requested := by simpa using hchosen.2.1
        obtain ⟨hin, hsupported⟩ := mem_kept.mp hmem
        refine ⟨hin, hsupported, hchosen.idxOf_le_iff.mpr fun habove => ?_⟩
        exact hmaps hallow _ (hreceived u hu) ⟨hnot, above, v, hchosen, habove⟩
    · rintro ⟨next, ctx', hrun⟩
      obtain ⟨classRef, haccepted, -, -⟩ := processResponse_ok_iff.mp hrun
      rw [hrecorded, accepted_eq_ok hne] at haccepted
      obtain ⟨u, v, hu, rfl, ⟨rfl, hmem⟩ | ⟨hnot, hallow, above, hchosen⟩⟩ := haccepted
      · exact absurd hmem (hunmatched _ (hreceived u hu))
      · have hmem : v ∈ a.kept requested := by simpa using hchosen.2.1
        have hrank : a.supported.idxOf (a.restored u) ≤ a.supported.idxOf v :=
          hchosen.idxOf_le_iff.mpr fun habove => hmaps hallow _ (hreceived u hu) ⟨hnot, above, v, hchosen, habove⟩
        have hin : a.restored u ∈ a.supported := by
          obtain ⟨_, _, between, below, hl, _⟩ := hchosen
          rw [hl]
          simp
        have hdiffer : a.supported.idxOf (a.restored u) ≠ a.supported.idxOf v := by
          intro he
          have hsame := (List.idxOf_inj hin).mp he
          exact hnot (hsame ▸ hmem)
        exact ⟨hallow, _, v, hreceived u hu, hin, hmem, by omega⟩
    · rintro ⟨hallow, r, v, hr, hin, hmem, hrank⟩
      obtain ⟨u, hu, rfl⟩ := hasserted r hr
      have hnot := hunmatched _ hr
      obtain ⟨above, v', hchosen⟩ := chosenBelow_of_lower (p := (a.kept requested).contains) hin (by simpa using hnot)
        (by simpa using hmem) (mem_kept.mp hmem).2 (Nat.le_of_lt hrank)
      have haccepted : a.accepted (a.recorded ctx₂.state) response.authInfo.authClassRef = .ok (some v') := by
        rw [hrecorded, accepted_eq_ok hne]
        exact ⟨u, v', hu, rfl, .inr ⟨hnot, hallow, above, hchosen⟩⟩
      exact ⟨_, _, processResponse_of_ok haccepted⟩
    · obtain ⟨_, _, _, rfl⟩ := processResponse_ok_iff.mp hrun
      rfl
    · rcases a.processResponse_cases response ctx₂ with ⟨_, _, hok⟩ | ⟨_, _, herror⟩
      · rw [hok] at hrun
        cases hrun
      · rw [herror] at hrun
        cases hrun
        rfl

/-- A service that maps down along a list of classes. -/
def mapping (supported : List String) (h : supported ≠ []) : Accr where
  name := "accr"
  supported
  rewrite := .empty
  allowStrongerAccrFallback := true
  supportedNonempty := h
  lowestSupported := fun _ _ h => by cases h
  rewriteInjective := List.nodup_nil

def askingMfa : Context := { decorations := [(KEY_REQUESTED_ACCR, Json.strings ["mfa"])] }

def listedOnce : Accr := mapping ["mfa", "sfa"] (by simp)

def listedAgain : Accr := mapping ["mfa", "sfa", "mfa"] (by simp)

/-- Listed once, SFA is not taken for MFA. -/
theorem never_inflates_once : ∃ ctx₁, listedOnce.processRequest asking askingMfa = (.ok asking, ctx₁) ∧
    listedOnce.NeverInflates (askingMfa.decorationStrings KEY_REQUESTED_ACCR) (asserting "sfa") ctx₁ := by
  have hrequest : listedOnce.processRequest asking askingMfa =
      (.ok asking, (listedOnce.processRequest asking askingMfa).2) := rfl
  refine ⟨_, hrequest, ?_⟩
  rw [never_inflates_iff listedOnce State.objects_new hrequest _ rfl]
  intro _ r _
  exact not_mapsUp_of_nodup (by decide) _ r

/-- Listed again below SFA, MFA is what an SP is told for SFA. -/
theorem never_inflates_again : ∃ ctx₁ next ctx₂, listedAgain.processRequest asking askingMfa = (.ok asking, ctx₁) ∧
    listedAgain.processResponse (asserting "sfa") ctx₁ = (.ok next, ctx₂) ∧ next.authInfo.authClassRef = some "mfa" ∧
    ¬ listedAgain.NeverInflates (askingMfa.decorationStrings KEY_REQUESTED_ACCR) (asserting "sfa") ctx₁ := by
  have hrequest : listedAgain.processRequest asking askingMfa =
      (.ok asking, (listedAgain.processRequest asking askingMfa).2) := rfl
  have hresponse : ∃ next ctx₂, listedAgain.processResponse (asserting "sfa")
      (listedAgain.processRequest asking askingMfa).2 = (.ok next, ctx₂) ∧ next.authInfo.authClassRef = some "mfa" :=
    ⟨_, _, processResponse_of_ok rfl, rfl⟩
  obtain ⟨next, ctx₂, hrun, hclass⟩ := hresponse
  refine ⟨_, next, ctx₂, hrequest, hrun, hclass, fun h => ?_⟩
  obtain ⟨r, v, hr, hv, _, _, hrank⟩ := h.accepts (by decide) next ctx₂ hrun
  rw [hclass] at hv
  cases hv
  have hasserted : r = "sfa" := (Option.some.inj hr).symm
  subst hasserted
  exact absurd hrank (by decide)

end Accr

end Tunnelbana
