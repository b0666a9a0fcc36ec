/-
`accr`: AuthnContextClassRef negotiation. The request leg filters what the SP
asked for, forwards it upstream and records it; the response leg holds the
upstream class against the record.
-/
import Tunnelbana.Basis.SortedMap
import Tunnelbana.Core.Plugin

namespace Tunnelbana

open Basis

def KEY_ACCR_REQUESTED : String := "requested_accr"

/-- The settings, checked as they are built: the minimums are supported, and
the rewrite map can be inverted. -/
structure Accr where
  name : String
  /-- From strongest to weakest. -/
  supported : List String
  lowest : SortedMap String := .empty
  rewrite : SortedMap String := .empty
  defaultComparison : Option String := none
  allowStrongerAccrFallback : Bool := false
  supportedNonempty : supported ≠ []
  lowestSupported : ∀ idp minimum, lowest.get idp = some minimum → minimum ∈ supported
  rewriteInjective : (rewrite.entries.map (·.2)).Nodup

structure AccrConfig where
  supportedAccrSortedByPrio : List String := []
  lowestAcceptedAccrForVirtualIdp : SortedMap String := .empty
  internalAccrRewriteMap : SortedMap String := .empty
  defaultComparison : Option String := none
  allowStrongerAccrFallback : Bool := false
deriving DecidableEq

namespace Accr

/-! ## Building the service -/

def checkMinimums (name : String) (supported : List String) : Assoc String → Except Error Unit
  | [] => .ok ()
  | (idp, minimum) :: rest =>
    if minimum ∈ supported then checkMinimums name supported rest
    else .error (.config ("accr " ++ name ++ ": " ++ idp ++ " minimum accr " ++ minimum
      ++ " is not in supported_accr_sorted_by_prio"))

/-- The inverse of a rewrite map, as long as no two origins share a value. -/
def invert (name : String) : SortedMap String → Assoc String → Except Error (SortedMap String)
  | reverse, [] => .ok reverse
  | reverse, (origin, rewritten) :: rest =>
    match reverse.get rewritten with
    | some _ => .error (.config ("accr " ++ name
        ++ ": internal_accr_rewrite_map is not one-to-one; multiple origins map to " ++ rewritten))
    | none => invert name (reverse.insert rewritten origin) rest

theorem checkMinimums_eq_ok {name : String} {supported : List String} {minimums : Assoc String} :
    checkMinimums name supported minimums = .ok () ↔ ∀ p ∈ minimums, p.2 ∈ supported := by
  induction minimums with
  | nil => simp [checkMinimums]
  | cons p rest ih =>
    obtain ⟨idp, minimum⟩ := p
    by_cases hmin : minimum ∈ supported <;> simp [checkMinimums, hmin, ih]

theorem invert_eq_ok {name : String} {reverse inverse : SortedMap String} {rewrite : Assoc String} :
    invert name reverse rewrite = .ok inverse ↔
      ((rewrite.map (·.2)).Nodup ∧ ∀ p ∈ rewrite, reverse.get p.2 = none) ∧
        inverse = reverse.extend (rewrite.map fun p => (p.2, p.1)) := by
  induction rewrite generalizing reverse with
  | nil => simp [invert, SortedMap.extend, eq_comm]
  | cons p rest ih =>
    obtain ⟨origin, rewritten⟩ := p
    cases hget : reverse.get rewritten with
    | some v => simp [invert, hget]
    | none =>
      have hextend : reverse.extend (((origin, rewritten) :: rest).map fun p => (p.2, p.1)) =
          (reverse.insert rewritten origin).extend (rest.map fun p => (p.2, p.1)) := rfl
      simp only [invert, hget]
      rw [ih, hextend, List.map_cons, List.nodup_cons]
      refine and_congr_left fun _ => ?_
      constructor
      · rintro ⟨hnodup, hfree⟩
        have hfresh : ∀ p ∈ rest, p.2 ≠ rewritten ∧ reverse.get p.2 = none := by
          intro p hp
          have hp' := hfree p hp
          rw [SortedMap.get_insert] at hp'
          by_cases he : rewritten = p.2
          · rw [if_pos he] at hp'
            cases hp'
          · rw [if_neg he] at hp'
            exact ⟨Ne.symm he, hp'⟩
        refine ⟨⟨fun hmem => ?_, hnodup⟩, fun p hp => ?_⟩
        · obtain ⟨p, hp, he⟩ := List.mem_map.mp hmem
          exact (hfresh p hp).1 he
        · rcases List.mem_cons.mp hp with rfl | hp
          · exact hget
          · exact (hfresh p hp).2
      · rintro ⟨⟨hnot, hnodup⟩, hfree⟩
        refine ⟨hnodup, fun p hp => ?_⟩
        have hne : rewritten ≠ p.2 := fun he => hnot (List.mem_map.mpr ⟨p, hp, he.symm⟩)
        rw [SortedMap.get_insert, if_neg hne]
        exact hfree p (List.mem_cons_of_mem _ hp)

def build (name : String) (cfg : AccrConfig) : Except Error Accr :=
  if hsupported : cfg.supportedAccrSortedByPrio = [] then
    .error (.config ("accr " ++ name ++ ": supported_accr_sorted_by_prio must not be empty"))
  else
    match hminimums : checkMinimums name cfg.supportedAccrSortedByPrio cfg.lowestAcceptedAccrForVirtualIdp.entries with
    | .error e => .error e
    | .ok () =>
      match hinvert : invert name .empty cfg.internalAccrRewriteMap.entries with
      | .error e => .error e
      | .ok _ =>
        .ok
          { name
            supported := cfg.supportedAccrSortedByPrio
            lowest := cfg.lowestAcceptedAccrForVirtualIdp
            rewrite := cfg.internalAccrRewriteMap
            defaultComparison := cfg.defaultComparison
            allowStrongerAccrFallback := cfg.allowStrongerAccrFallback
            supportedNonempty := hsupported
            lowestSupported := fun idp minimum hget => checkMinimums_eq_ok.mp hminimums (idp, minimum) (Assoc.get_mem hget)
            rewriteInjective := (invert_eq_ok.mp hinvert).1.1 }

variable (a : Accr)

def reverseRewrite : SortedMap String := SortedMap.ofList (a.rewrite.entries.map fun p => (p.2, p.1))

def settings : AccrConfig where
  supportedAccrSortedByPrio := a.supported
  lowestAcceptedAccrForVirtualIdp := a.lowest
  internalAccrRewriteMap := a.rewrite
  defaultComparison := a.defaultComparison
  allowStrongerAccrFallback := a.allowStrongerAccrFallback

/-- **Every service comes from the settings it holds**, and no other settings
are accepted. -/
theorem build_eq_ok {name : String} {cfg : AccrConfig} :
    build name cfg = .ok a ↔ a.name = name ∧ a.settings = cfg := by
  constructor
  · intro h
    unfold build at h
    split at h
    · cases h
    · split at h
      · cases h
      · split at h
        · cases h
        · cases h
          exact ⟨rfl, rfl⟩
  · rintro ⟨rfl, rfl⟩
    have hminimums : checkMinimums a.name a.supported a.lowest.entries = .ok () :=
      checkMinimums_eq_ok.mpr fun p hp => a.lowestSupported p.1 p.2 (SortedMap.get_eq_some.mpr hp)
    have hinvert : invert a.name .empty a.rewrite.entries = .ok a.reverseRewrite :=
      invert_eq_ok.mpr ⟨⟨a.rewriteInjective, fun _ _ => rfl⟩, rfl⟩
    unfold build
    split
    next hempty => exact absurd hempty a.supportedNonempty
    next hsupported =>
      split
      next e he => cases hminimums.symm.trans he
      next hok =>
        split
        next e he => cases hinvert.symm.trans he
        next inverse hinverse => rfl

/-! ## The service -/

def stateNamespace : String := "accr:" ++ a.name

/-- The strongest requested class not above the one asserted. -/
def safeFallback (requested : List String) (received : String) : Option String :=
  (a.supported.dropWhile (· ≠ received)).find? requested.contains

/-- The supported classes of a request; a request for none of them is refused. -/
def filtered (requested : List String) : Except Error (List String) :=
  let supported := requested.filter a.supported.contains
  if requested ≠ [] ∧ supported = [] then
    .error (.authn ("accr " ++ a.name ++ ": none of the requested AuthnContextClassRef values are supported"))
  else .ok supported

/-- The supported range down to a virtual IdP's minimum. -/
def minimumRange (vidp : Option String) : Option (List String) := do
  let minimum ← vidp.bind a.lowest.get
  let idx ← a.supported.findIdx? (· = minimum)
  return a.supported.take (idx + 1)

def toForward (ctx : Context) (filtered : List String) : List String :=
  let vidp := ctx.targetFrontend.or (ctx.state.getStr STATE_KEY_BASE KEY_TARGET_FRONTEND)
  (a.minimumRange vidp).getD (filtered.map fun value => (a.rewrite.get value).getD value)

/-- Publish what is sent upstream; the first writer wins. -/
def forward (accrs : List String) (ctx : Context) : Context :=
  if (ctx.decoration KEY_TARGET_AUTHN_CONTEXT_CLASS_REF).isNone ∧ accrs ≠ [] then
    let ctx' := ctx.decorate KEY_TARGET_AUTHN_CONTEXT_CLASS_REF (Json.strings accrs)
    match ((ctx.decoration KEY_REQUESTED_ACCR_COMPARISON).bind Json.asStr).or a.defaultComparison with
    | some cmp => ctx'.decorate KEY_TARGET_ACCR_COMPARISON (.str cmp)
    | none => ctx'
  else ctx

def processRequest (data : InternalData) : Flow InternalData := do
  let ctx ← Flow.context
  let requested ← Action.lift (a.filtered (ctx.decorationStrings KEY_REQUESTED_ACCR))
  Flow.modify (a.forward (a.toForward ctx requested))
  Flow.setValue a.stateNamespace KEY_ACCR_REQUESTED (Json.strings requested)
  return data

def recorded (s : State) : List String := ((s.getValue a.stateNamespace KEY_ACCR_REQUESTED).map Json.asStrings).getD []

/-- The class of a response as it was requested, or why it does not satisfy the
request. An empty request takes any. -/
def accepted (requested : List String) (asserted : Option String) : Except Error (Option String) :=
  if requested = [] then .ok asserted
  else
    let received := asserted.map fun r => (a.reverseRewrite.get r).getD r
    if received.any requested.contains then .ok received
    else
      match received.bind fun r => if a.allowStrongerAccrFallback then a.safeFallback requested r else none with
      | some fallback => .ok (some fallback)
      | none =>
        .error (.authn ("accr " ++ a.name ++ ": upstream AuthnContextClassRef " ++ received.getD "<missing>"
          ++ " does not satisfy the SP request"))

def processResponse (data : InternalData) : Flow InternalData := do
  let ctx ← Flow.context
  let classRef ← Action.lift (a.accepted (a.recorded ctx.state) data.authInfo.authClassRef)
  Flow.clearNamespace a.stateNamespace
  return { data with authInfo := { data.authInfo with authClassRef := classRef } }

def microService {W : Type} : MicroService W where
  name := a.name
  processRequest _ data := a.processRequest data
  processResponse _ data := a.processResponse data

end Accr

end Tunnelbana
