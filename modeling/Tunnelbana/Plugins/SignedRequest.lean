/-
What a signed request object decides of an authorization request at the
federation frontend. A string claim gives its parameter the claim's value, or
the request is rejected. A claim of another type is skipped: it decides its
parameter exactly when the outer request has the same value already
(`request_objects_govern_iff`).
-/
import Mathlib.Data.List.Basic
import Tunnelbana.Plugins.OidcFrontend

namespace Tunnelbana

open Basis

theorem asStr_eq_some {v : Json} {s : String} : v.asStr = some s ↔ v = .str s := by
  cases v <;> simp [Json.asStr]

def parameterValues (name : String) (params : List (String × String)) : List String :=
  (params.filter fun p => p.1 = name).map (·.2)

@[simp] theorem parameterValues_append (name : String) (params more : List (String × String)) :
    parameterValues name (params ++ more) = parameterValues name params ++ parameterValues name more := by
  simp [parameterValues]

theorem mem_parameterValues {name value : String} {params : List (String × String)} :
    value ∈ parameterValues name params ↔ (name, value) ∈ params := by
  simp [parameterValues]

theorem parameterValues_singleton (name name' value : String) :
    parameterValues name [(name', value)] = if name' = name then [value] else [] := by
  unfold parameterValues
  by_cases h : name' = name <;> simp [h]

theorem parameterValues_cons (name : String) (p : String × String) (params : List (String × String)) :
    parameterValues name (p :: params) = if p.1 = name then p.2 :: parameterValues name params
      else parameterValues name params := by
  unfold parameterValues
  by_cases h : p.1 = name <;> simp [h]

/-- **Without a duplicate no parameter but a resource is given twice.** -/
theorem duplicateParameter_none {seen : List String} {params : List (String × String)}
    (h : duplicateParameter seen params = none) {k : String} (hk : k ≠ "resource") :
    (parameterValues k params).length ≤ 1 ∧ (k ∈ seen → parameterValues k params = []) := by
  induction params generalizing seen with
  | nil => exact ⟨Nat.zero_le 1, fun _ => rfl⟩
  | cons p params ih =>
    obtain ⟨name, value⟩ := p
    unfold duplicateParameter at h
    rw [parameterValues_cons]
    split at h
    next hresource =>
      rw [if_neg fun he => hk (he.symm.trans hresource)]
      exact ih h
    next =>
      split at h
      · cases h
      next hnew =>
        obtain ⟨hlength, hseen⟩ := ih h
        by_cases hname : name = k
        · subst hname
          rw [if_pos rfl, hseen List.mem_cons_self]
          exact ⟨Nat.le_refl 1, fun hmem => absurd hmem hnew⟩
        · rw [if_neg hname]
          exact ⟨hlength, fun hmem => hseen (List.mem_cons_of_mem name hmem)⟩

/-- The values the claims of a request object stand for, by their type. A string
stands for itself. -/
structure ClaimReading where
  texts : Json → List String
  str : ∀ s, texts (.str s) = [s]

/-! ## The merge -/

/-- What merging one claim does: a claim of another type than string is skipped,
a string agrees with every value there is, and is put there when there is none. -/
theorem mergeClaims_cons_ok {k : String} {v : Json} {claims : Assoc Json} {params merged : List (String × String)}
    (h : mergeClaims params ((k, v) :: claims) = .ok merged) :
    (v.asStr = none ∧ mergeClaims params claims = .ok merged) ∨
      ∃ s, v = .str s ∧ (∀ value ∈ parameterValues k params, value = s) ∧
        ((parameterValues k params ≠ [] ∧ mergeClaims params claims = .ok merged) ∨
          (parameterValues k params = [] ∧ mergeClaims (params ++ [(k, s)]) claims = .ok merged)) := by
  unfold mergeClaims at h
  cases hstr : v.asStr with
  | none =>
    rw [hstr] at h
    exact .inl ⟨rfl, h⟩
  | some s =>
    have hv : v = .str s := asStr_eq_some.mp hstr
    rw [hstr] at h
    simp only at h
    split at h
    · cases h
    next hagrees =>
      have hvalues : ∀ value ∈ parameterValues k params, value = s := by
        intro value hvalue
        refine Decidable.byContradiction fun hne => hagrees ?_
        refine List.any_eq_true.mpr ⟨(k, value), mem_parameterValues.mp hvalue, ?_⟩
        simp [hne]
      refine .inr ⟨s, hv, hvalues, ?_⟩
      split at h
      next hthere =>
        obtain ⟨⟨k', value⟩, hmem, hk⟩ := List.any_eq_true.mp hthere
        have hkey : k' = k := of_decide_eq_true hk
        subst hkey
        exact .inl ⟨List.ne_nil_of_mem (mem_parameterValues.mpr hmem), h⟩
      next hmissing =>
        refine .inr ⟨?_, h⟩
        refine List.eq_nil_iff_forall_not_mem.mpr fun value hvalue => hmissing ?_
        exact List.any_eq_true.mpr ⟨(k, value), mem_parameterValues.mp hvalue, decide_eq_true rfl⟩

/-- **A string claim agrees with every outer value.** -/
theorem mergeClaims_agrees {claims : Assoc Json} {params merged : List (String × String)}
    (h : mergeClaims params claims = .ok merged) {k s : String} (hmem : (k, .str s) ∈ claims) :
    ∀ value ∈ parameterValues k params, value = s := by
  induction claims generalizing params with
  | nil => cases hmem
  | cons claim claims ih =>
    obtain ⟨k', v⟩ := claim
    intro value hvalue
    rcases List.mem_cons.mp hmem with heq | hrest
    · cases heq
      rcases mergeClaims_cons_ok h with ⟨hskipped, _⟩ | ⟨s', hs, hagrees, _⟩
      · cases hskipped
      · cases hs
        exact hagrees value hvalue
    · rcases mergeClaims_cons_ok h with ⟨_, hmerge⟩ | ⟨s', _, _, ⟨_, hmerge⟩ | ⟨_, hmerge⟩⟩
      · exact ih hmerge hrest value hvalue
      · exact ih hmerge hrest value hvalue
      · refine ih hmerge hrest value ?_
        rw [parameterValues_append]
        exact List.mem_append_left _ hvalue

/-- **A parameter keeps its outer values; one without any gets that of a string
claim.** -/
theorem mergeClaims_values {claims : Assoc Json} (hdistinct : claims.Distinct) {params merged : List (String × String)}
    (h : mergeClaims params claims = .ok merged) (name : String) :
    parameterValues name merged =
      if parameterValues name params ≠ [] then parameterValues name params
      else (((Assoc.get name claims).bind Json.asStr).toList) := by
  induction claims generalizing params with
  | nil =>
    obtain rfl : params = merged := Except.ok.inj h
    by_cases hvalues : parameterValues name params = []
    · rw [if_neg (by simp [hvalues]), hvalues]
      rfl
    · rw [if_pos hvalues]
  | cons claim claims ih =>
    obtain ⟨k, v⟩ := claim
    obtain ⟨hnot, hrest⟩ := List.nodup_cons.mp hdistinct
    have hlater : Assoc.get k claims = none := Assoc.get_of_notMem_keys hnot
    by_cases hname : k = name
    · subst hname
      rw [Assoc.get_cons_self]
      rcases mergeClaims_cons_ok h with ⟨hskipped, hmerge⟩ | ⟨s, rfl, _, ⟨hthere, hmerge⟩ | ⟨hmissing, hmerge⟩⟩
      · rw [ih hrest hmerge, hlater, Option.bind_some, hskipped]
        rfl
      · rw [ih hrest hmerge, if_pos hthere, if_pos hthere]
      · have hput : parameterValues k (params ++ [(k, s)]) = [s] := by
          rw [parameterValues_append, hmissing, parameterValues_singleton, if_pos rfl]
          rfl
        rw [ih hrest hmerge, hput, if_pos (by simp), if_neg (by simp [hmissing])]
        rfl
    · rw [Assoc.get_cons_other _ _ hname]
      rcases mergeClaims_cons_ok h with ⟨_, hmerge⟩ | ⟨s, rfl, _, ⟨_, hmerge⟩ | ⟨_, hmerge⟩⟩
      · exact ih hrest hmerge
      · exact ih hrest hmerge
      · have hput : parameterValues name (params ++ [(k, s)]) = parameterValues name params := by
          rw [parameterValues_append, parameterValues_singleton, if_neg hname, List.append_nil]
        rw [ih hrest hmerge, hput]

/-! ## An accepted request object -/

namespace FederationFrontend

variable (f : FederationFrontend) (w : FederationWorld)

def outerParameters (params : List (String × String)) : List (String × String) :=
  params.eraseP fun p => p.1 = "request"

/-- The claims of the request object among the parameters; none without one. -/
def signedClaims (params : List (String × String)) (client : Client) : Assoc Json :=
  match params.find? fun p => p.1 = "request", client.jwks with
  | some (_, requestJwt), some jwks =>
    match w.verifyRequestObject jwks client.clientId f.issuer requestJwt with
    | .ok claims => claims
    | .error _ => []
  | _, _ => []

/-- The signed claims govern the merged parameters: every claim that names an
authorization parameter gives it its values, the other parameters keep theirs,
and none but a resource is given twice. -/
structure Governs (isParameter : String → Prop) (reading : ClaimReading) (claims : Assoc Json)
    (params merged : List (String × String)) : Prop where
  determined : ∀ k v, (k, v) ∈ claims → isParameter k →
    ∀ value, value ∈ parameterValues k merged ↔ value ∈ reading.texts v
  absent : ∀ k, k ∉ claims.keys → k ≠ "request" → parameterValues k merged = parameterValues k params
  resources : parameterValues "resource" params ≠ [] →
    parameterValues "resource" merged = parameterValues "resource" params
  single : ∀ k, k ≠ "resource" → (parameterValues k merged).length ≤ 1

/-- A claim that is no string has the values its parameter has outside. -/
def OthersAgree (isParameter : String → Prop) (reading : ClaimReading) (claims : Assoc Json)
    (params : List (String × String)) : Prop :=
  ∀ k v, (k, v) ∈ claims → isParameter k → v.asStr = none →
    ∀ value, value ∈ parameterValues k (outerParameters params) ↔ value ∈ reading.texts v

def ObjectClaims (w : FederationWorld) : Prop :=
  ∀ jwks client issuer jwt claims, w.verifyRequestObject jwks client issuer jwt = .ok claims → claims.Distinct

variable {f w} {client : Client} {params merged : List (String × String)}

theorem outerParameters_values {k : String} (hk : k ≠ "request") (params : List (String × String)) :
    parameterValues k (outerParameters params) = parameterValues k params := by
  unfold outerParameters
  induction params with
  | nil => rfl
  | cons p params ih =>
    by_cases hp : p.1 = "request"
    · have herase : (p :: params).eraseP (fun p => p.1 = "request") = params := by simp [hp]
      rw [herase, parameterValues_cons, if_neg fun he => hk (he.symm.trans hp)]
    · have hkeep : (p :: params).eraseP (fun p => p.1 = "request") =
          p :: params.eraseP fun p => p.1 = "request" := by simp [hp]
      rw [hkeep, parameterValues_cons, parameterValues_cons, ih]

theorem outerParameters_length (k : String) (params : List (String × String)) :
    (parameterValues k (outerParameters params)).length ≤ (parameterValues k params).length :=
  ((List.eraseP_sublist.filter _).map _).length_le

/-- **An accepted request object is merged into the outer parameters.** -/
theorem unpackRequestObject_ok (h : f.unpackRequestObject w params client = .ok merged) :
    (f.signedClaims w params client = [] ∧ merged = params) ∨
      (∃ jwks jwt, w.verifyRequestObject jwks client.clientId f.issuer jwt =
          .ok (f.signedClaims w params client)) ∧
        mergeClaims (outerParameters params) (f.signedClaims w params client) = .ok merged := by
  unfold unpackRequestObject at h
  unfold signedClaims
  cases hrequest : params.find? fun p => p.1 = "request" with
  | none =>
    rw [hrequest] at h
    cases h
    exact .inl ⟨rfl, rfl⟩
  | some entry =>
    obtain ⟨name, jwt⟩ := entry
    rw [hrequest] at h
    simp only at h
    cases hjwks : client.jwks with
    | none =>
      rw [hjwks] at h
      cases h
    | some jwks =>
      rw [hjwks] at h
      obtain ⟨claims, hclaims, h⟩ := except_bind_ok.mp h
      refine .inr ?_
      simp only [hclaims]
      refine ⟨⟨jwks, jwt, hclaims⟩, ?_⟩
      split at h
      · cases h
      · split at h
        · cases h
        · exact h

/-! ### What the merge makes of one parameter -/

section
variable {claims : Assoc Json} {outer : List (String × String)} (hdistinct : claims.Distinct)
  (hmerge : mergeClaims outer claims = .ok merged)
include hdistinct hmerge

theorem merged_skipped {k : String} {v : Json} (hmem : (k, v) ∈ claims) (hstr : v.asStr = none) :
    parameterValues k merged = parameterValues k outer := by
  rw [mergeClaims_values hdistinct hmerge k, hdistinct.get_of_mem hmem, Option.bind_some, hstr]
  by_cases hempty : parameterValues k outer = []
  · rw [if_neg (by simp [hempty]), hempty]
    rfl
  · rw [if_pos hempty]

theorem merged_string {k s : String} (hmem : (k, .str s) ∈ claims) (value : String) :
    value ∈ parameterValues k merged ↔ value = s := by
  have hagrees := mergeClaims_agrees hmerge hmem
  rw [mergeClaims_values hdistinct hmerge k, hdistinct.get_of_mem hmem, Option.bind_some, Json.asStr_str]
  split
  next hthere =>
    refine ⟨hagrees value, ?_⟩
    rintro rfl
    obtain ⟨other, hother⟩ := List.exists_mem_of_ne_nil _ hthere
    rw [← hagrees other hother]
    exact hother
  next => simp

theorem merged_absent {k : String} (hk : k ∉ claims.keys) : parameterValues k merged = parameterValues k outer := by
  have hget : Assoc.get k claims = none := Assoc.get_of_notMem_keys hk
  rw [mergeClaims_values hdistinct hmerge k, hget]
  split
  · rfl
  next hempty =>
    have hnil : parameterValues k outer = [] := by simpa using hempty
    rw [hnil]
    rfl

/-- A parameter given once at most still is. -/
theorem merged_length {k : String} (hlength : (parameterValues k outer).length ≤ 1) :
    (parameterValues k merged).length ≤ 1 := by
  rw [mergeClaims_values hdistinct hmerge k]
  split
  · exact hlength
  · cases (Assoc.get k claims).bind Json.asStr <;> simp

end

/-- **The claims govern exactly when those that are no strings agree.** -/
theorem governs_iff (hobject : ObjectClaims w) (hdup : duplicateParameter [] params = none)
    (h : f.unpackRequestObject w params client = .ok merged) (isParameter : String → Prop) (reading : ClaimReading) :
    Governs isParameter reading (f.signedClaims w params client) params merged ↔
      OthersAgree isParameter reading (f.signedClaims w params client) params := by
  have hsingle : ∀ k, k ≠ "resource" → (parameterValues k params).length ≤ 1 := fun k hk =>
    (duplicateParameter_none hdup hk).1
  rcases unpackRequestObject_ok h with ⟨hnone, rfl⟩ | ⟨⟨jwks, jwt, hverified⟩, hmerge⟩
  · rw [hnone]
    constructor
    · intro _ k v hmem
      cases hmem
    · intro _
      refine ⟨fun k v hmem => ?_, fun _ _ _ => rfl, fun _ => rfl, hsingle⟩
      cases hmem
  · have hdistinct := hobject _ _ _ _ _ hverified
    generalize f.signedClaims w params client = claims at hmerge hdistinct
    constructor
    · intro hgoverns k v hmem hparameter hstr value
      rw [← merged_skipped hdistinct hmerge hmem hstr]
      exact hgoverns.determined k v hmem hparameter value
    · intro hagree
      refine ⟨fun k v hmem hparameter value => ?_, fun k hk hrequest => ?_, fun hthere => ?_, fun k hk => ?_⟩
      · cases hstr : v.asStr with
        | none =>
          rw [merged_skipped hdistinct hmerge hmem hstr]
          exact hagree k v hmem hparameter hstr value
        | some s =>
          have hv : v = .str s := asStr_eq_some.mp hstr
          subst hv
          rw [reading.str, List.mem_singleton]
          exact merged_string hdistinct hmerge hmem value
      · rw [merged_absent hdistinct hmerge hk, outerParameters_values hrequest]
      · rw [mergeClaims_values hdistinct hmerge "resource", outerParameters_values (by decide), if_pos hthere]
      · exact merged_length hdistinct hmerge (Nat.le_trans (outerParameters_length k params) (hsingle k hk))

/-- **The merged parameters are those acted on, and the signed claims govern
them exactly when every claim that is no string agrees with what its parameter
is outside.** -/
theorem request_objects_govern_iff {f : FederationFrontend} {w : FederationWorld} {lib : OpLibrary} {ctx : Context}
    {clientId : String} {client : Client} {merged : List (String × String)} (hobject : ObjectClaims w)
    (hdup : duplicateParameter [] ctx.request.queryPairs = none)
    (hid : (ctx.request.queryPairs.find? fun p => p.1 = "client_id").map (·.2) = some clientId)
    (hclient : f.resolveClient w clientId = some client)
    (hunpack : f.unpackRequestObject w ctx.request.queryPairs client = .ok merged) (isParameter : String → Prop)
    (reading : ClaimReading) :
    f.handleAuthorization lib w ctx = f.provider.acceptAuthorization lib w.op merged ctx ∧
      (Governs isParameter reading (f.signedClaims w ctx.request.queryPairs client) ctx.request.queryPairs merged ↔
        OthersAgree isParameter reading (f.signedClaims w ctx.request.queryPairs client) ctx.request.queryPairs) := by
  refine ⟨?_, governs_iff hobject hdup hunpack isParameter reading⟩
  unfold handleAuthorization
  simp only [Flow.context, Action.read_bind_run, hdup, hid, Action.orFail_some, Action.pure_bind_run, hclient, hunpack]

/-! ## A maximum age in the object -/

def digits : ClaimReading where
  texts
    | .str s => [s]
    | .num n => [toString n]
    | _ => []
  str _ := rfl

def signingClient : Client :=
  { clientId := "rp", redirectUris := ["https://rp.example/cb"], jwks := some { keys := ["rp-key"] } }

/-- One relying party with keys; its request objects carry the claims. -/
def signing (claims : Assoc Json) : FederationWorld where
  op := clientOnly signingClient
  client _ := some signingClient
  recentlyFailed _ := false
  resolveViaTrustAnchors _ := .error (.authn "no trust chain")
  parseJwks _ := none
  verifyRequestObject _ _ _ jwt := if jwt = "signed" then .ok claims else .error (.authn "invalid signature")
  entityConfiguration := .ok ""
  nowSecs := 0

theorem signing_objectClaims {claims : Assoc Json} (h : claims.Distinct) : ObjectClaims (signing claims) := by
  intro jwks client issuer jwt verified hverified
  unfold signing at hverified
  simp only at hverified
  split at hverified
  · cases hverified
    exact h
  · cases hverified

def signedFrontend : FederationFrontend := { name := "fed", issuer := "https://op.example" }

def agedRequest : Context :=
  { request := { queryPairs := [("client_id", "rp"), ("redirect_uri", "https://rp.example/cb"), ("max_age", "86400"),
      ("request", "signed")] } }

/-- The claims of an object that asks for the same age, and for a scope. -/
def agreeingClaims : Assoc Json := [("client_id", .str "rp"), ("scope", .str "openid"), ("max_age", .num 86400)]

def freshClaims : Assoc Json := [("client_id", .str "rp"), ("max_age", .num 0)]

/-- A number that is the outer value governs. -/
theorem request_objects_govern_agreeing :
    ∃ merged, signedFrontend.handleAuthorization plainLibrary (signing agreeingClaims) agedRequest =
        signedFrontend.provider.acceptAuthorization plainLibrary (signing agreeingClaims).op merged agedRequest ∧
      Governs (fun name => name ∈ ["client_id", "scope", "max_age"]) digits agreeingClaims
        agedRequest.request.queryPairs merged := by
  obtain ⟨merged, hmerged⟩ : ∃ merged, signedFrontend.unpackRequestObject (signing agreeingClaims)
      agedRequest.request.queryPairs signingClient = .ok merged := ⟨_, rfl⟩
  have hdistinct : agreeingClaims.Distinct := by
    unfold Assoc.Distinct
    decide
  refine ⟨merged, ?_⟩
  obtain ⟨hacted, hgoverns⟩ := request_objects_govern_iff (signing_objectClaims hdistinct) rfl rfl rfl hmerged
    (fun name => name ∈ ["client_id", "scope", "max_age"]) digits
  refine ⟨hacted, hgoverns.mpr ?_⟩
  intro k v hmem _ hstr value
  have hmem' : (k, v) ∈ agreeingClaims := hmem
  simp only [agreeingClaims, List.mem_cons, List.not_mem_nil, or_false, Prod.mk.injEq] at hmem'
  rcases hmem' with ⟨rfl, rfl⟩ | ⟨rfl, rfl⟩ | ⟨rfl, rfl⟩
  · cases hstr
  · cases hstr
  · exact Iff.rfl

/-- A maximum age of zero, signed as a number, leaves the day asked for outside
in force. -/
theorem max_age_from_outside :
    ¬ ∀ merged, signedFrontend.unpackRequestObject (signing freshClaims) agedRequest.request.queryPairs signingClient =
        .ok merged →
      Governs (fun name => name = "max_age") digits freshClaims agedRequest.request.queryPairs merged := by
  intro h
  have hgoverns := h _ rfl
  have hzero : "86400" ∈ digits.texts (.num 0) :=
    (hgoverns.determined "max_age" (.num 0) (by simp [freshClaims]) rfl "86400").mp (by decide)
  exact absurd hzero (by decide)

end FederationFrontend

end Tunnelbana
