/-
The token and userinfo endpoints of the OpenID frontend, with proofs of possession.
A proof comes with a request, is checked against the method and the URL the request
was made to, and may be used once: its id is kept in one cache for both endpoints.

The library checks a proof and asks the cache (`DpopLibrary`); `Spent` says what the
cache holds of the proofs that were used, along any run of requests. From it no
proof is used a second time while the first use is remembered (`proofs_once`).
-/
import Tunnelbana.Basis.Run
import Tunnelbana.Basis.TextSplit
import Tunnelbana.Core.CacheLiveness
import Tunnelbana.Plugins.OidcFrontend

namespace Tunnelbana

open Basis

/-! ## Proofs of possession -/

structure DpopConfig where
  proofMaxAgeSecs : Int
  requireNonce : Bool
  nonceLifetimeSecs : Int
  nonceSecret : String

/-- How long the id of a proof is kept. -/
def DpopConfig.window (cfg : DpopConfig) : Nat := cfg.proofMaxAgeSecs.toNat

inductive DpopError where
  | nonceRequired
  | server (message : String)
  | invalid (message : String)

structure DpopProof where
  jkt : String

structure DpopSettings where
  enabled : Bool := false
  proofMaxAgeSecs : Int := 300
  requireNonce : Bool := false
  nonceLifetimeSecs : Int := 300

/-- The settings of the proofs with the cache of the ids that were used. -/
structure DpopRuntime where
  config : DpopConfig
  store : TtlCache Unit

def DpopSettings.buildRuntime (settings : DpopSettings) (hmac : String → String → String) (secret «instance» : String) :
    Except Error (Option DpopRuntime) :=
  if settings.enabled then
    if settings.proofMaxAgeSecs ≤ 0 then .error (.config "dpop.proof_max_age_secs must be positive")
    else .ok (some {
      config := {
        proofMaxAgeSecs := settings.proofMaxAgeSecs
        requireNonce := settings.requireNonce
        nonceLifetimeSecs := settings.nonceLifetimeSecs
        nonceSecret := hmac secret ("tunnelbana-dpop-nonce-v1:" ++ «instance») }
      store := .new (max settings.proofMaxAgeSecs 0).toNat })
  else .ok none

theorem DpopSettings.buildRuntime_ok {settings : DpopSettings} {hmac : String → String → String}
    {secret name : String} {rt : DpopRuntime} (h : settings.buildRuntime hmac secret name = .ok (some rt)) :
    0 < settings.proofMaxAgeSecs ∧ rt.config.proofMaxAgeSecs = settings.proofMaxAgeSecs := by
  unfold buildRuntime at h
  split at h
  next =>
    split at h
    next => cases h
    next hpos =>
      cases h
      exact ⟨Int.not_le.mp hpos, rfl⟩
  next => cases h

/-- The proofs of the OpenID library. It checks the signature and the claims of a
proof, and then has its id recorded: a proof is accepted only if it was new. -/
structure DpopLibrary where
  issueNonce : DpopConfig → Nat → String
  /-- The `jti` of a proof. -/
  jti : String → Option String
  /-- The proof of a request by method and URL, and by access token where there is
  one. -/
  validateProof : DpopConfig → TtlCache Unit → Nat → (proofJwt htm htu : String) → Option String →
    Except DpopError DpopProof × TtlCache Unit
  validateProof_ok : ∀ cfg store now jwt htm htu token proof store',
    validateProof cfg store now jwt htm htu token = (.ok proof, store') →
      ∃ id, jti jwt = some id ∧ recordJti store now id cfg.window = (true, store')
  validateProof_error : ∀ cfg store now jwt htm htu token e store',
    validateProof cfg store now jwt htm htu token = (.error e, store') →
      store' = store ∨ ∃ id, store' = (recordJti store now id cfg.window).2

/-! ## The endpoints -/

/-- What the provider makes of a request, with the proof it came with. -/
structure TokenProvider where
  formPairs : HttpRequestData → List (String × String)
  handleTokenRequest : List (String × String) → Option String → String → Option DpopProof → Except OAuthError Json
  userinfo : String → Option String → Except OAuthError Json

/-- The provider was asked, with a proof or without, or was not. -/
inductive DpopOutcome where
  | refused (response : Response)
  | asked (proof : Option DpopProof) (response : Response)

def DpopOutcome.response : DpopOutcome → Response
  | .refused response => response
  | .asked _ response => response

inductive DpopEndpoint where
  | token
  | userinfo
deriving DecidableEq

def HttpRequestData.authorization (r : HttpRequestData) : Option String := r.headers.get "authorization"

/-- The access token, under either scheme. -/
def presentedAccessToken (r : HttpRequestData) : Option String := do
  let auth ← r.authorization
  let (scheme, token) ← Text.splitOnce ' ' auth.toList
  if scheme.map Char.toLower = "dpop".toList ∨ scheme.map Char.toLower = "bearer".toList then
    some (String.ofList (Text.trim token))
  else none

structure DpopFrontend where
  issuer : String
  dpop : Option DpopConfig

namespace DpopFrontend

variable (f : DpopFrontend) (oauth : OpLibrary) (lib : DpopLibrary) (provider : TokenProvider)

def dpopRequest (r : HttpRequestData) : Option (DpopConfig × String) := do
  let cfg ← f.dpop
  let proofJwt ← r.headers.get "dpop"
  return (cfg, proofJwt)

def mapDpopResult (cfg : DpopConfig) (now : Nat) : Except DpopError DpopProof → Except Response (Option DpopProof)
  | .ok proof => .ok (some proof)
  | .error .nonceRequired =>
    let body := Json.obj [("error", .str "use_dpop_nonce"),
      ("error_description", .str "Authorization server requires nonce in DPoP proof")]
    .error (({ Response.json body with status := 400 }.withHeader "DPoP-Nonce" (lib.issueNonce cfg now)).withHeader
      "cache-control" "no-store")
  | .error (.server _) =>
    .error (oauth.toResponse { code := .serverError, description := "DPoP validation failed" })
  | .error (.invalid _) =>
    .error (oauth.toResponse { code := .other "invalid_dpop_proof", description := "DPoP proof is invalid" })

/-- The proof a request came with, if any, bound to method and URL, and to the
access token where it is for a resource. -/
def dpopFor (now : Nat) (r : HttpRequestData) (htu : String) (accessToken : Option String) (store : TtlCache Unit) :
    Except Response (Option DpopProof) × TtlCache Unit :=
  match f.dpopRequest r with
  | none => (.ok none, store)
  | some (cfg, proofJwt) =>
    let outcome := lib.validateProof cfg store now proofJwt r.method htu accessToken
    (mapDpopResult oauth lib cfg now outcome.1, outcome.2)

def tokenUrl : String := f.issuer ++ "/token"
def userinfoUrl : String := f.issuer ++ "/userinfo"

def handleToken (now : Nat) (r : HttpRequestData) (store : TtlCache Unit) : DpopOutcome × TtlCache Unit :=
  match f.dpopFor oauth lib now r f.tokenUrl none store with
  | (.error response, store) => (.refused response, store)
  | (.ok proof, store) =>
    match provider.handleTokenRequest (provider.formPairs r) r.authorization f.tokenUrl proof with
    | .ok json => (.asked proof ((Response.json json).withHeader "cache-control" "no-store"), store)
    | .error e => (.asked proof (oauth.toResponse e), store)

def handleUserinfo (now : Nat) (r : HttpRequestData) (store : TtlCache Unit) : DpopOutcome × TtlCache Unit :=
  match presentedAccessToken r with
  | none => (.refused (oauth.toResponse { code := .accessDenied, description := "missing access token" }), store)
  | some token =>
    match f.dpopFor oauth lib now r f.userinfoUrl (some token) store with
    | (.error response, store) => (.refused response, store)
    | (.ok proof, store) =>
      match provider.userinfo token (proof.map (·.jkt)) with
      | .ok claims => (.asked proof (.json claims), store)
      | .error e => (.asked proof (oauth.toResponse e), store)

def handle (now : Nat) (r : HttpRequestData) (store : TtlCache Unit) : DpopEndpoint → DpopOutcome × TtlCache Unit
  | .token => f.handleToken oauth lib provider now r store
  | .userinfo => f.handleUserinfo oauth lib provider now r store

def url : DpopEndpoint → String
  | .token => f.tokenUrl
  | .userinfo => f.userinfoUrl

/-- The access token a proof for the endpoint is bound to. -/
def boundToken (r : HttpRequestData) : DpopEndpoint → Option String
  | .token => none
  | .userinfo => presentedAccessToken r

/-! ## What a request does -/

/-- From that time on, what is remembered stays so. -/
def Remembers (now : Nat) (store store' : TtlCache Unit) : Prop :=
  ∀ later, now ≤ later → ∀ id, store.get later id = some () → store'.get later id = some ()

theorem recordJti_remembers (store : TtlCache Unit) (now : Nat) (jti : String) (ttl : Nat) :
    Remembers now store (recordJti store now jti ttl).2 := by
  intro later hlater id h
  unfold recordJti
  split
  · exact h
  · exact TtlCache.get_putIfAbsent_of_live hlater h

/-- An id is new once, and then remembered for its time. -/
theorem recordJti_new {store store' : TtlCache Unit} {now ttl : Nat} {jti : String}
    (h : recordJti store now jti ttl = (true, store')) : jti.utf8ByteSize ≤ MAX_JTI_LEN ∧ store.get now jti = none ∧
      ∀ later, now ≤ later → later < saturatingAdd now ttl → store'.get later jti = some () := by
  unfold recordJti at h
  split at h
  next => cases h
  next hshort =>
    have hget : store.get now jti = none := by
      cases hget : store.get now jti with
      | none => rfl
      | some u =>
        unfold TtlCache.putIfAbsent at h
        rw [hget] at h
        cases h
    refine ⟨Nat.not_lt.mp hshort, hget, fun later hlater hlive => ?_⟩
    have hkept : (store.putIfAbsent now jti () ttl).2.get later jti = some () :=
      TtlCache.get_putIfAbsent_self hlater hget hlive
    rw [h] at hkept
    exact hkept

inductive Handles (now : Nat) (r : HttpRequestData) (endpoint : DpopEndpoint) (store : TtlCache Unit) :
    DpopOutcome × TtlCache Unit → Prop
  | refused {response store'} : Remembers now store store' →
    Handles now r endpoint store (.refused response, store')
  | unproved {response} : f.dpopRequest r = none → Handles now r endpoint store (.asked none response, store)
  | proved {cfg proofJwt proof response store'} : f.dpopRequest r = some (cfg, proofJwt) →
    lib.validateProof cfg store now proofJwt r.method (f.url endpoint) (boundToken r endpoint) = (.ok proof, store') →
    Handles now r endpoint store (.asked (some proof) response, store')

variable {f oauth lib provider}

/-- The proof of a request, whatever the provider makes of it. -/
theorem handles_dpopFor {now : Nat} {r : HttpRequestData} {endpoint : DpopEndpoint} {store : TtlCache Unit}
    {result : Except Response (Option DpopProof)} {store' : TtlCache Unit}
    (h : f.dpopFor oauth lib now r (f.url endpoint) (boundToken r endpoint) store = (result, store')) :
    (∀ response, result = .error response → Handles f lib now r endpoint store (.refused response, store')) ∧
      ∀ proof response, result = .ok proof → Handles f lib now r endpoint store (.asked proof response, store') := by
  unfold dpopFor at h
  cases hrequest : f.dpopRequest r with
  | none =>
    rw [hrequest] at h
    cases h
    refine ⟨fun response => nofun, fun proof response hproof => ?_⟩
    cases hproof
    exact .unproved hrequest
  | some presented =>
    obtain ⟨cfg, proofJwt⟩ := presented
    rw [hrequest] at h
    cases hvalid : lib.validateProof cfg store now proofJwt r.method (f.url endpoint) (boundToken r endpoint) with
    | mk outcome after =>
      simp only [hvalid] at h
      cases h
      cases outcome with
      | error e =>
        refine ⟨fun response _ => .refused ?_, fun proof response hproof => ?_⟩
        · rcases lib.validateProof_error _ _ _ _ _ _ _ _ _ hvalid with hsame | ⟨id, hrecorded⟩
          · rw [hsame]
            exact fun _ _ _ hget => hget
          · rw [hrecorded]
            exact recordJti_remembers store now id cfg.window
        · cases e <;> cases hproof
      | ok proof =>
        refine ⟨fun response => nofun, fun proof' response hproof => ?_⟩
        cases hproof
        exact .proved hrequest hvalid

theorem handle_handles (now : Nat) (r : HttpRequestData) (store : TtlCache Unit) (endpoint : DpopEndpoint) :
    Handles f lib now r endpoint store (f.handle oauth lib provider now r store endpoint) := by
  cases endpoint with
  | token =>
    unfold handle handleToken
    cases hproof : f.dpopFor oauth lib now r f.tokenUrl none store with
    | mk result store' =>
      have hbound : f.dpopFor oauth lib now r (f.url .token) (boundToken r .token) store = (result, store') := hproof
      obtain ⟨hrefused, hasked⟩ := handles_dpopFor hbound
      cases result with
      | error response => exact hrefused response rfl
      | ok proof =>
        simp only
        cases provider.handleTokenRequest (provider.formPairs r) r.authorization f.tokenUrl proof with
        | ok json => exact hasked proof _ rfl
        | error e => exact hasked proof _ rfl
  | userinfo =>
    unfold handle handleUserinfo
    cases htoken : presentedAccessToken r with
    | none => exact .refused fun _ _ _ hget => hget
    | some token =>
      simp only
      cases hproof : f.dpopFor oauth lib now r f.userinfoUrl (some token) store with
      | mk result store' =>
        have hbound :
            f.dpopFor oauth lib now r (f.url .userinfo) (boundToken r .userinfo) store = (result, store') := by
          have htoken' : boundToken r .userinfo = some token := htoken
          rw [htoken']
          exact hproof
        obtain ⟨hrefused, hasked⟩ := handles_dpopFor hbound
        cases result with
        | error response => exact hrefused response rfl
        | ok proof =>
          simp only
          cases provider.userinfo token (proof.map (·.jkt)) with
          | ok claims => exact hasked proof _ rfl
          | error e => exact hasked proof _ rfl

/-! ## Runs -/

structure DpopStep where
  now : Nat
  endpoint : DpopEndpoint
  request : HttpRequestData

abbrev DpopEvent : Type := DpopStep × DpopOutcome

/-- The cache with everything that was asked, the latest first, and the time of the
last request. -/
structure DpopLedger where
  store : TtlCache Unit
  history : List DpopEvent := []
  clock : Nat := 0

def step (f : DpopFrontend) (oauth : OpLibrary) (lib : DpopLibrary) (provider : TokenProvider) (l : DpopLedger)
    (s : DpopStep) : DpopLedger where
  store := (f.handle oauth lib provider s.now s.request l.store s.endpoint).2
  history := (s, (f.handle oauth lib provider s.now s.request l.store s.endpoint).1) :: l.history
  clock := s.now

def usedJti (f : DpopFrontend) (lib : DpopLibrary) : DpopEvent → Option String
  | (s, .asked (some _) _) => (f.dpopRequest s.request).bind fun presented => lib.jti presented.2
  | _ => none

def window (f : DpopFrontend) : Nat := f.dpop.elim 0 DpopConfig.window

/-- The provider was asked with the proof the request came with, which was valid for
its method, for the URL of the endpoint and for the access token presented there;
and without one only if there was none to check. -/
def Justified (f : DpopFrontend) (lib : DpopLibrary) (s : DpopStep) : Option DpopProof → Prop
  | none => f.dpopRequest s.request = none
  | some proof => ∃ cfg proofJwt store id, f.dpopRequest s.request = some (cfg, proofJwt) ∧
      (lib.validateProof cfg store s.now proofJwt s.request.method (f.url s.endpoint)
        (boundToken s.request s.endpoint)).1 = .ok proof ∧
      lib.jti proofJwt = some id ∧ id.utf8ByteSize ≤ MAX_JTI_LEN

/-- No two uses of one id, unless the cache has forgotten the first. -/
def Apart (f : DpopFrontend) (lib : DpopLibrary) (later earlier : DpopEvent) : Prop :=
  ∀ id, usedJti f lib later = some id → usedJti f lib earlier = some id →
    saturatingAdd earlier.1.now f.window ≤ later.1.now

structure Spent (f : DpopFrontend) (lib : DpopLibrary) (l : DpopLedger) : Prop where
  remembered : ∀ e ∈ l.history, ∀ id, usedJti f lib e = some id → ∀ later, l.clock ≤ later →
    later < saturatingAdd e.1.now f.window → l.store.get later id = some ()
  apart : l.history.Pairwise (Apart f lib)
  justified : ∀ s proof response, (s, .asked proof response) ∈ l.history → Justified f lib s proof

theorem window_of_request {r : HttpRequestData} {cfg : DpopConfig} {proofJwt : String}
    (h : f.dpopRequest r = some (cfg, proofJwt)) : f.window = cfg.window := by
  unfold dpopRequest at h
  cases hdpop : f.dpop with
  | none => simp [hdpop] at h
  | some configured =>
    cases hheader : r.headers.get "dpop" with
    | none => simp [hdpop, hheader] at h
    | some header =>
      simp only [hdpop, hheader, Option.bind_eq_bind, Option.bind_some, Option.pure_def, Option.some.injEq,
        Prod.mk.injEq] at h
      simp [window, hdpop, h.1]

/-- A request whose proof is not used spends nothing. -/
theorem Spent.unused {l : DpopLedger} {s : DpopStep} {outcome : DpopOutcome} {store' : TtlCache Unit}
    (h : Spent f lib l) (hclock : l.clock ≤ s.now) (hkept : Remembers s.now l.store store')
    (hunused : usedJti f lib (s, outcome) = none)
    (hjustified : ∀ proof response, outcome = .asked proof response → Justified f lib s proof) :
    Spent f lib { store := store', history := (s, outcome) :: l.history, clock := s.now } := by
  refine ⟨fun e he id hid later hlater hlive => ?_, ?_, fun s' proof response hmem => ?_⟩
  · rcases List.mem_cons.mp he with rfl | he
    · cases hunused.symm.trans hid
    · exact hkept later hlater id (h.remembered e he id hid later (hclock.trans hlater) hlive)
  · refine List.pairwise_cons.mpr ⟨fun e he id hid => ?_, h.apart⟩
    cases hunused.symm.trans hid
  · rcases List.mem_cons.mp hmem with heq | hmem
    · cases heq
      exact hjustified proof response rfl
    · exact h.justified s' proof response hmem

theorem Spent.step {l : DpopLedger} (h : Spent f lib l) {s : DpopStep} (hclock : l.clock ≤ s.now) :
    Spent f lib (step f oauth lib provider l s) := by
  have hhandles : Handles f lib s.now s.request s.endpoint l.store
      (f.handle oauth lib provider s.now s.request l.store s.endpoint) :=
    handle_handles s.now s.request l.store s.endpoint
  unfold DpopFrontend.step
  revert hhandles
  generalize f.handle oauth lib provider s.now s.request l.store s.endpoint = out
  intro hhandles
  cases hhandles with
  | refused hkept => exact h.unused hclock hkept rfl fun proof response heq => by cases heq
  | unproved hrequest =>
    refine h.unused hclock (fun _ _ _ hget => hget) rfl fun proof response heq => ?_
    cases heq
    exact hrequest
  | @proved cfg proofJwt proof response store' hrequest hvalid =>
    obtain ⟨jti, hjti, hrecorded⟩ := lib.validateProof_ok _ _ _ _ _ _ _ _ _ hvalid
    obtain ⟨hshort, hnew, hlive⟩ := recordJti_new hrecorded
    have hkept : Remembers s.now l.store store' := by
      have hremembers := recordJti_remembers l.store s.now jti cfg.window
      rwa [hrecorded] at hremembers
    have hwindow := window_of_request hrequest
    have hused : usedJti f lib (s, .asked (some proof) response) = some jti := by simp [usedJti, hrequest, hjti]
    refine ⟨fun e he id hid later hlater hbefore => ?_, ?_, fun s' proof' response' hmem => ?_⟩
    · rcases List.mem_cons.mp he with rfl | he
      · cases hused.symm.trans hid
        exact hlive later hlater (hwindow ▸ hbefore)
      · exact hkept later hlater id (h.remembered e he id hid later (hclock.trans hlater) hbefore)
    · refine List.pairwise_cons.mpr ⟨fun e he id hid hearlier => ?_, h.apart⟩
      cases hused.symm.trans hid
      -- An id the cache still holds would not have been new.
      by_contra hbefore
      cases hnew.symm.trans (h.remembered e he jti hearlier s.now hclock (Nat.lt_of_not_le hbefore))
    · rcases List.mem_cons.mp hmem with heq | hmem
      · cases heq
        exact ⟨cfg, proofJwt, l.store, jti, hrequest, congrArg Prod.fst hvalid, hjti, hshort⟩
      · exact h.justified s' proof' response' hmem

/-- **A proof is used once.** Along any run of token and userinfo requests, whatever
they carry, two uses of proofs with one id are at least the replay window apart; and
the provider is asked with a proof only if the request came with it, and it was
valid for the method, the URL of the endpoint and the access token of that request,
and without one only if there was none or proofs are not configured. -/
theorem proofs_once {settings : DpopSettings} {hmac : String → String → String} {secret name : String}
    {rt : DpopRuntime} (hbuild : settings.buildRuntime hmac secret name = .ok (some rt))
    (hdpop : f.dpop = some rt.config) {steps : List DpopStep}
    (hclock : Along (step f oauth lib provider) (fun l s => l.clock ≤ s.now) { store := rt.store } steps) :
    let l := steps.foldl (step f oauth lib provider) { store := rt.store }
    0 < settings.proofMaxAgeSecs ∧ f.window = settings.proofMaxAgeSecs.toNat ∧ l.history.Pairwise (Apart f lib) ∧
      ∀ s proof response, (s, .asked proof response) ∈ l.history → Justified f lib s proof := by
  obtain ⟨hpos, hage⟩ := DpopSettings.buildRuntime_ok hbuild
  have hwindow : f.window = settings.proofMaxAgeSecs.toNat := by simp [window, hdpop, DpopConfig.window, hage]
  have hstart : Spent f lib { store := rt.store } :=
    ⟨fun e he => absurd he List.not_mem_nil, .nil, fun s proof response => nofun⟩
  have hend := Along.invariant_end (fun l s (h : Spent f lib l) hclock => h.step hclock) hstart hclock
  exact ⟨hpos, hwindow, hend.apart, hend.justified⟩

/-! ## The frontend's endpoints -/

theorem mapDpopResult_location {cfg : DpopConfig} {now : Nat} {outcome : Except DpopError DpopProof}
    {response : Response} (h : mapDpopResult oauth lib cfg now outcome = .error response) :
    response.location = none := by
  unfold mapDpopResult at h
  split at h
  next => cases h
  next =>
    cases h
    rfl
  next =>
    cases h
    exact oauth.toResponse_location _
  next =>
    cases h
    exact oauth.toResponse_location _

theorem dpopFor_location {now : Nat} {r : HttpRequestData} {htu : String} {token : Option String}
    {store store' : TtlCache Unit} {response : Response}
    (h : f.dpopFor oauth lib now r htu token store = (.error response, store')) : response.location = none := by
  unfold dpopFor at h
  split at h
  next => cases h
  next => exact mapDpopResult_location (Prod.ext_iff.mp h).1

/-- Whatever it comes to, the answer goes to the caller. -/
theorem handle_location (now : Nat) (r : HttpRequestData) (store : TtlCache Unit) (endpoint : DpopEndpoint) :
    (f.handle oauth lib provider now r store endpoint).1.response.location = none := by
  cases endpoint with
  | token =>
    simp only [handle, handleToken]
    split
    next hrefused => exact dpopFor_location hrefused
    next =>
      split
      next => rfl
      next => exact oauth.toResponse_location _
  | userinfo =>
    simp only [handle, handleUserinfo]
    split
    next => exact oauth.toResponse_location _
    next =>
      split
      next hrefused => exact dpopFor_location hrefused
      next =>
        split
        next => rfl
        next => exact oauth.toResponse_location _

def world (f : DpopFrontend) (oauth : OpLibrary) (lib : DpopLibrary) (provider : TokenProvider) (w : OpWorld)
    (now : Nat) (store : TtlCache Unit) : OpWorld :=
  { w with
    token r := (f.handleToken oauth lib provider now r store).1.response
    userinfo r := (f.handleUserinfo oauth lib provider now r store).1.response
    token_location r := handle_location now r store .token
    userinfo_location r := handle_location now r store .userinfo }

def routeId : DpopEndpoint → String
  | .token => "token"
  | .userinfo => "userinfo"

/-- The frontend answers a request to either endpoint with what this makes of it. -/
theorem handleEndpoint_handle (frontend : OidcFrontend) (w : OpWorld) (now : Nat) (store : TtlCache Unit)
    (endpoint : DpopEndpoint) (ctx : Context) :
    frontend.handleEndpoint oauth (f.world oauth lib provider w now store) (routeId endpoint) ctx =
      (.ok (.respond (f.handle oauth lib provider now ctx.request store endpoint).1.response), ctx) := by
  cases endpoint <;> rfl

/-! ## One client, one proof -/

/-- A library to which every text is a proof of its own id. -/
def plainProofs : DpopLibrary where
  issueNonce _ now := toString now
  jti jwt := some jwt
  validateProof cfg store now jwt _ _ _ :=
    if (recordJti store now jwt cfg.window).1 = true then (.ok { jkt := jwt }, (recordJti store now jwt cfg.window).2)
    else (.error (.invalid "replayed"), (recordJti store now jwt cfg.window).2)
  validateProof_ok cfg store now jwt htm htu token proof store' h := by
    split at h
    next hnew =>
      cases h
      exact ⟨jwt, rfl, Prod.ext hnew rfl⟩
    next => cases h
  validateProof_error cfg store now jwt htm htu token e store' h := by
    split at h
    next => cases h
    next =>
      cases h
      exact .inr ⟨jwt, rfl⟩

def plainProvider : TokenProvider where
  formPairs r := r.form
  handleTokenRequest _ _ _ _ := .ok (.obj [("access_token", .str "t")])
  userinfo token _ := .ok (.obj [("sub", .str token)])

def proofSettings : DpopSettings := { enabled := true }

def proofRuntime : DpopRuntime where
  config := { proofMaxAgeSecs := 300, requireNonce := false, nonceLifetimeSecs := 300, nonceSecret := "secret" }
  store := .new 300

def proofFrontend : DpopFrontend where
  issuer := "https://op.example"
  dpop := some proofRuntime.config

/-- One proof, at the token endpoint, then again at userinfo, and there once more
when it is forgotten. -/
def oneProof : List DpopStep :=
  let request : HttpRequestData := { method := "POST", headers := [("dpop", "p"), ("authorization", "DPoP t")] }
  [⟨1000, .token, request⟩, ⟨1299, .userinfo, request⟩, ⟨1300, .userinfo, request⟩]

theorem proofs_once_demo :
    let l := oneProof.foldl (step proofFrontend plainLibrary plainProofs plainProvider) { store := proofRuntime.store }
    0 < proofSettings.proofMaxAgeSecs ∧ proofFrontend.window = proofSettings.proofMaxAgeSecs.toNat ∧
      l.history.Pairwise (Apart proofFrontend plainProofs) ∧
      ∀ s proof response, (s, .asked proof response) ∈ l.history → Justified proofFrontend plainProofs s proof := by
  have hbuild : proofSettings.buildRuntime (fun secret _ => secret) "secret" "op" = .ok (some proofRuntime) := rfl
  have hclock : Along (step proofFrontend plainLibrary plainProofs plainProvider) (fun l s => l.clock ≤ s.now)
      { store := proofRuntime.store } oneProof := ⟨by decide, by decide, by decide, trivial⟩
  exact proofs_once hbuild rfl hclock

/-- The second use is refused, and the third is not. -/
example :
    let l := oneProof.foldl (step proofFrontend plainLibrary plainProofs plainProvider) { store := proofRuntime.store }
    l.history.map (usedJti proofFrontend plainProofs) = [some "p", none, some "p"] := by
  decide

end DpopFrontend

end Tunnelbana
