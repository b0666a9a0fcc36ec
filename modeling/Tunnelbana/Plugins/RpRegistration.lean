/-
The clients the federation frontend registers by itself. An authorization
request of an unknown client has the trust anchors asked for it; what they
answer is kept for a while, as a registration or as a failure. Requests
interleave: others come while one waits for its answer.

`Kept` ties the client store and the cache of failures to everything that
happened; `registration_within_trust` says what follows for every step of a run.
-/
import Mathlib.Order.WithBot
import Tunnelbana.Core.CacheLiveness
import Tunnelbana.Plugins.OidcFrontend

namespace Tunnelbana

open Basis

def RESOLUTION_FAILURE_TTL : Nat := 60

/-- The longest client id a failure is kept of, in bytes. -/
def MAX_CACHED_CLIENT_ID_LEN : Nat := 512

/-- The client store of the OpenID library: a map whose entries expire, except
the clients it was built with. -/
structure ClientStore (σ : Type) where
  get : σ → Nat → String → Option Client
  putWithTtl : σ → Nat → Client → Nat → σ
  view : σ → TimedMap String (WithTop Nat) Client
  get_eq : ∀ s (now : Nat) id, get s now id = (view s).live (WithTop.some now) id
  put_agrees : ∀ s (now : Nat) client (ttl : Nat), TimedMap.AgreeFrom (WithTop.some now)
    (view (putWithTtl s now client ttl)) fun id =>
      if id = client.clientId then some (client, WithTop.some (now + ttl)) else view s id

namespace FederationFrontend

variable (f : FederationFrontend) (parseJwks : Json → Option JwkSet)

def federationClient (clientId : String) (resolved : ResolvedEntity) : Except Error Client :=
  match resolved.metadata.field "openid_relying_party" with
  | none => .error (.authn "resolved metadata has no openid_relying_party")
  | some rpMeta => .ok {
      clientId
      redirectUris := ((rpMeta.field "redirect_uris").map Json.asStrings).getD []
      responseTypes := ["code"]
      grantTypes := ["authorization_code"]
      tokenEndpointAuthMethod := AUTH_PRIVATE_KEY_JWT
      jwks := (rpMeta.field "jwks").bind parseJwks
      scope := (rpMeta.field "scope").bind Json.asStr
      subjectType := ((rpMeta.field "subject_type").bind Json.asStr).getD "pairwise"
      clientName := (rpMeta.field "client_name").bind Json.asStr }

/-- The client of an answer, and how long it is registered for. -/
def registerAnswer (clientId : String) (answer : Except Error ResolvedEntity) (now : Nat) :
    Except Error (Client × Nat) := do
  let resolved ← answer
  let client ← federationClient parseJwks clientId resolved
  let cacheTtl ← cacheTtlBoundedByTrust now f.rpCacheTtl resolved.exp "resolved federation RP"
  pure (client, cacheTtl)

theorem autoRegister_eq (w : FederationWorld) (clientId : String) :
    f.autoRegister w clientId =
      (f.registerAnswer w.parseJwks clientId (w.resolveViaTrustAnchors clientId) w.nowSecs).map (·.1) := by
  unfold autoRegister registerAnswer federationClient
  cases hanswer : w.resolveViaTrustAnchors clientId with
  | error e => simp [bind, Except.bind, Except.map]
  | ok resolved =>
    cases hfield : resolved.metadata.field "openid_relying_party" with
    | none => simp [hfield, bind, Except.bind, Except.map]
    | some rpMeta =>
      cases httl : cacheTtlBoundedByTrust w.nowSecs f.rpCacheTtl resolved.exp "resolved federation RP" <;>
        simp [hfield, httl, bind, Except.bind, Except.map, pure, Except.pure]

theorem client_clientId {clientId : String} {resolved : ResolvedEntity} {client : Client}
    (h : federationClient parseJwks clientId resolved = .ok client) : client.clientId = clientId := by
  unfold federationClient at h
  split at h
  next => cases h
  next =>
    cases h
    rfl

theorem cacheTtl_ok {now configuredTtl ttl : Nat} {trustExpiry : Option Nat} {object : String}
    (h : cacheTtlBoundedByTrust now configuredTtl trustExpiry object = .ok ttl) :
    ∃ expiry, trustExpiry = some expiry ∧ now < expiry ∧ ttl = min configuredTtl (expiry - now) := by
  unfold cacheTtlBoundedByTrust at h
  split at h
  next => cases h
  next expiry =>
    split at h
    next hlive =>
      cases h
      exact ⟨expiry, rfl, hlive, rfl⟩
    next => cases h

end FederationFrontend

/-- Keep a failure; one that is kept already is not prolonged. -/
def noteResolutionFailure (failures : TtlCache Unit) (now : Nat) (clientId : String) : TtlCache Unit :=
  if MAX_CACHED_CLIENT_ID_LEN < clientId.utf8ByteSize then failures
  else (failures.putIfAbsent now clientId () RESOLUTION_FAILURE_TTL).2

theorem noteResolutionFailure_get {failures : TtlCache Unit} {now later : Nat} (hlater : now ≤ later)
    {clientId id : String} (h : failures.get later id = some ()) :
    (noteResolutionFailure failures now clientId).get later id = some () := by
  unfold noteResolutionFailure
  split
  · exact h
  · exact TtlCache.get_putIfAbsent_of_live hlater h

theorem noteResolutionFailure_self {failures : TtlCache Unit} {now later : Nat} (hlater : now ≤ later)
    {clientId : String} (hshort : clientId.utf8ByteSize ≤ MAX_CACHED_CLIENT_ID_LEN)
    (hget : failures.get now clientId = none) (hlive : later < saturatingAdd now RESOLUTION_FAILURE_TTL) :
    (noteResolutionFailure failures now clientId).get later clientId = some () := by
  unfold noteResolutionFailure
  rw [if_neg (Nat.not_lt.mpr hshort)]
  exact TtlCache.get_putIfAbsent_self hlater hget hlive

/-- Nothing is kept but what was, and the failure noted. -/
theorem noteResolutionFailure_view {failures : TtlCache Unit} {now : Nat} {clientId id : String} {p : Unit × Nat}
    (h : (noteResolutionFailure failures now clientId).view id = some p) :
    failures.view id = some p ∨
      id = clientId ∧ clientId.utf8ByteSize ≤ MAX_CACHED_CLIENT_ID_LEN ∧
        p = ((), saturatingAdd now RESOLUTION_FAILURE_TTL) := by
  unfold noteResolutionFailure at h
  split at h
  next => exact .inl h
  next hshort =>
    unfold TtlCache.putIfAbsent at h
    cases hget : failures.get now clientId with
    | some u =>
      rw [hget] at h
      exact .inl h
    | none =>
      rw [hget] at h
      have hinserted := TtlCache.view_of_maybePrune h
      by_cases hid : id = clientId
      · subst hid
        rw [TtlCache.view_insert_self] at hinserted
        exact .inr ⟨rfl, Nat.not_lt.mp hshort, (Option.some.inj hinserted).symm⟩
      · rw [TtlCache.view_insert_other _ _ _ _ hid] at hinserted
        exact .inl hinserted

/-! ## Requests in flight -/

/-- A request comes, or the trust anchors answer for one that waits. The time a
registration is reckoned from is read before it is stored. -/
inductive RegistrationAct where
  | authorize (clientId : String)
  | answered (clientId : String) (answer : Except Error ResolvedEntity) (reckoned : Nat)

structure RegistrationStep where
  now : Nat
  act : RegistrationAct

inductive RegistrationOutcome where
  | known (client : Client)
  | refused
  | resolving
  | registered (client : Client) (expires : Nat)
  | failed
  | idle
deriving DecidableEq

def RegistrationOutcome.client : RegistrationOutcome → Option Client
  | .known client => some client
  | .registered client _ => some client
  | _ => none

structure RegistrationState (σ : Type) where
  clients : σ
  resolutionFailures : TtlCache Unit := .new RESOLUTION_FAILURE_TTL
  waiting : List String := []

section

variable {σ : Type} (store : ClientStore σ) (f : FederationFrontend) (parseJwks : Json → Option JwkSet)

def RegistrationState.apply (s : RegistrationState σ) (step : RegistrationStep) :
    RegistrationOutcome × RegistrationState σ :=
  match step.act with
  | .authorize clientId =>
    match store.get s.clients step.now clientId with
    | some client => (.known client, s)
    | none =>
      match s.resolutionFailures.get step.now clientId with
      | some _ => (.refused, s)
      | none => (.resolving, { s with waiting := clientId :: s.waiting })
  | .answered clientId answer reckoned =>
    if clientId ∈ s.waiting then
      match f.registerAnswer parseJwks clientId answer reckoned with
      | .ok (client, cacheTtl) =>
        (.registered client (step.now + cacheTtl),
          { s with
            clients := store.putWithTtl s.clients step.now client cacheTtl
            waiting := s.waiting.erase clientId })
      | .error _ =>
        (.failed,
          { s with
            resolutionFailures := noteResolutionFailure s.resolutionFailures step.now clientId
            waiting := s.waiting.erase clientId })
    else (.idle, s)

/-- **A request on its own is its steps**: what the frontend makes of a client id
is the outcome of the first, or of the second when the first waits for it. -/
theorem apply_resolveClient (s : RegistrationState σ) (now answered : Nat) (clientId : String) (w : FederationWorld)
    (hclient : w.client = store.get s.clients now)
    (hfailed : w.recentlyFailed = fun id => (s.resolutionFailures.get now id).isSome) :
    let first := s.apply store f w.parseJwks ⟨now, .authorize clientId⟩
    let second := first.2.apply store f w.parseJwks
      ⟨answered, .answered clientId (w.resolveViaTrustAnchors clientId) w.nowSecs⟩
    f.resolveClient w clientId = (if first.1 = .resolving then second.1 else first.1).client := by
  cases hknown : store.get s.clients now clientId with
  | some client =>
    have hfirst : s.apply store f w.parseJwks ⟨now, .authorize clientId⟩ = (.known client, s) := by
      simp [RegistrationState.apply, hknown]
    simp [FederationFrontend.resolveClient, hclient, hknown, hfirst, RegistrationOutcome.client]
  | none =>
    cases hfailing : s.resolutionFailures.get now clientId with
    | some _ =>
      have hfirst : s.apply store f w.parseJwks ⟨now, .authorize clientId⟩ = (.refused, s) := by
        simp [RegistrationState.apply, hknown, hfailing]
      simp [FederationFrontend.resolveClient, hclient, hfailed, hknown, hfailing, hfirst, RegistrationOutcome.client]
    | none =>
      have hfirst : s.apply store f w.parseJwks ⟨now, .authorize clientId⟩ =
          (.resolving, { s with waiting := clientId :: s.waiting }) := by
        simp [RegistrationState.apply, hknown, hfailing]
      simp only [FederationFrontend.resolveClient, hclient, hfailed, hknown, hfailing, hfirst, f.autoRegister_eq w]
      cases hanswer : f.registerAnswer w.parseJwks clientId (w.resolveViaTrustAnchors clientId) w.nowSecs <;>
        simp [RegistrationState.apply, hanswer, RegistrationOutcome.client, Except.map, Except.toOption]

/-- A client was registered by an answer the trust anchors vouched for, for as long as the
configuration and the trust allow, whichever is shorter. -/
def Vouched (s : RegistrationStep) (client : Client) (expires : Nat) : Prop :=
  ∃ resolved reckoned expiry, s.act = .answered client.clientId (.ok resolved) reckoned ∧
    FederationFrontend.federationClient parseJwks client.clientId resolved = .ok client ∧
    resolved.exp = some expiry ∧ reckoned < expiry ∧ expires = s.now + min f.rpCacheTtl (expiry - reckoned)

theorem registerAnswer_vouched {s : RegistrationStep} {clientId : String} {answer : Except Error ResolvedEntity}
    {reckoned : Nat} (hact : s.act = .answered clientId answer reckoned) {client : Client} {cacheTtl : Nat}
    (h : f.registerAnswer parseJwks clientId answer reckoned = .ok (client, cacheTtl)) :
    Vouched f parseJwks s client (s.now + cacheTtl) := by
  unfold FederationFrontend.registerAnswer at h
  obtain ⟨resolved, hanswer, h⟩ := except_bind_ok.mp h
  obtain ⟨described, hclient, h⟩ := except_bind_ok.mp h
  obtain ⟨ttl, httl, h⟩ := except_bind_ok.mp h
  cases h
  obtain ⟨expiry, hexp, hlive, hmin⟩ := FederationFrontend.cacheTtl_ok httl
  have hid := FederationFrontend.client_clientId parseJwks hclient
  subst hid
  exact ⟨resolved, reckoned, expiry, hanswer ▸ hact, hclient, hexp, hlive, by rw [hmin]⟩

inductive Does (state : RegistrationState σ) (s : RegistrationStep) :
    RegistrationOutcome × RegistrationState σ → Prop
  | known {id client} : s.act = .authorize id → store.get state.clients s.now id = some client →
    Does state s (.known client, state)
  | refused {id} : s.act = .authorize id → store.get state.clients s.now id = none →
    state.resolutionFailures.get s.now id = some () → Does state s (.refused, state)
  | resolving {id} : s.act = .authorize id → store.get state.clients s.now id = none →
    state.resolutionFailures.get s.now id = none →
    Does state s (.resolving, { state with waiting := id :: state.waiting })
  | registered {client ttl waiting} : Vouched f parseJwks s client (s.now + ttl) →
    Does state s (.registered client (s.now + ttl),
      { state with clients := store.putWithTtl state.clients s.now client ttl, waiting })
  | failed {id answer reckoned waiting} : s.act = .answered id answer reckoned →
    Does state s (.failed,
      { state with resolutionFailures := noteResolutionFailure state.resolutionFailures s.now id, waiting })
  | idle {id answer reckoned} : s.act = .answered id answer reckoned → Does state s (.idle, state)

theorem apply_does (state : RegistrationState σ) (s : RegistrationStep) :
    Does store f parseJwks state s (state.apply store f parseJwks s) := by
  unfold RegistrationState.apply
  cases hact : s.act with
  | authorize id =>
    cases hknown : store.get state.clients s.now id with
    | some client =>
      simp only [hknown]
      exact .known hact hknown
    | none =>
      cases hfailed : state.resolutionFailures.get s.now id with
      | some u =>
        simp only [hknown, hfailed]
        exact .refused hact hknown hfailed
      | none =>
        simp only [hknown, hfailed]
        exact .resolving hact hknown hfailed
  | answered id answer reckoned =>
    simp only
    split
    next =>
      cases hanswer : f.registerAnswer parseJwks id answer reckoned with
      | ok registered =>
        obtain ⟨client, cacheTtl⟩ := registered
        exact .registered (registerAnswer_vouched f parseJwks hact hanswer)
      | error e => exact .failed hact
    next => exact .idle hact

/-! ## Runs -/

abbrev RegistrationEvent : Type := RegistrationStep × RegistrationOutcome

/-- The state with everything that happened, the latest first, and the time of
the last step. -/
structure RegistrationLedger (σ : Type) where
  state : RegistrationState σ
  history : List RegistrationEvent := []
  clock : Nat := 0

namespace RegistrationLedger

def step (l : RegistrationLedger σ) (s : RegistrationStep) : RegistrationLedger σ where
  state := (l.state.apply store f parseJwks s).2
  history := (s, (l.state.apply store f parseJwks s).1) :: l.history
  clock := s.now

def Clocked (l : RegistrationLedger σ) (s : RegistrationStep) : Prop :=
  l.clock ≤ s.now ∧ ∀ id answer reckoned, s.act = .answered id answer reckoned → reckoned ≤ s.now

def registers (id : String) : RegistrationEvent → Option (Client × WithTop Nat)
  | (_, .registered client expires) => if client.clientId = id then some (client, WithTop.some expires) else none
  | _ => none

/-- What was last registered under every client id, beside what was configured. -/
def lastRegistered (configured : TimedMap String (WithTop Nat) Client) (history : List RegistrationEvent) :
    TimedMap String (WithTop Nat) Client :=
  fun id => (history.findSome? (registers id)).or (configured id)

def FailedAt (history : List RegistrationEvent) (id : String) (time : Nat) : Prop :=
  ∃ answer reckoned, (⟨time, .answered id answer reckoned⟩, .failed) ∈ history

/-- Every entry of the store is what was last registered, by an answer the trust
anchors vouched for. Every entry of the cache is a failure; every failure
belongs to one that has been kept since it, for its minute. -/
structure Kept (configured : TimedMap String (WithTop Nat) Client) (l : RegistrationLedger σ) : Prop where
  clients : TimedMap.AgreeFrom (WithTop.some l.clock) (store.view l.state.clients)
    (lastRegistered configured l.history)
  vouched : ∀ s client expires, (s, .registered client expires) ∈ l.history →
    Vouched f parseJwks s client expires ∧ ∀ id answer reckoned, s.act = .answered id answer reckoned → reckoned ≤ s.now
  past : ∀ e ∈ l.history, e.1.now ≤ l.clock
  noted : ∀ id u expires, l.state.resolutionFailures.view id = some (u, expires) →
    id.utf8ByteSize ≤ MAX_CACHED_CLIENT_ID_LEN ∧
      ∃ t, FailedAt l.history id t ∧ expires = saturatingAdd t RESOLUTION_FAILURE_TTL
  failures : ∀ id t, FailedAt l.history id t → id.utf8ByteSize ≤ MAX_CACHED_CLIENT_ID_LEN →
    ∃ first, FailedAt l.history id first ∧ first ≤ t ∧ (t = first ∨ t < saturatingAdd first RESOLUTION_FAILURE_TTL) ∧
      ∀ now, l.clock ≤ now → now < saturatingAdd first RESOLUTION_FAILURE_TTL →
        l.state.resolutionFailures.get now id = some ()

variable {store f parseJwks} {configured : TimedMap String (WithTop Nat) Client} {l : RegistrationLedger σ}
  {s : RegistrationStep}

theorem FailedAt.cons {history : List RegistrationEvent} {id : String} {t : Nat} (h : FailedAt history id t)
    (e : RegistrationEvent) : FailedAt (e :: history) id t := by
  obtain ⟨answer, reckoned, hmem⟩ := h
  exact ⟨answer, reckoned, List.mem_cons_of_mem e hmem⟩

theorem failedAt_cons {history : List RegistrationEvent} {s : RegistrationStep} {outcome : RegistrationOutcome}
    (h : outcome ≠ .failed) {id : String} {t : Nat} :
    FailedAt ((s, outcome) :: history) id t ↔ FailedAt history id t := by
  constructor
  · intro hfailed
    obtain ⟨answer, reckoned, hmem⟩ := hfailed
    rcases List.mem_cons.mp hmem with heq | hmem
    · cases heq
      exact absurd rfl h
    · exact ⟨answer, reckoned, hmem⟩
  · intro hfailed
    exact hfailed.cons _

theorem lastRegistered_cons {history : List RegistrationEvent} {s : RegistrationStep} {outcome : RegistrationOutcome}
    (h : ∀ client expires, outcome ≠ .registered client expires) :
    lastRegistered configured ((s, outcome) :: history) = lastRegistered configured history := by
  have hnone : ∀ id, registers id (s, outcome) = none := by
    intro id
    unfold registers
    split
    next heq =>
      cases heq
      exact absurd rfl (h _ _)
    next => rfl
  funext id
  rw [lastRegistered, List.findSome?_cons, hnone id]
  rfl

/-- Events of the past, and a new one. -/
theorem Kept.past_step (h : Kept store f parseJwks configured l) (hclock : Clocked l s)
    (outcome : RegistrationOutcome) :
    ∀ e ∈ (s, outcome) :: l.history, e.1.now ≤ s.now := by
  intro e hmem
  rcases List.mem_cons.mp hmem with rfl | hmem
  · exact Nat.le_refl _
  · exact Nat.le_trans (h.past e hmem) hclock.1

theorem Kept.quiet (h : Kept store f parseJwks configured l) (hclock : Clocked l s) {outcome : RegistrationOutcome}
    {waiting : List String} (hregistered : ∀ client expires, outcome ≠ .registered client expires)
    (hfailed : outcome ≠ .failed) :
    Kept store f parseJwks configured
      { state := { l.state with waiting }, history := (s, outcome) :: l.history, clock := s.now } where
  clients := by
    rw [lastRegistered_cons hregistered]
    exact h.clients.later (WithTop.coe_le_coe.mpr hclock.1)
  vouched := by
    intro s' client expires hmem
    rcases List.mem_cons.mp hmem with heq | hmem
    · cases heq
      exact absurd rfl (hregistered client expires)
    · exact h.vouched s' client expires hmem
  past := h.past_step hclock outcome
  noted := by
    intro id u expires hview
    obtain ⟨hshort, t, ht, hexpires⟩ := h.noted id u expires hview
    exact ⟨hshort, t, ht.cons _, hexpires⟩
  failures := by
    intro id t ht hshort
    obtain ⟨first, hfirst, hle, hwithin, hkept⟩ := h.failures id t ((failedAt_cons hfailed).mp ht) hshort
    exact ⟨first, hfirst.cons _, hle, hwithin, fun now hnow => hkept now (Nat.le_trans hclock.1 hnow)⟩

/-- A registration is written to the store as it is to the history. -/
theorem Kept.register (h : Kept store f parseJwks configured l) (hclock : Clocked l s) {client : Client} {ttl : Nat}
    {waiting : List String} (hvouched : Vouched f parseJwks s client (s.now + ttl)) :
    Kept store f parseJwks configured
      { state := { l.state with clients := store.putWithTtl l.state.clients s.now client ttl, waiting }
        history := (s, .registered client (s.now + ttl)) :: l.history
        clock := s.now } where
  clients := by
    refine (store.put_agrees l.state.clients s.now client ttl).trans ?_
    have hlater := h.clients.later (WithTop.coe_le_coe.mpr hclock.1)
    refine hlater.write (k := client.clientId) ?_ (fun id hid => if_neg hid) fun id hid => ?_
    · rw [if_pos rfl, lastRegistered, List.findSome?_cons]
      simp [registers]
    · rw [lastRegistered, List.findSome?_cons]
      simp only [registers, if_neg (Ne.symm hid)]
      rfl
  vouched := by
    intro s' client' expires hmem
    rcases List.mem_cons.mp hmem with heq | hmem
    · cases heq
      exact ⟨hvouched, hclock.2⟩
    · exact h.vouched s' client' expires hmem
  past := h.past_step hclock _
  noted := by
    intro id u expires hview
    obtain ⟨hshort, t, ht, hexpires⟩ := h.noted id u expires hview
    exact ⟨hshort, t, ht.cons _, hexpires⟩
  failures := by
    intro id t ht hshort
    obtain ⟨first, hfirst, hle, hwithin, hkept⟩ := h.failures id t ((failedAt_cons (by simp)).mp ht) hshort
    exact ⟨first, hfirst.cons _, hle, hwithin, fun now hnow => hkept now (Nat.le_trans hclock.1 hnow)⟩

theorem Kept.fail (h : Kept store f parseJwks configured l) (hclock : Clocked l s) {clientId : String}
    {answer : Except Error ResolvedEntity} {reckoned : Nat} {waiting : List String}
    (hact : s.act = .answered clientId answer reckoned) :
    Kept store f parseJwks configured
      { state := { l.state with
          resolutionFailures := noteResolutionFailure l.state.resolutionFailures s.now clientId, waiting }
        history := (s, .failed) :: l.history
        clock := s.now } where
  clients := by
    rw [lastRegistered_cons (by simp)]
    exact h.clients.later (WithTop.coe_le_coe.mpr hclock.1)
  vouched := by
    intro s' client expires hmem
    rcases List.mem_cons.mp hmem with heq | hmem
    · cases heq
    · exact h.vouched s' client expires hmem
  past := h.past_step hclock _
  noted := by
    intro id u expires hview
    rcases noteResolutionFailure_view hview with hview | ⟨rfl, hshort, heq⟩
    · obtain ⟨hshort, t, ht, hexpires⟩ := h.noted id u expires hview
      exact ⟨hshort, t, ht.cons _, hexpires⟩
    · cases heq
      refine ⟨hshort, s.now, ⟨answer, reckoned, ?_⟩, rfl⟩
      rw [← hact]
      exact List.mem_cons_self
  failures := by
    intro id t ht hshort
    obtain ⟨answer', reckoned', hmem⟩ := ht
    rcases List.mem_cons.mp hmem with heq | hmem
    · obtain ⟨rfl, hact'⟩ : t = s.now ∧ s.act = .answered id answer' reckoned' := by
        cases s
        cases heq
        exact ⟨rfl, rfl⟩
      obtain ⟨rfl, rfl, rfl⟩ : clientId = id ∧ answer = answer' ∧ reckoned = reckoned' := by
        rw [hact] at hact'
        cases hact'
        exact ⟨rfl, rfl, rfl⟩
      have hnew : FailedAt ((s, RegistrationOutcome.failed) :: l.history) clientId s.now := ⟨answer, reckoned, hmem⟩
      cases hget : l.state.resolutionFailures.get s.now clientId with
      | none =>
        refine ⟨s.now, hnew, Nat.le_refl _, .inl rfl, fun now hnow hlive => ?_⟩
        exact noteResolutionFailure_self hnow hshort hget hlive
      | some u =>
        -- It is the minute of an earlier failure.
        rw [TtlCache.get_eq_live] at hget
        obtain ⟨expires, hview, hlive⟩ := TimedMap.live_eq_some.mp hget
        obtain ⟨-, first, hfirst, hexpires⟩ := h.noted clientId u expires hview
        subst hexpires
        obtain ⟨firstAnswer, firstReckoned, hfirstMem⟩ := hfirst
        have hpast : first ≤ s.now := Nat.le_trans (h.past _ hfirstMem) hclock.1
        refine ⟨first, ⟨firstAnswer, firstReckoned, List.mem_cons_of_mem _ hfirstMem⟩, hpast, .inr hlive, ?_⟩
        intro now hnow hnowLive
        refine noteResolutionFailure_get hnow ?_
        rw [TtlCache.get_eq_live]
        exact TimedMap.live_eq_some.mpr ⟨_, hview, hnowLive⟩
    · obtain ⟨first, hfirst, hle, hwithin, hkept⟩ := h.failures id t ⟨answer', reckoned', hmem⟩ hshort
      refine ⟨first, hfirst.cons _, hle, hwithin, fun now hnow hlive => ?_⟩
      exact noteResolutionFailure_get hnow (hkept now (Nat.le_trans hclock.1 hnow) hlive)

/-- **Every step keeps the store and the cache what the history makes of them.** -/
theorem Kept.step (h : Kept store f parseJwks configured l) (hclock : Clocked l s) :
    Kept store f parseJwks configured (l.step store f parseJwks s) := by
  have hdoes := apply_does store f parseJwks l.state s
  unfold RegistrationLedger.step
  generalize l.state.apply store f parseJwks s = done at hdoes
  cases hdoes with
  | known hact hget => exact h.quiet hclock (by simp) (by simp)
  | refused hact hget hfailed => exact h.quiet hclock (by simp) (by simp)
  | resolving hact hget hfailed => exact h.quiet hclock (by simp) (by simp)
  | registered hvouched => exact h.register hclock hvouched
  | failed hact => exact h.fail hclock hact
  | idle hact => exact h.quiet hclock (by simp) (by simp)

variable (store f parseJwks configured l s)

/-- The client is configured and not registered since, or it is the last one
registered under the id, by an answer that vouched for it: neither has the
configured lifetime passed since it was stored, nor has the trust expired by more
than the delay between reckoning what was left of it and storing. -/
def Registered (history : List RegistrationEvent) (id : String) (now : Nat) (client : Client) : Prop :=
  (configured.live (WithTop.some now) id = some client ∧ ∀ e ∈ history, registers id e = none) ∨
    ∃ newer older stored resolved reckoned expiry expires,
      history = newer ++ (⟨stored, .answered id (.ok resolved) reckoned⟩, .registered client expires) :: older ∧
        (∀ e ∈ newer, registers id e = none) ∧
        FederationFrontend.federationClient parseJwks id resolved = .ok client ∧ resolved.exp = some expiry ∧
        reckoned < expiry ∧ reckoned ≤ stored ∧ now < stored + f.rpCacheTtl ∧ now < expiry + (stored - reckoned)

/-- A request goes on with a registered client, or with one it registers while the
trust anchors vouch for it. It is refused unasked only within
the minute of a failed resolution, and the trust anchors are asked anew only
when the client is not registered and no failure is in its minute; a failure
belongs to the minute of the first that was noted. No long client id is kept. -/
structure WithinTrust : Prop where
  known : ∀ id client, s.act = .authorize id → (l.state.apply store f parseJwks s).1 = .known client →
    Registered f parseJwks configured l.history id s.now client
  registered : ∀ client expires, (l.state.apply store f parseJwks s).1 = .registered client expires →
    Vouched f parseJwks s client expires
  refused : ∀ id, s.act = .authorize id → (l.state.apply store f parseJwks s).1 = .refused →
    ∃ t, FailedAt l.history id t ∧ t ≤ s.now ∧ s.now < saturatingAdd t RESOLUTION_FAILURE_TTL
  resolving : ∀ id, s.act = .authorize id → (l.state.apply store f parseJwks s).1 = .resolving →
    (lastRegistered configured l.history).live (WithTop.some s.now) id = none ∧
      ∀ t, FailedAt l.history id t → id.utf8ByteSize ≤ MAX_CACHED_CLIENT_ID_LEN →
        ∃ first, FailedAt l.history id first ∧ first ≤ t ∧
          (t = first ∨ t < saturatingAdd first RESOLUTION_FAILURE_TTL) ∧
          saturatingAdd first RESOLUTION_FAILURE_TTL ≤ s.now
  short : ∀ id, (l.state.resolutionFailures.view id).isSome → id.utf8ByteSize ≤ MAX_CACHED_CLIENT_ID_LEN

variable {store f parseJwks configured l s}

theorem Kept.get (h : Kept store f parseJwks configured l) (hclock : Clocked l s) (id : String) :
    store.get l.state.clients s.now id = (lastRegistered configured l.history).live (WithTop.some s.now) id := by
  rw [store.get_eq]
  exact h.clients (WithTop.some s.now) (WithTop.coe_le_coe.mpr hclock.1) id

theorem registers_some {id : String} {e : RegistrationEvent} {client : Client} {expires : WithTop Nat}
    (h : registers id e = some (client, expires)) :
    client.clientId = id ∧ ∃ s n, e = (s, .registered client n) ∧ expires = WithTop.some n := by
  unfold registers at h
  split at h
  next s' client' n =>
    split at h
    next hid =>
      cases h
      exact ⟨hid, s', n, rfl, rfl⟩
    next => cases h
  next => cases h

theorem Kept.registered (h : Kept store f parseJwks configured l) {id : String} {now : Nat} {client : Client}
    (hlive : (lastRegistered configured l.history).live (WithTop.some now) id = some client) :
    Registered f parseJwks configured l.history id now client := by
  obtain ⟨expires, hlast, hnow⟩ := TimedMap.live_eq_some.mp hlive
  unfold lastRegistered at hlast
  cases hfind : l.history.findSome? (registers id) with
  | none =>
    rw [hfind, Option.none_or] at hlast
    exact .inl ⟨TimedMap.live_eq_some.mpr ⟨expires, hlast, hnow⟩, List.findSome?_eq_none_iff.mp hfind⟩
  | some p =>
    rw [hfind, Option.some_or] at hlast
    cases hlast
    obtain ⟨newer, e, older, hhistory, hregisters, hnewer⟩ := List.findSome?_eq_some_iff.mp hfind
    obtain ⟨hid, s, n, rfl, rfl⟩ := registers_some hregisters
    have hmem : (s, .registered client n) ∈ l.history := by
      rw [hhistory]
      exact List.mem_append_right newer List.mem_cons_self
    obtain ⟨⟨resolved, reckoned, expiry, hact, hclient, hexp, htrust, hexpires⟩, hbefore⟩ :=
      h.vouched s client n hmem
    subst hid
    obtain ⟨stored, act⟩ := s
    have hle := hbefore _ _ _ hact
    simp only at hact hexpires hle
    subst hact hexpires
    have hlive := WithTop.coe_lt_coe.mp hnow
    exact .inr ⟨newer, older, stored, resolved, reckoned, expiry, _, hhistory, hnewer, hclient, hexp, htrust, hle,
      by omega, by omega⟩

/-- **Every step from a kept ledger is within the trust.** -/
theorem Kept.withinTrust (h : Kept store f parseJwks configured l) (hclock : Clocked l s) :
    WithinTrust store f parseJwks configured l s := by
  have hdoes := apply_does store f parseJwks l.state s
  generalize happly : l.state.apply store f parseJwks s = done at hdoes
  refine ⟨fun id client hact hout => ?_, fun client expires hout => ?_, fun id hact hout => ?_, fun id hact hout => ?_,
    fun id hkept => ?_⟩
  · rw [happly] at hout
    cases hdoes with
    | @known id' client' hact' hget =>
      cases hout
      cases hact.symm.trans hact'
      rw [h.get hclock] at hget
      exact h.registered hget
    | _ => cases hout
  · rw [happly] at hout
    cases hdoes with
    | registered hvouched =>
      cases hout
      exact hvouched
    | _ => cases hout
  · rw [happly] at hout
    cases hdoes with
    | @refused id' hact' hget hfailed =>
      cases hact.symm.trans hact'
      rw [TtlCache.get_eq_live] at hfailed
      obtain ⟨expires, hview, hlive⟩ := TimedMap.live_eq_some.mp hfailed
      obtain ⟨-, t, ht, hexpires⟩ := h.noted id () expires hview
      subst hexpires
      obtain ⟨answer, reckoned, hmem⟩ := ht
      exact ⟨t, ⟨answer, reckoned, hmem⟩, Nat.le_trans (h.past _ hmem) hclock.1, hlive⟩
    | _ => cases hout
  · rw [happly] at hout
    cases hdoes with
    | @resolving id' hact' hget hfailed =>
      cases hact.symm.trans hact'
      refine ⟨(h.get hclock id).symm.trans hget, fun t ht hshort => ?_⟩
      obtain ⟨first, hfirst, hle, hwithin, hkept⟩ := h.failures id t ht hshort
      refine ⟨first, hfirst, hle, hwithin, Nat.not_lt.mp fun hlive => ?_⟩
      have hget' := hkept s.now hclock.1 hlive
      rw [hfailed] at hget'
      cases hget'
    | _ => cases hout
  · obtain ⟨⟨u, expires⟩, hview⟩ := Option.isSome_iff_exists.mp hkept
    exact (h.noted id u expires hview).1

variable (store f parseJwks)

def start (clients : σ) : RegistrationLedger σ := { state := { clients } }

theorem kept_start (clients : σ) : Kept store f parseJwks (store.view clients) (start clients) where
  clients := fun _ _ _ => rfl
  vouched _ _ _ hmem := by cases hmem
  past _ hmem := by cases hmem
  noted _ _ _ hview := by cases hview
  failures _ _ ht := by
    obtain ⟨_, _, hmem⟩ := ht
    cases hmem

/-- **No client is registered for longer than the trust in it had left when this
was reckoned, and failures hold the trust anchors off**: whatever requests
interleave, as long as the clock does not go back. -/
theorem registration_within_trust (clients : σ) {steps : List RegistrationStep}
    (hclock : Along (step store f parseJwks) Clocked (start clients) steps) :
    Along (step store f parseJwks) (WithinTrust store f parseJwks (store.view clients)) (start clients) steps :=
  Along.of_invariant (fun _ _ h hc => h.step hc) (fun _ _ h hc => h.withinTrust hc)
    (kept_start store f parseJwks clients) hclock

end RegistrationLedger

end

def ClientStore.table : ClientStore (Assoc (Client × WithTop Nat)) where
  get s now id := TimedMap.live (fun id => s.get id) (WithTop.some now) id
  putWithTtl s now client ttl := s.put client.clientId (client, WithTop.some (now + ttl))
  view s := fun id => s.get id
  get_eq _ _ _ := rfl
  put_agrees s now client ttl := by
    intro later _ id
    refine TimedMap.live_congr ?_ later
    show Assoc.get id (s.put client.clientId _) = _
    rw [Assoc.get_put]
    by_cases hid : client.clientId = id
    · subst hid
      simp
    · simp [hid, Ne.symm hid]

/-- A relying party whose trust ends two minutes from the start. -/
def resolvedRp : ResolvedEntity where
  subject := "https://rp.example"
  exp := some 1120
  metadata := .obj [("openid_relying_party", .obj [("redirect_uris", Json.strings ["https://rp.example/cb"])])]
  subjectJwks := { keys := [] }

/-- Two requests wait for one client; the first answer fails and the second does
not count anew. A minute after the first, the client is asked for again, and
stored a second after what is left of its trust was reckoned. -/
def registrationSteps : List RegistrationStep :=
  [⟨1000, .authorize "https://rp.example"⟩, ⟨1001, .authorize "https://rp.example"⟩,
    ⟨1002, .answered "https://rp.example" (.error (.authn "timeout")) 1002⟩, ⟨1003, .authorize "https://rp.example"⟩,
    ⟨1030, .answered "https://rp.example" (.error (.authn "timeout")) 1030⟩, ⟨1062, .authorize "https://rp.example"⟩,
    ⟨1063, .answered "https://rp.example" (.ok resolvedRp) 1062⟩, ⟨1120, .authorize "https://rp.example"⟩,
    ⟨1121, .authorize "https://rp.example"⟩]

theorem RegistrationLedger.registration_within_trust_demo :
    Along (RegistrationLedger.step .table { name := "fed", issuer := "https://op.example" } fun _ => none)
        (RegistrationLedger.WithinTrust .table { name := "fed", issuer := "https://op.example" } (fun _ => none)
          (ClientStore.table.view [])) (RegistrationLedger.start []) registrationSteps ∧
      ∃ client, (registrationSteps.foldl
          (RegistrationLedger.step .table { name := "fed", issuer := "https://op.example" } fun _ => none)
          (RegistrationLedger.start [])).history.map (·.2) =
        [.resolving, .known client, .registered client 1121, .resolving, .failed, .refused, .failed, .resolving,
          .resolving] := by
  refine ⟨RegistrationLedger.registration_within_trust .table { name := "fed", issuer := "https://op.example" }
    (fun _ => none) [] ?_, _, rfl⟩
  simp [registrationSteps, RegistrationLedger.Clocked, RegistrationLedger.step, RegistrationLedger.start]

end Tunnelbana
