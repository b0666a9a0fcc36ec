/-
The OP cache of the federation backend. A cached OP is answered only while the
trust result it came from is unexpired and younger than the configured
lifetime, over any interleaving of the calls (`op_cache_within_trust`). Times
and expirations are machine words here.
-/
import Mathlib.Data.Nat.Basic
import Tunnelbana.Basis.Run
import Tunnelbana.Basis.TimedMap
import Tunnelbana.Plugins.OidcCorrelation

namespace Tunnelbana

open Basis

/-! ## Machine words -/

def checkedSub (a b : UInt64) : Option UInt64 := if b ≤ a then some (a - b) else none

theorem toNat_sub_of_le {a b : UInt64} (h : b ≤ a) : (a - b).toNat = a.toNat - b.toNat :=
  UInt64.toNat_sub_of_le a b h

theorem toNat_min (a b : UInt64) : (min a b).toNat = min a.toNat b.toNat := by
  show (if a ≤ b then a else b).toNat = _
  rw [Nat.min_def]
  by_cases h : a ≤ b
  · rw [if_pos h, if_pos (UInt64.le_iff_toNat_le.mp h)]
  · rw [if_neg h, if_neg fun hle => h (UInt64.le_iff_toNat_le.mpr hle)]

/-- **Whichever lifetime ends first, the sum fits.** -/
theorem expiry_toNat {now exp : UInt64} (h : now ≤ exp) (ttl : UInt64) :
    (now + min ttl (exp - now)).toNat = min (now.toNat + ttl.toNat) exp.toNat := by
  have hle : now.toNat ≤ exp.toNat := UInt64.le_iff_toNat_le.mp h
  have hfits : exp.toNat < 2 ^ 64 := exp.toNat_lt
  have hmin : (min ttl (exp - now)).toNat = min ttl.toNat (exp.toNat - now.toNat) := by
    rw [toNat_min, toNat_sub_of_le h]
  rw [UInt64.toNat_add, hmin, Nat.mod_eq_of_lt (by omega)]
  omega

/-- What is left of a lifetime, as long as something is. -/
theorem checkedSub_left (exp now : UInt64) :
    ((checkedSub exp now).filter fun ttl => ttl > 0) = if now < exp then some (exp - now) else none := by
  unfold checkedSub
  by_cases hle : now ≤ exp
  · have hleft : 0 < exp - now ↔ now < exp := by
      simp only [UInt64.lt_iff_toNat_lt, toNat_sub_of_le hle, UInt64.toNat_zero]
      omega
    rw [if_pos hle, Option.filter_some]
    simp only [gt_iff_lt, hleft, decide_eq_true_eq]
  · rw [if_neg hle, if_neg fun hlt => hle (UInt64.le_of_lt hlt)]
    rfl

/-- A resolve response; its expiration is a machine word. -/
structure TrustResult where
  subject : String
  exp : Option UInt64
  metadata : Json
  subjectJwks : JwkSet

def TrustResult.entity (r : TrustResult) : ResolvedEntity where
  subject := r.subject
  exp := r.exp.map UInt64.toNat
  metadata := r.metadata
  subjectJwks := r.subjectJwks

abbrev OpCache : Type := Assoc (UInt64 × ResolvedOp)

namespace FederationBackend

variable (w : OidcWorld) (opCacheTtl : UInt64)

def cachedFresh (cache : OpCache) (opEntityId : String) (now : UInt64) : Option ResolvedOp :=
  ((cache.get opEntityId).filter fun p => p.1 > now).map (·.2)

/-- The OP of a trust result, and how long it may be cached: whichever lifetime
ends first. -/
def acceptResolved (now : UInt64) (resolved : TrustResult) : Except Error (UInt64 × ResolvedOp) :=
  match resolved.exp with
  | none => .error (.authn "resolved federation OP has no trust-anchor expiry")
  | some trustExpiry =>
    match (checkedSub trustExpiry now).filter fun ttl => ttl > 0 with
    | none => .error (.authn "resolved federation OP trust decision is expired")
    | some trustTtl =>
      match resolved.metadata.field "openid_provider" with
      | none => .error (.authn "resolved metadata has no openid_provider")
      | some opMeta => do
        let provider ← opProvider w resolved.entity opMeta
        return (now + min opCacheTtl trustTtl,
          { entityId := resolved.subject, provider, metadata := opMeta, federationJwks := resolved.subjectJwks })

/-- What the trust anchors answered: an accepted OP is cached. -/
def keepResolved (cache : OpCache) (opEntityId : String) (answer : Except Error TrustResult) (now : UInt64) :
    Except Error ResolvedOp × OpCache :=
  match answer with
  | .error e => (.error e, cache)
  | .ok resolved =>
    match acceptResolved w opCacheTtl now resolved with
    | .error e => (.error e, cache)
    | .ok (expires, op) => (.ok op, cache.put opEntityId (expires, op))

/-- A whole call: the cache at one time, else what the trust anchors answer by
another. -/
def resolveOpCached (cache : OpCache) (opEntityId : String) (now : UInt64) (answer : Except Error TrustResult)
    (answered : UInt64) : Except Error ResolvedOp × OpCache :=
  match cachedFresh cache opEntityId now with
  | some op => (.ok op, cache)
  | none => keepResolved w opCacheTtl cache opEntityId answer answered

/-! ## One call -/

variable {w} {opCacheTtl}

structure Trusted (w : OidcWorld) (now : UInt64) (result : TrustResult) (exp : UInt64) (op : ResolvedOp) : Prop where
  signed : result.exp = some exp
  unexpired : now < exp
  subject : op.entityId = result.subject
  issuer : op.provider.issuer = result.subject
  metadata : result.metadata.field "openid_provider" = some op.metadata
  provider : opProvider w result.entity op.metadata = .ok op.provider
  keys : op.federationJwks = result.subjectJwks

/-- **The issuer of resolved metadata is the resolved subject.** -/
theorem opProvider_issuer {resolved : ResolvedEntity} {opMeta : Json} {provider : ProviderInfo}
    (h : opProvider w resolved opMeta = .ok provider) : provider.issuer = resolved.subject := by
  unfold opProvider at h
  simp only at h
  split at h
  · cases h
  next hissuer =>
    split at h
    · cases h
    · cases h
    · obtain ⟨_, _, h⟩ := except_bind_ok.mp h
      obtain ⟨_, _, h⟩ := except_bind_ok.mp h
      obtain ⟨_, _, h⟩ := except_bind_ok.mp h
      obtain ⟨_, _, h⟩ := except_bind_ok.mp h
      cases h
      exact Decidable.not_not.mp hissuer

/-- **What is accepted is trusted, and cached no longer than that.** -/
theorem acceptResolved_ok {now expires : UInt64} {result : TrustResult} {op : ResolvedOp}
    (h : acceptResolved w opCacheTtl now result = .ok (expires, op)) :
    ∃ exp, Trusted w now result exp op ∧ expires = now + min opCacheTtl (exp - now) := by
  unfold acceptResolved at h
  cases hexp : result.exp with
  | none =>
    rw [hexp] at h
    cases h
  | some exp =>
    rw [hexp] at h
    simp only [checkedSub_left] at h
    split at h
    · cases h
    next trustTtl hfilter =>
      obtain ⟨hunexpired, rfl⟩ : now < exp ∧ exp - now = trustTtl := by
        split at hfilter
        next hlt => exact ⟨hlt, Option.some.inj hfilter⟩
        next => cases hfilter
      split at h
      · cases h
      next opMeta hmeta =>
        obtain ⟨provider, hprovider, h⟩ := except_bind_ok.mp h
        cases h
        exact ⟨exp, ⟨hexp, hunexpired, rfl, opProvider_issuer hprovider, hmeta, hprovider, rfl⟩, rfl⟩

theorem keepResolved_eq {cache : OpCache} {opEntityId : String} {now : UInt64} {result : TrustResult}
    (hnow : w.nowSecs = now.toNat) :
    (keepResolved w opCacheTtl cache opEntityId (.ok result) now).1 =
      match result.entity.exp with
      | none => .error (.authn "resolved federation OP has no trust-anchor expiry")
      | some exp =>
        if exp ≤ w.nowSecs then .error (.authn "resolved federation OP trust decision is expired")
        else
          match result.entity.metadata.field "openid_provider" with
          | none => .error (.authn "resolved metadata has no openid_provider")
          | some opMeta => do
            let provider ← opProvider w result.entity opMeta
            return { entityId := result.entity.subject, provider, metadata := opMeta,
                     federationJwks := result.entity.subjectJwks } := by
  obtain ⟨subject, exp, metadata, subjectJwks⟩ := result
  unfold keepResolved acceptResolved
  cases exp with
  | none => rfl
  | some exp =>
    simp only [TrustResult.entity, Option.map_some, checkedSub_left, hnow, ← UInt64.le_iff_toNat_le]
    by_cases hexpired : exp ≤ now
    · rw [if_pos hexpired, if_neg (UInt64.not_lt.mpr hexpired)]
    · rw [if_neg hexpired, if_pos (UInt64.not_le.mp hexpired)]
      simp only
      cases metadata.field "openid_provider" with
      | none => rfl
      | some opMeta =>
        simp only
        cases opProvider w _ opMeta <;> rfl

/-- **A call resolves an OP as the backend does in a world with that cache.** -/
theorem resolveOpCached_eq {cache : OpCache} {opEntityId : String} {now : UInt64} {answer : Except Error TrustResult}
    (hcache : w.cachedOp opEntityId = (cache.get opEntityId).map fun p => (p.1.toNat, p.2))
    (hnow : w.nowSecs = now.toNat) (hanswer : w.resolveViaTrustAnchors opEntityId = answer.map TrustResult.entity) :
    (resolveOpCached w opCacheTtl cache opEntityId now answer now).1 = resolveOp w opEntityId := by
  have hfresh : cachedFresh cache opEntityId now =
      ((w.cachedOp opEntityId).filter fun p => p.1 > w.nowSecs).map (·.2) := by
    unfold cachedFresh
    rw [hcache, hnow]
    cases cache.get opEntityId with
    | none => rfl
    | some p => simp [Option.filter, UInt64.lt_iff_toNat_lt, apply_ite]
  unfold resolveOpCached resolveOp
  rw [hfresh]
  cases (w.cachedOp opEntityId).filter fun p => p.1 > w.nowSecs with
  | some p => rfl
  | none =>
    simp only [Option.map_none, hanswer]
    cases answer with
    | error e => rfl
    | ok result => exact keepResolved_eq hnow

/-! ## Calls in flight -/

/-- A call begins, or the trust anchors answer one that waits. -/
inductive OpAct
  | resolve (opEntityId : String)
  | answered (opEntityId : String) (answer : Except Error TrustResult)

structure OpStep where
  now : UInt64
  act : OpAct

/-- What comes of a step: a cached OP, a call that waits for the trust anchors,
or the result of one that waited. -/
inductive OpOutcome
  | cached (op : ResolvedOp)
  | waiting
  | finished (result : Except Error ResolvedOp)
  | idle

structure OpState where
  cache : OpCache := []
  waiting : List String := []

def OpState.apply (w : OidcWorld) (opCacheTtl : UInt64) (s : OpState) (step : OpStep) : OpOutcome × OpState :=
  match step.act with
  | .resolve opEntityId =>
    match cachedFresh s.cache opEntityId step.now with
    | some op => (.cached op, s)
    | none => (.waiting, { s with waiting := opEntityId :: s.waiting })
  | .answered opEntityId answer =>
    if opEntityId ∈ s.waiting then
      let (result, cache) := keepResolved w opCacheTtl s.cache opEntityId answer step.now
      (.finished result, { cache, waiting := s.waiting.erase opEntityId })
    else (.idle, s)

def OpOutcome.Bare : OpOutcome → Prop
  | .cached _ | .finished (.ok _) => False
  | .waiting | .finished (.error _) | .idle => True

/-- What a step is: an answer from the cache, a trusted result that is cached, or
nothing that changes the cache. -/
inductive Does (w : OidcWorld) (opCacheTtl : UInt64) (state : OpState) (s : OpStep) : OpOutcome × OpState → Prop
  | cached {id op} : s.act = .resolve id → cachedFresh state.cache id s.now = some op →
    Does w opCacheTtl state s (.cached op, state)
  | resolved {id result exp op waiting} : s.act = .answered id (.ok result) → Trusted w s.now result exp op →
    Does w opCacheTtl state s (.finished (.ok op),
      { cache := state.cache.put id (s.now + min opCacheTtl (exp - s.now), op), waiting })
  | bare {outcome waiting} : outcome.Bare → Does w opCacheTtl state s (outcome, { cache := state.cache, waiting })

theorem apply_does (w : OidcWorld) (opCacheTtl : UInt64) (state : OpState) (s : OpStep) :
    Does w opCacheTtl state s (state.apply w opCacheTtl s) := by
  unfold OpState.apply
  cases hact : s.act with
  | resolve id =>
    simp only
    cases hfresh : cachedFresh state.cache id s.now with
    | some op => exact .cached hact hfresh
    | none => exact .bare trivial
  | answered id answer =>
    simp only
    by_cases hwaits : id ∈ state.waiting
    · rw [if_pos hwaits]
      cases answer with
      | error e => exact .bare trivial
      | ok result =>
        unfold keepResolved
        cases haccept : acceptResolved w opCacheTtl s.now result with
        | error e =>
          simp only [haccept]
          exact .bare trivial
        | ok accepted =>
          obtain ⟨expires, op⟩ := accepted
          obtain ⟨exp, htrusted, rfl⟩ := acceptResolved_ok haccept
          simp only [haccept]
          exact .resolved hact htrusted
    · rw [if_neg hwaits]
      exact .bare trivial

/-- **A whole call is its steps**: one, or two when the cache has no fresh OP. -/
theorem apply_resolve (state : OpState) (id : String) (now : UInt64) (answer : Except Error TrustResult)
    (answered : UInt64) :
    (∃ op, state.apply w opCacheTtl ⟨now, .resolve id⟩ = (.cached op, state) ∧
      resolveOpCached w opCacheTtl state.cache id now answer answered = (.ok op, state.cache)) ∨
    ∃ next result, state.apply w opCacheTtl ⟨now, .resolve id⟩ = (.waiting, next) ∧
      next.apply w opCacheTtl ⟨answered, .answered id answer⟩ = (.finished result.1, { state with cache := result.2 }) ∧
      resolveOpCached w opCacheTtl state.cache id now answer answered = result := by
  unfold resolveOpCached
  cases hfresh : cachedFresh state.cache id now with
  | some op => exact .inl ⟨op, by simp [OpState.apply, hfresh], rfl⟩
  | none =>
    refine .inr ⟨{ state with waiting := id :: state.waiting }, _, by simp [OpState.apply, hfresh], ?_, rfl⟩
    simp [OpState.apply]

abbrev OpEvent : Type := OpStep × OpOutcome

/-- The state with everything that happened, the latest first, and the time of
the last step. -/
structure OpLedger where
  state : OpState := {}
  history : List OpEvent := []
  clock : UInt64 := 0

namespace OpLedger

def step (w : OidcWorld) (opCacheTtl : UInt64) (l : OpLedger) (s : OpStep) : OpLedger where
  state := (l.state.apply w opCacheTtl s).2
  history := (s, (l.state.apply w opCacheTtl s).1) :: l.history
  clock := s.now

def Clocked (l : OpLedger) (s : OpStep) : Prop := l.clock ≤ s.now

/-- The OP is the one an OP was last resolved to, by that result at that time. -/
def LastResolved (history : List OpEvent) (opEntityId : String) (time : UInt64) (result : TrustResult)
    (op : ResolvedOp) : Prop :=
  ∃ newer older, history = newer ++ (⟨time, .answered opEntityId (.ok result)⟩, .finished (.ok op)) :: older ∧
    ∀ e ∈ newer, ∀ time' result' op', e ≠ (⟨time', .answered opEntityId (.ok result')⟩, .finished (.ok op'))

/-- A cached OP is that of the last trust result of its entity, unexpired and
younger than the lifetime. A resolved one is that of an unexpired answer, and
its expiry is the sum in full. Nothing else changes the cache. -/
def WithinTrust (w : OidcWorld) (opCacheTtl : UInt64) (l : OpLedger) (s : OpStep) : Prop :=
  match s.act, l.state.apply w opCacheTtl s with
  | .resolve opEntityId, (.cached op, next) =>
    next.cache = l.state.cache ∧
      ∃ resolved result exp, LastResolved l.history opEntityId resolved result op ∧ resolved ≤ s.now ∧
        Trusted w s.now result exp op ∧ s.now.toNat - resolved.toNat < opCacheTtl.toNat
  | .answered opEntityId answer, (.finished (.ok op), next) =>
    ∃ result exp expires, answer = .ok result ∧ Trusted w s.now result exp op ∧
      next.cache = l.state.cache.put opEntityId (expires, op) ∧
      checkedSub exp s.now = some (exp - s.now) ∧ (exp - s.now).toNat = exp.toNat - s.now.toNat ∧
      expires.toNat = s.now.toNat + min opCacheTtl.toNat (exp - s.now).toNat ∧ expires ≤ exp
  | _, (_, next) => next.cache = l.state.cache

/-! ## The cache as a timed map -/

/-- What an event makes known of an OP, until the earlier end of the two
lifetimes. -/
def known (opCacheTtl : UInt64) (opEntityId : String) : OpEvent → Option (ResolvedOp × Nat)
  | (⟨now, .answered id (.ok result)⟩, .finished (.ok op)) =>
    if id = opEntityId then result.exp.map fun exp => (op, min (now.toNat + opCacheTtl.toNat) exp.toNat) else none
  | _ => none

def lastKnown (opCacheTtl : UInt64) (history : List OpEvent) : TimedMap String Nat ResolvedOp :=
  fun opEntityId => history.findSome? (known opCacheTtl opEntityId)

/-- Every entry is what was last made known; every result was trusted when it came. -/
structure Backed (w : OidcWorld) (opCacheTtl : UInt64) (l : OpLedger) : Prop where
  entries : ∀ id, (l.state.cache.get id).map (fun p => (p.2, p.1.toNat)) = lastKnown opCacheTtl l.history id
  past : ∀ e ∈ l.history, e.1.now ≤ l.clock
  trusted : ∀ now id result op, (⟨now, .answered id (.ok result)⟩, .finished (.ok op)) ∈ l.history →
    ∃ exp, Trusted w now result exp op

variable {l : OpLedger} {s : OpStep}

/-- **The cache answers as the timed map of the trusted results.** -/
theorem Backed.fresh (h : Backed w opCacheTtl l) (id : String) (now : UInt64) :
    cachedFresh l.state.cache id now = (lastKnown opCacheTtl l.history).live now.toNat id := by
  unfold cachedFresh TimedMap.live
  rw [← h.entries id]
  cases l.state.cache.get id with
  | none => rfl
  | some p => simp [Option.filter, UInt64.lt_iff_toNat_lt, apply_ite]

theorem known_none {outcome : OpOutcome} (h : ∀ op, outcome ≠ .finished (.ok op)) (opCacheTtl : UInt64) (id : String)
    (s : OpStep) : known opCacheTtl id (s, outcome) = none := by
  unfold known
  split
  next heq =>
    cases heq
    exact absurd rfl (h _)
  next => rfl

theorem Backed.quiet (h : Backed w opCacheTtl l) (hclock : Clocked l s) {outcome : OpOutcome} {waiting : List String}
    (happly : l.state.apply w opCacheTtl s = (outcome, { cache := l.state.cache, waiting }))
    (houtcome : ∀ op, outcome ≠ .finished (.ok op)) : Backed w opCacheTtl (l.step w opCacheTtl s) := by
  unfold OpLedger.step
  rw [happly]
  refine ⟨fun id => ?_, fun e hmem => ?_, fun now id result op hmem => ?_⟩
  · show (l.state.cache.get id).map _ = List.findSome? _ (_ :: l.history)
    rw [h.entries id, List.findSome?_cons, known_none houtcome]
    rfl
  · rcases List.mem_cons.mp hmem with rfl | hmem
    · exact UInt64.le_refl _
    · exact UInt64.le_trans (h.past e hmem) hclock
  · rcases List.mem_cons.mp hmem with heq | hmem
    · cases heq
      exact absurd rfl (houtcome op)
    · exact h.trusted now id result op hmem

theorem Backed.step (h : Backed w opCacheTtl l) (hclock : Clocked l s) :
    Backed w opCacheTtl (l.step w opCacheTtl s) := by
  have hdoes := apply_does w opCacheTtl l.state s
  generalize happly : l.state.apply w opCacheTtl s = done at hdoes
  cases hdoes with
  | cached hact hfresh => exact h.quiet hclock happly fun _ heq => by cases heq
  | bare houtcome => exact h.quiet hclock happly fun op heq => by rw [heq] at houtcome; exact houtcome
  | @resolved id result exp op waiting hact htrusted =>
    obtain ⟨now, act⟩ := s
    simp only at hact htrusted happly
    subst hact
    unfold OpLedger.step
    rw [happly]
    have hexpiry := expiry_toNat (UInt64.le_of_lt htrusted.unexpired) opCacheTtl
    refine ⟨fun id' => ?_, fun e hmem => ?_, fun now' id' result' op' hmem => ?_⟩
    · show ((l.state.cache.put id _).get id').map _ = List.findSome? _ (_ :: l.history)
      rw [List.findSome?_cons]
      by_cases hid : id = id'
      · subst hid
        rw [Assoc.get_put_self]
        simp [known, htrusted.signed, hexpiry]
      · rw [Assoc.get_put_other _ _ hid, h.entries id']
        simp only [known, if_neg hid]
        rfl
    · rcases List.mem_cons.mp hmem with rfl | hmem
      · exact UInt64.le_refl _
      · exact UInt64.le_trans (h.past e hmem) hclock
    · rcases List.mem_cons.mp hmem with heq | hmem
      · cases heq
        exact ⟨exp, htrusted⟩
      · exact h.trusted now' id' result' op' hmem

theorem known_some {id : String} {e : OpEvent} {op : ResolvedOp} {expires : Nat}
    (h : known opCacheTtl id e = some (op, expires)) :
    ∃ resolved result exp, e = (⟨resolved, .answered id (.ok result)⟩, .finished (.ok op)) ∧ result.exp = some exp ∧
      expires = min (resolved.toNat + opCacheTtl.toNat) exp.toNat := by
  unfold known at h
  split at h
  next resolved id' result op' =>
    split at h
    next hid =>
      subst hid
      obtain ⟨exp, hexp, heq⟩ := Option.map_eq_some_iff.mp h
      cases heq
      exact ⟨resolved, result, exp, rfl, hexp, rfl⟩
    next => cases h
  next => cases h

/-- **A cached OP is that of the last trusted result, within both lifetimes.** -/
theorem Backed.cached (h : Backed w opCacheTtl l) {id : String} {now : UInt64} (hclock : l.clock ≤ now)
    {op : ResolvedOp} (hfresh : cachedFresh l.state.cache id now = some op) :
    ∃ resolved result exp, LastResolved l.history id resolved result op ∧ resolved ≤ now ∧
      Trusted w now result exp op ∧ now.toNat - resolved.toNat < opCacheTtl.toNat := by
  rw [h.fresh] at hfresh
  obtain ⟨expires, hlast, hlive⟩ := TimedMap.live_eq_some.mp hfresh
  obtain ⟨newer, e, older, hhistory, hknown, hnewer⟩ := List.findSome?_eq_some_iff.mp hlast
  obtain ⟨resolved, result, exp, rfl, hexp, rfl⟩ := known_some hknown
  have hmem : (⟨resolved, .answered id (.ok result)⟩, .finished (.ok op)) ∈ l.history := by
    rw [hhistory]
    exact List.mem_append_right newer List.mem_cons_self
  obtain ⟨exp', htrusted⟩ := h.trusted resolved id result op hmem
  have hsame : exp' = exp := Option.some.inj (htrusted.signed.symm.trans hexp)
  subst hsame
  have hpast : resolved ≤ now := UInt64.le_trans (h.past _ hmem) hclock
  refine ⟨resolved, result, exp', ⟨newer, older, hhistory, ?_⟩, hpast, ?_, ?_⟩
  · -- A later result would have been known instead.
    rintro e hlater resolved' result' op' rfl
    have hin : (⟨resolved', .answered id (.ok result')⟩, .finished (.ok op')) ∈ l.history := by
      rw [hhistory]
      exact List.mem_append_left _ hlater
    obtain ⟨_, htrusted'⟩ := h.trusted resolved' id result' op' hin
    have hnone := hnewer _ hlater
    simp [known, htrusted'.signed] at hnone
  · have hunexpired : now < exp' := UInt64.lt_iff_toNat_lt.mpr (by omega)
    exact { htrusted with unexpired := hunexpired }
  · have hage : resolved.toNat ≤ now.toNat := UInt64.le_iff_toNat_le.mp hpast
    omega

theorem Backed.withinTrust (h : Backed w opCacheTtl l) (hclock : Clocked l s) : WithinTrust w opCacheTtl l s := by
  unfold WithinTrust
  have hdoes := apply_does w opCacheTtl l.state s
  generalize l.state.apply w opCacheTtl s = done at hdoes
  cases hdoes with
  | cached hact hfresh =>
    rw [hact]
    exact ⟨rfl, h.cached hclock hfresh⟩
  | @resolved id result exp op waiting hact htrusted =>
    rw [hact]
    have hle : s.now ≤ exp := UInt64.le_of_lt htrusted.unexpired
    have hexpiry := expiry_toNat hle opCacheTtl
    have hsub := toNat_sub_of_le hle
    have hbound : s.now.toNat ≤ exp.toNat := UInt64.le_iff_toNat_le.mp hle
    refine ⟨result, exp, _, rfl, htrusted, rfl, if_pos hle, hsub, ?_, ?_⟩
    · rw [hexpiry, hsub]
      omega
    · rw [UInt64.le_iff_toNat_le, hexpiry]
      exact Nat.min_le_right _ _
  | @bare outcome waiting houtcome =>
    split
    next heq =>
      cases heq
      cases houtcome
    next heq =>
      cases heq
      cases houtcome
    next heq _ _ =>
      cases heq
      rfl

theorem backed_start (w : OidcWorld) (opCacheTtl : UInt64) : Backed w opCacheTtl {} where
  entries _ := rfl
  past _ hmem := by cases hmem
  trusted _ _ _ _ hmem := by cases hmem

/-- **The OP cache never outlives trust**: whatever calls interleave, as long as
the clock does not go back. -/
theorem op_cache_within_trust (w : OidcWorld) (opCacheTtl : UInt64) {steps : List OpStep}
    (hclock : Along (step w opCacheTtl) Clocked {} steps) :
    Along (step w opCacheTtl) (WithinTrust w opCacheTtl) {} steps :=
  Along.of_invariant (fun _ _ h hc => h.step hc) (fun _ _ h hc => h.withinTrust hc) (backed_start w opCacheTtl) hclock

/-- A resolve response that expires a hundred seconds after the first call. -/
def vouched : TrustResult where
  subject := "https://op.example"
  exp := some 1735689700
  metadata := .obj [("openid_provider", .obj [("issuer", .str "https://op.example"),
    ("authorization_endpoint", .str "https://op.example/authorize"),
    ("token_endpoint", .str "https://op.example/token")])]
  subjectJwks := { keys := ["k1"] }

/-- An OP is resolved, answered from the cache, and resolved anew a minute later. -/
def resolvingSteps : List OpStep :=
  [⟨1735689600, .resolve "https://op.example"⟩, ⟨1735689601, .answered "https://op.example" (.ok vouched)⟩,
    ⟨1735689660, .resolve "https://op.example"⟩, ⟨1735689661, .resolve "https://op.example"⟩]

theorem op_cache_within_trust_demo :
    Along (step (RpBackend.oneOp "1") 60) (WithinTrust (RpBackend.oneOp "1") 60) {} resolvingSteps ∧
      ∃ op, (resolvingSteps.foldl (step (RpBackend.oneOp "1") 60) {}).history.map (·.2) =
        [.waiting, .cached op, .finished (.ok op), .waiting] := by
  refine ⟨op_cache_within_trust (RpBackend.oneOp "1") 60 ?_, _, rfl⟩
  simp only [resolvingSteps, along_cons, along_nil, and_true, Clocked, step]
  decide

end OpLedger

end FederationBackend

end Tunnelbana
