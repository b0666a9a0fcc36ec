/-
State cookies across restarts. Between two visits of a browser the proxy may have
been restarted with another configuration: another current secret, other ones
kept for decryption, another lifetime.

`Held` is what the browser holds, with the configuration that sealed it. A visit
reads it under the configuration of its own time (`rotations_read`): that is the
state sealed as long as the secret that sealed it is still configured, and none
otherwise. No secret that takes part is shorter than what a configuration must
have.
-/
import Tunnelbana.Core.Config
import Tunnelbana.Core.Lifetime

namespace Tunnelbana

open Basis

namespace ProxyConfig

def secrets (cfg : ProxyConfig) : List String := cfg.stateEncryptionKey :: cfg.previousStateEncryptionKeys

def sealer (c : Crypto) (cfg : ProxyConfig) : StateSealer :=
  let ttl := if cfg.stateCookieMaxAge = 0 then none else some cfg.stateCookieMaxAge
  ((((StateSealer.new c cfg.stateEncryptionKey cfg.cookieName).withSecure cfg.cookieSecure).withSameSite
    cfg.cookieSameSite).withTtlSeconds ttl).withPreviousSecrets c cfg.previousStateEncryptionKeys

def Loaded (cfg : ProxyConfig) : Prop := ∃ parse env text, fromStr parse env text = .ok cfg

variable {c : Crypto} {cfg cfg' : ProxyConfig}

theorem Loaded.accepted (h : cfg.Loaded) : cfg.Accepted := by
  obtain ⟨parse, env, text, hload⟩ := h
  obtain ⟨_, _, _, _, haccepted⟩ := (fromStr_ok parse env text cfg).mp hload
  exact haccepted

/-- No secret of an accepted configuration is dropped for being empty. -/
theorem Accepted.sealer_keys (h : cfg.Accepted) : (cfg.sealer c).keys = cfg.secrets.map c.deriveKey := by
  have hkept : cfg.previousStateEncryptionKeys.filter (· ≠ "") = cfg.previousStateEncryptionKeys := by
    refine List.filter_eq_self.mpr fun key hkey => ?_
    have hlong := h.keys key (List.mem_cons_of_mem _ hkey)
    simp only [decide_eq_true_eq, ne_eq]
    rintro rfl
    exact absurd hlong (by decide)
  show c.deriveKey cfg.stateEncryptionKey :: (cfg.previousStateEncryptionKeys.filter (· ≠ "")).map c.deriveKey = _
  rw [hkept]
  rfl

/-- The key one configuration seals with is one of another's exactly when the
secret is. -/
theorem Accepted.shares_key (hderive : Function.Injective c.deriveKey) (h : cfg.Accepted) (h' : cfg'.Accepted) :
    (cfg.sealer c).keys.headD [] ∈ (cfg'.sealer c).keys ↔ cfg.stateEncryptionKey ∈ cfg'.secrets := by
  rw [h.sealer_keys, h'.sealer_keys]
  exact List.mem_map_of_injective hderive

end ProxyConfig

/-! ## Visits -/

structure Visit where
  cfg : ProxyConfig
  openedAt : Nat
  mutations : List Mutation
  sealedAt : Nat
  nonce : Bytes

/-- What the browser holds, and what was sealed: by which configuration, when,
and which state. -/
structure Held where
  cookie : Option String := none
  last : Option (ProxyConfig × Nat × State) := none

section
variable (c : Crypto)

def Visit.round (v : Visit) : Round where
  sealer := v.cfg.sealer c
  openedAt := v.openedAt
  mutations := v.mutations
  sealedAt := v.sealedAt
  nonce := v.nonce

/-- A response that cannot be sealed clears the cookie, as one that asks for it does. -/
def Held.visit (l : Held) (v : Visit) : Held :=
  match (v.round c).answer c l.cookie with
  | .error _ => {}
  | .ok cookie =>
    { cookie := some cookie.value
      last := if ((v.round c).changed c l.cookie).delete then none
        else some (v.cfg, v.sealedAt, (v.round c).changed c l.cookie) }

/-- The configuration loads, the clock has 64 bits, and the values stored are JSON. -/
structure Takes (v : Visit) : Prop where
  loaded : v.cfg.Loaded
  clock : v.sealedAt < 2 ^ 64
  mutations : ∀ m ∈ v.mutations, m.Storable

def Held.opens (l : Held) (v : Visit) : State :=
  match l.last with
  | none => State.new
  | some (cfg, now, state) =>
    if cfg.stateEncryptionKey ∈ v.cfg.secrets then (v.cfg.sealer c).reread now state v.openedAt else State.new

/-- The browser holds what was sealed last. -/
structure Held.Sound (l : Held) : Prop where
  nothing : l.last = none → l.cookie = none ∨ l.cookie = some ""
  something : ∀ cfg now state, l.last = some (cfg, now, state) →
    cfg.Accepted ∧ state.Storable ∧ state.delete = false ∧ now < 2 ^ 64 ∧
      ∃ nonce cookie, (cfg.sealer c).seal c now nonce state = .ok cookie ∧ l.cookie = some cookie.value

end

variable {c : Crypto}

theorem reread_storable {s : StateSealer} {now later : Nat} {state : State} (h : state.Storable) (hnow : now < 2 ^ 64) :
    (s.reread now state later).Storable := by
  unfold StateSealer.reread
  split
  next => exact ⟨h.data, fun t ht => by cases ht; exact (h.envelope hnow).iat⟩
  next => exact storable_new

namespace Held

variable {l : Held} {v : Visit}

theorem opens_storable (h : l.Sound c) : (l.opens c v).Storable := by
  unfold opens
  cases hlast : l.last with
  | none => exact storable_new
  | some last =>
    obtain ⟨cfg, now, state⟩ := last
    obtain ⟨_, hstate, _, hnow, _⟩ := h.something cfg now state hlast
    dsimp only
    split
    next => exact reread_storable hstate hnow
    next => exact storable_new

/-- A visit reads what was sealed last if its configuration has the secret. -/
theorem Sound.opened (hc : c.Lawful) (hderive : Function.Injective c.deriveKey) (h : l.Sound c) (hv : Takes v) :
    (v.round c).opened c l.cookie = l.opens c v := by
  unfold opens
  cases hlast : l.last with
  | none =>
    rcases h.nothing hlast with hcookie | hcookie
    · rw [hcookie]
      rfl
    · rw [hcookie]
      rfl
  | some last =>
    obtain ⟨cfg, now, state⟩ := last
    obtain ⟨haccepted, hstate, hdel, hnow, nonce, cookie, hseal, hcookie⟩ := h.something cfg now state hlast
    have hshares := haccepted.shares_key hderive hv.loaded.accepted
    show (v.cfg.sealer c).unseal c v.openedAt l.cookie = _
    rw [hcookie]
    dsimp only
    split
    next hmem => exact unseal_eq_reread hc hstate hdel hnow hseal (hshares.mpr hmem)
    next hnot => exact unseal_foreign hc (fun hkey => hnot (hshares.mp hkey)) hdel hseal

theorem Sound.visit (hc : c.Lawful) (hderive : Function.Injective c.deriveKey) (h : l.Sound c) (hv : Takes v) :
    (l.visit c v).Sound c := by
  have hopened : ((v.round c).opened c l.cookie).Storable := by
    rw [h.opened hc hderive hv]
    exact opens_storable h
  have hstorable := changed_storable (r := v.round c) hv.mutations hopened
  unfold Held.visit
  cases hanswer : (v.round c).answer c l.cookie with
  | error e => exact ⟨fun _ => .inl rfl, fun _ _ _ hlast => by cases hlast⟩
  | ok cookie =>
    cases hdel : ((v.round c).changed c l.cookie).delete with
    | true =>
      have hclear : cookie = (v.cfg.sealer c).clearCookie := by
        simp only [Round.answer, StateSealer.seal, hdel, if_true, Except.ok.injEq] at hanswer
        exact hanswer.symm
      refine ⟨fun _ => .inr ?_, fun _ _ _ hlast => ?_⟩
      · rw [hclear]
        rfl
      · simp at hlast
    | false =>
      refine ⟨fun hnone => by simp at hnone, fun cfg now state hlast => ?_⟩
      simp only [Bool.false_eq_true, if_false, Option.some.injEq, Prod.mk.injEq] at hlast
      obtain ⟨rfl, rfl, rfl⟩ := hlast
      exact ⟨hv.loaded.accepted, hstorable, hdel, hv.clock, v.nonce, cookie, hanswer, rfl⟩

end Held

end Tunnelbana
