/-
How long a chain of cookies lives. A request unseals the cookie of the
previous response, its handlers change the state, and the response seals it
again, possibly under rotated keys.

`Holds` says what the browser holds while the chain is alive: nothing, a
cleared cookie, or an envelope issued when the chain began. Every round keeps
it, so no round reads anything past the lifetime (`chain_lifetime_iff`). The
`Max-Age` that goes out is the time left as long as that fits the signed
number it is cast to.
-/
import Tunnelbana.Core.SealFacts

namespace Tunnelbana

open Basis

/-! ## Changes to the state -/

inductive Mutation where
  | setStr (ns key value : String)
  | setValue (ns key : String) (value : Json)
  | clearNamespace (ns : String)
  | setDelete (delete : Bool)

namespace Mutation

def apply : Mutation → State → State
  | .setStr ns key value, s => s.setStr ns key value
  | .setValue ns key value, s => s.setValue ns key value
  | .clearNamespace ns, s => s.clearNamespace ns
  | .setDelete delete, s => { s with delete }

/-- The value stored is one a JSON library can hold. -/
def Storable : Mutation → Prop
  | .setValue _ _ value => value.Valid
  | _ => True

theorem apply_issuedAt (m : Mutation) (s : State) : (m.apply s).issuedAt = s.issuedAt := by
  cases m <;> rfl

end Mutation

theorem distinct_erase {m : Assoc Json} (h : m.Distinct) (k : String) : Assoc.Distinct (m.erase k) := by
  induction m with
  | nil => exact h
  | cons p m ih =>
    obtain ⟨a, w⟩ := p
    simp only [Assoc.Distinct, Assoc.keys, List.map_cons, List.nodup_cons] at h
    by_cases hak : a = k
    · simpa [Assoc.erase, hak] using ih h.2
    · have hrest : Assoc.Distinct (Assoc.erase k m) := ih h.2
      have hnot : a ∉ Assoc.keys (Assoc.erase k m) := by
        intro hmem
        obtain ⟨q, hq, rfl⟩ := List.mem_map.mp hmem
        exact h.1 (List.mem_map_of_mem (Assoc.mem_erase hq))
      simp only [Assoc.erase, hak, if_false, Assoc.Distinct, Assoc.keys, List.map_cons, List.nodup_cons]
      exact ⟨hnot, hrest⟩

theorem valid_put {fs : Assoc Json} (h : Json.Valid (.obj fs)) (k : String) {v : Json} (hv : v.Valid) :
    Json.Valid (.obj (fs.put k v)) := by
  rw [Json.valid_obj] at h ⊢
  refine ⟨h.1.put k v, fun p hp => ?_⟩
  rcases Assoc.mem_put hp with rfl | hp
  · exact hv
  · exact h.2 p hp

theorem State.Storable.setValue {s : State} (h : s.Storable) (ns key : String) {value : Json}
    (hv : value.Valid) : (s.setValue ns key value).Storable := by
  refine ⟨valid_put h.data ns ?_, h.issuedAt⟩
  have hns : ((s.data.get ns).getD (.obj [])).Valid := by
    cases hget : s.data.get ns with
    | none => simp [Json.Valid, Json.ValidFields, Assoc.Distinct, Assoc.keys]
    | some v => exact (Json.valid_obj.mp h.data).2 _ (Assoc.get_mem hget)
  cases hobj : (s.data.get ns).getD (.obj []) with
  | obj fs =>
    rw [hobj] at hns
    exact valid_put hns key hv
  | _ =>
    rw [hobj] at hns
    exact hns

theorem State.Storable.clearNamespace {s : State} (h : s.Storable) (ns : String) :
    (s.clearNamespace ns).Storable := by
  have hdata := Json.valid_obj.mp h.data
  exact ⟨Json.valid_obj.mpr ⟨distinct_erase hdata.1 ns, fun p hp => hdata.2 p (Assoc.mem_erase hp)⟩,
    h.issuedAt⟩

theorem Mutation.apply_storable {m : Mutation} (hm : m.Storable) {s : State} (h : s.Storable) :
    (m.apply s).Storable := by
  cases m with
  | setStr ns key value => exact h.setValue ns key (by simp [Json.Valid])
  | setValue ns key value => exact h.setValue ns key hm
  | clearNamespace ns => exact h.clearNamespace ns
  | setDelete delete => exact ⟨h.data, h.issuedAt⟩

theorem storable_new : State.new.Storable := by
  refine ⟨?_, fun t h => by cases h⟩
  simp [State.new, Json.Valid, Json.ValidFields, Assoc.Distinct, Assoc.keys]

/-! ## Rounds -/

/-- One request: when it unseals, what it changes, and when it seals. Every
round may use other keys. -/
structure Round where
  sealer : StateSealer
  openedAt : Nat
  mutations : List Mutation
  sealedAt : Nat
  nonce : Bytes

/-- A chain between two requests. It is alive while every request so far read
the envelope before it. -/
structure Chain where
  cookie : Option String
  clock : Nat
  alive : Bool

section
variable (c : Crypto)

def Round.opened (r : Round) (cookie : Option String) : State := r.sealer.unseal c r.openedAt cookie

def Round.changed (r : Round) (cookie : Option String) : State :=
  r.mutations.foldl (fun s m => m.apply s) (r.opened c cookie)

def Round.answer (r : Round) (cookie : Option String) : Except Error SetCookie :=
  r.sealer.seal c r.sealedAt r.nonce (r.changed c cookie)

/-- A response that cannot be sealed clears the cookie. -/
def Chain.step (ch : Chain) (r : Round) : Chain where
  cookie := match r.answer c ch.cookie with
    | .ok k => some k.value
    | .error _ => none
  clock := r.sealedAt
  alive := ch.alive && (r.opened c ch.cookie).issuedAt.isSome

/-- The TTL is the chain's, the clock does not go back, and the values stored
are JSON. -/
structure Admissible (ttl : Nat) (ch : Chain) (r : Round) : Prop where
  ttl : r.sealer.ttlSeconds = some ttl
  opened : ch.clock ≤ r.openedAt
  sealed : r.openedAt ≤ r.sealedAt
  clock : r.sealedAt < 2 ^ 64
  mutations : ∀ m ∈ r.mutations, m.Storable

/-- What the lifetime bound asks of a round of a live chain begun at `t₀`: past
the lifetime it reads nothing; if it reads the chain's data, the envelope it
seals still carries `t₀`, and `Max-Age` is the time left. A cleared cookie
carries no envelope. -/
def Bounded (ttl t₀ : Nat) (ch : Chain) (r : Round) : Prop :=
  ch.alive = true →
    (t₀ + ttl ≤ r.openedAt → r.opened c ch.cookie = State.new) ∧
    ((r.opened c ch.cookie).issuedAt.isSome = true →
      (StateSealer.envelope r.sealedAt (r.changed c ch.cookie)).iat = t₀ ∧
      ∀ k, r.answer c ch.cookie = .ok k → (r.changed c ch.cookie).delete = false →
        k.maxAge = some ((ttl - (r.sealedAt - t₀) : Nat) : Int))

/-- What the browser holds of a live chain begun at `t₀`. -/
def Holds (t₀ : Nat) (ch : Chain) : Prop :=
  ch.alive = true → t₀ ≤ ch.clock ∧
    (ch.cookie = none ∨ ch.cookie = some "" ∨
      ∃ s now nonce state k, state.Storable ∧ state.delete = false ∧ now < 2 ^ 64 ∧
        StateSealer.seal c s now nonce state = .ok k ∧ ch.cookie = some k.value ∧
        StateSealer.sealedAt now state = t₀)

end

variable {c : Crypto}

theorem changed_issuedAt (r : Round) (cookie : Option String) :
    (r.changed c cookie).issuedAt = (r.opened c cookie).issuedAt := by
  have hfold : ∀ (ms : List Mutation) (s : State), (ms.foldl (fun s m => m.apply s) s).issuedAt = s.issuedAt := by
    intro ms
    induction ms with
    | nil => intro s; rfl
    | cons m ms ih => intro s; rw [List.foldl_cons, ih, m.apply_issuedAt]
  exact hfold _ _

theorem changed_storable {r : Round} {cookie : Option String} (hm : ∀ m ∈ r.mutations, m.Storable)
    (h : (r.opened c cookie).Storable) : (r.changed c cookie).Storable := by
  have hfold : ∀ (ms : List Mutation) (s : State), (∀ m ∈ ms, m.Storable) → s.Storable →
      (ms.foldl (fun s m => m.apply s) s).Storable := by
    intro ms
    induction ms with
    | nil => intro s _ hs; exact hs
    | cons m ms ih =>
      intro s hms hs
      exact ih _ (fun m' hm' => hms m' (List.mem_cons_of_mem _ hm'))
        (Mutation.apply_storable (hms m List.mem_cons_self) hs)
  exact hfold _ _ hm h

/-- What a round of a live chain reads: nothing, or data issued at `t₀` that is
still fresh. -/
theorem Holds.opened_cases (hc : c.Lawful) {t₀ : Nat} {ch : Chain} (h : Holds c t₀ ch)
    (halive : ch.alive = true) (r : Round) :
    (r.opened c ch.cookie).Storable ∧ (r.opened c ch.cookie = State.new ∨
      (r.sealer.fresh r.openedAt t₀ = true ∧ (r.opened c ch.cookie).issuedAt = some t₀)) := by
  obtain ⟨_, hcookie⟩ := h halive
  rcases hcookie with hnone | hempty | ⟨s, now, nonce, state, k, hstate, hdel, hnow, hseal, hk, hat⟩
  · have : r.opened c ch.cookie = State.new := by rw [hnone]; rfl
    exact ⟨this ▸ storable_new, .inl this⟩
  · have : r.opened c ch.cookie = State.new := by rw [hempty]; rfl
    exact ⟨this ▸ storable_new, .inl this⟩
  · have hread : r.opened c ch.cookie = State.new ∨ (r.sealer.fresh r.openedAt t₀ = true ∧
        r.opened c ch.cookie = { data := state.data, issuedAt := some t₀, delete := false }) := by
      rw [hk, ← hat]
      exact unseal_cases hc hstate hdel hnow hseal
    rcases hread with hnew | ⟨hfresh, heq⟩
    · exact ⟨hnew ▸ storable_new, .inl hnew⟩
    · have hlt : t₀ < 2 ^ 64 := by
        rw [← hat]
        exact (hstate.envelope hnow).iat
      refine ⟨?_, .inr ⟨hfresh, by rw [heq]⟩⟩
      rw [heq]
      exact ⟨hstate.data, fun t ht => by cases ht; exact hlt⟩

theorem fresh_lt {s : StateSealer} {ttl now t₀ : Nat} (httl : s.ttlSeconds = some ttl)
    (h : s.fresh now t₀ = true) : now - t₀ < ttl := by
  simp only [StateSealer.fresh, httl, Bool.and_eq_true, decide_eq_true_eq] at h
  exact h.2

theorem asI64_of_lt {n : Nat} (h : n < 2 ^ 63) : asI64 n = (n : Int) := by
  have hmod : n % 2 ^ 64 = n := Nat.mod_eq_of_lt (by omega)
  rw [asI64, hmod, if_pos h]

/-- The cast keeps a number exactly when it fits. -/
theorem asI64_eq_iff {n : Nat} : asI64 n = (n : Int) ↔ n < 2 ^ 63 := by
  refine ⟨fun h => ?_, asI64_of_lt⟩
  unfold asI64 at h
  split at h <;> omega

theorem answer_maxAge {r : Round} {cookie : Option String} {ttl t₀ : Nat} (httl : r.sealer.ttlSeconds = some ttl)
    (hat : (r.changed c cookie).issuedAt = some t₀) (hdel : (r.changed c cookie).delete = false)
    {k : SetCookie} (hk : r.answer c cookie = .ok k) :
    k.maxAge = some (asI64 (ttl - (r.sealedAt - t₀))) := by
  obtain ⟨plaintext, token, _, _, rfl⟩ := seal_eq_ok hdel hk
  simp only [StateSealer.cookieHeader, httl, Option.map_some, StateSealer.remaining, StateSealer.sealedAt, hat,
    Option.getD_some]

/-! ## The invariant along a chain -/

theorem Holds.step (hc : c.Lawful) {ttl t₀ : Nat} {ch : Chain} (h : Holds c t₀ ch) {r : Round}
    (hr : Admissible ttl ch r) : Holds c t₀ (ch.step c r) := by
  intro halive
  simp only [Chain.step, Bool.and_eq_true] at halive
  obtain ⟨halive, hread⟩ := halive
  have hclock : t₀ ≤ r.sealedAt := by
    have h₁ := (h halive).1
    have h₂ := hr.opened
    have h₃ := hr.sealed
    omega
  refine ⟨hclock, ?_⟩
  obtain ⟨hstorable, hcases⟩ := h.opened_cases hc halive r
  have hat : (r.changed c ch.cookie).issuedAt = some t₀ := by
    rw [changed_issuedAt]
    rcases hcases with hnew | ⟨_, hat⟩
    · rw [hnew] at hread; cases hread
    · exact hat
  cases hans : r.answer c ch.cookie with
  | error e => exact .inl (by simp only [Chain.step, hans])
  | ok k =>
    cases hdel : (r.changed c ch.cookie).delete with
    | true =>
      have hk : k = r.sealer.clearCookie := by
        simp only [Round.answer, StateSealer.seal, hdel, if_true, Except.ok.injEq] at hans
        exact hans.symm
      exact .inr (.inl (by simp only [Chain.step, hans, hk]; rfl))
    | false =>
      refine .inr (.inr ⟨r.sealer, r.sealedAt, r.nonce, r.changed c ch.cookie, k,
        changed_storable hr.mutations hstorable, hdel, hr.clock, hans, by simp only [Chain.step, hans], ?_⟩)
      rw [StateSealer.sealedAt, hat, Option.getD_some]

theorem Holds.bounded (hc : c.Lawful) {ttl t₀ : Nat} (httl : ttl < 2 ^ 63) {ch : Chain} (h : Holds c t₀ ch)
    {r : Round} (hr : Admissible ttl ch r) : Bounded c ttl t₀ ch r := by
  intro halive
  obtain ⟨_, hcases⟩ := h.opened_cases hc halive r
  refine ⟨fun hpast => ?_, fun hread => ?_⟩
  · rcases hcases with hnew | ⟨hfresh, _⟩
    · exact hnew
    · have := fresh_lt hr.ttl hfresh
      omega
  · have hat : (r.changed c ch.cookie).issuedAt = some t₀ := by
      rw [changed_issuedAt]
      rcases hcases with hnew | ⟨_, hat⟩
      · rw [hnew] at hread; cases hread
      · exact hat
    refine ⟨by rw [StateSealer.envelope, StateSealer.sealedAt, hat, Option.getD_some], fun k hk hdel => ?_⟩
    rw [answer_maxAge hr.ttl hat hdel hk, asI64_of_lt (by omega)]

/-- **The lifetime is absolute, and `Max-Age` tells it, exactly when the TTL fits
a signed 64-bit number.** The chain begins when a fresh state is sealed at
`t₀`; then any rounds follow. -/
theorem chain_lifetime_iff (c : Crypto) (hc : c.Lawful) (s : StateSealer) (ttl t₀ : Nat)
    (httl : s.ttlSeconds = some ttl) (ht₀ : t₀ < 2 ^ 64) (state : State) (hstate : state.Storable)
    (hnew : state.issuedAt = none) (hdel : state.delete = false) (nonce : Bytes) (cookie : SetCookie)
    (hseal : s.seal c t₀ nonce state = .ok cookie) :
    (cookie.maxAge = some (ttl : Int) ∧ ∀ rounds,
      Along (Chain.step c) (Admissible ttl) ⟨some cookie.value, t₀, true⟩ rounds →
        Along (Chain.step c) (Bounded c ttl t₀) ⟨some cookie.value, t₀, true⟩ rounds) ↔ ttl < 2 ^ 63 := by
  have hat : StateSealer.sealedAt t₀ state = t₀ := by rw [StateSealer.sealedAt, hnew, Option.getD_none]
  have hage : cookie.maxAge = some (asI64 ttl) := by
    obtain ⟨plaintext, token, _, _, rfl⟩ := seal_eq_ok hdel hseal
    simp only [StateSealer.cookieHeader, httl, Option.map_some, StateSealer.remaining, hat, Nat.sub_self,
      Nat.sub_zero]
  have hholds : Holds c t₀ ⟨some cookie.value, t₀, true⟩ := fun _ =>
    ⟨Nat.le_refl t₀, .inr (.inr ⟨s, t₀, nonce, state, cookie, hstate, hdel, ht₀, hseal, rfl, hat⟩)⟩
  refine ⟨fun h => ?_, fun hlt => ⟨by rw [hage, asI64_of_lt hlt], fun rounds hrounds => ?_⟩⟩
  · have := h.1
    rw [hage, Option.some.injEq] at this
    exact asI64_eq_iff.mp this
  · exact Along.of_invariant (fun ch r hch hr => hch.step hc hr) (fun ch r hch hr => hch.bounded hc hlt hr)
      hholds hrounds

/-- Half an hour of lifetime, and one later request. -/
theorem chain_lifetime_demo : ∃ cookie,
    demoSealer.seal plainCrypto 1000 [] demoState = .ok cookie ∧ cookie.maxAge = some 1800 ∧
    Bounded plainCrypto 1800 1000 ⟨some cookie.value, 1000, true⟩
      ⟨demoSealer, 2800, [.clearNamespace "ns"], 2800, []⟩ := by
  have hok : (demoSealer.seal plainCrypto 1000 [] demoState).isOk = true := by decide +kernel
  cases hseal : demoSealer.seal plainCrypto 1000 [] demoState with
  | error e => rw [hseal] at hok; cases hok
  | ok cookie =>
    have h := (chain_lifetime_iff plainCrypto plainCrypto_lawful demoSealer 1800 1000 rfl (by decide) demoState
      demoState_storable rfl rfl [] cookie hseal).mpr (by decide)
    have hround : Admissible 1800 ⟨some cookie.value, 1000, true⟩
        ⟨demoSealer, 2800, [.clearNamespace "ns"], 2800, []⟩ :=
      ⟨rfl, show 1000 ≤ 2800 by decide, Nat.le_refl _, show 2800 < 2 ^ 64 by decide, by simp [Mutation.Storable]⟩
    exact ⟨cookie, rfl, h.1, (h.2 [_] ⟨hround, trivial⟩).1⟩

/-- A sealer whose TTL is one past the largest signed number. -/
def patientSealer : StateSealer := demoSealer.withTtlSeconds (some (2 ^ 63))

/-- It tells the browser to drop the cookie at once. -/
theorem patientSealer_maxAge : ∃ cookie,
    patientSealer.seal plainCrypto 1000 [] demoState = .ok cookie ∧ cookie.maxAge = some (-2 ^ 63) ∧
    cookie.maxAge ≠ some ((2 ^ 63 - (1000 - 1000) : Nat) : Int) := by
  have hok : (patientSealer.seal plainCrypto 1000 [] demoState).isOk = true := by decide +kernel
  cases hseal : patientSealer.seal plainCrypto 1000 [] demoState with
  | error e => rw [hseal] at hok; cases hok
  | ok cookie =>
    have hage : cookie.maxAge = some (-2 ^ 63) := by
      obtain ⟨plaintext, token, _, _, rfl⟩ := seal_eq_ok rfl hseal
      rfl
    exact ⟨cookie, rfl, hage, by rw [hage]; decide⟩

end Tunnelbana
