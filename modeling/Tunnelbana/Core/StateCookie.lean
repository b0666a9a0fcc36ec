/-
The state cookie every response goes out with. Whatever the plugins did, a
response carries one: it holds the state they left, or clears the cookie when
they asked for that (`State.delete`) or the state cannot be sealed. In the last
case nothing of the response itself is left either, for a redirect whose flow
could not resume would strand the browser.
-/
import Tunnelbana.Core.Proxy
import Tunnelbana.Core.SealFacts

namespace Tunnelbana

open Basis

def SetCookie.Clears (k : SetCookie) : Prop := k.value = "" ∧ k.maxAge = some 0

namespace StateSealer

variable (c : Crypto) (s : StateSealer) (now : Nat) (nonce : Bytes) (state : State)

def Seals : Prop := ∃ cookie, s.seal c now nonce state = .ok cookie

/-- As long as the lifetime lasts, the cookie opens as the state sealed at `now`. -/
def Holds (cookie : SetCookie) : Prop :=
  ∀ later, s.fresh later (sealedAt now state) = true →
    s.unseal c later (some cookie.value) =
      { data := state.data, issuedAt := some (sealedAt now state), delete := false }

def Reopens : Prop := ∀ cookie, state.delete = false → s.seal c now nonce state = .ok cookie → s.Holds c now state cookie

variable {c s now nonce state}

theorem clearCookie_clears : s.clearCookie.Clears := ⟨rfl, rfl⟩

theorem seal_deleted (h : state.delete = true) : s.seal c now nonce state = .ok s.clearCookie := by
  unfold StateSealer.seal
  rw [if_pos h]

theorem not_seals {e : Error} (h : s.seal c now nonce state = .error e) : ¬ s.Seals c now nonce state := by
  intro hseals
  obtain ⟨cookie, hcookie⟩ := hseals
  rw [h] at hcookie
  cases hcookie

/-- The cookie sealed clears exactly when the state asks for it. -/
theorem clears_iff (hc : c.Lawful) {cookie : SetCookie} (h : s.seal c now nonce state = .ok cookie) :
    cookie.Clears ↔ state.delete = true := by
  constructor
  · intro hclears
    refine Decidable.byContradiction fun hlive => ?_
    rw [Bool.not_eq_true] at hlive
    obtain ⟨plaintext, token, _, henc, hcookie⟩ := seal_eq_ok hlive h
    have hvalue : token = "" := by
      have := hclears.1
      rwa [hcookie] at this
    exact hc.token_ne_empty _ _ _ _ henc hvalue
  · intro hdelete
    rw [seal_deleted hdelete] at h
    cases h
    exact clearCookie_clears

theorem seal_name {cookie : SetCookie} (h : s.seal c now nonce state = .ok cookie) :
    cookie.name = s.cookieName := by
  by_cases hdelete : state.delete = true
  · rw [seal_deleted hdelete] at h
    cases h
    rfl
  · rw [Bool.not_eq_true] at hdelete
    obtain ⟨plaintext, token, _, _, hcookie⟩ := seal_eq_ok hdelete h
    rw [hcookie]
    rfl

theorem head_mem (h : s.keys ≠ []) : s.keys.headD [] ∈ s.keys := by
  cases hk : s.keys with
  | nil => exact absurd hk h
  | cons key keys => simp

/-- A state whose envelope nests within the parser's bound reopens. -/
theorem reopens_of_shallow (hc : c.Lawful) (hkeys : s.keys ≠ []) (hstate : state.Storable) (hnow : now < 2 ^ 64)
    (hdepth : (envelope now state).toJson.depth < Json.defaultDepth) : s.Reopens c now nonce state := by
  intro cookie hlive h later hfresh
  rw [unseal_seal hc hstate hlive hnow h (head_mem hkeys) hdepth, if_pos hfresh]

end StateSealer

namespace Proxy

variable {W : Type} (p : Proxy W) (w : W) (c : Crypto) (statusHint : Error → Nat) (at_ : Moment)
  (request : HttpRequestData)

/-- What dispatch and error rendering make of a request, before the cookie: the
response and the context left. -/
def answered : Response × Context :=
  p.respond w statusHint (Context.new request (p.sealer.unseal c at_.opened (request.cookies.get p.sealer.cookieName)))

theorem run_eq : p.run w c statusHint at_ request =
    p.attachCookie c at_.answered at_.nonce (p.answered w c statusHint at_ request).1
      (p.answered w c statusHint at_ request).2.state := rfl

section
variable {p c} {now : Nat} {nonce : Bytes} {response : Response} {state : State}

theorem attachCookie_of_ok {cookie : SetCookie} (h : p.sealer.seal c now nonce state = .ok cookie) :
    p.attachCookie c now nonce response state = (response.withHeader "set-cookie" cookie.header, some cookie) := by
  unfold attachCookie
  rw [h]

/-- The clearing cookie itself is always sealed. -/
theorem attachCookie_of_error {e : Error} (h : p.sealer.seal c now nonce state = .error e) :
    p.attachCookie c now nonce response state =
      ((Response.text 500 "request failed").withHeader "set-cookie" p.sealer.clearCookie.header,
        some p.sealer.clearCookie) := by
  have hclear : p.sealer.seal c now nonce { State.new with delete := true } = .ok p.sealer.clearCookie :=
    StateSealer.seal_deleted rfl
  unfold attachCookie
  rw [h]
  simp only [hclear]

end

/-- **Every response carries one state cookie**, the last header `run` appends,
whatever the plugins did: it clears the cookie exactly when the state left is to
be deleted or cannot be sealed, and otherwise opens as that state for as long as
its lifetime lasts, provided that what is sealed opens again. A response whose
state cannot be sealed is a bare 500 with the clearing cookie. -/
theorem response_carries_state (hc : c.Lawful)
    (hreopens : p.sealer.Reopens c at_.answered at_.nonce (p.answered w c statusHint at_ request).2.state) :
    ∃ body cookie, p.run w c statusHint at_ request = (body.withHeader "set-cookie" cookie.header, some cookie) ∧
      cookie.name = p.sealer.cookieName ∧
      (cookie.Clears ↔ (p.answered w c statusHint at_ request).2.state.delete = true ∨
        ¬ p.sealer.Seals c at_.answered at_.nonce (p.answered w c statusHint at_ request).2.state) ∧
      (¬ cookie.Clears →
        p.sealer.Holds c at_.answered (p.answered w c statusHint at_ request).2.state cookie) ∧
      (p.sealer.Seals c at_.answered at_.nonce (p.answered w c statusHint at_ request).2.state →
        body = (p.answered w c statusHint at_ request).1) ∧
      (¬ p.sealer.Seals c at_.answered at_.nonce (p.answered w c statusHint at_ request).2.state →
        body = { status := 500, location := none, headers := [], body := .text "request failed" } ∧
        cookie = p.sealer.clearCookie) := by
  rw [run_eq]
  generalize hanswer : p.answered w c statusHint at_ request = answer at hreopens ⊢
  cases hseal : p.sealer.seal c at_.answered at_.nonce answer.2.state with
  | ok cookie =>
    have hseals : p.sealer.Seals c at_.answered at_.nonce answer.2.state := ⟨cookie, hseal⟩
    have hclears := StateSealer.clears_iff hc hseal
    refine ⟨answer.1, cookie, attachCookie_of_ok hseal, StateSealer.seal_name hseal, ?_, ?_, fun _ => rfl,
      fun hnot => absurd hseals hnot⟩
    · rw [hclears]
      simp [hseals]
    · intro hkept
      have hlive : answer.2.state.delete = false := by
        rw [hclears, Bool.not_eq_true] at hkept
        exact hkept
      exact hreopens cookie hlive hseal
  | error e =>
    have hnot := StateSealer.not_seals hseal
    refine ⟨_, p.sealer.clearCookie, attachCookie_of_error hseal, rfl, ?_, ?_, fun hseals => absurd hseals hnot,
      fun _ => ⟨rfl, rfl⟩⟩
    · simp [hnot, StateSealer.clearCookie_clears]
    · intro hkept
      exact absurd StateSealer.clearCookie_clears hkept

/-! A frontend that keeps a value for the next request. -/

def keeper : Frontend Unit where
  name := "F"
  registerEndpoints := fun _ => [.exact "F/keep" "keep"]
  handleEndpoint := fun _ _ => do
    Flow.setStr "ns" "k" "v"
    return .respond (.text 200 "kept")
  handleAuthnResponse := fun _ _ => Flow.fail (.internal "unused")
  handleBackendError := fun _ e => Flow.fail e

def keeping : Proxy Unit := Proxy.new [keeper] [] [] demoSealer

def keepNow : Moment := { opened := 1000, answered := 1001, nonce := [] }

/-- The value is there for whoever presents the cookie half a minute later. -/
theorem response_carries_state_keeping : ∃ response cookie,
    keeping.run () plainCrypto (fun _ => 500) keepNow { path := "F/keep" } = (response, some cookie) ∧
    (demoSealer.unseal plainCrypto 1030 (some cookie.value)).getStr "ns" "k" = some "v" := by
  have hstate : (keeping.answered () plainCrypto (fun _ => 500) keepNow { path := "F/keep" }).2.state = demoState := rfl
  have hok : (demoSealer.seal plainCrypto 1001 [] demoState).isOk = true := by decide +kernel
  obtain ⟨body, cookie, hrun, _, hclears, hholds, _⟩ :=
    response_carries_state keeping () plainCrypto (fun _ => 500) keepNow { path := "F/keep" } plainCrypto_lawful
      (by
        rw [hstate]
        exact StateSealer.reopens_of_shallow plainCrypto_lawful (by decide) demoState_storable (by decide) (by decide))
  rw [hstate] at hclears hholds
  have hseals : demoSealer.Seals plainCrypto 1001 [] demoState := by
    cases hseal : demoSealer.seal plainCrypto 1001 [] demoState with
    | ok sealed => exact ⟨sealed, hseal⟩
    | error e => rw [hseal] at hok; cases hok
  have hkept : ¬ cookie.Clears := by
    rw [hclears]
    rintro (hdelete | hnot)
    · cases hdelete
    · exact hnot hseals
  refine ⟨_, cookie, hrun, ?_⟩
  have hopened : demoSealer.unseal plainCrypto 1030 (some cookie.value) = _ := hholds hkept 1030 (by decide)
  rw [hopened]
  rfl

end Proxy

end Tunnelbana
