/-
The chain of requests of one browser: each presents the state cookie of the
response before it. What a request opens is what the last one left, or nothing
where the cookie expired, was cleared, could not be sealed or opened.
-/
import Tunnelbana.Core.ProxyFacts
import Tunnelbana.Core.SealFacts

namespace Tunnelbana

open Basis

/-- The state the next request opens: under the issue time of the envelope it
presents, or an empty one when it presents none that opens. -/
def State.carried (s : State) (envelope : Option Nat) : State :=
  match envelope with
  | none => State.new
  | some iat => if s.delete then State.new else { data := s.data, issuedAt := some iat, delete := false }

structure Exchange (W : Type) where
  world : W
  request : HttpRequestData
  /-- Issue time of the envelope presented. -/
  envelope : Option Nat

def Exchange.context {W : Type} (r : Exchange W) (s : State) : Context := Context.new r.request (s.carried r.envelope)

namespace State

variable {s : State} {envelope : Option Nat}

theorem carried_cases (s : State) (envelope : Option Nat) :
    s.carried envelope = new ∨ (s.carried envelope).data = s.data := by
  unfold carried
  cases envelope with
  | none => exact .inl rfl
  | some iat =>
    by_cases hdelete : s.delete = true
    · exact .inl (if_pos hdelete)
    · exact .inr (by simp only [hdelete]; rfl)

/-- A state just opened does not ask for its cookie to be cleared. -/
theorem delete_carried (s : State) (envelope : Option Nat) : (s.carried envelope).delete = false := by
  unfold carried
  cases envelope with
  | none => rfl
  | some iat => by_cases hdelete : s.delete = true <;> simp [hdelete, new]

theorem Objects.carried (h : s.Objects) (envelope : Option Nat) : (s.carried envelope).Objects := by
  rcases s.carried_cases envelope with hnew | hdata
  · rw [hnew]
    exact objects_new
  · intro ns v hv
    rw [hdata] at hv
    exact h ns v hv

/-- A value the next request finds was there. -/
theorem getValue_carried_cases (s : State) (envelope : Option Nat) :
    (∀ ns key, (s.carried envelope).getValue ns key = s.getValue ns key) ∨
      ∀ ns key, (s.carried envelope).getValue ns key = none := by
  rcases s.carried_cases envelope with hnew | hdata
  · exact .inr fun ns key => by rw [hnew, getValue_new]
  · exact .inl fun ns key => by unfold getValue; rw [hdata]

end State

namespace Proxy

variable {W : Type} (p : Proxy W) (statusHint : Error → Nat)

def serve (s : State) (r : Exchange W) : State := (p.respond r.world statusHint (r.context s)).2.state

/-- **Whatever opens the cookie of a response opens what its request left, or a
fresh state**: also when that could not be sealed. -/
theorem attachCookie_carried {c : Crypto} (hc : c.Lawful) (opener : StateSealer) {now now' : Nat}
    (hnow : now < 2 ^ 64) {nonce : Bytes} {response response' : Response} {s : State} (hs : s.Storable)
    {cookie : SetCookie} (h : p.attachCookie c now nonce response s = (response', some cookie)) :
    ∃ envelope, opener.unseal c now' (some cookie.value) = s.carried envelope := by
  have hcleared : ∀ cookie : SetCookie, cookie = p.sealer.clearCookie →
      opener.unseal c now' (some cookie.value) = State.new := by
    rintro cookie rfl
    rfl
  unfold attachCookie at h
  cases hseal : p.sealer.seal c now nonce s with
  | error e =>
    rw [hseal] at h
    cases h
    exact ⟨none, hcleared _ rfl⟩
  | ok sealed =>
    rw [hseal] at h
    cases h
    by_cases hdelete : s.delete = true
    · unfold StateSealer.seal at hseal
      rw [if_pos hdelete] at hseal
      cases hseal
      exact ⟨none, hcleared _ rfl⟩
    · rw [Bool.not_eq_true] at hdelete
      have hcases : opener.unseal c now' (some cookie.value) = State.new ∨ _ :=
        unseal_cases hc hs hdelete hnow hseal
      rcases hcases with hnew | ⟨_, hopened⟩
      · exact ⟨none, hnew⟩
      · refine ⟨some (StateSealer.sealedAt now s), ?_⟩
        rw [hopened]
        unfold State.carried
        simp only [hdelete]
        rfl

/-- **Running a request serves a round of the chain**: what it opens and what
its cookie holds. -/
theorem run_serves {c : Crypto} (hc : c.Lawful) (w : W) {at_ : Moment} (hnow : at_.answered < 2 ^ 64)
    {request : HttpRequestData} {s : State} {envelope : Option Nat} {now' : Nat} {response : Response}
    {cookie : SetCookie}
    (hopen : p.sealer.unseal c at_.opened (request.cookies.get p.sealer.cookieName) = s.carried envelope)
    (hs : (p.serve statusHint s { world := w, request, envelope }).Storable)
    (h : p.run w c statusHint at_ request = (response, some cookie)) :
    ∃ envelope', p.sealer.unseal c now' (some cookie.value) =
      (p.serve statusHint s { world := w, request, envelope }).carried envelope' := by
  unfold run at h
  rw [hopen] at h
  exact p.attachCookie_carried hc p.sealer hnow hs h

end Proxy

end Tunnelbana
