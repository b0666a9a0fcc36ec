/-
Which transaction an upstream callback completes. A run interleaves the
start_auth, initiate and callback requests of one OIDC or federation backend
over one cookie; the ledger keeps the transaction minted for the most recent
start_auth. A callback is answered only with a stored transaction, verified
against it, and consumes it; a failing callback leaves the state alone.

What is stored is the current transaction as long as a start_auth that mints
none finds none stored: the code does not drop an older one
(`callbacks_answer_current`).
-/
import Tunnelbana.Basis.Run
import Tunnelbana.Plugins.OidcBackend
import Tunnelbana.Plugins.FederationBackend

namespace Tunnelbana

open Basis

/-! ## Callbacks -/

namespace RelyingParty

variable {p : RelyingParty} {w : OidcWorld} {ctx : Context}

/-- **A callback fails and leaves the state as it was, or redeems the stored
transaction and clears the namespace.** -/
theorem handleCallback_cases (p : RelyingParty) (w : OidcWorld) (ctx : Context) :
    (∃ e ctx', p.handleCallback w ctx = (.error e, ctx') ∧ ctx'.state = ctx.state) ∨
    (∃ data, p.checkState ctx = .ok () ∧ p.redeem w ctx = .ok data ∧
      p.handleCallback w ctx = (.ok (.authResponse data), ctx.mapState fun s => s.clearNamespace p.name)) := by
  unfold handleCallback
  simp only [Flow.context, Action.read_bind_run]
  cases hstate : p.checkState ctx with
  | error e => exact .inl ⟨e, ctx, rfl, rfl⟩
  | ok _ =>
    rw [Action.lift_ok_bind_run, checkError]
    cases herr : ctx.request.param "error" with
    | some err =>
      simp only
      split
      · exact .inl ⟨_, _, rfl, rfl⟩
      · exact .inl ⟨_, _, rfl, rfl⟩
    | none =>
      rw [Action.pure_bind_run]
      cases hdata : p.redeem w ctx with
      | error e => exact .inl ⟨e, ctx, rfl, rfl⟩
      | ok data => exact .inr ⟨data, rfl, rfl, rfl⟩

theorem checkState_ok (h : p.checkState ctx = .ok ()) :
    ∃ st, ctx.state.getStr p.name "oidc_state" = some st ∧ ctx.request.param "state" = some st := by
  unfold checkState at h
  split at h
  next => cases h
  next expected hexpected =>
    split at h
    next => cases h
    next got hgot =>
      split at h
      next heq => exact ⟨expected, hexpected, by rw [hgot, heq]⟩
      next => cases h

theorem redeem_ok {data : InternalData} (h : p.redeem w ctx = .ok data) :
    ∃ nonce provider keys jwks token claims, ctx.state.getStr p.name "oidc_nonce" = some nonce ∧
      p.provider w ctx.state = .ok (provider, keys) ∧ keys = .ok jwks ∧
      w.verifyIdToken jwks token provider.issuer p.clientId nonce = .ok claims ∧
      data.subjectId = claims.sub ∧ data.authInfo.issuer = some provider.issuer := by
  unfold redeem at h
  split at h
  next => cases h
  next => cases h
  next code nonce hcode hnonce =>
    obtain ⟨⟨provider, keys⟩, hprovider, hauth⟩ := except_bind_ok.mp h
    obtain ⟨tokens, _, hkeys⟩ := except_bind_ok.mp hauth
    obtain ⟨jwks, hjwks, hverify⟩ := except_bind_ok.mp hkeys
    obtain ⟨claims, hclaims, hsub⟩ := except_bind_ok.mp hverify
    split at hsub
    next => cases hsub
    next sub hsome =>
      obtain ⟨merged, _, hdata⟩ := except_bind_ok.mp hsub
      cases hdata
      exact ⟨nonce, provider, keys, jwks, tokens.idToken, claims, hnonce, hprovider, hjwks, hclaims, hsome.symm,
        rfl⟩

end RelyingParty

/-! ## Runs -/

/-- The transaction an authorization request leaves behind. The OP is none
for the OIDC backend, which has one provider. -/
structure Transaction where
  state : String
  nonce : String
  op : Option String
deriving DecidableEq, Repr

inductive RpBackend where
  | oidc (b : OidcBackend)
  | federation (b : FederationBackend)

inductive RpCall where
  | startAuth (request : InternalData)
  | endpoint (routeId : String)

structure RpRequest where
  world : OidcWorld
  http : HttpRequestData
  decorations : Assoc Json := []
  call : RpCall

def RpRequest.context (r : RpRequest) (s : State) : Context :=
  { request := r.http, state := s, decorations := r.decorations }

/-- The state, the transaction minted for the most recent start_auth and the
verifier of the discovery redirect it issued. -/
structure RpLedger where
  state : State
  current : Option Transaction := none
  verifier : Option String := none

namespace RpBackend

def relyingParty : RpBackend → RelyingParty
  | oidc b => b.relyingParty
  | federation b => b.relyingParty

def name (b : RpBackend) : String := b.relyingParty.name

def startAuth (w : OidcWorld) (request : InternalData) : RpBackend → Flow Response
  | oidc b => b.startAuth w request
  | federation b => b.startAuth w request

def handleEndpoint (w : OidcWorld) (routeId : String) : RpBackend → Flow BackendAction
  | oidc b => b.handleEndpoint w routeId
  | federation b => b.handleEndpoint w routeId

def fresh (w : OidcWorld) (op : Option String) : Transaction := { state := w.newState, nonce := w.newNonce, op }

/-- The transaction a start_auth mints: none when it fails before, or goes to
discovery. -/
def minted (w : OidcWorld) (request : InternalData) : RpBackend → Option Transaction
  | oidc b =>
    match b.providerInfo w, OidcBackend.prompt request with
    | .ok _, .ok _ => some (fresh w none)
    | _, _ => none
  | federation b =>
    match b.op with
    | .discovery _ => none
    | .fixed opEntityId =>
      if request.forceAuthn || request.isPassive then none
      else
        match FederationBackend.resolveOp w opEntityId with
        | .ok _ => some (fresh w (some opEntityId))
        | .error _ => none

/-- The verifier of the discovery redirect a start_auth issues. -/
def issued (w : OidcWorld) (request : InternalData) : RpBackend → Option String
  | oidc _ => none
  | federation b =>
    match b.op with
    | .fixed _ => none
    | .discovery _ => if request.forceAuthn || request.isPassive then none else some w.newDiscoVerifier

/-- The transaction a discovery return mints, with the verifier it returned. -/
def initiated (w : OidcWorld) (routeId : String) (ctx : Context) : RpBackend → Option (Transaction × String)
  | oidc _ => none
  | federation b =>
    match b.op, ctx.state.getStr b.name DISCOVERY_VERIFIER_KEY with
    | .discovery d, some verifier =>
      if routeId = "initiate" then
        match b.checkLogin w d ctx with
        | .ok login =>
          match FederationBackend.resolveOp w login.iss with
          | .ok _ => some (fresh w (some login.iss), verifier)
          | .error _ => none
        | .error _ => none
      else none
    | _, _ => none

/-- One request: the state after it and the transaction that is now current. A
discovery return belongs to the start_auth whose redirect it returns from. -/
def step (b : RpBackend) (l : RpLedger) (r : RpRequest) : RpLedger :=
  let ctx := r.context l.state
  match r.call with
  | .startAuth request =>
    { state := (b.startAuth r.world request ctx).2.state
      current := b.minted r.world request
      verifier := b.issued r.world request }
  | .endpoint routeId =>
    { state := (b.handleEndpoint r.world routeId ctx).2.state
      current := match b.initiated r.world routeId ctx with
        | some (txn, verifier) => if l.verifier = some verifier then some txn else l.current
        | none => l.current
      verifier := l.verifier }

def start (s : State) : RpLedger := { state := s }

/-- Verified under the keys and for the issuer of the transaction's provider,
against its nonce. -/
def VerifiedFor (b : RpBackend) (w : OidcWorld) (s : State) (txn : Transaction) (data : InternalData) : Prop :=
  ∃ provider jwks token claims, b.relyingParty.provider w s = .ok (provider, .ok jwks) ∧
    w.verifyIdToken jwks token provider.issuer b.relyingParty.clientId txn.nonce = .ok claims ∧
    data.subjectId = claims.sub ∧ data.authInfo.issuer = some provider.issuer ∧
    ∀ f, b = federation f → ∃ op r, txn.op = some op ∧ FederationBackend.resolveOp w op = .ok r ∧
      r.provider = provider ∧ w.entityMetadataJwks r = .ok jwks

/-- A callback is answered only with the current transaction, verified against
it; it consumes it, so that no callback succeeds on what is left; and a
callback that fails leaves the state as it was. -/
def AnswersCurrent (b : RpBackend) (l : RpLedger) (r : RpRequest) : Prop :=
  r.call = .endpoint "callback" →
    let ctx := r.context l.state
    let after := b.step l r
    match (b.handleEndpoint r.world "callback" ctx).1 with
    | .ok (.authResponse data) =>
      (∃ txn, l.current = some txn ∧ r.http.param "state" = some txn.state ∧
        b.VerifiedFor r.world l.state txn data) ∧
      after.state.get b.name = none ∧
      ∀ r' : RpRequest, ∃ e, (b.handleEndpoint r'.world "callback" (r'.context after.state)).1 = .error e
    | .ok (.respond _) => False
    | .error _ => after.state = l.state

/-- A start_auth that mints no transaction finds none stored, and one that
issues no discovery redirect either finds no verifier stored. -/
def Uncrossed (b : RpBackend) (l : RpLedger) (r : RpRequest) : Prop :=
  ∀ request, r.call = .startAuth request →
    (b.minted r.world request = none → l.state.getStr b.name "oidc_state" = none) ∧
    (b.issued r.world request = none → l.state.getStr b.name DISCOVERY_VERIFIER_KEY = none)

/-! ## What each call does to the state -/

variable {w : OidcWorld} {ctx : Context} {request : InternalData}

theorem oidc_startAuth_state (b : OidcBackend) (w : OidcWorld) (ctx : Context) (request : InternalData) :
    (b.startAuth w request ctx).2.state =
      match minted w request (oidc b) with
      | some _ => b.storeTransaction w request ctx.state
      | none => ctx.state := by
  unfold OidcBackend.startAuth
  simp only [minted]
  cases hprovider : b.providerInfo w with
  | error e => rfl
  | ok provider =>
    cases hprompt : OidcBackend.prompt request with
    | error e => rfl
    | ok prompt =>
      cases hurl : w.authorizationUrl provider with
      | error e => simp only [Action.lift_ok_bind_run, Flow.modify, Action.update_bind_run, hurl]; rfl
      | ok _ => simp only [Action.lift_ok_bind_run, Flow.modify, Action.update_bind_run, hurl]; rfl

/-- A transaction is stored once its OP resolves, whatever happens after. -/
theorem startAuthWithOp_state (b : FederationBackend) (w : OidcWorld) (op : String) (ctx : Context) :
    (b.startAuthWithOp w op ctx).2.state =
      match FederationBackend.resolveOp w op with
      | .ok _ => b.storeTransaction w op ctx.state
      | .error _ => ctx.state := by
  unfold FederationBackend.startAuthWithOp
  cases hop : FederationBackend.resolveOp w op with
  | error e => rfl
  | ok resolved =>
    simp only [Action.lift_ok_bind_run, Flow.modify, Action.update_bind_run]
    cases hobject : w.signedRequestObject resolved.provider w.newState w.newNonce with
    | error e => rfl
    | ok object =>
      rw [Action.lift_ok_bind_run]
      cases hurl : w.authorizationUrl resolved.provider with
      | error e => rfl
      | ok _ => rfl

theorem startDiscovery_state (b : FederationBackend) (d : Discovery) :
    (b.startDiscovery w d ctx).2.state = ctx.state.setStr b.name DISCOVERY_VERIFIER_KEY w.newDiscoVerifier := by
  rfl

/-- **A discovery return mints a transaction with the OP it names and spends
the verifier once the redirect is built, or leaves the state as it was.** -/
theorem initiate_state (b : FederationBackend) (w : OidcWorld) (ctx : Context) :
    (initiated w "initiate" ctx (federation b) = none ∧ (b.handleInitiate w ctx).2.state = ctx.state) ∨
    (∃ op verifier, initiated w "initiate" ctx (federation b) = some (fresh w (some op), verifier) ∧
      ctx.state.getStr b.name DISCOVERY_VERIFIER_KEY = some verifier ∧
      ((b.handleInitiate w ctx).2.state = b.storeTransaction w op ctx.state ∨
        (b.handleInitiate w ctx).2.state =
          (b.storeTransaction w op ctx.state).setValue b.name DISCOVERY_VERIFIER_KEY .null)) := by
  unfold FederationBackend.handleInitiate
  simp only [initiated]
  cases hop : b.op with
  | fixed op => exact .inl ⟨rfl, rfl⟩
  | discovery d =>
    simp only [Flow.context, Action.read_bind_run]
    cases hverifier : ctx.state.getStr b.name DISCOVERY_VERIFIER_KEY with
    | none =>
      have hlogin : b.checkLogin w d ctx =
          .error (.authn "third-party initiated login without a discovery flow in flight") := by
        simp only [FederationBackend.checkLogin, hverifier]
      rw [hlogin]
      exact .inl ⟨rfl, rfl⟩
    | some verifier =>
      cases hlogin : b.checkLogin w d ctx with
      | error e => exact .inl ⟨by simp [hlogin], rfl⟩
      | ok login =>
        have hstate := startAuthWithOp_state b w login.iss ctx
        rw [Action.lift_ok_bind_run, Action.bind_run]
        cases hresolve : FederationBackend.resolveOp w login.iss with
        | error e =>
          refine .inl ⟨by simp [hlogin, hresolve], ?_⟩
          rw [hresolve] at hstate
          rcases hrun : b.startAuthWithOp w login.iss ctx with ⟨e' | redirect, ctx'⟩
          · rw [hrun] at hstate
            exact hstate
          · exfalso
            unfold FederationBackend.startAuthWithOp at hrun
            rw [hresolve] at hrun
            cases hrun
        | ok resolved =>
          refine .inr ⟨login.iss, verifier, by simp [hlogin, hresolve], rfl, ?_⟩
          rw [hresolve] at hstate
          rcases hrun : b.startAuthWithOp w login.iss ctx with ⟨e' | redirect, ctx'⟩
          · rw [hrun] at hstate
            exact .inl hstate
          · rw [hrun] at hstate
            refine .inr ?_
            have hstored : ctx'.state = b.storeTransaction w login.iss ctx.state := hstate
            show ctx'.state.setValue _ _ _ = _
            rw [hstored]

/-! ## The stored transaction -/

structure Holds (b : RpBackend) (s : State) (txn : Transaction) : Prop where
  state : s.getStr b.name "oidc_state" = some txn.state
  nonce : s.getStr b.name "oidc_nonce" = some txn.nonce
  op : ∀ f, b = federation f → ∃ op, txn.op = some op ∧ s.getStr b.name "op_entity_id" = some op

/-- What storing a transaction does to a state: the discovery verifier stays. -/
structure Opens (b : RpBackend) (s t : State) (txn : Transaction) : Prop where
  objects : t.Objects
  within : s.Within b.name t
  holds : b.Holds t txn
  verifier : t.getStr b.name DISCOVERY_VERIFIER_KEY = s.getStr b.name DISCOVERY_VERIFIER_KEY

variable {s : State}

theorem opens_oidc (b : OidcBackend) (hs : s.Objects) :
    (oidc b).Opens s (b.storeTransaction w request s) (fresh w none) := by
  have h₁ := hs.setStr b.name "oidc_state" w.newState
  have hname : (oidc b).name = b.name := rfl
  unfold OidcBackend.storeTransaction
  have hwithin : s.Within b.name s := State.Within.refl s
  refine ⟨((h₁.setStr _ _ _).setStr _ _ _).setValue _ _ _,
    (((hwithin.andSetStr _ _).andSetStr _ _).andSetStr _ _).andSetValue _ _,
    ⟨?_, ?_, fun f hf => by cases hf⟩, ?_⟩
  · rw [hname, State.getStr_congr (State.getValue_setValue_other _ _ (by simp)),
      State.getStr_setStr_other _ _ (by simp), State.getStr_setStr_other _ _ (by simp), State.getStr_setStr_self hs]
    rfl
  · rw [hname, State.getStr_congr (State.getValue_setValue_other _ _ (by simp)),
      State.getStr_setStr_other _ _ (by simp), State.getStr_setStr_self h₁]
    rfl
  · unfold DISCOVERY_VERIFIER_KEY
    rw [hname, State.getStr_congr (State.getValue_setValue_other _ _ (by simp)),
      State.getStr_setStr_other _ _ (by simp), State.getStr_setStr_other _ _ (by simp),
      State.getStr_setStr_other _ _ (by simp)]

theorem opens_federation (b : FederationBackend) (op : String) (hs : s.Objects) :
    (federation b).Opens s (b.storeTransaction w op s) (fresh w (some op)) := by
  have h₁ := hs.setStr b.name "oidc_state" w.newState
  have h₂ := (h₁.setStr b.name "oidc_nonce" w.newNonce).setStr b.name "code_verifier" w.newVerifier
  have hname : (federation b).name = b.name := rfl
  unfold FederationBackend.storeTransaction
  have hwithin : s.Within b.name s := State.Within.refl s
  refine ⟨h₂.setStr _ _ _, (((hwithin.andSetStr _ _).andSetStr _ _).andSetStr _ _).andSetStr _ _,
    ⟨?_, ?_, fun f hf => ⟨op, rfl, ?_⟩⟩, ?_⟩
  · rw [hname, State.getStr_setStr_other _ _ (by simp), State.getStr_setStr_other _ _ (by simp),
      State.getStr_setStr_other _ _ (by simp), State.getStr_setStr_self hs]
    rfl
  · rw [hname, State.getStr_setStr_other _ _ (by simp), State.getStr_setStr_other _ _ (by simp),
      State.getStr_setStr_self h₁]
    rfl
  · exact State.getStr_setStr_self h₂ b.name "op_entity_id" op
  · unfold DISCOVERY_VERIFIER_KEY
    rw [hname, State.getStr_setStr_other _ _ (by simp), State.getStr_setStr_other _ _ (by simp),
      State.getStr_setStr_other _ _ (by simp), State.getStr_setStr_other _ _ (by simp)]

/-- **A start_auth stores the transaction it mints, or the verifier it issues,
or nothing.** -/
theorem startAuth_cases (b : RpBackend) (w : OidcWorld) (request : InternalData) {ctx : Context}
    (hs : ctx.state.Objects) :
    (∃ txn, minted w request b = some txn ∧ issued w request b = none ∧
      b.Opens ctx.state (b.startAuth w request ctx).2.state txn) ∨
    (∃ v, minted w request b = none ∧ issued w request b = some v ∧
      (b.startAuth w request ctx).2.state = ctx.state.setStr b.name DISCOVERY_VERIFIER_KEY v) ∨
    (minted w request b = none ∧ issued w request b = none ∧ (b.startAuth w request ctx).2.state = ctx.state) := by
  cases b with
  | oidc b =>
    have hstate := oidc_startAuth_state b w ctx request
    cases hminted : minted w request (oidc b) with
    | none =>
      rw [hminted] at hstate
      exact .inr (.inr ⟨rfl, rfl, hstate⟩)
    | some txn =>
      have hfresh : fresh w none = txn := by
        simp only [minted] at hminted
        split at hminted
        · exact Option.some.inj hminted
        · cases hminted
      subst hfresh
      rw [hminted] at hstate
      refine .inl ⟨_, rfl, rfl, ?_⟩
      show Opens _ _ (b.startAuth w request ctx).2.state _
      rw [hstate]
      exact opens_oidc b hs
  | federation b =>
    simp only [minted, issued, startAuth, FederationBackend.startAuth]
    by_cases hflags : (request.forceAuthn || request.isPassive) = true
    · simp only [if_pos hflags]
      refine .inr (.inr ?_)
      cases hop : b.op <;> exact ⟨rfl, rfl, rfl⟩
    · simp only [if_neg hflags]
      cases hop : b.op with
      | discovery d => exact .inr (.inl ⟨_, rfl, rfl, startDiscovery_state b d⟩)
      | fixed op =>
        have hstate := startAuthWithOp_state b w op ctx
        cases hresolve : FederationBackend.resolveOp w op with
        | error e =>
          rw [hresolve] at hstate
          exact .inr (.inr ⟨by simp only [hresolve], rfl, hstate⟩)
        | ok resolved =>
          rw [hresolve] at hstate
          refine .inl ⟨fresh w (some op), by simp only [hresolve], rfl, ?_⟩
          simp only [hstate]
          exact opens_federation b op hs

theorem startAuth_within (b : RpBackend) (w : OidcWorld) (request : InternalData) {ctx : Context}
    (hs : ctx.state.Objects) : ctx.state.Within b.name (b.startAuth w request ctx).2.state := by
  rcases startAuth_cases b w request hs with ⟨txn, _, _, hopens⟩ | ⟨v, _, _, hstate⟩ | ⟨_, _, hstate⟩
  · exact hopens.within
  · rw [hstate]
    exact (State.Within.refl _).andSetStr _ _
  · rw [hstate]
    exact State.Within.refl _

theorem callback_within (b : RpBackend) (w : OidcWorld) (ctx : Context) :
    ctx.state.Within b.name (b.relyingParty.handleCallback w ctx).2.state := by
  rcases RelyingParty.handleCallback_cases b.relyingParty w ctx with ⟨e, ctx', hrun, hstate⟩ | ⟨data, _, _, hrun⟩
  · rw [hrun, hstate]
    exact State.Within.refl _
  · rw [hrun]
    exact State.Within.clearNamespace _ _

theorem handleEndpoint_within (b : RpBackend) (w : OidcWorld) (routeId : String) {ctx : Context}
    (hs : ctx.state.Objects) : ctx.state.Within b.name (b.handleEndpoint w routeId ctx).2.state := by
  cases b with
  | oidc b =>
    simp only [handleEndpoint, OidcBackend.handleEndpoint]
    split
    · exact callback_within (oidc b) w ctx
    · exact State.Within.refl _
  | federation b =>
    simp only [handleEndpoint, FederationBackend.handleEndpoint]
    split
    · unfold FederationBackend.handleEntityConfiguration
      cases w.entityConfiguration <;> exact State.Within.refl _
    · split
      · rcases initiate_state b w ctx with ⟨_, hstate⟩ | ⟨op, verifier, _, _, hstate | hstate⟩
        · rw [hstate]
          exact State.Within.refl _
        · rw [hstate]
          exact (opens_federation b op hs).within
        · rw [hstate]
          exact (opens_federation b op hs).within.andSetValue _ _
      · split
        · exact callback_within (federation b) w ctx
        · exact State.Within.refl _

/-! ## The invariant -/

/-- What is stored is the current transaction and the current verifier. -/
structure Stored (b : RpBackend) (l : RpLedger) : Prop where
  objects : l.state.Objects
  current : ∀ st, l.state.getStr b.name "oidc_state" = some st →
    ∃ txn, l.current = some txn ∧ b.Holds l.state txn
  verifier : ∀ v, l.state.getStr b.name DISCOVERY_VERIFIER_KEY = some v → l.verifier = some v

theorem stored_start (b : RpBackend) (hs : s.Objects) (hnew : s.get b.name = none) : b.Stored (start s) := by
  have hnone : ∀ key, s.getStr b.name key = none := by
    intro key
    exact State.getStr_none (by simp only [State.getValue]; rw [show s.data.get b.name = none from hnew]; rfl)
  refine ⟨hs, fun st hst => ?_, fun v hv => ?_⟩
  · rw [show (start s).state = s from rfl, hnone] at hst
    cases hst
  · rw [show (start s).state = s from rfl, hnone] at hv
    cases hv

/-- Clearing the namespace forgets the transaction and the verifier. -/
theorem Stored.clear {b : RpBackend} {l : RpLedger} (h : b.Stored l) (current : Option Transaction) :
    b.Stored { l with state := l.state.clearNamespace b.name, current } := by
  have hnone : ∀ key, (l.state.clearNamespace b.name).getStr b.name key = none := by
    intro key
    exact State.getStr_none (by rw [State.getValue_clearNamespace, if_pos rfl])
  refine ⟨h.objects.clearNamespace b.name, fun st hst => ?_, fun v hv => ?_⟩
  · simp only [hnone] at hst
    cases hst
  · simp only [hnone] at hv
    cases hv

theorem Stored.opens {b : RpBackend} {l : RpLedger} {t : State} {txn : Transaction}
    (hopens : b.Opens l.state t txn) {verifier : Option String}
    (hverifier : ∀ v, l.state.getStr b.name DISCOVERY_VERIFIER_KEY = some v → verifier = some v) :
    b.Stored { state := t, current := some txn, verifier } :=
  ⟨hopens.objects, fun _ _ => ⟨txn, rfl, hopens.holds⟩, fun v hv => hverifier v (hopens.verifier ▸ hv)⟩

/-- A start_auth keeps the invariant: what it stores is current, and what it
does not replace is absent. -/
theorem Stored.startAuth {b : RpBackend} {l : RpLedger} {r : RpRequest} (h : b.Stored l) (hc : b.Uncrossed l r)
    (hcall : r.call = .startAuth request) : b.Stored (b.step l r) := by
  obtain ⟨hminted, hissued⟩ := hc request hcall
  simp only [step, hcall]
  have hobjects : (r.context l.state).state.Objects := h.objects
  rcases startAuth_cases b r.world request hobjects with
    ⟨txn, htxn, hnone, hopens⟩ | ⟨v, hnone, hv, hstate⟩ | ⟨htxn, hv, hstate⟩
  · rw [htxn, hnone]
    refine Stored.opens hopens fun v hv => ?_
    rw [hissued hnone] at hv
    cases hv
  · rw [hnone, hv, hstate]
    refine ⟨h.objects.setStr _ _ _, fun st hst => ?_, fun v' hv' => ?_⟩
    · have hold : l.state.getStr b.name "oidc_state" = some st :=
        (State.getStr_setStr_other _ _ (by simp [DISCOVERY_VERIFIER_KEY])).symm.trans hst
      rw [hminted hnone] at hold
      cases hold
    · exact (State.getStr_setStr_self h.objects b.name DISCOVERY_VERIFIER_KEY v).symm.trans hv'
  · rw [htxn, hv, hstate]
    refine ⟨h.objects, fun st hst => ?_, fun v hv' => ?_⟩
    · rw [show l.state.getStr b.name "oidc_state" = some st from hst] at hminted
      cases hminted htxn
    · rw [show l.state.getStr b.name DISCOVERY_VERIFIER_KEY = some v from hv'] at hissued
      cases hissued hv

/-- An answered callback leaves nothing stored, a failing one what there was. -/
theorem Stored.callback {b : RpBackend} {l : RpLedger} (h : b.Stored l) {ctx : Context}
    (hctx : ctx.state = l.state) :
    b.Stored { l with state := (b.relyingParty.handleCallback w ctx).2.state } := by
  rcases RelyingParty.handleCallback_cases b.relyingParty w ctx with
    ⟨e, ctx', hrun, hstate⟩ | ⟨data, _, _, hrun⟩
  · rw [hrun]
    show b.Stored { l with state := ctx'.state }
    rw [hstate, hctx]
    exact h
  · rw [hrun]
    show b.Stored { l with state := ctx.state.clearNamespace b.name }
    rw [hctx]
    exact h.clear l.current

/-- A discovery return keeps the invariant: its verifier is the current one. -/
theorem Stored.initiate {b : FederationBackend} {l : RpLedger} (h : (federation b).Stored l) {ctx : Context}
    (hctx : ctx.state = l.state) :
    (federation b).Stored {
      state := (b.handleInitiate w ctx).2.state
      current := match initiated w "initiate" ctx (federation b) with
        | some (txn, verifier) => if l.verifier = some verifier then some txn else l.current
        | none => l.current
      verifier := l.verifier } := by
  rcases initiate_state b w ctx with ⟨hnone, hstate⟩ | ⟨op, verifier, hsome, hverifier, hstate⟩
  · rw [hnone, hstate, hctx]
    exact h
  · rw [hctx] at hverifier hstate
    have hcurrent := h.verifier verifier hverifier
    have hopened := Stored.opens (opens_federation (w := w) b op h.objects) h.verifier
    rw [hsome]
    simp only [if_pos hcurrent]
    rcases hstate with hstate | hstate
    · rw [hstate]
      exact hopened
    · rw [hstate]
      have hfield : ∀ key, key ≠ DISCOVERY_VERIFIER_KEY →
          ((b.storeTransaction w op l.state).setValue b.name DISCOVERY_VERIFIER_KEY .null).getStr b.name key =
            (b.storeTransaction w op l.state).getStr b.name key := by
        intro key hkey
        exact State.getStr_congr (State.getValue_setValue_other _ _ (fun he => hkey he.2.symm))
      have hholds := (opens_federation (w := w) b op h.objects).holds
      refine ⟨hopened.objects.setValue _ _ _, fun st _ => ⟨_, rfl, ?_, ?_, fun f hf => ?_⟩, fun v hv => ?_⟩
      · exact (hfield "oidc_state" (by simp [DISCOVERY_VERIFIER_KEY])).trans hholds.state
      · exact (hfield "oidc_nonce" (by simp [DISCOVERY_VERIFIER_KEY])).trans hholds.nonce
      · obtain ⟨op', hop', hget⟩ := hholds.op f hf
        exact ⟨op', hop', (hfield "op_entity_id" (by simp [DISCOVERY_VERIFIER_KEY])).trans hget⟩
      · have hnull := State.getValue_setValue_self hopened.objects b.name DISCOVERY_VERIFIER_KEY .null
        have hv' := State.getStr_eq_some.mp hv
        cases hnull.symm.trans hv'

/-- **Every request keeps the invariant**, a start_auth when it leaves nothing
older behind. -/
theorem Stored.step {b : RpBackend} {l : RpLedger} {r : RpRequest} (h : b.Stored l) (hc : b.Uncrossed l r) :
    b.Stored (b.step l r) := by
  cases hcall : r.call with
  | startAuth request => exact h.startAuth hc hcall
  | endpoint routeId =>
    have hctx : (r.context l.state).state = l.state := rfl
    simp only [RpBackend.step, hcall]
    cases b with
    | oidc b =>
      simp only [handleEndpoint, OidcBackend.handleEndpoint, initiated]
      split
      next => exact Stored.callback (b := oidc b) h hctx
      next => exact h
    | federation b =>
      simp only [handleEndpoint, FederationBackend.handleEndpoint]
      by_cases hinit : routeId = "initiate"
      · subst hinit
        exact Stored.initiate h hctx
      · have hnone : initiated r.world routeId (r.context l.state) (federation b) = none := by
          simp only [initiated, if_neg hinit]
          split <;> rfl
        rw [hnone]
        simp only [if_neg hinit]
        split
        next =>
          unfold FederationBackend.handleEntityConfiguration
          cases r.world.entityConfiguration <;> exact h
        next =>
          split
          next => exact Stored.callback (b := federation b) h hctx
          next => exact h

/-! ## Answers -/

/-- The provider a federation callback uses is the OP its transaction names. -/
theorem verifiedFor_op {b : FederationBackend} {txn : Transaction} (h : (federation b).Holds s txn)
    {provider : ProviderInfo} {jwks : JwkSet}
    (hprovider : b.relyingParty.provider w s = .ok (provider, .ok jwks)) :
    ∃ op r, txn.op = some op ∧ FederationBackend.resolveOp w op = .ok r ∧ r.provider = provider ∧
      w.entityMetadataJwks r = .ok jwks := by
  obtain ⟨op, hop, hget⟩ := h.op b rfl
  have hread : s.getStr b.name "op_entity_id" = some op := hget
  simp only [FederationBackend.relyingParty, hread] at hprovider
  obtain ⟨r, hr, hret⟩ := except_bind_ok.mp hprovider
  obtain ⟨hp, hkeys⟩ := Prod.mk.inj (Except.ok.inj hret)
  exact ⟨op, r, hop, hr, hp, hkeys⟩

/-- **A callback is answered with the stored transaction.** -/
theorem Stored.answersCurrent {b : RpBackend} {l : RpLedger} {r : RpRequest} (h : b.Stored l) :
    b.AnswersCurrent l r := by
  intro hcall
  have hrun : ∀ (w : OidcWorld) (ctx : Context),
      b.handleEndpoint w "callback" ctx = b.relyingParty.handleCallback w ctx := by
    intro w ctx
    cases b <;> rfl
  have hafter : (b.step l r).state = (b.relyingParty.handleCallback r.world (r.context l.state)).2.state := by
    simp only [RpBackend.step, hcall, hrun]
  simp only [hrun, hafter]
  rcases RelyingParty.handleCallback_cases b.relyingParty r.world (r.context l.state) with
    ⟨e, ctx', hfail, hstate⟩ | ⟨data, hcheck, hredeem, hok⟩
  · rw [hfail]
    exact hstate
  · rw [hok]
    have hgone : (l.state.clearNamespace b.name).get b.name = none := by
      show Assoc.get b.name (Assoc.erase b.name l.state.data) = none
      rw [Assoc.get_erase, if_pos rfl]
    refine ⟨?_, hgone, fun r' => ?_⟩
    · obtain ⟨st, hst, hparam⟩ := RelyingParty.checkState_ok hcheck
      obtain ⟨nonce, provider, keys, jwks, token, claims, hnonce, hprovider, hkeys, hclaims, hsub, hissuer⟩ :=
        RelyingParty.redeem_ok hredeem
      obtain ⟨txn, hcurrent, hholds⟩ := h.current st hst
      have hstate : txn.state = st := Option.some.inj (hholds.state.symm.trans hst)
      have hnonce' : txn.nonce = nonce := Option.some.inj (hholds.nonce.symm.trans hnonce)
      subst hstate hnonce' hkeys
      refine ⟨txn, hcurrent, hparam, provider, jwks, token, claims, hprovider, hclaims, hsub, hissuer, ?_⟩
      intro f hf
      subst hf
      exact verifiedFor_op hholds hprovider
    · have hnone : (l.state.clearNamespace b.name).getStr b.name "oidc_state" = none :=
        State.getStr_none (by rw [State.getValue_clearNamespace, if_pos rfl])
      rcases RelyingParty.handleCallback_cases b.relyingParty r'.world
        (r'.context (l.state.clearNamespace b.name)) with ⟨e, ctx', hfail, _⟩ | ⟨data', hcheck', _, _⟩
      · exact ⟨e, congrArg Prod.fst hfail⟩
      · obtain ⟨st, hst, _⟩ := RelyingParty.checkState_ok hcheck'
        cases hnone.symm.trans hst

/-- **On every run over one cookie, a callback is answered only with the
transaction of the most recent start_auth and consumes it, and a failing one
changes nothing**: as long as no start_auth leaves an older transaction or
verifier behind. -/
theorem callbacks_answer_current (b : RpBackend) (s : State) (hs : s.Objects) (hnew : s.get b.name = none)
    (rs : List RpRequest) (h : Along b.step b.Uncrossed (start s) rs) :
    Along b.step b.AnswersCurrent (start s) rs :=
  Along.of_invariant (fun _ _ hl hc => Stored.step hl hc) (fun _ _ hl _ => hl.answersCurrent)
    (stored_start b hs hnew) h

/-! ## An older transaction -/

def discovering : FederationBackend where
  name := "OpenID-Federation"
  entityId := "https://proxy.example"
  redirectUri := "https://proxy.example/OpenID-Federation/callback"
  op := .discovery
    { service := "https://disco.example"
      initiateLoginUri := "https://proxy.example/OpenID-Federation/initiate" }

def discoveredOp : ResolvedOp where
  entityId := "https://op.example"
  provider :=
    { issuer := "https://op.example"
      authorizationEndpoint := "https://op.example/authorize"
      tokenEndpoint := "https://op.example/token" }
  metadata := .obj []
  federationJwks := { keys := ["k1"] }

/-- One OP, cached; its token endpoint answers with a token for the nonce of
the first transaction. `n` numbers the request. -/
def oneOp (n : String) : OidcWorld where
  newState := "state-" ++ n
  newNonce := "nonce-" ++ n
  newVerifier := "verifier-" ++ n
  newDiscoVerifier := "disco-" ++ n
  s256Challenge := id
  discover := fun _ => .error (.config "no discovery")
  authorizationUrl := fun _ => .ok ()
  signedRequestObject := fun _ _ _ => .ok "eyJ"
  exchangeCode := fun _ _ _ => .ok { idToken := "token-2", accessToken := "at" }
  fetchJwks := fun _ _ => .ok { keys := ["k1"] }
  verifyIdToken := fun _ token _ _ nonce =>
    if token = "token-2" && nonce = "nonce-2" then .ok { sub := some "alice" } else .error (.authn "nonce mismatch")
  fetchUserinfo := fun _ _ _ _ => .error (.authn "no userinfo")
  claimsToAttributes := fun _ => .empty
  now := "2025-01-01T00:00:00Z"
  nowSecs := 1735689600
  cachedOp := fun id => if id = "https://op.example" then some (1735693200, discoveredOp) else none
  resolveViaTrustAnchors := fun _ => .error (.authn "unreachable")
  requireHttps := fun _ _ => .ok ()
  entityMetadataJwks := fun op => .ok op.federationJwks
  discoveryRequestUrl := fun _ _ => .ok ()
  parseThirdPartyLogin := fun query =>
    match query.get "iss" with
    | some iss => .ok { iss, targetLinkUri := query.get "target_link_uri" }
    | none => .error (.badRequest "missing iss")
  entityConfiguration := .error (.internal "no keys")

/-- To discovery, back with the OP, and the callback of that transaction. -/
def discoveredFlow : List RpRequest :=
  [{ world := oneOp "1", http := {}, call := .startAuth (.request "https://sp.example") },
    { world := oneOp "2"
      http := { query := [("iss", "https://op.example"),
        ("target_link_uri", "https://proxy.example/OpenID-Federation/initiate?tb_discovery_verifier=disco-1")] }
      call := .endpoint "initiate" },
    { world := oneOp "3", http := { query := [("code", "c"), ("state", "state-2")] }, call := .endpoint "callback" }]

/-- The hypotheses hold of a whole discovered flow. -/
theorem callbacks_answer_current_demo :
    Along (federation discovering).step (federation discovering).AnswersCurrent (start State.new) discoveredFlow := by
  refine callbacks_answer_current _ State.new State.objects_new rfl discoveredFlow ⟨?_, ?_, ?_, trivial⟩
  · intro request hcall
    cases hcall
    exact ⟨fun _ => rfl, fun _ => rfl⟩
  · intro request hcall
    cases hcall
  · intro request hcall
    cases hcall

/-- The same with a second start_auth before the callback: it goes to
discovery and leaves the first transaction. -/
def restartedFlow : List RpRequest :=
  discoveredFlow.take 2 ++ { world := oneOp "4", http := {}, call := .startAuth (.request "https://sp.example") } :: discoveredFlow.drop 2

theorem restartedFlow_answered :
    ¬ Along (federation discovering).step (federation discovering).AnswersCurrent (start State.new)
      restartedFlow := by
  intro h
  obtain ⟨_, _, _, hcallback, _⟩ := h
  obtain ⟨⟨txn, hcurrent, _⟩, _⟩ := hcallback rfl
  cases hcurrent

end RpBackend

end Tunnelbana
