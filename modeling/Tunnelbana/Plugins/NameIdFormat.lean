/-
Whose NameID format shapes a response. The SAML frontend publishes the format
it resolved in the core's namespace; no other frontend writes there, and no
start clears it. A response is shaped for the frontend its flow was started at
(`nameid_follows`) as long as a flow of another kind of frontend finds no format
when it starts, and a resume finds that of the frontend it restores.
-/
import Tunnelbana.Basis.Run
import Tunnelbana.Core.FrontendPin
import Tunnelbana.Plugins.KeyFrames
import Tunnelbana.Plugins.NameIdService
import Tunnelbana.Plugins.RecipientAgreement
import Tunnelbana.Plugins.Saml2Store

namespace Tunnelbana

open Basis

def formatKeys : List String := [KEY_TARGET_FRONTEND, KEY_NAME_ID_FORMAT]

namespace DownstreamPlugin

variable {W : Type}

def IsSaml : DownstreamPlugin W → Prop
  | .saml _ _ => True
  | .oidc _ _ => False
  | .federation _ _ => False

/-- The NameID format a frontend resolves for a request; none when it has no
such thing. -/
def resolvedFormat (w : W) (request : HttpRequestData) : DownstreamPlugin W → Option String
  | .saml f view =>
    match f.readSso (view w) request with
    | .ok (.accept a) => some a.nameIdFormat
    | _ => none
  | .oidc _ _ => none
  | .federation _ _ => none

theorem resolvedFormat_other {f : DownstreamPlugin W} (h : ¬ f.IsSaml) (w : W) (request : HttpRequestData) :
    f.resolvedFormat w request = none := by
  cases f with
  | saml f view => exact absurd trivial h
  | oidc f view => rfl
  | federation f view => rfl

end DownstreamPlugin

/-- The state, and the format each frontend resolved for the flow it started
last. A flow resumed after a newer one of the same frontend is held against the
newer one's format: that is the request the frontend keeps. -/
structure FormatLedger where
  state : State
  formats : String → Option String := fun _ => none

namespace Deployment

variable {W : Type} (d : Deployment W) (statusHint : Error → Nat)

def formatsAfter (l : FormatLedger) (r : Exchange W) : String → Option String :=
  match d.startedAt l.state r with
  | some (name, f) => fun name' => if name' = name then f.resolvedFormat r.world r.request else l.formats name'
  | none => l.formats

def formatStep (l : FormatLedger) (r : Exchange W) : FormatLedger where
  state := d.proxy.serve statusHint l.state r
  formats := d.formatsAfter l r

def foundFormat (s : State) (r : Exchange W) : Option String :=
  (r.context s).state.getStr STATE_KEY_BASE KEY_NAME_ID_FORMAT

/-- A frontend that is not a SAML frontend finds no format when it starts a
flow, and a resume finds the format of the frontend it restores (that of the
snapshot, else the recorded one): the request's that a permitted return from
discovery resumes, and the response's that an accepted step-up resumes. -/
structure FormatInPlace (l : FormatLedger) (r : Exchange W) : Prop where
  start : ∀ name routeId f request pin ctx',
    d.proxy.router.resolve r.request.path = some { kind := .frontend, moduleName := name, routeId } →
    d.frontendNamed name = some f → ¬ f.IsSaml →
    (f.frontend d.lib).handleEndpoint r.world routeId (Proxy.toFrontend name (r.context l.state)) =
      (.ok (.startAuth request pin), ctx') →
    foundFormat l.state r = none
  request : ∀ disco issuer snapshot request name, .disco disco ∈ d.services → d.Calls r disco.name →
    r.request.query.get "entityID" = some issuer → isValidEntityId issuer = true → disco.allows request issuer = true →
    (r.context l.state).state.getValue disco.stateNamespace KEY_SNAPSHOT = some snapshot →
    DiscoToTargetIssuer.snapshotRequest snapshot = some request →
    ((snapshot.field "target_frontend").bind Json.asStr).or (Proxy.recordedFrontend (r.context l.state)) = some name →
    foundFormat l.state r = l.formats name
  response : ∀ p view snapshot data name, .stepup p view ∈ d.services → d.Calls r p.name →
    p.snapshot (r.context l.state) = .ok snapshot →
    (p.saml.handleEndpoint (view r.world) "acs" (r.context l.state)).1 = .ok (.authResponse data) →
    snapshot.targetFrontend.or (Proxy.recordedFrontend (r.context l.state)) = some name →
    foundFormat l.state r = l.formats name

/-- Every `nameid` service a response reaches acts on the format resolved by the
frontend its flow was started at, and leaves the response as it is when that is
not a SAML frontend. -/
def NameIdFollows (l : FormatLedger) (r : Exchange W) : Prop :=
  ∀ i n entered startIndex ctx₁ name data ctx₂, d.services[i]? = some (.transform (NameIdService.transform n)) →
    d.proxy.enter r.world (r.context l.state) = (.ok (.response entered startIndex), ctx₁) → startIndex ≤ i →
    ctx₁.targetFrontend.or (Proxy.recordedFrontend ctx₁) = some name →
    Proxy.responseServices r.world ((d.proxy.microservices.drop startIndex).take (i - startIndex)) entered ctx₁ =
      (.ok (.continue data), ctx₂) →
    n.processResponse data ctx₂ = (n.shape (l.formats name) data, ctx₂) ∧
      ∀ f, d.frontendNamed name = some f → ¬ f.IsSaml → n.processResponse data ctx₂ = (.ok data, ctx₂)

/-- The format in the core's namespace is that of the recorded frontend. -/
structure Matched (formats : String → Option String) (s : State) : Prop where
  objects : s.Objects
  format : ∀ name, s.getStr STATE_KEY_BASE KEY_TARGET_FRONTEND = some name →
    s.getStr STATE_KEY_BASE KEY_NAME_ID_FORMAT = formats name

/-- And no other frontend than a SAML frontend has one. -/
structure FormatsHeld (l : FormatLedger) : Prop where
  matched : Matched l.formats l.state
  others : ∀ name f, d.frontendNamed name = some f → ¬ f.IsSaml → l.formats name = none

variable {d} {formats : String → Option String} {s t : State}

/-! ## What leaves the format in place -/

theorem Matched.retains (h : Matched formats s) (ht : s.Retains formatKeys t) : Matched formats t where
  objects := ht.objects h.objects
  format name hname := by
    have hformat := h.format name (ht.getStr_of_some (by decide) hname)
    have hbeside : t.getStr STATE_KEY_BASE KEY_NAME_ID_FORMAT = s.getStr STATE_KEY_BASE KEY_NAME_ID_FORMAT :=
      ht.getStr_beside (by decide) (by decide) hname
    exact hbeside.trans hformat

theorem matched_new (formats : String → Option String) : Matched formats State.new where
  objects := State.objects_new
  format name hname := by cases hname

theorem Matched.carried (h : Matched formats s) (envelope : Option Nat) : Matched formats (s.carried envelope) :=
  h.retains (.carried s envelope)

/-- What notes a frontend and a requester leaves the format, and records that
frontend. -/
theorem matched_noted {name : String} {request : InternalData} {ctx : Context} (hs : ctx.state.Objects)
    (hformat : ctx.state.getStr STATE_KEY_BASE KEY_NAME_ID_FORMAT = formats name) :
    Matched formats (Proxy.noteFrontend name (Proxy.noteRequester request ctx)).state ∧
      Matched formats (Proxy.noteRequester request (Proxy.noteFrontend name ctx)).state := by
  have hrequester : ∀ (ctx : Context), ctx.state.Objects →
      (Proxy.noteRequester request ctx).state.Objects ∧
        ∀ key, key ≠ KEY_REQUESTER → (Proxy.noteRequester request ctx).state.getStr STATE_KEY_BASE key =
          ctx.state.getStr STATE_KEY_BASE key := by
    intro ctx hs
    unfold Proxy.noteRequester
    cases request.requester with
    | none => exact ⟨hs, fun _ _ => rfl⟩
    | some requester =>
      exact ⟨hs.setStr _ _ _, fun key hkey => State.getStr_setStr_other _ _ fun he => hkey he.2.symm⟩
  have hfrontend : ∀ (ctx : Context), ctx.state.Objects → (Proxy.noteFrontend name ctx).state.Objects ∧
      (Proxy.noteFrontend name ctx).state.getStr STATE_KEY_BASE KEY_TARGET_FRONTEND = some name ∧
      (Proxy.noteFrontend name ctx).state.getStr STATE_KEY_BASE KEY_NAME_ID_FORMAT =
        ctx.state.getStr STATE_KEY_BASE KEY_NAME_ID_FORMAT := fun ctx hs =>
    ⟨hs.setStr _ _ _, State.getStr_setStr_self hs _ _ _,
      State.getStr_setStr_other _ _ fun he => absurd he.2 (by decide)⟩
  constructor
  · obtain ⟨hs₁, hkept⟩ := hrequester ctx hs
    obtain ⟨hs₂, hname, hsame⟩ := hfrontend _ hs₁
    refine ⟨hs₂, fun name' hname' => ?_⟩
    cases hname.symm.trans hname'
    rw [hsame, hkept _ (by decide)]
    exact hformat
  · obtain ⟨hs₁, hname, hsame⟩ := hfrontend ctx hs
    obtain ⟨hs₂, hkept⟩ := hrequester _ hs₁
    refine ⟨hs₂, fun name' hname' => ?_⟩
    rw [hkept _ (by decide)] at hname'
    cases hname.symm.trans hname'
    rw [hkept _ (by decide), hsame]
    exact hformat

/-! ## One request -/

section
variable {l : FormatLedger} {r : Exchange W}

theorem formatsAfter_none (h : d.startedAt l.state r = none) : d.formatsAfter l r = l.formats := by
  unfold formatsAfter
  rw [h]

theorem formatsAfter_started {name : String} {f : DownstreamPlugin W} (h : d.startedAt l.state r = some (name, f)) :
    d.formatsAfter l r name = f.resolvedFormat r.world r.request := by
  unfold formatsAfter
  rw [h]
  exact if_pos rfl

theorem formatsAfter_other {name name' : String} {f : DownstreamPlugin W}
    (h : d.startedAt l.state r = some (name, f)) (hne : name' ≠ name) : d.formatsAfter l r name' = l.formats name' := by
  unfold formatsAfter
  rw [h]
  exact if_neg hne

/-- **A frontend that starts a flow leaves the format it resolved**, or the none
that was there. -/
theorem starts_format {f : DownstreamPlugin W} {lib : OpLibrary} {w : W} {routeId : String} {ctx ctx₁ : Context}
    {request : InternalData} {pin : Option String} (hs : ctx.state.Objects)
    (h : (f.frontend lib).handleEndpoint w routeId ctx = (.ok (.startAuth request pin), ctx₁))
    (hother : ¬ f.IsSaml → ctx.state.getStr STATE_KEY_BASE KEY_NAME_ID_FORMAT = none) :
    ctx₁.state.getStr STATE_KEY_BASE KEY_NAME_ID_FORMAT = f.resolvedFormat w ctx.request := by
  have hpermits : ∀ ns, Permits (KeyTame [KEY_NAME_ID_FORMAT]) ns OpenidProvider.stateKeys [] := fun ns =>
    keyTame_spares _ _ _ (by decide)
  have hopenid : KeyTame [KEY_NAME_ID_FORMAT] ctx ctx₁ →
      ctx.state.getStr STATE_KEY_BASE KEY_NAME_ID_FORMAT = none →
      ctx₁.state.getStr STATE_KEY_BASE KEY_NAME_ID_FORMAT = none := by
    intro htame hnone
    cases hformat : ctx₁.state.getStr STATE_KEY_BASE KEY_NAME_ID_FORMAT with
    | none => rfl
    | some format =>
      have hbefore := htame.getStr_of_some (by simp) hformat
      rw [hnone] at hbefore
      cases hbefore
  cases f with
  | saml f view =>
    obtain ⟨a, _, hread, _, hstate⟩ := Saml2Frontend.handleEndpoint_starts h
    have hresolved : (DownstreamPlugin.saml f view).resolvedFormat w ctx.request = some a.nameIdFormat := by
      unfold DownstreamPlugin.resolvedFormat
      simp only [hread]
    rw [hstate, hresolved]
    exact Saml2Frontend.storeRequest_format hs
  | oidc f view => exact hopenid ((f.handleEndpoint_keeps lib (view w) (hpermits f.name) routeId).apply h) (hother id)
  | federation f view =>
    exact hopenid ((f.handleEndpoint_keeps lib (view w) (hpermits f.name) routeId).apply h) (hother id)

theorem FormatsHeld.othersAfter (h : d.FormatsHeld l) :
    ∀ name f, d.frontendNamed name = some f → ¬ f.IsSaml → d.formatsAfter l r name = none := by
  intro name f hnamed hother
  cases hstarted : d.startedAt l.state r with
  | none =>
    rw [formatsAfter_none hstarted]
    exact h.others name f hnamed hother
  | some started =>
    obtain ⟨name', f'⟩ := started
    by_cases hname : name = name'
    · subst hname
      cases (startedAt_named hstarted).symm.trans hnamed
      rw [formatsAfter_started hstarted]
      exact DownstreamPlugin.resolvedFormat_other hother r.world r.request
    · rw [formatsAfter_other hstarted hname]
      exact h.others name f hnamed hother

theorem FormatsHeld.served (h : d.FormatsHeld l) (hc : d.FormatInPlace l r) {t : State}
    (hserved : d.Served formatKeys l.state r t) : Matched (d.formatsAfter l r) t := by
  have hopened : Matched l.formats (r.context l.state).state := h.matched.carried r.envelope
  cases hserved with
  | quiet hstarted hkept =>
    rw [formatsAfter_none hstarted]
    exact hopened.retains hkept
  | @started name routeId f request pin ctx₁ hroute hnamed hrun hstarted hkept =>
    have hobjects : (Proxy.toFrontend name (r.context l.state)).state.Objects := hopened.objects
    have hobjects₁ := ((endpoint_kept f d.lib r.world routeId).apply hrun).tame.objects hobjects
    have hformat := starts_format hobjects hrun fun hother =>
      hc.start name routeId f request pin ctx₁ hroute hnamed hother hrun
    refine Matched.retains (matched_noted hobjects₁ ?_).1 hkept
    rw [formatsAfter_started hstarted]
    exact hformat
  | @resumed disco issuer name snapshot request hmem hcalls hquery hvalid hallows hsnapshot hrequest hname hstarted hleft hbase
      hkept =>
    have hfound := hc.request disco issuer snapshot request name hmem hcalls hquery hvalid hallows hsnapshot hrequest
      hname
    have hobjects : (Proxy.toFrontend name (disco.resumed issuer snapshot (r.context l.state))).state.Objects :=
      hleft.objects hopened.objects
    rw [formatsAfter_none hstarted]
    refine Matched.retains (matched_noted hobjects ?_).2 hkept
    exact (State.getStr_congr (hbase KEY_NAME_ID_FORMAT)).trans hfound

theorem FormatsHeld.step (h : d.FormatsHeld l) (hc : d.FormatInPlace l r) :
    d.FormatsHeld (d.formatStep statusHint l r) where
  matched := h.served hc (d.serve_served statusHint (by decide) l.state r)
  others := h.othersAfter

theorem formatsHeld_new : d.FormatsHeld { state := State.new } where
  matched := matched_new _
  others _ _ _ _ := rfl

/-- **The response leg shapes for the frontend the response goes back to.** -/
theorem FormatsHeld.follows (h : d.FormatsHeld l) (hc : d.FormatInPlace l r) : d.NameIdFollows l r := by
  intro i n entered startIndex ctx₁ name data ctx₂ _ henter _ hname hservices
  have hmatched : Matched (d.formatsAfter l r) ctx₁.state := by
    have hserved := h.served hc (d.enter_served (by decide) l.state r)
    rw [henter] at hserved
    exact hserved
  have hquiet : d.startedAt l.state r = none := by
    unfold startedAt
    rw [henter]
  rw [formatsAfter_none hquiet] at hmatched
  have hentered : ctx₁.state.getStr STATE_KEY_BASE KEY_NAME_ID_FORMAT = l.formats name := by
    obtain ⟨_, ⟨hrecorded, _⟩ | ⟨hbase, p, view, snapshot, data, hmem, hcalls, hsnapshot, haccepts, hname', _⟩⟩ :=
      d.enter_response formatKeys (by decide) h.matched.objects henter hname
    · exact hmatched.format name hrecorded
    · exact (State.getStr_congr (hbase KEY_NAME_ID_FORMAT)).trans
        (hc.response p view snapshot data name hmem hcalls hsnapshot haccepts hname')
  -- The services before it write their own namespaces.
  have hkept : NamespaceKept STATE_KEY_BASE ctx₁ ctx₂ := by
    have hmem : ∀ ms ∈ (d.proxy.microservices.drop startIndex).take (i - startIndex), ms ∈ d.proxy.microservices :=
      fun ms hms => List.mem_of_mem_drop (List.mem_of_mem_take hms)
    exact (responseServices_keeps (fun _ _ hu => namespaceKept_untouched hu) (fun s _ => s.namespaceKept_base) hmem
      r.world entered).apply hservices
  have hformat : ctx₂.state.getStr STATE_KEY_BASE KEY_NAME_ID_FORMAT = l.formats name :=
    (State.getStr_congr (hkept KEY_NAME_ID_FORMAT)).trans hentered
  rw [NameIdService.processResponse_run, hformat]
  refine ⟨rfl, fun f hnamed hother => ?_⟩
  rw [h.others name f hnamed hother, NameIdService.shape_none]

end

/-- **On every run every `nameid` service a response reaches acts on the format
of the frontend its flow was started at**, and on none when that is not a SAML
frontend, as long as every other frontend starts a flow with no format in the
core's namespace, and every resume finds that of the frontend it restores. -/
theorem nameid_follows (d : Deployment W) (statusHint : Error → Nat) (rs : List (Exchange W))
    (h : Along (d.formatStep statusHint) d.FormatInPlace { state := State.new } rs) :
    Along (d.formatStep statusHint) d.NameIdFollows { state := State.new } rs :=
  Along.of_invariant (fun _ _ hl hc => hl.step statusHint hc) (fun _ _ hl hc => hl.follows hc) formatsHeld_new h

/-! ## An SP and a relying party in one browser -/

/-- The SP's AuthnRequest; the frontend offers the mail address. -/
def plainSp : SamlWorld :=
  { Saml2Backend.answering "_r" with
    redirectDecode := fun _ => .ok { samlXml := .ok "<AuthnRequest/>" }
    parseXml := fun _ => .ok {
      authnRequest := .ok { id := "_sp1", issuer := some "https://sp.example"
                            assertionConsumerServiceUrl := some "https://sp.example/acs" } } }

def mailingOp (n : String) : OidcWorld :=
  { RpBackend.oneOp n with claimsToAttributes := fun _ => SortedMap.ofList [("email", ["alice@example.org"])] }

abbrev MixedWorld := SamlWorld × OpWorld × OidcWorld

def mixedWorld (n : String) : MixedWorld :=
  (plainSp, clientOnly { clientId := "rp", redirectUris := ["https://rp.example/cb"] }, mailingOp n)

def mailMapper : AttributeMapper where
  attributes := SortedMap.ofList [("mail", SortedMap.ofList [("openid", { names := ["email"] })])]

def mixedProxy : Deployment MixedWorld where
  frontends := [.saml { name := "Saml2", idpEntityId := "https://proxy.example/Saml2/metadata"
                        ssoUrl := "https://proxy.example/Saml2/sso", nameIdFormats := [NAMEID_EMAIL]
                        spStore := .allowAll } fun w => w.1, .oidc { name := "OIDC" } fun w => w.2.1]
  backends := [.oidc { name := "Upstream", clientId := "proxy", redirectUri := "https://proxy.example/callback"
                       issuer := some "https://op.example", authorizationEndpoint := some "https://op.example/authorize"
                       tokenEndpoint := some "https://op.example/token", jwksUri := some "https://op.example/jwks"
                       mapper := mailMapper } fun w => w.2.2]
  services := [.transform (NameIdService.transform { name := "nameid" })]
  lib := plainLibrary
  sealer := demoSealer

def spLogin (n : String) (envelope : Option Nat) : Exchange MixedWorld :=
  { world := mixedWorld n, request := { path := "Saml2/sso", query := [("SAMLRequest", "x")] }, envelope }

def rpLogin (n : String) (envelope : Option Nat) : Exchange MixedWorld :=
  { world := mixedWorld n
    request := { path := "OIDC/authorization"
                 queryPairs := [("client_id", "rp"), ("redirect_uri", "https://rp.example/cb")] }
    envelope }

def mixedCallback : Exchange MixedWorld :=
  { world := mixedWorld "3", request := { path := "Upstream/callback", query := [("code", "c"), ("state", "state-2")] }
    envelope := some 0 }

/-- A relying party's login is abandoned for an SP's: the answer to the SP gets
the mail address it asked for. -/
theorem nameid_follows_demo :
    Along (mixedProxy.formatStep fun _ => 500) mixedProxy.NameIdFollows { state := State.new }
      [rpLogin "1" none, spLogin "2" (some 0), mixedCallback] := by
  have hservices : ∀ s ∈ mixedProxy.services, ∃ t, s = .transform t := fun s hs =>
    ⟨_, List.mem_singleton.mp hs⟩
  have hplace : ∀ (l : FormatLedger) (r : Exchange MixedWorld),
      (∀ name routeId f, mixedProxy.proxy.router.resolve r.request.path =
          some { kind := .frontend, moduleName := name, routeId } → mixedProxy.frontendNamed name = some f →
        ¬ f.IsSaml → foundFormat l.state r = none) → mixedProxy.FormatInPlace l r := fun l r hstart =>
    { start := fun name routeId f _ _ _ hroute hnamed hother _ => hstart name routeId f hroute hnamed hother
      request := fun disco _ _ _ _ hmem => by
        obtain ⟨t, ht⟩ := hservices _ hmem
        cases ht
      response := fun p view _ _ _ hmem => by
        obtain ⟨t, ht⟩ := hservices _ hmem
        cases ht }
  refine nameid_follows mixedProxy (fun _ => 500) _ ⟨hplace _ _ ?_, hplace _ _ ?_, hplace _ _ ?_, trivial⟩
  · exact fun _ _ _ _ _ _ => rfl
  · intro name routeId f hroute hnamed hother
    have hsaml : mixedProxy.proxy.router.resolve (spLogin "2" (some 0)).request.path =
        some { kind := .frontend, moduleName := "Saml2", routeId := "sso" } := by decide
    cases hsaml.symm.trans hroute
    cases hnamed
    exact absurd trivial hother
  · intro name routeId f hroute
    have hbackend : mixedProxy.proxy.router.resolve mixedCallback.request.path =
        some { kind := .backend, moduleName := "Upstream", routeId := "callback" } := by decide
    cases hbackend.symm.trans hroute

/-- An SP's login is abandoned for a relying party's: the answer to the relying
party gets the mail address as its subject. -/
theorem nameid_shapes_other :
    ¬ Along (mixedProxy.formatStep fun _ => 500) mixedProxy.NameIdFollows { state := State.new }
      [spLogin "1" none, rpLogin "2" (some 0), mixedCallback] := by
  intro h
  obtain ⟨_, _, hcallback, _⟩ := h
  obtain ⟨_, hunchanged⟩ := hcallback 0 { name := "nameid" } _ 0 _ "OIDC" _ _ rfl rfl (Nat.le_refl 0) rfl rfl
  have hshaped := hunchanged _ rfl id
  have hsubject := congrArg (fun out => out.1.toOption.map (·.subjectId)) hshaped
  exact absurd hsubject (by decide)

end Deployment

end Tunnelbana
