/-
Which SAML objects count as signed. A verifier reports the references of a
document's signatures; a reference proves its target only when its digest was
checked. The frontend asks for that; the backend's collector takes every
listed reference, so its acceptance is as good as the verifier's reports:
`acceptsOnlyProved_iff` says exactly when.
-/
import Tunnelbana.Plugins.Saml2Acs
import Tunnelbana.Plugins.Saml2Frontend

namespace Tunnelbana

open Basis

/-! ## What a report lists and proves -/

/-- Every signature of the document verified. -/
def Reports (v : SamlVerifier) (doc : String) (reports : List (List Reference)) : Prop :=
  v.verifyAllEnveloped doc = .ok (reports.map .valid)

/-- A valid signature of the document has a reference to the object. -/
def Lists (v : SamlVerifier) (doc root id : String) : Prop :=
  ∃ reports, Reports v doc reports ∧ ∃ references ∈ reports, ∃ r ∈ references, r.target root = some id

/-- The same, with a reference whose digest was checked. -/
def Proves (v : SamlVerifier) (doc root id : String) : Prop :=
  ∃ reports, Reports v doc reports ∧ ∃ references ∈ reports, ∃ r ∈ references,
    r.digestVerified = true ∧ r.target root = some id

/-- The verifier lists no object it does not also prove. -/
def ProvesWhatItLists (v : SamlVerifier) : Prop := ∀ doc root id, Lists v doc root id → Proves v doc root id

/-! ## The acceptance property -/

namespace Saml2Backend

/-- The documents whose signatures were collected, each with its root's id. -/
def AcsMessage.documents (m : AcsMessage) : List (String × String) :=
  (m.xml, m.cleartext.id) :: m.decrypted.map fun d => (d.plaintext, d.assertion.id)

/-- The object is the target of a reference that was checked under `v`. -/
def AcsMessage.Proved (v : SamlVerifier) (m : AcsMessage) (id : String) : Prop :=
  ∃ d ∈ m.documents, Proves v d.1 d.2 id

/-- The whole message was covered by a redirect-binding signature under `v`. -/
def AcsMessage.BindingProved (v : SamlVerifier) (w : SamlWorld) (request : HttpRequestData) (m : AcsMessage) :
    Prop :=
  ∃ decoded, w.redirectDecode request = .ok decoded ∧ v.redirectVerifySignature decoded = .ok true ∧
    decoded.samlXml = .ok m.xml

/-- The ACS consumes a message under the keys of the selected IdP. -/
def Consumes (b : Saml2Backend) (w : SamlWorld) (ctx : Context) (v : SamlVerifier) (m : AcsMessage) : Prop :=
  (∃ data, (b.handleAcs w ctx).1 = .ok (.authResponse data)) ∧
    ∃ expected rest, b.selectedIdp w ctx.state = .ok (v, expected, rest) ∧
      b.readMessage w ctx.request v expected = .ok m

end Saml2Backend

open Saml2Backend

/-- A Response is valid only if each of its signed assertions, or the Response
itself, is among the ids reported as signed: the library's signature check. -/
def SamlWorld.ChecksSignedIds (w : SamlWorld) : Prop :=
  ∀ cfg response params, w.validateResponse cfg response params = [] →
    ∀ a ∈ response.assertions, a.hasSignature = true →
      a.id ∈ params.verifiedSignedIds ∨ response.id ∈ params.verifiedSignedIds

/-- Under the keys `v`, an assertion is consumed only when it or its Response
is proved, or the message is bound; no object counts as signed otherwise; and
a frontend accepts a signed POST request only when that request is proved. -/
structure AcceptsOnlyProved (v : SamlVerifier) : Prop where
  consumed : ∀ (b : Saml2Backend) (w : SamlWorld) (ctx : Context) (m : AcsMessage), w.ChecksSignedIds →
    b.Consumes w ctx v m → ∀ a ∈ m.response.assertions,
      m.Proved v a.id ∨ m.Proved v m.cleartext.id ∨ m.BindingProved v w ctx.request
  counted : ∀ (b : Saml2Backend) (w : SamlWorld) (request : HttpRequestData) (expected : String) (m : AcsMessage),
    b.readMessage w request v expected = .ok m → ∀ id ∈ m.proof.verifiedSignedIds,
      m.Proved v id ∨ (id = m.cleartext.id ∧ m.BindingProved v w request)
  requested : ∀ (w : SamlWorld) (entry : SpEntry) (authnRequest : InboundAuthnRequest) (xml : String),
    verifierFromCertDers w entry.signingCertsDer = .ok v →
    verifyAuthnRequestSignature w entry none authnRequest xml = .ok () →
      ∃ references, v.verifyEnveloped xml = .ok (.valid references) ∧
        ∃ r ∈ references, r.digestVerified = true ∧ r.uri = "#" ++ authnRequest.id

/-! ## Collecting -/

theorem mem_addVerifiedSignedId {ids : List String} {id id' : String} :
    id' ∈ addVerifiedSignedId ids id ↔ id' ∈ ids ∨ id' = id := by
  unfold addVerifiedSignedId
  split
  next h =>
    constructor
    · exact .inl
    · intro h'
      rcases h' with h' | rfl
      · exact h'
      · exact h
  next => simp

theorem mem_addReferences {root : String} {ids : List String} {references : List Reference} {id : String} :
    id ∈ addReferences root ids references ↔ id ∈ ids ∨ ∃ r ∈ references, r.target root = some id := by
  unfold addReferences
  induction references generalizing ids with
  | nil => simp
  | cons r references ih =>
    rw [List.foldl_cons, ih]
    cases htarget : r.target root with
    | none => simp [htarget]
    | some id' =>
      simp only [mem_addVerifiedSignedId, List.mem_cons, exists_eq_or_imp, htarget, Option.some.injEq]
      constructor
      · intro h
        rcases h with (h | h) | h
        · exact .inl h
        · exact .inr (.inl h.symm)
        · exact .inr (.inr h)
      · intro h
        rcases h with h | h | h
        · exact .inl (.inl h)
        · exact .inl (.inr h.symm)
        · exact .inr h

/-- The collector succeeds on valid signatures only, and adds what they list. -/
theorem addResults_ok {root : String} {results : List VerifyResult} {ids ids' : List String}
    (h : addResults root ids results = .ok ids') :
    ∃ reports : List (List Reference), results = reports.map .valid ∧ ∀ id, id ∈ ids' ↔
      id ∈ ids ∨ ∃ references ∈ reports, ∃ r ∈ references, r.target root = some id := by
  induction results generalizing ids with
  | nil =>
    cases h
    exact ⟨[], rfl, by simp⟩
  | cons result results ih =>
    cases result with
    | invalid reason => cases h
    | valid references =>
      obtain ⟨reports, rfl, hmem⟩ := ih h
      refine ⟨references :: reports, rfl, fun id => ?_⟩
      rw [hmem, mem_addReferences]
      simp [or_assoc]

theorem addResults_valid (root : String) (reports : List (List Reference)) (ids : List String) :
    ∃ ids', addResults root ids (reports.map .valid) = .ok ids' := by
  induction reports generalizing ids with
  | nil => exact ⟨ids, rfl⟩
  | cons references reports ih => exact ih _

/-- **The collector counts exactly what the signatures list.** -/
theorem extend_ok {v : SamlVerifier} {xml root : String} {ids ids' : List String}
    (h : extendVerifiedXmlSignatureIds ids v xml root = .ok ids') (id : String) :
    id ∈ ids' ↔ id ∈ ids ∨ Lists v xml root id := by
  obtain ⟨results, hresults, hadd⟩ := except_bind_ok.mp h
  obtain ⟨reports, rfl, hmem⟩ := addResults_ok hadd
  have hreports : Reports v xml reports := except_mapError_ok.mp hresults
  rw [hmem]
  constructor
  · intro hid
    rcases hid with hid | hid
    · exact .inl hid
    · exact .inr ⟨reports, hreports, hid⟩
  · intro hid
    rcases hid with hid | ⟨reports', hreports', hid⟩
    · exact .inl hid
    · have heq : reports' = reports := by
        have : reports'.map VerifyResult.valid = reports.map .valid :=
          Except.ok.inj (hreports'.symm.trans hreports)
        exact (List.map_inj_right (by intro a b hab; exact VerifyResult.valid.inj hab)).mp this
      exact .inr (heq ▸ hid)

/-! ## Messages -/

/-- A decoded message is taken as bound only when its redirect signature verified. -/
theorem decodeAcsResponse_bound {w : SamlWorld} {request : HttpRequestData} {v : SamlVerifier}
    {decoded : DecodedAcsResponse} (h : decodeAcsResponse w request v = .ok decoded)
    (hbound : decoded.bindingSignatureVerified = true) :
    ∃ redirect, w.redirectDecode request = .ok redirect ∧ v.redirectVerifySignature redirect = .ok true ∧
      redirect.samlXml = .ok decoded.xml := by
  unfold decodeAcsResponse at h
  split at h
  · obtain ⟨redirect, hredirect, h⟩ := except_bind_ok.mp h
    obtain ⟨verified, hverified, h⟩ := except_bind_ok.mp h
    obtain ⟨xml, hxml, h⟩ := except_bind_ok.mp h
    cases h
    simp only at hbound
    subst hbound
    refine ⟨redirect, except_mapError_ok.mp hredirect, ?_, except_mapError_ok.mp hxml⟩
    unfold verifyBinding at hverified
    split at hverified
    · split at hverified
      next => cases hverified
      next heq => exact heq
      next => cases hverified
    · cases hverified
  · split at h
    next => cases h
    next =>
      obtain ⟨_, _, h⟩ := except_bind_ok.mp h
      obtain ⟨_, _, h⟩ := except_bind_ok.mp h
      cases h
      cases hbound

theorem mem_signedIds {v : SamlVerifier} {decoded : DecodedAcsResponse} {response : SamlResponse}
    {ids : List String} (h : signedIds v decoded response = .ok ids) {id : String} (hid : id ∈ ids) :
    Lists v decoded.xml response.id id ∨ (id = response.id ∧ decoded.bindingSignatureVerified = true) := by
  obtain ⟨xmlIds, hxml, h⟩ := except_bind_ok.mp h
  have hlist : ∀ id ∈ xmlIds, Lists v decoded.xml response.id id := by
    intro id hid
    unfold xmlSignedIds at hxml
    split at hxml
    · exact ((extend_ok hxml id).mp hid).resolve_left List.not_mem_nil
    · cases hxml
      exact absurd hid List.not_mem_nil
  cases h
  split at hid
  next hbound =>
    rcases mem_addVerifiedSignedId.mp hid with hid | hid
    · exact .inl (hlist id hid)
    · exact .inr ⟨hid, hbound⟩
  next => exact .inl (hlist id hid)

theorem verifySignatures_ok {v : SamlVerifier} {decoded : DecodedAcsResponse} {response : SamlResponse}
    {sources : List String} {proof : SignatureProof} (h : verifySignatures v decoded response sources = .ok proof) :
    signedIds v decoded response = .ok proof.verifiedSignedIds ∧
      (proof.envelope = true → decoded.bindingSignatureVerified = true ∨ response.id ∈ proof.verifiedSignedIds) ∧
      (proof.envelope = false → ∀ a ∈ response.assertions, a.hasSignature = true) := by
  obtain ⟨ids, hids, h⟩ := except_bind_ok.mp h
  simp only at h
  split at h
  next henv =>
    cases h
    refine ⟨hids, fun _ => ?_, fun hfalse => absurd (henv.symm.trans hfalse) (by decide)⟩
    rcases Bool.or_eq_true_iff.mp henv with hb | hx
    · exact .inl hb
    · have hmem := (Bool.and_eq_true_iff.mp hx).2
      exact .inr (List.contains_iff_mem.mp hmem)
  next henv =>
    obtain ⟨_, hrequire, h⟩ := except_bind_ok.mp h
    cases h
    refine ⟨hids, fun htrue => absurd htrue henv, fun _ a ha => ?_⟩
    unfold requireSignedAssertions at hrequire
    split at hrequire
    next => cases hrequire
    next hall =>
      have hnot : ¬ ∃ a ∈ response.assertions, (!a.hasSignature) = true := by
        intro hex
        exact hall (List.any_eq_true.mpr hex)
      cases hsig : a.hasSignature with
      | true => rfl
      | false => exact absurd ⟨a, ha, by rw [hsig]; rfl⟩ hnot

namespace Saml2Backend

variable {b : Saml2Backend} {w : SamlWorld}

/-- Splicing counts what the plaintexts list, and without a protected envelope
admits signed assertions only. -/
theorem spliceEncrypted_ok {v : SamlVerifier} {envelope : Bool} {encrypted : List Utf8}
    {ids ids' : List String} {ds : List DecryptedAssertion}
    (h : b.spliceEncrypted w v envelope ids encrypted = .ok (ids', ds)) :
    (∀ id ∈ ids', id ∈ ids ∨ ∃ d ∈ ds, Lists v d.plaintext d.assertion.id id) ∧
      (envelope = false → ∀ d ∈ ds, d.assertion.hasSignature = true) := by
  induction encrypted generalizing ids ids' ds with
  | nil =>
    cases h
    exact ⟨fun id hid => .inl hid, fun _ d hd => absurd hd List.not_mem_nil⟩
  | cons e encrypted ih =>
    obtain ⟨d, _, h⟩ := except_bind_ok.mp h
    obtain ⟨ids₁, hadmit, h⟩ := except_bind_ok.mp h
    obtain ⟨⟨ids₂, ds₂⟩, hrest, h⟩ := except_bind_ok.mp h
    cases h
    obtain ⟨hcount, hsigned⟩ := ih hrest
    have hfirst : (∀ id ∈ ids₁, id ∈ ids ∨ Lists v d.plaintext d.assertion.id id) ∧
        (envelope = false → d.assertion.hasSignature = true) := by
      unfold admitDecrypted at hadmit
      split at hadmit
      next hsig => exact ⟨fun id hid => (extend_ok hadmit id).mp hid, fun _ => hsig⟩
      next =>
        split at hadmit
        next henv =>
          cases hadmit
          exact ⟨fun id hid => .inl hid, fun hfalse => absurd henv (by simp [hfalse])⟩
        next => cases hadmit
    refine ⟨fun id hid => ?_, fun henv d' hd' => ?_⟩
    · rcases hcount id hid with hid | ⟨d', hd', hlist⟩
      · rcases hfirst.1 id hid with hid | hlist
        · exact .inl hid
        · exact .inr ⟨d, List.mem_cons_self, hlist⟩
      · exact .inr ⟨d', List.mem_cons_of_mem _ hd', hlist⟩
    · rcases List.mem_cons.mp hd' with rfl | hd'
      · exact hfirst.2 henv
      · exact hsigned henv d' hd'

/-- What an accepted message shows: every counted id is listed by one of its
documents, or is the bound Response's; and its envelope is protected, or every
assertion in it is signed. -/
theorem readMessage_ok {request : HttpRequestData} {v : SamlVerifier} {expected : String} {m : AcsMessage}
    (h : b.readMessage w request v expected = .ok m) :
    (∀ id ∈ m.proof.verifiedSignedIds, (∃ d ∈ m.documents, Lists v d.1 d.2 id) ∨
      (id = m.cleartext.id ∧ m.BindingProved v w request)) ∧
    (m.BindingProved v w request ∨ (∃ d ∈ m.documents, Lists v d.1 d.2 m.cleartext.id) ∨
      ∀ a ∈ m.response.assertions, a.hasSignature = true) := by
  obtain ⟨decoded, hdecode, h⟩ := except_bind_ok.mp h
  obtain ⟨⟨response, sources⟩, hparse, h⟩ := except_bind_ok.mp h
  obtain ⟨proof, hproof, h⟩ := except_bind_ok.mp h
  simp only at hproof h
  split at h
  · cases h
  obtain ⟨⟨ids, ds⟩, hsplice, h⟩ := except_bind_ok.mp h
  cases h
  obtain ⟨hsigned, henvelope, hassertions⟩ := verifySignatures_ok hproof
  obtain ⟨hcount, hdecrypted⟩ := spliceEncrypted_ok hsplice
  have hbound : decoded.bindingSignatureVerified = true → AcsMessage.BindingProved v w request
      { xml := decoded.xml, bindingSignatureVerified := decoded.bindingSignatureVerified, cleartext := response,
        decrypted := ds, proof := { proof with verifiedSignedIds := ids } } :=
    fun hb => decodeAcsResponse_bound hdecode hb
  have hdoc : ∀ id ∈ proof.verifiedSignedIds, Lists v decoded.xml response.id id ∨
      (id = response.id ∧ decoded.bindingSignatureVerified = true) := fun id hid => mem_signedIds hsigned hid
  constructor
  · intro id hid
    rcases hcount id hid with hid | ⟨d, hd, hlist⟩
    · rcases hdoc id hid with hlist | ⟨rfl, hb⟩
      · exact .inl ⟨(decoded.xml, response.id), List.mem_cons_self, hlist⟩
      · exact .inr ⟨rfl, hbound hb⟩
    · exact .inl ⟨(d.plaintext, d.assertion.id), List.mem_cons_of_mem _ (List.mem_map_of_mem hd), hlist⟩
  · cases henv : proof.envelope with
    | true =>
      rcases henvelope henv with hb | hmem
      · exact .inl (hbound hb)
      · rcases hdoc response.id hmem with hlist | ⟨_, hb⟩
        · exact .inr (.inl ⟨(decoded.xml, response.id), List.mem_cons_self, hlist⟩)
        · exact .inl (hbound hb)
    | false =>
      refine .inr (.inr fun a ha => ?_)
      rcases List.mem_append.mp ha with ha | ha
      · exact hassertions henv a ha
      · obtain ⟨d, hd, rfl⟩ := List.mem_map.mp ha
        exact hdecrypted henv d hd

theorem processAcs_ok {v : SamlVerifier} {expected : String} {scopes : List String}
    {policyValues : MetadataPolicyValues} {ctx : Context} {data : InternalData}
    (h : (b.processAcs w v expected scopes policyValues ctx).1 = .ok (.authResponse data)) :
    ∃ m expectedId, b.readMessage w ctx.request v expected = .ok m ∧
      b.expectedRequestId ctx.state m.response = .ok expectedId ∧
      w.validateResponse b.securityConfig m.response (b.validationParams expected expectedId m) = [] ∧
      b.extractIdentity w m.response = .ok data := by
  obtain ⟨m, hm, hstatus⟩ := Action.lift_bind_eq_ok.mp h
  obtain ⟨_, s₁, _, hassertions⟩ := Action.bind_eq_ok_iff.mp hstatus
  obtain ⟨_, s₂, _, hcorrelate⟩ := Action.bind_eq_ok_iff.mp hassertions
  obtain ⟨expectedId, hid, hvalidate⟩ := Action.lift_bind_eq_ok.mp hcorrelate
  obtain ⟨_, hvalid, hextract⟩ := Action.lift_bind_eq_ok.mp hvalidate
  obtain ⟨d, hdata, hd⟩ := Action.lift_bind_eq_ok.mp hextract
  cases hd
  refine ⟨m, expectedId, hm, hid, ?_, hdata⟩
  unfold validate at hvalid
  split at hvalid
  next hnil => exact hnil
  next => cases hvalid

theorem handleAcs_ok {ctx : Context} {data : InternalData} (h : (b.handleAcs w ctx).1 = .ok (.authResponse data)) :
    ∃ v expected rest m expectedId, b.selectedIdp w ctx.state = .ok (v, expected, rest) ∧
      b.readMessage w ctx.request v expected = .ok m ∧
      b.expectedRequestId ctx.state m.response = .ok expectedId ∧
      w.validateResponse b.securityConfig m.response (b.validationParams expected expectedId m) = [] ∧
      b.extractIdentity w m.response = .ok data := by
  obtain ⟨⟨v, expected, scopes, policyValues⟩, hidp, hprocess⟩ := Action.lift_bind_eq_ok.mp h
  obtain ⟨m, expectedId, hm⟩ := processAcs_ok hprocess
  exact ⟨v, expected, _, m, expectedId, hidp, hm⟩

end Saml2Backend

/-! ## The rule -/

theorem verifyAuthnRequestSignature_ok {w : SamlWorld} {entry : SpEntry} {authnRequest : InboundAuthnRequest}
    {xml : String} {v : SamlVerifier} (hv : verifierFromCertDers w entry.signingCertsDer = .ok v)
    (h : verifyAuthnRequestSignature w entry none authnRequest xml = .ok ()) :
    ∃ references, v.verifyEnveloped xml = .ok (.valid references) ∧
      ∃ r ∈ references, r.digestVerified = true ∧ r.uri = "#" ++ authnRequest.id := by
  obtain ⟨v', hv', h⟩ := except_bind_ok.mp h
  have hv'v : v' = v := Except.ok.inj ((except_mapError_ok.mp hv').symm.trans hv)
  subst hv'v
  simp only at h
  split at h
  · cases h
  split at h
  next references hresult =>
    split at h
    next hany =>
      obtain ⟨r, hr, hcheck⟩ := List.any_eq_true.mp hany
      rw [Bool.and_eq_true, decide_eq_true_eq] at hcheck
      exact ⟨references, hresult, r, hr, hcheck⟩
    next => cases h
  next => cases h
  next => cases h

theorem AcceptsOnlyProved.of_provesWhatItLists {v : SamlVerifier} (hv : ProvesWhatItLists v) :
    AcceptsOnlyProved v := by
  have hproved : ∀ (m : AcsMessage) (id : String), (∃ d ∈ m.documents, Lists v d.1 d.2 id) → m.Proved v id :=
    fun m id ⟨d, hd, hlist⟩ => ⟨d, hd, hv _ _ _ hlist⟩
  have hcounted : ∀ (b : Saml2Backend) (w : SamlWorld) (request : HttpRequestData) (expected : String)
      (m : AcsMessage), b.readMessage w request v expected = .ok m → ∀ id ∈ m.proof.verifiedSignedIds,
        m.Proved v id ∨ (id = m.cleartext.id ∧ m.BindingProved v w request) := by
    intro b w request expected m hm id hid
    exact ((readMessage_ok hm).1 id hid).imp (hproved m id) fun h => h
  refine ⟨fun b w ctx m hlawful hconsumes a ha => ?_, hcounted, fun w entry authnRequest xml =>
    verifyAuthnRequestSignature_ok⟩
  obtain ⟨⟨data, hdata⟩, expected, rest, hidp, hm⟩ := hconsumes
  obtain ⟨v', expected', rest', m', expectedId, hidp', hm', _, hvalid, _⟩ := handleAcs_ok hdata
  have hsame : (v', expected', rest') = (v, expected, rest) := Except.ok.inj (hidp'.symm.trans hidp)
  obtain ⟨rfl, rfl, rfl⟩ : v' = v ∧ expected' = expected ∧ rest' = rest := by simpa using hsame
  have hmm : m' = m := Except.ok.inj (hm'.symm.trans hm)
  subst hmm
  rcases (readMessage_ok hm).2 with hbound | hlist | hsigned
  · exact .inr (.inr hbound)
  · exact .inr (.inl (hproved m' _ hlist))
  · -- every assertion is signed: the library accepts it for an id it was given
    rcases hlawful _ _ _ hvalid a ha (hsigned a ha) with hid | hid
    · rcases hcounted b w ctx.request expected' m' hm _ hid with h | ⟨_, h⟩
      · exact .inl h
      · exact .inr (.inr h)
    · rcases hcounted b w ctx.request expected' m' hm _ hid with h | ⟨_, h⟩
      · exact .inr (.inl h)
      · exact .inr (.inr h)

/-! ## The converse -/

/-- A world in which any posted text is the document `doc`, the Response
`response`, valid when its signed assertions count as signed. -/
def postedWorld (doc : String) (response : SamlResponse) (sources : List String) : SamlWorld where
  newRequestId := .error "no requests"
  redirectDecode _ := .error "no redirects"
  base64Decode _ := .ok (.ok doc)
  parseXml _ := .ok { response := .ok response, assertionSources := some (sources.map some) }
  loadCerts _ := .error "no certificates"
  mdq _ := .error "no metadata"
  validateResponse _ response params :=
    if response.assertions.all fun a => !a.hasSignature || params.verifiedSignedIds.contains a.id
      || params.verifiedSignedIds.contains response.id then [] else ["signature: not verified"]
  isSuccess status := status.code = STATUS_SUCCESS
  extractAttributes := List.flatten
  toLowercase := id
  now := "2026-01-01T00:00:00Z"
  metadataXml := .error "no metadata"
  spMdq _ := .error "no metadata"
  processAuthnRequest _ _ _ := .error "no requests"
  freshNameId := "_fresh"

theorem postedWorld_checks (doc : String) (response : SamlResponse) (sources : List String) :
    (postedWorld doc response sources).ChecksSignedIds := by
  intro cfg response params hvalid a ha hsig
  simp only [postedWorld] at hvalid
  split at hvalid
  next hall =>
    have h := List.all_eq_true.mp hall a ha
    simp only [hsig, Bool.not_true, Bool.false_or, Bool.or_eq_true] at h
    exact h.imp List.contains_iff_mem.mp List.contains_iff_mem.mp
  next => cases hvalid

def staticBackend (v : SamlVerifier) : Saml2Backend where
  name := "Saml2"
  stateNamespace := "Saml2"
  spEntityId := "https://proxy.example/Saml2"
  acsUrl := "https://proxy.example/Saml2/acs"
  idpEntityId := some "https://idp.example"
  idpMetadata := .static "https://idp.example/sso" v {}

def postedRequest : HttpRequestData := { method := "POST", path := "Saml2/acs", form := [("SAMLResponse", "PHNhbWw+")] }

/-- Reading a posted, signed Response without assertions counts what its
signatures list. -/
theorem readMessage_posted {v : SamlVerifier} {doc root : String} {ids : List String}
    (h : extendVerifiedXmlSignatureIds [] v doc root = .ok ids) :
    ∃ m, (staticBackend v).readMessage (postedWorld doc { id := root, hasSignature := true } []) postedRequest v
      "https://idp.example" = .ok m ∧ m.proof.verifiedSignedIds = ids ∧ m.documents = [(doc, root)] := by
  let response : SamlResponse := { id := root, hasSignature := true }
  let w := postedWorld doc response []
  have hdecode : decodeAcsResponse w postedRequest v = .ok { xml := doc, bindingSignatureVerified := false } := rfl
  have hparse : (staticBackend v).parseResponse w doc "https://idp.example" = .ok (response, []) := rfl
  have hsigned : signedIds v { xml := doc, bindingSignatureVerified := false } response = .ok ids := by
    simp only [signedIds, xmlSignedIds, response, Bool.true_or, if_true, h]
    rfl
  have hproof : ∃ proof, verifySignatures v { xml := doc, bindingSignatureVerified := false } response []
      = .ok proof ∧ proof.verifiedSignedIds = ids := by
    by_cases hroot : root ∈ ids
    · refine ⟨{ verifiedSignedIds := ids, responseXml := true, envelope := true }, ?_, rfl⟩
      exact except_bind_ok.mpr ⟨ids, hsigned, by simp [response, hroot]; rfl⟩
    · refine ⟨{ verifiedSignedIds := ids, responseXml := false, envelope := false }, ?_, rfl⟩
      exact except_bind_ok.mpr ⟨ids, hsigned, by simp [response, hroot]; rfl⟩
  obtain ⟨proof, hproof, hids⟩ := hproof
  refine ⟨{ xml := doc, bindingSignatureVerified := false, cleartext := response, decrypted := [], proof }, ?_,
    hids, rfl⟩
  exact except_bind_ok.mpr ⟨_, hdecode, except_bind_ok.mpr ⟨_, hparse, except_bind_ok.mpr ⟨proof, hproof, rfl⟩⟩⟩

theorem provesWhatItLists_of_accepts {v : SamlVerifier} (hv : AcceptsOnlyProved v) : ProvesWhatItLists v := by
  intro doc root id hlist
  obtain ⟨reports, hreports, hin⟩ := hlist
  obtain ⟨ids, hids⟩ := addResults_valid root reports []
  have hextend : extendVerifiedXmlSignatureIds [] v doc root = .ok ids := by
    unfold extendVerifiedXmlSignatureIds
    rw [hreports]
    exact hids
  obtain ⟨m, hm, hcount, hdocs⟩ := readMessage_posted hextend
  have hid : id ∈ m.proof.verifiedSignedIds := by
    rw [hcount]
    exact (extend_ok hextend id).mpr (.inr ⟨reports, hreports, hin⟩)
  rcases hv.counted _ _ _ _ m hm id hid with ⟨d, hd, hproves⟩ | ⟨_, _, hdecode, _⟩
  · rw [hdocs, List.mem_singleton] at hd
    subst hd
    exact hproves
  · cases hdecode

/-- **The backend consumes only what was proved exactly under verifiers that
prove what they list.** -/
theorem acceptsOnlyProved_iff (v : SamlVerifier) : AcceptsOnlyProved v ↔ ProvesWhatItLists v :=
  ⟨provesWhatItLists_of_accepts, .of_provesWhatItLists⟩

/-! ## A listed reference that was not checked -/

/-- A verifier whose one signature lists the Response without having checked
its digest. -/
def listingVerifier : SamlVerifier where
  verifyAllEnveloped _ := .ok [.valid [{ uri := "#_r1", digestVerified := false }]]
  verifyEnveloped _ := .ok (.valid [{ uri := "#_r1", digestVerified := false }])
  redirectVerifySignature _ := .ok false

def listedResponse : SamlResponse where
  id := "_r1"
  issuer := some "https://idp.example"
  inResponseTo := some "_q1"
  hasSignature := true
  assertions := [{
    id := "_a1"
    issuer := "https://idp.example"
    nameId := some (.nameId { value := "alice", format := some NAMEID_PERSISTENT })
    authnStatements := [{}] }]

def listedMessage : AcsMessage where
  xml := "<Response/>"
  bindingSignatureVerified := false
  cleartext := listedResponse
  decrypted := []
  proof := { verifiedSignedIds := ["_r1"], responseXml := true, envelope := true }

def listedWorld : SamlWorld := postedWorld "<Response/>" listedResponse ["<Assertion/>"]

def listedContext : Context :=
  { request := postedRequest, state := State.new.setStr "Saml2" "authn_id" "_q1" }

/-- The message is consumed although neither its assertion nor its Response is
the target of a checked reference, nor is it bound. -/
theorem listedMessage_consumed :
    listedWorld.ChecksSignedIds ∧ (staticBackend listingVerifier).Consumes listedWorld listedContext listingVerifier
      listedMessage ∧ ∃ a ∈ listedMessage.response.assertions, ¬ (listedMessage.Proved listingVerifier a.id ∨
        listedMessage.Proved listingVerifier listedMessage.cleartext.id ∨
        listedMessage.BindingProved listingVerifier listedWorld listedContext.request) := by
  have hunproved : ∀ id, ¬ listedMessage.Proved listingVerifier id := by
    intro id ⟨_, _, reports, hreports, references, hmem, r, hr, hdigest, _⟩
    have hmap : reports.map VerifyResult.valid = [.valid [{ uri := "#_r1", digestVerified := false }]] :=
      (Except.ok.inj hreports).symm
    have hin : VerifyResult.valid references ∈ reports.map VerifyResult.valid := List.mem_map_of_mem hmem
    rw [hmap, List.mem_singleton] at hin
    cases hin
    rw [List.mem_singleton] at hr
    subst hr
    cases hdigest
  refine ⟨postedWorld_checks _ _ _, ⟨⟨_, rfl⟩, _, _, rfl, rfl⟩, _, List.mem_cons_self, ?_⟩
  intro h
  rcases h with h | h | ⟨_, hdecode, _⟩
  · exact hunproved _ h
  · exact hunproved _ h
  · cases hdecode

end Tunnelbana
