/-
The assertion consumer service of the SAML2 backend. A message is decoded,
its signatures collected and its encrypted assertions spliced in
(`readMessage`); then status, correlation and validation; then the identity
is extracted. Nothing parsed is trusted before the signatures are.
-/
import Tunnelbana.Plugins.Saml2Backend

namespace Tunnelbana

open Basis

/-! ## Decoding -/

structure DecodedAcsResponse where
  xml : String
  bindingSignatureVerified : Bool

/-- Whether a redirect carries a signature; one that does not verify fails. -/
def verifyBinding (verifier : SamlVerifier) (decoded : RedirectDecoded) : Except Error Bool :=
  if decoded.signature.isSome ∨ decoded.sigAlg.isSome then
    match verifier.redirectVerifySignature decoded with
    | .error e => .error (.authn ("SAML Response redirect signature verification: " ++ e))
    | .ok true => .ok true
    | .ok false => .error (.authn "SAML Response redirect signature is not valid")
  else .ok false

/-- The Response XML of a redirect (whose query may be signed) or a POST. -/
def decodeAcsResponse (w : SamlWorld) (request : HttpRequestData) (verifier : SamlVerifier) :
    Except Error DecodedAcsResponse :=
  if (request.query.get "SAMLResponse").isSome then do
    let decoded ← (w.redirectDecode request).mapError fun e => Error.badRequest ("redirect decode: " ++ e)
    let verified ← verifyBinding verifier decoded
    let xml ← decoded.samlXml.mapError fun e => Error.badRequest ("SAMLResponse not UTF-8: " ++ e)
    return { xml, bindingSignatureVerified := verified }
  else
    match request.form.get "SAMLResponse" with
    | none => .error (.badRequest "missing SAMLResponse")
    | some field => do
      let bytes ← (w.base64Decode (String.ofList (Text.trim field.toList))).mapError fun e =>
        Error.badRequest ("base64 SAMLResponse: " ++ e)
      let xml ← bytes.mapError fun e => Error.badRequest ("SAMLResponse not UTF-8: " ++ e)
      return { xml, bindingSignatureVerified := false }

/-- The source text of every cleartext Assertion of the document. -/
def cleartextAssertionSources (doc : XmlDocument) (expectedAssertionCount : Nat) : Except Error (List String) :=
  match doc.assertionSources with
  | none => .error (.badRequest "missing SAML Response element")
  | some sources =>
    match sources.mapM id with
    | none => .error (.badRequest "unable to recover original Assertion XML")
    | some sources =>
      if sources.length = expectedAssertionCount then .ok sources
      else .error (.badRequest ("expected " ++ toString expectedAssertionCount
        ++ " cleartext Assertion elements, found " ++ toString sources.length))

/-! ## Signature acceptance -/

def addVerifiedSignedId (ids : List String) (id : String) : List String :=
  if id ∈ ids then ids else ids ++ [id]

/-- What a reference targets: the root of the document when its URI is empty,
the element of a same-document URI, else nothing. -/
def Reference.target (r : Reference) (emptyUriTargetId : String) : Option String :=
  if r.uri = "" then some emptyUriTargetId else stripPrefix "#" r.uri

def addReferences (emptyUriTargetId : String) (ids : List String) (references : List Reference) : List String :=
  references.foldl (fun ids r =>
    match r.target emptyUriTargetId with
    | some id => addVerifiedSignedId ids id
    | none => ids) ids

/-- Add the targets of every signature; any invalid one fails. -/
def addResults (emptyUriTargetId : String) (ids : List String) :
    List VerifyResult → Except Error (List String)
  | [] => .ok ids
  | .valid references :: rest => addResults emptyUriTargetId (addReferences emptyUriTargetId ids references) rest
  | .invalid reason :: _ => .error (.authn ("SAML XML signature is not valid: " ++ reason))

/-- Verify every enveloped XML signature and append the referenced ids. -/
def extendVerifiedXmlSignatureIds (ids : List String) (verifier : SamlVerifier) (xml emptyUriTargetId : String) :
    Except Error (List String) := do
  let results ← (verifier.verifyAllEnveloped xml).mapError fun e =>
    Error.authn ("signature verification failed: " ++ e)
  addResults emptyUriTargetId ids results

def SAML_ASSERTION_NS : String := "urn:oasis:names:tc:SAML:2.0:assertion"
def XMLDSIG_NS : String := "http://www.w3.org/2000/09/xmldsig#"

def standaloneAssertionDocument (assertionXml : String) : String :=
  "<tb:Standalone xmlns:tb=\"urn:tunnelbana:standalone\" xmlns:saml=\"" ++ SAML_ASSERTION_NS ++ "\" xmlns:ds=\""
    ++ XMLDSIG_NS ++ "\">" ++ assertionXml ++ "</tb:Standalone>"

/-- Every assertion verifies as a document of its own; `index` counts them. -/
def verifyStandalone (verifier : SamlVerifier) : Nat → List String → Except Error Unit
  | _, [] => .ok ()
  | index, source :: rest => do
    let result ← (verifier.verifyEnveloped (standaloneAssertionDocument source)).mapError fun e =>
      Error.authn ("signature verification failed: " ++ e)
    match result with
    | .valid _ => verifyStandalone verifier (index + 1) rest
    | .invalid reason =>
      .error (.authn ("assertion " ++ toString (index + 1) ++ " signature is not valid: " ++ reason))

structure SignatureProof where
  verifiedSignedIds : List String
  /-- A Response XML signature targets the Response id. -/
  responseXml : Bool
  /-- The Response envelope is protected. -/
  envelope : Bool

/-- The ids the enveloped XML signatures of the message cover. -/
def xmlSignedIds (verifier : SamlVerifier) (xml : String) (response : SamlResponse) : Except Error (List String) :=
  if response.hasSignature || response.assertions.any (·.hasSignature) then
    extendVerifiedXmlSignatureIds [] verifier xml response.id
  else .ok []

/-- These, and the Response's id under a binding signature. -/
def signedIds (verifier : SamlVerifier) (decoded : DecodedAcsResponse) (response : SamlResponse) :
    Except Error (List String) := do
  let ids ← xmlSignedIds verifier decoded.xml response
  return if decoded.bindingSignatureVerified then addVerifiedSignedId ids response.id else ids

/-- Without a protected envelope every cleartext assertion is signed, and
verifies in the subtree it travelled in. -/
def requireSignedAssertions (verifier : SamlVerifier) (response : SamlResponse) (sources : List String) :
    Except Error Unit :=
  if response.assertions.any (fun a => !a.hasSignature) then
    .error (.authn "SAML Response is unsigned and not every assertion is signed")
  else verifyStandalone verifier 0 sources

/-- The signature acceptance rule for the cleartext part. -/
def verifySignatures (verifier : SamlVerifier) (decoded : DecodedAcsResponse) (response : SamlResponse)
    (sources : List String) : Except Error SignatureProof := do
  let ids ← signedIds verifier decoded response
  let responseXml := response.hasSignature && ids.contains response.id
  let envelope := decoded.bindingSignatureVerified || responseXml
  if envelope then return { verifiedSignedIds := ids, responseXml, envelope }
  else
    requireSignedAssertions verifier response sources
    return { verifiedSignedIds := ids, responseXml, envelope }

/-! ## Decryption -/

/-- The inside of a decrypted `EncryptedAssertion` or `EncryptedID` wrapper;
anything else as it is. -/
def unwrapDecryptedWrapper (xml : String) : String :=
  let trimmed := Text.trim xml.toList
  let isWrapper :=
    match Text.stripPrefix ['<'] trimmed with
    | none => false
    | some rest =>
      let name := rest.take ((Text.find (fun c => c = '>' || c = ' ') rest).getD rest.length)
      let localName := Text.afterLast ':' name
      localName = "EncryptedAssertion".toList || localName = "EncryptedID".toList
  if isWrapper then
    match Text.find (· = '>') trimmed, Text.rfind ['<', '/'] trimmed with
    | some openEnd, some closeStart =>
      if openEnd + 1 ≥ closeStart then xml
      else String.ofList ((trimmed.take closeStart).drop (openEnd + 1))
    | _, _ => xml
  else xml

/-- Try each decryptor in turn; `last` is the latest failure. -/
def decryptWithAny (encryptedXml : String) (last : Option String) :
    List (String → Except String String) → Except Error String
  | [] => .error (.authn ("decrypting SAML element failed with every configured key: "
      ++ last.getD "no encryption_keypairs configured"))
  | decrypt :: rest =>
    match decrypt encryptedXml with
    | .ok plaintext => .ok (unwrapDecryptedWrapper plaintext)
    | .error e => decryptWithAny encryptedXml (some e) rest

/-- A decrypted assertion with the plaintext its signatures were verified on. -/
structure DecryptedAssertion where
  plaintext : String
  assertion : Assertion

namespace Saml2Backend

variable (b : Saml2Backend) (w : SamlWorld)

def decryptAssertion (encrypted : Utf8) : Except Error DecryptedAssertion := do
  let encXml ← encrypted.mapError fun e => Error.badRequest ("non-UTF8 EncryptedAssertion: " ++ e)
  let plaintext ← decryptWithAny encXml none b.decryptors
  let doc ← (w.parseXml plaintext).mapError fun e => Error.authn ("decrypted assertion is not XML: " ++ e)
  let assertion ← doc.assertion.mapError fun e => Error.authn ("parsing decrypted assertion: " ++ e)
  return { plaintext, assertion }

/-- The ids a decrypted assertion adds; unsigned it needs a protected envelope. -/
def admitDecrypted (verifier : SamlVerifier) (envelope : Bool) (ids : List String) (d : DecryptedAssertion) :
    Except Error (List String) :=
  if d.assertion.hasSignature then
    extendVerifiedXmlSignatureIds ids verifier d.plaintext d.assertion.id
  else if envelope then .ok ids
  else .error (.authn "SAML Response is unsigned and a decrypted assertion is unsigned")

/-- Decrypt and admit the encrypted assertions in order. -/
def spliceEncrypted (verifier : SamlVerifier) (envelope : Bool) (ids : List String) :
    List Utf8 → Except Error (List String × List DecryptedAssertion)
  | [] => .ok (ids, [])
  | encrypted :: rest => do
    let d ← b.decryptAssertion w encrypted
    let ids ← admitDecrypted verifier envelope ids d
    let (ids, ds) ← spliceEncrypted verifier envelope ids rest
    return (ids, d :: ds)

/-- A message whose signatures were accepted. -/
structure AcsMessage where
  xml : String
  bindingSignatureVerified : Bool
  /-- With the cleartext assertions only. -/
  cleartext : SamlResponse
  decrypted : List DecryptedAssertion
  proof : SignatureProof

/-- The Response consumed: the decrypted assertions follow the cleartext ones. -/
def AcsMessage.response (m : AcsMessage) : SamlResponse :=
  { m.cleartext with
    assertions := m.cleartext.assertions ++ m.decrypted.map (·.assertion)
    encryptedAssertions := [] }

def parseResponse (xml expectedIdpEntityId : String) : Except Error (SamlResponse × List String) := do
  let doc ← (w.parseXml xml).mapError fun e => Error.badRequest ("invalid SAML XML: " ++ e)
  let response ← doc.response.mapError fun e => Error.badRequest ("parsing Response: " ++ e)
  if b.requestSubject && response.issuer ≠ some expectedIdpEntityId then
    .error (.authn "step-up SAML Response issuer does not match the linked provider")
  else
    let sources ← cleartextAssertionSources doc response.assertions.length
    return (response, sources)

def readMessage (request : HttpRequestData) (verifier : SamlVerifier) (expectedIdpEntityId : String) :
    Except Error AcsMessage := do
  let decoded ← decodeAcsResponse w request verifier
  let (response, sources) ← b.parseResponse w decoded.xml expectedIdpEntityId
  let proof ← verifySignatures verifier decoded response sources
  if response.encryptedAssertions ≠ [] ∧ b.decryptors.isEmpty then
    .error (.authn "SAML Response carries EncryptedAssertion but no encryption_keypairs are configured")
  else
    let (ids, decrypted) ←
      b.spliceEncrypted w verifier proof.envelope proof.verifiedSignedIds response.encryptedAssertions
    return {
      xml := decoded.xml
      bindingSignatureVerified := decoded.bindingSignatureVerified
      cleartext := response
      decrypted
      proof := { proof with verifiedSignedIds := ids } }

/-! ## Status, correlation, validation -/

/-- A non-success status is an authentication error; NoPassive on a passive
flow also asks for interaction. -/
def checkStatus (status : SamlStatus) : Flow Unit := do
  if w.isSuccess status then pure ()
  else
    let ctx ← Flow.context
    let isNoPassive := status.code = STATUS_NO_PASSIVE || status.subStatus = some STATUS_NO_PASSIVE
    if ctx.state.flag b.stateNamespace "is_passive" && isNoPassive then Flow.modify Context.markInteractionRequired
    Flow.fail (.authn ("IdP returned a non-success SAML status: "
      ++ status.message.getD (status.subStatus.getD status.code)))

/-- The AuthnRequest id a Response has to answer; none for an unsolicited
one, where allowed. -/
def expectedRequestId (state : State) (response : SamlResponse) : Except Error (Option String) :=
  match state.getStr b.stateNamespace "authn_id" with
  | some id => .ok (some id)
  | none =>
    if b.allowUnsolicited then
      if response.inResponseTo.isNone then .ok none
      else .error (.authn "SAML Response carries InResponseTo but no AuthnRequest is in flight")
    else .error (.authn "no in-flight AuthnRequest for this ACS (unsolicited responses are disabled)")

def validationParams (expectedIdpEntityId : String) (expectedId : Option String) (m : AcsMessage) :
    ValidationParams :=
  { receivedUrl := b.acsUrl
    expectedIdpEntityId
    spEntityId := b.spEntityId
    acsUrl := b.acsUrl
    expectedRequestId := expectedId
    responseSignatureVerified := if m.cleartext.hasSignature then some m.proof.responseXml else none
    verifiedSignedIds := m.proof.verifiedSignedIds }

def validate (expectedIdpEntityId : String) (expectedId : Option String) (m : AcsMessage) : Except Error Unit :=
  match w.validateResponse b.securityConfig m.response (b.validationParams expectedIdpEntityId expectedId m) with
  | [] => .ok ()
  | failures => .error (.authn ("SAML validation failed: " ++ String.intercalate "; " failures))

/-! ## Identity -/

end Saml2Backend

/-- Attribute values as strings; XML and complex values are dropped. -/
def attributeStringValues (values : List AttributeValue) : List String :=
  values.filterMap fun
    | .string s => some s
    | .integer i => some (toString i)
    | .boolean v => some (toString v)
    | .dateTime s => some s
    | .nameId n => some n.value
    | .other => none

/-- The attributes to consume: those of the authenticated assertion alone
where provenance is required, else of all. -/
def consumedSamlAttributes (w : SamlWorld) (response : SamlResponse) (authenticated : Assertion)
    (requireAuthnProvenance : Bool) : List SamlAttribute :=
  if requireAuthnProvenance then w.extractAttributes authenticated.attributeStatements
  else response.assertions.flatMap fun a => w.extractAttributes a.attributeStatements

def subjectTypeFromNameIdFormat (nameIdFormat : Option String) : SubjectType :=
  if nameIdFormat = some NAMEID_TRANSIENT then .transient else .persistent

def scopeSubjectId (issuer subjectId : String) : String :=
  toString issuer.utf8ByteSize ++ ":" ++ issuer ++ ":" ++ subjectId

def selectSubjectId (mapper : AttributeMapper) (internalAttrs : SortedMap (List String)) (rawNameId issuer : String)
    (dynamicIdpSelection : Bool) (subjectType : SubjectType) (scopeByIssuer : Bool) : String :=
  if dynamicIdpSelection then
    if scopeByIssuer then
      scopeSubjectId issuer ((mapper.composeSubjectId internalAttrs).getD rawNameId)
    else
      match mapper.composeSubjectId internalAttrs with
      | some subjectId => subjectId
      | none => if subjectType = .persistent then scopeSubjectId issuer rawNameId else rawNameId
  else rawNameId

def externalAttributes (attributes : List SamlAttribute) : SortedMap (List String) :=
  attributes.foldl (fun external attr =>
    let values := attributeStringValues attr.values
    if values = [] then external
    else
      let external := external.insert attr.name values
      match attr.friendlyName with
      | some friendly => external.insert friendly values
      | none => external) .empty

namespace Saml2Backend

variable (b : Saml2Backend) (w : SamlWorld)

/-- One unmapped attribute kept under a lowercased key, unless the key is
taken or names an internal attribute of any profile. -/
def passAttribute (known internalNames : List String) (internalAttrs : SortedMap (List String))
    (attr : SamlAttribute) : SortedMap (List String) :=
  let knownAttr := known.contains (w.toLowercase attr.name) ||
    attr.friendlyName.any fun f => known.contains (w.toLowercase f)
  let values := attributeStringValues attr.values
  let key := w.toLowercase (attr.friendlyName.getD attr.name)
  if knownAttr || values = [] || internalAttrs.contains key || internalNames.contains key then internalAttrs
  else internalAttrs.insert key (appendNew [] values)

def internalAttributes (attributes : List SamlAttribute) : SortedMap (List String) :=
  let internalAttrs := b.mapper.toInternal "saml" (externalAttributes attributes)
  if b.passthroughUnmappedAttributes then
    let known := (b.mapper.externalNames "saml").map w.toLowercase
    let internalNames := b.mapper.attributes.entries.map fun p => w.toLowercase p.1
    attributes.foldl (passAttribute w known internalNames) internalAttrs
  else internalAttrs

/-- The name id of an assertion and its format, decrypted where encrypted. -/
def readNameId (assertion : Assertion) : Except Error NameId :=
  match assertion.nameId with
  | some (.nameId nid) => .ok nid
  | some (.encryptedId raw) => do
    let encXml ← raw.mapError fun e => Error.badRequest ("non-UTF8 EncryptedID: " ++ e)
    let plaintext ← decryptWithAny encXml none b.decryptors
    let doc ← (w.parseXml plaintext).mapError fun e => Error.authn ("decrypted NameID is not XML: " ++ e)
    doc.nameId.mapError fun e => Error.authn ("parsing decrypted NameID: " ++ e)
  | none => .error (.authn "missing or unsupported NameID")

/-- The identity of a validated Response: that of its first assertion with an
AuthnStatement. -/
def extractIdentity (response : SamlResponse) : Except Error InternalData :=
  match response.assertions.find? fun a => a.authnStatements ≠ [] with
  | none => .error (.authn "no assertion with an AuthnStatement")
  | some assertion => do
    let nid ← b.readNameId w assertion
    let attributes := b.internalAttributes w (consumedSamlAttributes w response assertion b.requestSubject)
    let subjectType := subjectTypeFromNameIdFormat nid.format
    return {
      authInfo := {
        authClassRef := assertion.authnStatements.head?.bind (·.authnContextClassRef)
        timestamp := some w.now
        issuer := some assertion.issuer }
      requester := none
      requesterName := []
      subjectId := some (selectSubjectId b.mapper attributes nid.value assertion.issuer b.isDynamicIdpSelection
        subjectType b.scopeSubjectIdByIssuer)
      subjectType
      attributes
      forceAuthn := false
      isPassive := false }

/-- What a validated Response publishes of its provider. -/
def publishProvider (scopes : List String) (policyValues : MetadataPolicyValues) (ctx : Context) : Context :=
  ((ctx.decorate KEY_PROVIDER_SCOPES (Json.strings scopes)).decorate
    KEY_PROVIDER_ASSURANCE_CERTIFICATIONS (Json.strings policyValues.assuranceCertifications)).decorate
    KEY_PROVIDER_ENTITY_CATEGORIES (Json.strings policyValues.entityCategories)

def processAcs (verifier : SamlVerifier) (expectedIdpEntityId : String) (providerScopes : List String)
    (providerPolicyValues : MetadataPolicyValues) : Flow BackendAction := do
  let ctx ← Flow.context
  let m ← Action.lift (b.readMessage w ctx.request verifier expectedIdpEntityId)
  b.checkStatus w m.response.status
  Flow.require (m.response.assertions ≠ []) (.authn "SAML Response carries no assertions")
  let expectedId ← Action.lift (b.expectedRequestId ctx.state m.response)
  Action.lift (b.validate w expectedIdpEntityId expectedId m)
  let data ← Action.lift (b.extractIdentity w m.response)
  Flow.modify (publishProvider providerScopes providerPolicyValues)
  Flow.clearNamespace b.stateNamespace
  return .authResponse data

/-- The verifier, expected IdP, scopes and policy values of the IdP this flow
was sent to, not of the issuer the Response claims. -/
def selectedIdp (state : State) :
    Except Error (SamlVerifier × String × List String × MetadataPolicyValues) :=
  match b.idpMetadata with
  | .static _ verifier policyValues =>
    match b.idpEntityId with
    | some expected => .ok (verifier, expected, b.staticIdpScopes, policyValues)
    | none => .error (.internal "static mode without idp_entity_id")
  | .mdq =>
    match (state.getStr b.stateNamespace "idp_entity_id").or b.idpEntityId with
    | none => .error (.authn "no IdP selected for this flow")
    | some selected => do
      let resolved ← (w.mdq selected).mapError fun e =>
        Error.authn ("MDQ lookup for " ++ selected ++ " failed: " ++ e)
      let verifier ← idpVerifierFromMetadata w resolved.entity
      return (verifier, selected, resolved.scopes, resolved.policyValues)

def handleAcs : Flow BackendAction := do
  let ctx ← Flow.context
  let (verifier, expected, scopes, policyValues) ← Action.lift (b.selectedIdp w ctx.state)
  b.processAcs w verifier expected scopes policyValues

def discoTarget (request : HttpRequestData) : Option String := (request.query.get "entityID").filter (· ≠ "")

/-- The discovery-service return: the chosen IdP arrives as `entityID`. -/
def handleDisco : Flow BackendAction := do
  let ctx ← Flow.context
  let target ← Action.orFail (discoTarget ctx.request) (.badRequest "discovery response carries no entityID")
  let redirect ← b.buildAuthnRedirect w (some target)
  return .respond redirect

def handleMetadata : Flow BackendAction := do
  let xml ← Action.lift (w.metadataXml.mapError fun e => Error.internal ("serializing SP metadata: " ++ e))
  return .respond ((Response.text 200 xml).withHeader "content-type"
    "application/samlmetadata+xml; charset=utf-8")

def handleEndpoint (routeId : String) : Flow BackendAction :=
  if routeId = "acs" then b.handleAcs w
  else if routeId = "disco" then b.handleDisco w
  else if routeId = "metadata" then handleMetadata w
  else Flow.fail (.noBoundEndpoint routeId)

def registerEndpoints : List Route :=
  [Route.exact (b.name ++ "/acs") "acs", Route.exact (b.name ++ "/disco") "disco",
    Route.exact (b.name ++ "/metadata") "metadata"]

def backend {W : Type} (view : W → SamlWorld) : Backend W where
  name := b.name
  registerEndpoints := b.registerEndpoints
  startAuth w request := b.startAuth (view w) request
  handleEndpoint w routeId := b.handleEndpoint (view w) routeId

end Saml2Backend

end Tunnelbana
