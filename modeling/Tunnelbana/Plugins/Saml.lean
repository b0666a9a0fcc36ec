/-
SAML messages as the SAML library reads them, and what the library, the
crypto and the metadata service answer while one request is handled
(`SamlWorld`). XML, signatures and encryption are the library's: a document
is its text, and verifying it reports references.
-/
import Tunnelbana.Core.Message
import Tunnelbana.Plugins.StepupPolicy

namespace Tunnelbana

open Basis

def NAMEID_TRANSIENT : String := "urn:oasis:names:tc:SAML:2.0:nameid-format:transient"
def NAMEID_PERSISTENT : String := "urn:oasis:names:tc:SAML:2.0:nameid-format:persistent"
def STATUS_SUCCESS : String := "urn:oasis:names:tc:SAML:2.0:status:Success"
def STATUS_NO_PASSIVE : String := "urn:oasis:names:tc:SAML:2.0:status:NoPassive"
def BINDING_HTTP_POST : String := "urn:oasis:names:tc:SAML:2.0:bindings:HTTP-POST"

/-- Bytes read as UTF-8, or why they are not. -/
abbrev Utf8 : Type := Except String String

/-! ## Responses -/

structure NameId where
  value : String
  format : Option String := none
deriving DecidableEq, Repr

inductive NameIdOrEncryptedId where
  | nameId (n : NameId)
  | encryptedId (raw : Utf8)

inductive AttributeValue where
  | string (s : String)
  | integer (i : Int)
  | boolean (b : Bool)
  | dateTime (s : String)
  | nameId (n : NameId)
  /-- XML and complex values. -/
  | other
deriving DecidableEq, Repr

structure SamlAttribute where
  name : String
  friendlyName : Option String := none
  values : List AttributeValue := []
deriving DecidableEq, Repr

structure AuthnStatement where
  authnContextClassRef : Option String := none
deriving DecidableEq, Repr

structure Assertion where
  id : String
  issuer : String
  hasSignature : Bool := false
  /-- The name id of the subject. -/
  nameId : Option NameIdOrEncryptedId := none
  authnStatements : List AuthnStatement := []
  attributeStatements : List (List SamlAttribute) := []

structure SamlStatus where
  code : String
  subStatus : Option String := none
  message : Option String := none
deriving DecidableEq, Repr

structure SamlResponse where
  id : String
  issuer : Option String := none
  inResponseTo : Option String := none
  hasSignature : Bool := false
  status : SamlStatus := { code := STATUS_SUCCESS }
  assertions : List Assertion := []
  encryptedAssertions : List Utf8 := []

/-! ## Requests -/

structure InboundAuthnRequest where
  id : String
  issuer : Option String := none
  hasSignature : Bool := false
  assertionConsumerServiceUrl : Option String := none
  forceAuthn : Option Bool := none
  isPassive : Option Bool := none
  /-- The format of its NameIDPolicy. -/
  nameIdFormat : Option String := none
  requestedAuthnContext : Option (List String × AuthnContextComparison) := none
deriving DecidableEq, Repr

/-- What is kept of an AuthnRequest once its ACS is resolved. -/
structure ProcessedAuthnRequest where
  requestId : String
  spEntityId : String
  acsUrl : String
  forceAuthn : Bool := false
  isPassive : Bool := false
  requestedNameIdFormat : Option String := none
  requestedAuthnContextClassRefs : List String := []
  authnContextComparison : Option AuthnContextComparison := none
deriving DecidableEq, Repr

structure SpEntry where
  authnRequestsSigned : Option Bool := none
  assertionConsumerServices : List String := []
  signingCertsDer : List String := []
  entityCategories : List String := []
  assuranceCertifications : List String := []
deriving DecidableEq, Repr

/-! ## Documents -/

/-- A parsed XML document, as each kind of SAML object reads it. -/
structure XmlDocument where
  response : Except String SamlResponse := .error "not a Response"
  authnRequest : Except String InboundAuthnRequest := .error "not an AuthnRequest"
  assertion : Except String Assertion := .error "not an Assertion"
  nameId : Except String NameId := .error "not a NameID"
  /-- The source text of the root's Assertion children, where it is
  recoverable; none without a root. -/
  assertionSources : Option (List (Option String)) := some []

/-! ## Signatures -/

/-- A reference of an XML signature; `digestVerified` when its digest was
checked locally. -/
structure Reference where
  uri : String
  digestVerified : Bool
deriving DecidableEq, Repr

inductive VerifyResult where
  | valid (references : List Reference)
  | invalid (reason : String)
deriving DecidableEq, Repr

structure RedirectDecoded where
  samlXml : Utf8
  relayState : Option String := none
  signature : Option String := none
  sigAlg : Option String := none

structure SamlVerifier where
  /-- Every enveloped signature of a document. -/
  verifyAllEnveloped : String → Except String (List VerifyResult)
  /-- The first enveloped signature of a document. -/
  verifyEnveloped : String → Except String VerifyResult
  redirectVerifySignature : RedirectDecoded → Except String Bool

/-! ## Metadata -/

structure IdpSsoDescriptor where
  redirectLocation : Option String
  signingCertificatesDer : List String

structure EntityDescriptor where
  entityId : String
  idpSsoDescriptors : List IdpSsoDescriptor

structure ResolvedIdpMetadata where
  entity : EntityDescriptor
  scopes : List String := []
  policyValues : MetadataPolicyValues := {}

/-! ## The world of a request -/

inductive SecurityPreset where
  | permissive
  | production
  | strict
deriving DecidableEq, Repr

/-- The preset with the accepted clock skew, when overridden. -/
structure SecurityConfig where
  preset : SecurityPreset
  clockSkewSeconds : Option Nat
deriving DecidableEq, Repr

structure ValidationParams where
  receivedUrl : String
  expectedIdpEntityId : String
  spEntityId : String
  acsUrl : String
  expectedRequestId : Option String
  responseSignatureVerified : Option Bool
  verifiedSignedIds : List String
deriving DecidableEq, Repr

/-- What the library and the network answer while a request is handled. -/
structure SamlWorld where
  /-- The id of a new AuthnRequest. -/
  newRequestId : Except String String
  toXmlString : AuthnRequest → Except String Unit := fun _ => .ok ()
  redirectEncode : AuthnRequest → Except String Unit := fun _ => .ok ()
  redirectDecode : HttpRequestData → Except String RedirectDecoded
  /-- The base64 text of a form field, decoded. -/
  base64Decode : String → Except String Utf8
  parseXml : String → Except String XmlDocument
  /-- Keys and trust anchors of certificates. -/
  loadCerts : List String → Except String SamlVerifier
  mdq : String → Except String ResolvedIdpMetadata
  /-- The failed checks of a Response, none when it is valid. -/
  validateResponse : SecurityConfig → SamlResponse → ValidationParams → List String
  isSuccess : SamlStatus → Bool
  /-- The attributes of an assertion's statements. -/
  extractAttributes : List (List SamlAttribute) → List SamlAttribute
  toLowercase : String → String
  now : String
  metadataXml : Except String String
  /-- A registered SP looked up in metadata; none when it is unknown. -/
  spMdq : String → Except String (Option SpEntry)
  /-- Validate an AuthnRequest against a registered SP and resolve its ACS. -/
  processAuthnRequest : InboundAuthnRequest → SpEntry → Bool → Except String ProcessedAuthnRequest
  serializeResponse : SamlPost → Except String Unit := fun _ => .ok ()
  /-- Sign what the frontend is configured to sign. -/
  signResponse : SamlPost → Except Error Unit := fun _ => .ok ()
  /-- A fresh opaque NameID. -/
  freshNameId : String

/-- A verifier of certificates; metadata without any fails closed. -/
def verifierFromCertDers (w : SamlWorld) (ders : List String) : Except Error SamlVerifier :=
  if ders = [] then .error (.authn "metadata carries no signing certificate")
  else (w.loadCerts ders).mapError fun e => .crypto ("parsing signing cert: " ++ e)

end Tunnelbana
