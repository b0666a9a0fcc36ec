import Tunnelbana.Basis.Action
import Tunnelbana.Basis.Run
import Tunnelbana.Basis.Json
import Tunnelbana.Basis.JsonText
import Tunnelbana.Core.Message
import Tunnelbana.Core.Seal
import Tunnelbana.Core.SealFacts
import Tunnelbana.Core.Lifetime
import Tunnelbana.Core.Context
import Tunnelbana.Core.Internal
import Tunnelbana.Basis.Text
import Tunnelbana.Core.Attributes
import Tunnelbana.Core.Plugin
import Tunnelbana.Plugins.Saml
import Tunnelbana.Plugins.Saml2Backend
import Tunnelbana.Plugins.Saml2Acs
import Tunnelbana.Plugins.Saml2Frontend
import Tunnelbana.Plugins.SamlSignature
import Tunnelbana.Plugins.FederationBackend
import Tunnelbana.Plugins.OidcBackend
import Tunnelbana.Plugins.OidcCorrelation
import Tunnelbana.Plugins.Saml2Facts
import Tunnelbana.Plugins.SamlCorrelation
import Tunnelbana.Plugins.DiscoToTargetIssuer
import Tunnelbana.Plugins.FlagPropagation
import Tunnelbana.Plugins.StepUp
import Tunnelbana.Plugins.StepUpGuarantee
import Tunnelbana.Basis.TimedMap
import Tunnelbana.Core.TtlCache
import Tunnelbana.Plugins.DiscoResume
import Tunnelbana.Core.Proxy
import Tunnelbana.Core.ProxyFacts
import Tunnelbana.Plugins.DiscoSelection
import Tunnelbana.Core.CookieChain
import Tunnelbana.Core.FrontendPin
import Tunnelbana.Plugins.Accr
import Tunnelbana.Plugins.Deployment
import Tunnelbana.Plugins.DiscoAllowlist
import Tunnelbana.Plugins.ErrorIsolation
import Tunnelbana.Plugins.NamespaceIsolation
import Tunnelbana.Plugins.PythonService
import Tunnelbana.Plugins.ScopeCache
import Tunnelbana.Plugins.BackendAgreement
import Tunnelbana.Plugins.RecipientAgreement
import Tunnelbana.Plugins.RequestedAssurance
import Tunnelbana.Core.StateCookie
import Tunnelbana.Core.DispatchIdentity
import Tunnelbana.Plugins.AccrNegotiation
import Tunnelbana.Plugins.KeyFrames
import Tunnelbana.Plugins.NameIdService
import Tunnelbana.Plugins.Saml2Store
import Tunnelbana.Plugins.NameIdFormat
import Tunnelbana.Plugins.RelayStateEcho
import Tunnelbana.Core.AttributeFacts
import Tunnelbana.Plugins.AttributeIngestion
import Tunnelbana.Plugins.Passthrough
import Tunnelbana.Plugins.SignedRequest
import Tunnelbana.Plugins.OpCache
import Tunnelbana.Basis.Framing
import Tunnelbana.Basis.SortedMapFacts
import Tunnelbana.Basis.TextSearch
import Tunnelbana.Basis.XmlText
import Tunnelbana.Plugins.StepUpCompletion
import Tunnelbana.Plugins.SubjectIdentity
import Tunnelbana.Plugins.PrimaryIdentifier
import Tunnelbana.Plugins.PairwiseId
import Tunnelbana.Plugins.Values
import Tunnelbana.Plugins.AttributeEmission
import Tunnelbana.Plugins.DecryptedWrapper
import Tunnelbana.Core.CacheBound
import Tunnelbana.Core.ErrorRedirect
import Tunnelbana.Plugins.ScimAttributes
import Tunnelbana.Plugins.ScimService
import Tunnelbana.Plugins.ResponseGate
import Tunnelbana.Plugins.Processor
import Tunnelbana.Basis.FreshTable
import Tunnelbana.Plugins.Routing
import Tunnelbana.Plugins.RpRegistration
import Tunnelbana.Plugins.DpopEndpoints
import Tunnelbana.Plugins.PythonStartup
import Tunnelbana.Plugins.PythonRuntime
import Tunnelbana.Core.CachePersistence
import Tunnelbana.Core.Config
import Tunnelbana.Core.KeyRotation
import Tunnelbana.Core.HttpAdapter
import Tunnelbana.Core.TlsReload
import Tunnelbana.Basis.XmlTree
import Tunnelbana.Plugins.MetadataScopes
import Tunnelbana.Plugins.Pseudonyms
import Tunnelbana.Plugins.LegacyEptid
import Tunnelbana.Plugins.ScopeOwnership
