import AccessGateway.Authorization.Client
import AccessGateway.Authorization.Dispatcher
import AccessGateway.Authorization.Owner
import AccessGateway.Authorization.Teams
import AccessGateway.Cache.Basic
import AccessGateway.Cache.Janitor
import AccessGateway.Calendar
import AccessGateway.Crypto.Hmac
import AccessGateway.Crypto.Sha512
import AccessGateway.Directory.Authenticator
import AccessGateway.Directory.Connector
import AccessGateway.Directory.DistinguishedName
import AccessGateway.Directory.Filter
import AccessGateway.Directory.Memory
import AccessGateway.Directory.Pool
import AccessGateway.Directory.Remote
import AccessGateway.Directory.ResultCode
import AccessGateway.Error
import AccessGateway.Http.Client
import AccessGateway.Http.Headers
import AccessGateway.Http.MediaType
import AccessGateway.Http.Message
import AccessGateway.Http.TraceContext
import AccessGateway.Json.Basic
import AccessGateway.Json.Decode
import AccessGateway.Json.Draft
import AccessGateway.Json.Kept
import AccessGateway.Json.Printer
import AccessGateway.Json.Token
import AccessGateway.NameMap
import AccessGateway.Names.Domain
import AccessGateway.Names.Group
import AccessGateway.Names.SecretName
import AccessGateway.Principal
import AccessGateway.Proofs.Authorization.ClientAccounts
import AccessGateway.Proofs.Authorization.FreshClients
import AccessGateway.Proofs.Authorization.Memberships
import AccessGateway.Proofs.Authorization.OwnerReplies
import AccessGateway.Proofs.Authorization.TenantQuestions
import AccessGateway.Proofs.Authorization.Undecomposed
import AccessGateway.Proofs.Cache.Accounting
import AccessGateway.Proofs.Cache.Bound
import AccessGateway.Proofs.Cache.Contents
import AccessGateway.Proofs.Cache.Freshness
import AccessGateway.Proofs.Cache.MissingValues
import AccessGateway.Proofs.Cache.Purging
import AccessGateway.Proofs.Cache.Ranking
import AccessGateway.Proofs.Cache.Recency
import AccessGateway.Proofs.Cache.SearchOrder
import AccessGateway.Proofs.Cache.Searches
import AccessGateway.Proofs.Cache.Sharing
import AccessGateway.Proofs.Cache.SizeReport
import AccessGateway.Proofs.Directory.CachedNames
import AccessGateway.Proofs.Directory.Divisions
import AccessGateway.Proofs.Directory.EscapedValues
import AccessGateway.Proofs.Directory.LoginDecisions
import AccessGateway.Proofs.Directory.PoolBound
import AccessGateway.Proofs.Directory.PoolRuns
import AccessGateway.Proofs.Directory.SearchFilters
import AccessGateway.Proofs.Directory.ServiceIdentity
import AccessGateway.Proofs.Directory.WrittenNames
import AccessGateway.Proofs.Http.CodedRequests
import AccessGateway.Proofs.Http.Destinations
import AccessGateway.Proofs.Json.Records
import AccessGateway.Proofs.Json.Rereading
import AccessGateway.Proofs.Json.Scanning
import AccessGateway.Proofs.Names.GroupPaths
import AccessGateway.Proofs.Names.NameForms
import AccessGateway.Proofs.Names.Spellings
import AccessGateway.Proofs.Names.UniqueName
import AccessGateway.Proofs.Proxy.FilteredHeaders
import AccessGateway.Proofs.Proxy.Hops
import AccessGateway.Proofs.Proxy.Outbound
import AccessGateway.Proofs.Proxy.PassedFields
import AccessGateway.Proofs.Proxy.TokenStripping
import AccessGateway.Proofs.Routing.Conflicts
import AccessGateway.Proofs.Routing.Listing
import AccessGateway.Proofs.Service.AuthenticationGate
import AccessGateway.Proofs.Service.ErrorEnvelope
import AccessGateway.Proofs.Service.FailedLogins
import AccessGateway.Proofs.Service.GroupConfinement
import AccessGateway.Proofs.Service.GroupHistories
import AccessGateway.Proofs.Service.GuardedRoutes
import AccessGateway.Proofs.Service.Inventory
import AccessGateway.Proofs.Service.LateFailures
import AccessGateway.Proofs.Service.ListedNames
import AccessGateway.Proofs.Service.LoginRoundTrip
import AccessGateway.Proofs.Service.RelayedPaths
import AccessGateway.Proofs.Service.RelayedSites
import AccessGateway.Proofs.Service.Starting
import AccessGateway.Proofs.Service.StoreFailures
import AccessGateway.Proofs.Service.TokenLifetimes
import AccessGateway.Proofs.Settings.Valid
import AccessGateway.Proofs.Store.Addresses
import AccessGateway.Proofs.Store.Courses
import AccessGateway.Proofs.Store.Exchanges
import AccessGateway.Proofs.Store.Isolation
import AccessGateway.Proofs.Store.NameOrder
import AccessGateway.Proofs.Store.Replies
import AccessGateway.Proofs.Store.Stock
import AccessGateway.Proofs.Text.Base64Words
import AccessGateway.Proofs.Text.DecimalDigits
import AccessGateway.Proofs.Text.Marks
import AccessGateway.Proofs.Text.PercentWords
import AccessGateway.Proofs.Text.Separators
import AccessGateway.Proofs.Text.Trimming
import AccessGateway.Proofs.Token.Carrying
import AccessGateway.Proofs.Token.Issuing
import AccessGateway.Proofs.Token.Presenting
import AccessGateway.Proofs.Token.Reissuing
import AccessGateway.Proofs.Token.Signing
import AccessGateway.Proofs.Token.Verdict
import AccessGateway.Proofs.Url.Bases
import AccessGateway.Proofs.Url.CodedSegments
import AccessGateway.Proofs.Url.Hosts
import AccessGateway.Proofs.Url.Segments
import AccessGateway.Proofs.Url.Sites
import AccessGateway.Proofs.Url.Targets
import AccessGateway.Proxy.Forwarder
import AccessGateway.Proxy.HeaderFilter
import AccessGateway.Routing.Table
import AccessGateway.Routing.Template
import AccessGateway.Service.Applications
import AccessGateway.Service.CurrentUser
import AccessGateway.Service.Document
import AccessGateway.Service.Endpoint
import AccessGateway.Service.Form
import AccessGateway.Service.Gateway
import AccessGateway.Service.OriginPolicy
import AccessGateway.Settings.Basic
import AccessGateway.Settings.Decode
import AccessGateway.Settings.EnvFile
import AccessGateway.Settings.Printer
import AccessGateway.Settings.Sources
import AccessGateway.Settings.Validation
import AccessGateway.Store.Memory
import AccessGateway.Store.Operation
import AccessGateway.Store.Program
import AccessGateway.Store.Remote
import AccessGateway.Store.SecretStore
import AccessGateway.Tally
import AccessGateway.Text.Ascii
import AccessGateway.Text.Base64
import AccessGateway.Text.Binary64
import AccessGateway.Text.Blank
import AccessGateway.Text.Decimal
import AccessGateway.Text.Lowercase
import AccessGateway.Text.Pem
import AccessGateway.Text.Percent
import AccessGateway.Text.Quoted
import AccessGateway.Text.Split
import AccessGateway.Text.Unprintable
import AccessGateway.Text.Utf8
import AccessGateway.Token.Claims
import AccessGateway.Token.Header
import AccessGateway.Token.Service
import AccessGateway.Url.Basic
import AccessGateway.Url.Host
import AccessGateway.Url.Parser
