import AccessGateway.Token.Service

/-!
# Settings

Everything that is configured, section by section.  Times are in milliseconds unless the name
says otherwise.
-/

namespace AccessGateway

structure ServerSettings where
  host : String := "0.0.0.0"
  port : Nat := 8080
  deriving DecidableEq, Repr

inductive Environment where
  | dev
  | prod
  deriving DecidableEq, Repr

/-- The corporate directory and the pool of connections to it. -/
structure DirectorySettings where
  url : String
  baseDn : String
  /-- The search filter, with a placeholder for the username. -/
  filterTemplate : String := "(sAMAccountName=\x7b0\x7d)"
  bindDn : String
  bindPassword : String
  poolSize : Nat := 8
  connectTimeout : Nat := 5000
  operationTimeout : Nat := 10000
  poolTimeout : Nat := 5000
  cacheCapacity : Nat := 100
  cacheTtlSeconds : Nat := 1800
  /-- The role every authenticated user has. -/
  defaultRole : String := "ROLE_USER"
  startTls : Bool := false
  noTlsVerify : Bool := false
  deriving DecidableEq, Repr

namespace DirectorySettings

/-- How long a name found by a search is kept. -/
def cacheTtl (settings : DirectorySettings) : Nat := settings.cacheTtlSeconds * 1000

end DirectorySettings

/-- A remote system that decides on the groups of one domain. -/
structure TenantEndpoint where
  url : String
  token : String
  timeout : Nat := 5000
  deriving DecidableEq, Repr

/-- How groups are assigned to the systems that decide on them. -/
structure AuthorizationSettings where
  adminTeam : String := "keywhiz-admin"
  managedOrgPrefix : String := "ms-"
  delegatedDomainPrefix : String := "tenant-"
  managedTokenHeader : String := "X-Auth-Token"
  managedService : List (Domain × TenantEndpoint) := []
  delegatedTenant : List (Domain × TenantEndpoint) := []
  clientCacheCapacity : Nat := 1024
  deriving DecidableEq, Repr

/-- The database of teams; without a URL the team table is empty. -/
structure TeamSettings where
  databaseUrl : Option String := none
  maxConnections : Nat := 0
  deriving DecidableEq, Repr

structure StoreSettings where
  url : String
  /-- A file with a client certificate and its private key. -/
  clientIdentityPath : Option String := none
  caCertificatePath : Option String := none
  timeout : Nat := 10000
  deriving DecidableEq, Repr

structure ProxySettings where
  target : String
  pathPrefix : String := "/proxy"
  /-- Accept any certificate of the target. -/
  trustAllCertificates : Bool := false
  /-- Request headers that are not passed on. -/
  stripHeaders : List String := ["x-xsrf-token", "x-csrf-token"]
  connectTimeout : Nat := 5000
  timeout : Nat := 30000
  maxBodyBytes : Nat := 10485760
  deriving DecidableEq, Repr

structure Settings where
  server : ServerSettings := {}
  environment : Environment := .dev
  serviceName : String := "gateway-service"
  serviceVersion : String := "1.0.0"
  logLevel : String := "info"
  otlpEndpoint : Option String := none
  /-- The domain of logins that name none. -/
  defaultDomain : Domain := .prod
  token : TokenSettings
  directory : DirectorySettings
  authorization : AuthorizationSettings := {}
  teams : TeamSettings := {}
  store : StoreSettings
  proxy : ProxySettings
  allowedOrigins : List String := ["http://localhost:3000"]
  deriving DecidableEq, Repr

namespace Settings

/-- The settings that turn off the verification of certificates. -/
def insecure (settings : Settings) : List String :=
  (if settings.directory.noTlsVerify then ["ldap.no_tls_verify"] else []) ++
    (if settings.proxy.trustAllCertificates then ["proxy.trust_all_certs"] else [])

end Settings

end AccessGateway
