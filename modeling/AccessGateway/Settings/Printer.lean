import AccessGateway.Settings.Basic

/-!
# Writing settings

All settings as one JSON value, section by section, with the names under which they are read.
Durations end in `_ms`; endpoints are an object from domain to endpoint.
-/

namespace AccessGateway

open Json

def ServerSettings.toJson (s : ServerSettings) : Json :=
  .object [("host", .string s.host), ("port", .nat s.port)]

def Environment.name : Environment → String
  | .dev => "Dev"
  | .prod => "Prod"

def TokenSettings.toJson (s : TokenSettings) : Json :=
  .object [("signing_key", .string s.signingKey), ("issuer", .string s.issuer),
    ("expiry_seconds", .integer s.expirySeconds), ("header", .string s.header),
    ("token_type", .string s.tokenType)]

def DirectorySettings.toJson (s : DirectorySettings) : Json :=
  .object [("url", .string s.url), ("base_dn", .string s.baseDn),
    ("user_search_filter", .string s.filterTemplate), ("bind_dn", .string s.bindDn),
    ("bind_password", .string s.bindPassword), ("pool_size", .nat s.poolSize),
    ("connect_timeout_ms", .nat s.connectTimeout),
    ("operation_timeout_ms", .nat s.operationTimeout),
    ("pool_timeout_ms", .nat s.poolTimeout), ("search_cache_capacity", .nat s.cacheCapacity),
    ("search_cache_ttl_ms", .nat s.cacheTtl), ("default_role", .string s.defaultRole),
    ("starttls", .bool s.startTls), ("no_tls_verify", .bool s.noTlsVerify)]

def TenantEndpoint.toJson (e : TenantEndpoint) : Json :=
  .object [("url", .string e.url), ("token", .string e.token), ("timeout_ms", .nat e.timeout)]

def TenantEndpoint.listToJson (endpoints : List (Domain × TenantEndpoint)) : Json :=
  .object (endpoints.map fun (domain, endpoint) => (domain.token, endpoint.toJson))

def AuthorizationSettings.toJson (s : AuthorizationSettings) : Json :=
  .object [("admin_team", .string s.adminTeam),
    ("managed_service_org_prefix", .string s.managedOrgPrefix),
    ("delegated_tenant_domain_prefix", .string s.delegatedDomainPrefix),
    ("managed_service_token_header", .string s.managedTokenHeader),
    ("managed_service", TenantEndpoint.listToJson s.managedService),
    ("delegated_tenant", TenantEndpoint.listToJson s.delegatedTenant),
    ("client_cache_capacity", .nat s.clientCacheCapacity)]

def TeamSettings.toJson (s : TeamSettings) : Json :=
  .object [("database_url", .ofText? s.databaseUrl), ("max_connections", .nat s.maxConnections)]

def StoreSettings.toJson (s : StoreSettings) : Json :=
  .object [("url", .string s.url), ("client_identity_pem_path", .ofText? s.clientIdentityPath),
    ("ca_cert_path", .ofText? s.caCertificatePath), ("timeout_ms", .nat s.timeout)]

def ProxySettings.toJson (s : ProxySettings) : Json :=
  .object [("target", .string s.target), ("path_prefix", .string s.pathPrefix),
    ("trust_all_certs", .bool s.trustAllCertificates), ("strip_headers", .texts s.stripHeaders),
    ("connect_timeout_ms", .nat s.connectTimeout), ("timeout_ms", .nat s.timeout),
    ("max_body_bytes", .nat s.maxBodyBytes)]

def Settings.toJson (s : Settings) : Json :=
  .object [("server", s.server.toJson), ("environment", .string s.environment.name),
    ("service_name", .string s.serviceName), ("service_version", .string s.serviceVersion),
    ("log_level", .string s.logLevel), ("otlp_endpoint", .ofText? s.otlpEndpoint),
    ("default_domain", .string s.defaultDomain.token), ("jwt", s.token.toJson),
    ("ldap", s.directory.toJson), ("authz", s.authorization.toJson),
    ("teams", s.teams.toJson), ("secrets_store", s.store.toJson), ("proxy", s.proxy.toJson),
    ("security", .object [("allowed_origins", .texts s.allowedOrigins)])]

end AccessGateway
