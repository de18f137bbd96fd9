import AccessGateway.Settings.Basic
import AccessGateway.Url.Parser

/-!
# Valid settings

Settings are checked before anything is built from them; the first rule that is broken, in a
fixed order, is the one reported.
-/

namespace AccessGateway

inductive SettingsError where
  | port
  | expiry
  | signingKey
  | tokenHeader
  | filterTemplate
  | baseDn
  | defaultRole
  | poolSize
  | cacheCapacity
  | tenantUrl (domain : Domain) (e : UrlError)
  | storeUrl (e : UrlError)
  | proxyTarget (e : UrlError)
  | pathPrefix
  | wildcardOrigin
  deriving DecidableEq, Repr

namespace SettingsError

def message : SettingsError → String
  | .port => "server.port must be greater than 0"
  | .expiry => "jwt.expiry_seconds must be positive"
  | .signingKey => "jwt.signing_key must be at least 64 bytes for HS512"
  | .tokenHeader => "jwt.header must not be empty"
  | .filterTemplate => "ldap.user_search_filter must contain the \x7b0\x7d placeholder"
  | .baseDn => "ldap.base_dn must not be empty"
  | .defaultRole =>
    "ldap.default_role must be non-empty without commas or surrounding whitespace"
  | .poolSize => "ldap.pool_size must be greater than 0"
  | .cacheCapacity => "cache capacities must be greater than 0"
  | .tenantUrl domain e =>
    "invalid tenant endpoint url for domain " ++ domain.token ++ ": " ++ e.message
  | .storeUrl e => "invalid secrets_store.url: " ++ e.message
  | .proxyTarget e => "invalid proxy.target: " ++ e.message
  | .pathPrefix => "proxy.path_prefix must start with '/' and not be the root"
  | .wildcardOrigin => "Wildcard CORS origin not allowed in production"

/-- Bad settings are a configuration error. -/
def toApi (e : SettingsError) : ApiError := .configuration e.message

end SettingsError

def usernamePlaceholder : String := "\x7b0\x7d"

namespace Settings

def require (condition : Bool) (e : SettingsError) : Except SettingsError Unit :=
  if condition then .ok () else .error e

def requireUrl (text : String) (e : UrlError → SettingsError) : Except SettingsError Unit :=
  match Url.parse text with
  | .ok _ => .ok ()
  | .error cause => .error (e cause)

/-- The endpoints of a list, one after another. -/
def requireEndpoints : List (Domain × TenantEndpoint) → Except SettingsError Unit
  | [] => .ok ()
  | (domain, endpoint) :: rest =>
    match requireUrl endpoint.url (.tenantUrl domain) with
    | .ok () => requireEndpoints rest
    | .error e => .error e

def validate (s : Settings) : Except SettingsError Unit := do
  require (s.server.port != 0) .port
  require (0 < s.token.expirySeconds) .expiry
  require (64 ≤ Text.Utf8.size s.token.signingKey) .signingKey
  require (!Text.isBlankText s.token.header) .tokenHeader
  require (Text.contains usernamePlaceholder.toList s.directory.filterTemplate.toList)
    .filterTemplate
  require (!Text.isBlankText s.directory.baseDn) .baseDn
  require (TokenService.canCarry s.directory.defaultRole) .defaultRole
  require (s.directory.poolSize != 0) .poolSize
  require (s.directory.cacheCapacity != 0 && s.authorization.clientCacheCapacity != 0)
    .cacheCapacity
  requireEndpoints (s.authorization.managedService ++ s.authorization.delegatedTenant)
  requireUrl s.store.url .storeUrl
  requireUrl s.proxy.target .proxyTarget
  require (Text.startsWith "/" s.proxy.pathPrefix && 2 ≤ Text.Utf8.size s.proxy.pathPrefix)
    .pathPrefix
  require (!(s.environment == .prod && s.allowedOrigins.contains "*")) .wildcardOrigin

end Settings

end AccessGateway
