import AccessGateway.Settings.Basic
import AccessGateway.Text.Binary64
import AccessGateway.Text.Lowercase

/-!
# Reading settings

Settings are read from a JSON value.  How single values are read is a parameter: strictly, each
in its own JSON type, or with the conversions that suit environment variables, where a number may
stand for a text and a word for a truth value.
-/

namespace AccessGateway

open Json

/-- How single values are read. -/
structure Scalars where
  text : Decoder String
  bool : Decoder Bool
  integer : Int → Int → Decoder Int
  environment : Decoder Environment
  /-- Whether an array may hold more items than a record has fields. -/
  looseArrays : Bool

namespace Scalars

def environmentOf? : String → Option Environment
  | "dev" => some .dev
  | "prod" => some .prod
  | _ => none

/-- Each value in its own JSON type. -/
def strict : Scalars where
  text := Decoder.string
  bool := Decoder.bool
  integer := Decoder.integer
  environment := Decoder.choice environmentOf?
  looseArrays := false

/-- The largest integer that is kept exactly. -/
def maxInteger : Int := 9223372036854775807

/-- A number literal, or an integer too large to be kept exactly, as a floating-point number. -/
def float? : Draft → Option Text.Binary64
  | .decimal literal => Text.Binary64.parse? literal
  | .integer i =>
    if i > maxInteger ∨ i < -maxInteger - 1 then
      some (Text.Binary64.ofRatio (i < 0) i.natAbs 1)
    else none
  | _ => none

/-- The words that stand for truth values. -/
def truthWord? (s : String) : Option Bool :=
  match Text.lowercase s with
  | "true" | "on" | "yes" => some true
  | "false" | "off" | "no" => some false
  | _ => none

def signedInteger? (s : String) : Option Int :=
  match s.toList with
  | '-' :: rest => (Text.Decimal.nat? (String.ofList rest)).map fun n => -(n : Int)
  | '+' :: rest => (Text.Decimal.nat? (String.ofList rest)).map fun n => (n : Int)
  | _ => (Text.Decimal.nat? s).map fun n => (n : Int)

/-- The value, or a refusal. -/
def orRefuse {α : Type} : Option α → Except DecodeError α
  | some a => .ok a
  | none => .error .mismatch

def looseText : Decoder String := fun draft =>
  match float? draft, draft with
  | some x, _ => .ok x.toText
  | none, .string (some s) => .ok s
  | none, .bool b => .ok (if b then "true" else "false")
  | none, .integer i => .ok (Text.Decimal.ofInt i)
  | none, _ => .error .mismatch

def looseBool : Decoder Bool := fun draft =>
  match float? draft, draft with
  | some x, _ => .ok !x.isZero
  | none, .bool b => .ok b
  | none, .integer i => .ok (i != 0)
  | none, .string (some "1") => .ok true
  | none, .string (some "0") => .ok false
  | none, .string (some s) => orRefuse (truthWord? s)
  | none, _ => .error .mismatch

/-- A floating-point number as the nearest integer a field of the given kind of sign can take. -/
def clamp (low : Int) (x : Text.Binary64) : Int :=
  let least := if low < 0 then -maxInteger - 1 else 0
  let greatest := if low < 0 then maxInteger else 18446744073709551615
  match x with
  | .nan => 0
  | .infinite negative => if negative then least else greatest
  | finite => max least (min greatest ((finite.round?).getD 0))

def looseInteger (low high : Int) : Decoder Int := fun draft =>
  let value := match float? draft, draft with
    | some x, _ => some (clamp low x)
    | none, .integer i => some i
    | none, .bool b => some (if b then 1 else 0)
    | none, .string (some s) =>
      match truthWord? s with
      | some b => some (if b then 1 else 0)
      | none => signedInteger? s
    | none, _ => none
  match value with
  | some i => if low ≤ i ∧ i ≤ high then .ok i else .error .mismatch
  | none => .error .mismatch

def looseEnvironment : Decoder Environment
  | .string (some s) | .object [(some s, _)] => orRefuse (environmentOf? s)
  | _ => .error .mismatch

/-- With the conversions that suit environment variables. -/
def loose : Scalars where
  text := looseText
  bool := looseBool
  integer := looseInteger
  environment := looseEnvironment
  looseArrays := true

/-- A number of the given width in bits, without sign. -/
def unsigned (scalars : Scalars) (bits : Nat) : Decoder Nat := fun draft =>
  (scalars.integer 0 (Int.ofNat (Nat.pow 2 bits) - 1) draft).map Int.toNat

def signed64 (scalars : Scalars) : Decoder Int :=
  scalars.integer (-maxInteger - 1) maxInteger

def domain (scalars : Scalars) : Decoder Domain :=
  Decoder.filterMap scalars.text Domain.ofToken?

def record {α : Type} (scalars : Scalars) (shape : Shape α) : Decoder α := fun draft =>
  match draft with
  | .array items =>
    shape.decoder (.array (if scalars.looseArrays then items.take shape.fields.length else items))
  | other => shape.decoder other

variable (s : Scalars)

def server : Decoder ServerSettings :=
  s.record (ServerSettings.mk <$> .defaulted "host" s.text "0.0.0.0"
    <*> .defaulted "port" (s.unsigned 16) 8080)

def token : Decoder TokenSettings :=
  s.record (TokenSettings.mk <$> .required "signing_key" s.text
    <*> .defaulted "issuer" s.text "secrets-gateway"
    <*> .defaulted "expiry_seconds" s.signed64 3600
    <*> .defaulted "header" s.text "Authorization"
    <*> .defaulted "token_type" s.text "Bearer")

def directory : Decoder DirectorySettings :=
  s.record (DirectorySettings.mk <$> .required "url" s.text <*> .required "base_dn" s.text
    <*> .defaulted "user_search_filter" s.text "(sAMAccountName=\x7b0\x7d)"
    <*> .required "bind_dn" s.text <*> .required "bind_password" s.text
    <*> .defaulted "pool_size" (s.unsigned 64) 8
    <*> .defaulted "connect_timeout_ms" (s.unsigned 64) 5000
    <*> .defaulted "operation_timeout_ms" (s.unsigned 64) 10000
    <*> .defaulted "pool_timeout_ms" (s.unsigned 64) 5000
    <*> .defaulted "search_cache_capacity" (s.unsigned 64) 100
    <*> .defaulted "search_cache_ttl_seconds" (s.unsigned 64) 1800
    <*> .defaulted "default_role" s.text "ROLE_USER"
    <*> .defaulted "starttls" s.bool false
    <*> .defaulted "no_tls_verify" s.bool false)

def endpoint : Decoder TenantEndpoint :=
  s.record (TenantEndpoint.mk <$> .required "url" s.text <*> .required "token" s.text
    <*> .defaulted "timeout_ms" (s.unsigned 64) 5000)

/-- The endpoints of the domains; of several for one domain the last one counts. -/
def endpoints : Decoder (List (Domain × TenantEndpoint)) := fun draft =>
  (Decoder.entries Domain.ofToken? s.endpoint draft).map fun entries =>
    Domain.all.filterMap fun domain => (entries.reverse.lookup domain).map (domain, ·)

def authorization : Decoder AuthorizationSettings :=
  s.record (AuthorizationSettings.mk <$> .defaulted "admin_team" s.text "keywhiz-admin"
    <*> .defaulted "managed_service_org_prefix" s.text "ms-"
    <*> .defaulted "delegated_tenant_domain_prefix" s.text "tenant-"
    <*> .defaulted "managed_service_token_header" s.text "X-Auth-Token"
    <*> .defaulted "managed_service" s.endpoints []
    <*> .defaulted "delegated_tenant" s.endpoints []
    <*> .defaulted "client_cache_capacity" (s.unsigned 64) 1024)

def teams : Decoder TeamSettings :=
  s.record (TeamSettings.mk <$> .omissible "database_url" s.text
    <*> .defaulted "max_connections" (s.unsigned 32) 5)

def store : Decoder StoreSettings :=
  s.record (StoreSettings.mk <$> .required "url" s.text
    <*> .omissible "client_identity_pem_path" s.text <*> .omissible "ca_cert_path" s.text
    <*> .defaulted "timeout_ms" (s.unsigned 64) 10000)

def proxy : Decoder ProxySettings :=
  s.record (ProxySettings.mk <$> .required "target" s.text
    <*> .defaulted "path_prefix" s.text "/proxy"
    <*> .defaulted "trust_all_certs" s.bool false
    <*> .defaulted "strip_headers" (Decoder.list s.text) ["x-xsrf-token", "x-csrf-token"]
    <*> .defaulted "connect_timeout_ms" (s.unsigned 64) 5000
    <*> .defaulted "timeout_ms" (s.unsigned 64) 30000
    <*> .defaulted "max_body_bytes" (s.unsigned 64) 10485760)

def origins : Decoder (List String) :=
  s.record (.defaulted "allowed_origins" (Decoder.list s.text) ["http://localhost:3000"])

def settings : Decoder Settings :=
  s.record (Settings.mk <$> .defaulted "server" s.server {}
    <*> .defaulted "environment" s.environment .dev
    <*> .defaulted "service_name" s.text "gateway-service"
    <*> .defaulted "service_version" s.text "1.0.0"
    <*> .defaulted "log_level" s.text "info"
    <*> .omissible "otlp_endpoint" s.text
    <*> .defaulted "default_domain" s.domain .prod
    <*> .required "jwt" s.token <*> .required "ldap" s.directory
    <*> .defaulted "authz" s.authorization {} <*> .defaulted "teams" s.teams {}
    <*> .required "secrets_store" s.store <*> .required "proxy" s.proxy
    <*> .defaulted "security" s.origins ["http://localhost:3000"])

end Scalars

end AccessGateway
