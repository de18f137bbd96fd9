import AccessGateway.Routing.Table
import AccessGateway.Service.Applications
import AccessGateway.Settings.Basic

/-!
# Endpoints

What the gateway serves, and under which paths.  Guarded endpoints are reached with a principal
only.  Everything under the prefix of the relay, with any method, belongs to the relay, except
for the methods that another route has for the same path.
-/

namespace AccessGateway

inductive ApplicationEndpoint where
  | access
  | listSecrets
  | getSecret
  | createSecret
  | deleteSecret
  | listClients
  | createClient
  | deleteClient
  deriving DecidableEq, Repr

/-- What only authenticated callers reach. -/
inductive GuardedEndpoint where
  | currentUser
  | application (endpoint : ApplicationEndpoint)
  /-- The target behind the gateway. -/
  | relay
  deriving DecidableEq, Repr

/-- What everybody reaches. -/
inductive OpenEndpoint where
  | health
  | login
  /-- The description of the interface. -/
  | document
  /-- The way to the pages that show the description. -/
  | documentEntry
  | documentPage
  deriving DecidableEq, Repr

inductive Endpoint where
  | free (endpoint : OpenEndpoint)
  | guarded (endpoint : GuardedEndpoint)
  deriving DecidableEq, Repr

/-- A fault in the path of a request: the parameter that is not the code of a text. -/
structure PathFault where
  parameter : String
  deriving DecidableEq, Repr

namespace PathFault

/-- The answer to such a request, which is not the body of an error. -/
def response (fault : PathFault) : Response :=
  .ofText 400 ("Invalid URL: Invalid UTF-8 in \x60" ++ fault.parameter ++ "\x60")

/-- The texts behind the coded values of parameters. -/
def decodeValues : (names values : List String) → Except PathFault (List String)
  | name :: names, value :: values =>
    match Text.Percent.decode? value with
    | none => .error ⟨name⟩
    | some text => (decodeValues names values).map (text :: ·)
  | _, _ => .ok []

/-- The names of a group and of something in it; a name that the path does not have is empty. -/
def decodeNames (names values : List String) : Except PathFault (String × String) :=
  (decodeValues names values).map fun decoded => (decoded[0]?.getD "", decoded[1]?.getD "")

end PathFault

namespace ApplicationEndpoint

/-- The request about a group, given the short name in the path. -/
def read (short : String) (request : Request) :
    ApplicationEndpoint → Except ApiError ApplicationRequest
  | .access => .ok .access
  | .listSecrets => .ok .listSecrets
  | .getSecret => .ok (.getSecret short)
  | .createSecret => (Form.ofRequest SecretForm request).map (.createSecret short)
  | .deleteSecret => .ok (.deleteSecret short)
  | .listClients => .ok .listClients
  | .createClient => (Form.ofRequest ClientForm request).map (.createClient short)
  | .deleteClient => .ok (.deleteClient short)

end ApplicationEndpoint

namespace Endpoint

def application (method : String) (endpoint : ApplicationEndpoint) : String × Endpoint :=
  (method, .guarded (.application endpoint))

/-- The guarded routes but for the relay. -/
def fixedGuarded : List (String × List (String × Endpoint)) := [
  ("/user", [("GET", .guarded .currentUser)]),
  ("/apps/:app_name/access", [application "GET" .access]),
  ("/apps/:app_name/secrets", [application "GET" .listSecrets]),
  ("/apps/:app_name/secrets/:secret",
    [application "GET" .getSecret, application "POST" .createSecret,
      application "DELETE" .deleteSecret]),
  ("/apps/:app_name/clients", [application "GET" .listClients]),
  ("/apps/:app_name/clients/:client",
    [application "POST" .createClient, application "DELETE" .deleteClient])]

/-- The open routes; only in development are there pages that show the description. -/
def fixedOpen (environment : Environment) : List (String × List (String × Endpoint)) := [
  ("/health", [("GET", .free .health)]),
  ("/login", [("POST", .free .login)]),
  ("/.well-known/openapi.json", [("GET", .free .document)])] ++
  match environment with
  | .prod => []
  | .dev => [
    ("/docs", [("GET", .free .documentEntry)]),
    ("/docs/", [("GET", .free .documentPage)]),
    ("/docs/*rest", [("GET", .free .documentPage)])]

def addAll (table : RouteTable Endpoint) :
    List (String × List (String × Endpoint)) → Except RouteFault (RouteTable Endpoint)
  | [] => .ok table
  | (text, handlers) :: rest =>
    match table.add text handlers with
    | .ok table => addAll table rest
    | .error fault => .error fault

/-- The guarded routes, with the relay under a prefix. -/
def guardedRoutes (relayPrefix : String) : Except RouteFault (RouteTable Endpoint) := do
  let table ← addAll [] fixedGuarded
  let table ← table.add relayPrefix [] (some (.guarded .relay))
  table.add (relayPrefix ++ "/*path") [] (some (.guarded .relay))

def openRoutes (environment : Environment) : Except RouteFault (RouteTable Endpoint) :=
  addAll [] (fixedOpen environment)

end Endpoint

end AccessGateway
