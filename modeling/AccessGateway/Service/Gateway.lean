import AccessGateway.Authorization.Dispatcher
import AccessGateway.Directory.Authenticator
import AccessGateway.Proxy.Forwarder
import AccessGateway.Service.CurrentUser
import AccessGateway.Service.Document
import AccessGateway.Service.Endpoint
import AccessGateway.Service.OriginPolicy
import AccessGateway.Settings.Printer
import AccessGateway.Settings.Validation
import AccessGateway.Store.SecretStore

/-!
# The gateway

A gateway is built from settings once, and serves one request after another over a state.  Before
anything else a guarded endpoint asks for a token; a request about a group is then authorized
before the secrets store is asked.  Every answer carries the identifier of its request, the
errors among them the path, and answers are counted by method, route and status.
-/

namespace AccessGateway

structure Gateway where
  settings : Settings
  tokens : TokenService
  forwarder : Forwarder
  routes : RouteTable Endpoint
  policy : OriginPolicy

inductive StartFailure where
  | tokens (reason : String)
  | forwarder (reason : String)
  | refused (e : ApiError)
  /-- Building breaks off: a route cannot be added. -/
  | badRoute (fault : RouteFault)
  /-- Building breaks off: an origin is a wildcard. -/
  | wildcardOrigin
  deriving DecidableEq, Repr

/-- What changes while a gateway serves; `δ` is the type of the directory's states. -/
structure GatewayState (δ : Type) where
  clock : Instant
  authenticator : Authenticator
  directory : δ
  dispatcher : Dispatcher
  teams : TeamRepository
  store : SecretStore
  network : Network
  /-- How many answers of the target were relayed, by status. -/
  relayed : Tally Nat := []
  /-- How many requests were answered, by method, route and status. -/
  served : Tally (String × String × Nat) := []

namespace GatewayState

def initial {δ : Type} (settings : Settings) (clock : Instant) (directory : δ)
    (teams : TeamRepository) (store : SecretStore) (network : Network) : GatewayState δ where
  clock := clock
  authenticator := .ofSettings settings.directory
  directory := directory
  dispatcher := .ofSettings settings.authorization
  teams := teams
  store := store
  network := network

end GatewayState

/-- The gateway breaks off instead of answering. -/
inductive Breakdown where
  /-- The expiry of a token would lie beyond the calendar. -/
  | beyondCalendar
  deriving DecidableEq, Repr

namespace Gateway

/-- The prefix of the relay without slashes at its end. -/
def relayPrefix (settings : ProxySettings) : String := Text.dropTrailing '/' settings.pathPrefix

def tokenHeaderError (header : String) : ApiError :=
  .configuration ("invalid token header '" ++ header ++ "': invalid HTTP header name")

def frame (settings : Settings) : Except StartFailure (RouteTable Endpoint × OriginPolicy) :=
  match Endpoint.guardedRoutes (relayPrefix settings.proxy) with
  | .error fault => .error (.badRoute fault)
  | .ok guarded =>
    match Headers.name? settings.token.header with
    | none => .error (.refused (tokenHeaderError settings.token.header))
    | some tokenHeader =>
      match (Endpoint.openRoutes settings.environment).bind (RouteTable.merge · guarded) with
      | .error fault => .error (.badRoute fault)
      | .ok routes =>
        match OriginPolicy.ofOrigins? settings.allowedOrigins tokenHeader with
        | none => .error .wildcardOrigin
        | some policy => .ok (routes, policy)

def ofSettings (settings : Settings) : Except StartFailure Gateway :=
  match TokenService.ofSettings settings.token with
  | .error reason => .error (.tokens reason)
  | .ok tokens =>
    match Forwarder.ofSettings settings.proxy settings.token.header with
    | .error reason => .error (.forwarder reason)
    | .ok forwarder =>
      (frame settings).map fun (routes, policy) => ⟨settings, tokens, forwarder, routes, policy⟩

theorem parts_of_ofSettings {settings : Settings} {gateway : Gateway}
    (h : ofSettings settings = .ok gateway) :
    gateway.settings = settings ∧ TokenService.ofSettings settings.token = .ok gateway.tokens ∧
      Forwarder.ofSettings settings.proxy settings.token.header = .ok gateway.forwarder ∧
        frame settings = .ok (gateway.routes, gateway.policy) := by
  unfold ofSettings at h
  split at h
  · cases h
  next tokens htokens =>
    split at h
    · cases h
    next forwarder hforwarder =>
      cases hframe : frame settings with
      | error e =>
        rw [hframe] at h
        cases h
      | ok framed =>
        rw [hframe] at h
        cases h
        exact ⟨rfl, htokens, hforwarder, rfl⟩

def tokenOf? (gateway : Gateway) (headers : Headers) : Option String :=
  (headers.firstVisible? (Text.Ascii.lower gateway.settings.token.header)).bind
    (extractToken · gateway.tokens.tokenType)

def authenticate (gateway : Gateway) (now : Instant) (headers : Headers) :
    Except ApiError Principal :=
  match gateway.tokenOf? headers with
  | none =>
    .error (.unauthorized ("Missing or invalid " ++ gateway.settings.token.header ++ " header"))
  | some token =>
    match gateway.tokens.validate now token with
    | .error .expired => .error GatewayError.tokenExpired.toApi
    | .error _ => .error GatewayError.tokenInvalid.toApi
    | .ok claims =>
      match claims.toPrincipal gateway.settings.defaultDomain with
      | .error _ => .error GatewayError.tokenInvalid.toApi
      | .ok principal => .ok principal

variable {δ : Type}

def health (gateway : Gateway) (state : GatewayState δ) : Response :=
  .ofJson 200 (.object [
    ("status", .string "healthy"),
    ("service", .string gateway.settings.serviceName),
    ("version", .string gateway.settings.serviceVersion),
    ("environment", .string gateway.settings.environment.name),
    ("caches", .object [
      ("directory_search", state.authenticator.names.stats.toJson),
      ("authz_backends", state.dispatcher.clients.stats.toJson)])])

def login (gateway : Gateway) (connector : Connector δ) (state : GatewayState δ)
    (request : Request) : Except Breakdown Response × GatewayState δ :=
  match Form.ofRequest LoginForm request with
  | .error e => (.ok (.ofError e), state)
  | .ok form =>
    match state.authenticator.authenticate connector state.directory form.username form.password
        (form.domain.getD gateway.settings.defaultDomain) with
    | (result, authenticator, directory) =>
      let state := { state with authenticator := authenticator, directory := directory }
      match result with
      | .error e => (.ok (.ofError e.toApi), state)
      | .ok principal =>
        match gateway.tokens.issue state.clock principal with
        | .ok token => (.ok (.ofJson 200 token.toJson), state)
        | .error (.refused e) => (.ok (.ofError e.toGateway.toApi), state)
        | .error .beyondCalendar => (.error .beyondCalendar, state)

/-- The page of the description under a path; there is one page only. -/
def documentPage : List String → Response
  | [] => page
  | rest :: _ =>
    if ["", "index.html"].contains ((Text.Percent.decode? rest).getD "") then page
    else { status := 404 }
where
  page : Response :=
    { status := 200
      headers := [("content-type", "text/html")]
      payload := .text "<!DOCTYPE html><title>Access gateway</title>" }

def serveOpen (gateway : Gateway) (connector : Connector δ) (state : GatewayState δ)
    (request : Request) (values : List String) :
    OpenEndpoint → Except Breakdown Response × GatewayState δ
  | .health => (.ok (gateway.health state), state)
  | .login => gateway.login connector state request
  | .document => (.ok (.ofJson 200 InterfaceDocument.toJson), state)
  | .documentEntry => (.ok { status := 303, headers := [("location", "/docs/")] }, state)
  | .documentPage => (.ok (documentPage values), state)

/-- What a request about a group asks of the secrets store, once the caller is authorized, or the
refusal.  Path, form and group are read in this order. -/
def authorizedProgram (state : GatewayState δ) (principal : Principal) (request : Request)
    (names values : List String) (endpoint : ApplicationEndpoint) :
    Except Response (StoreProgram (Except GatewayError Response)) × GatewayState δ :=
  match PathFault.decodeNames names values with
  | .error fault => (.error fault.response, state)
  | .ok (app, short) =>
    match endpoint.read short request with
    | .error e => (.error (.ofError e), state)
    | .ok what =>
      match Group.parse principal.domain app with
      | .error e => (.error (.ofError (GatewayError.ofName e).toApi), state)
      | .ok group =>
        match state.dispatcher.ensureAuthorized state.teams state.network group principal with
        | (result, dispatcher, teams, network) =>
          let state := { state with dispatcher := dispatcher, teams := teams, network := network }
          match result with
          | .error e => (.error (.ofError e.toApi), state)
          | .ok () => (.ok (what.program principal group), state)

def serveApplication (state : GatewayState δ) (principal : Principal) (request : Request)
    (names values : List String) (endpoint : ApplicationEndpoint) :
    Response × GatewayState δ :=
  match authorizedProgram state principal request names values endpoint with
  | (.error refusal, state) => (refusal, state)
  | (.ok program, state) =>
    match program.run SecretStore.answer (state.store, state.network) with
    | (result, store, network) =>
      (.ofResult result, { state with store := store, network := network })

/-- Relays a request to the target, without the prefix in its path. -/
def relay (gateway : Gateway) (state : GatewayState δ) (request : Request) :
    Response × GatewayState δ :=
  let path := request.target.path
  let below := (Text.stripStart? (relayPrefix gateway.settings.proxy) path).getD path
  match gateway.forwarder.forward state.network state.relayed
      ⟨request.method, request.target.query, request.headers, request.body⟩ below with
  | (result, network, relayed) =>
    let state := { state with network := network, relayed := relayed }
    match result with
    | .error e => (.ofError e.toApi, state)
    | .ok answer => (⟨answer.status, answer.headers, .bytes answer.body⟩, state)

def serveGuarded (gateway : Gateway) (state : GatewayState δ) (principal : Principal)
    (request : Request) (names values : List String) :
    GuardedEndpoint → Response × GatewayState δ
  | .currentUser => (currentUser (some principal), state)
  | .application endpoint => serveApplication state principal request names values endpoint
  | .relay => gateway.relay state request

def noRoute (path : String) : ApiError := .notFound ("No route for " ++ path)

def noMethod (method path : String) : ApiError :=
  .methodNotAllowed (method ++ " is not supported on " ++ path)

def answer (gateway : Gateway) (connector : Connector δ) (state : GatewayState δ)
    (request : Request) :
    Option (Route Endpoint × List String) → Except Breakdown Response × GatewayState δ
  | none => (.ok (.ofError (noRoute request.target.path)), state)
  | some (route, values) =>
    match route.endpoint? request.method with
    | none => (.ok (.ofError (noMethod request.method request.target.path)), state)
    | some (.free endpoint) => gateway.serveOpen connector state request values endpoint
    | some (.guarded endpoint) =>
      match gateway.authenticate state.clock request.headers with
      | .error e => (.ok (.ofError e), state)
      | .ok principal =>
        let (response, state) :=
          gateway.serveGuarded state principal request route.template.names values endpoint
        (.ok response, state)

def requestIdHeader : String := "x-request-id"

/-- The identifier of a request: the one it brings along, or a fresh one. -/
def requestId (fresh : String) (headers : Headers) : String :=
  ((headers.firstVisible? requestIdHeader).filter (!·.isEmpty)).getD fresh

/-- The name under which the answers on a route are counted. -/
def routeLabel (route : Option (Route Endpoint × List String)) : String :=
  match route with
  | some (route, _) => route.template.text
  | none => "unmatched"

/-- What the route of a path does to an answer: an error of method tells the methods there are,
and the answer to `HEAD` has no body. -/
def atRoute (route : Option (Route Endpoint × List String)) (method : String)
    (response : Response) : Response :=
  match route with
  | none => response
  | some (route, _) =>
    let response :=
      match route.endpoint? method, route.allowed? with
      | none, some methods => response.withHeader "allow" methods
      | _, _ => response
    if route.dropsBody method then response.withoutPayload else response

/-- Serves one request; a fresh identifier is at hand for a request without one. -/
def serve (gateway : Gateway) (connector : Connector δ) (fresh : String)
    (state : GatewayState δ) (request : Request) :
    Except Breakdown Response × GatewayState δ :=
  let path := request.target.path
  let route := gateway.routes.find? path
  if request.method = "OPTIONS" then
    (.ok (gateway.policy.preflight request.headers (route.bind (·.1.allowed?))), state)
  else
    let id := requestId fresh request.headers
    let known := { request with headers := request.headers.set requestIdHeader id }
    match gateway.answer connector state known route with
    | (.error breakdown, state) => (.error breakdown, state)
    | (.ok response, state) =>
      let answered := (response.withPath path).withHeader requestIdHeader id
      (.ok (atRoute route request.method (gateway.policy.release request.headers answered)),
        { state with
          served := state.served.add (request.method, routeLabel route, response.status) })

end Gateway

end AccessGateway
