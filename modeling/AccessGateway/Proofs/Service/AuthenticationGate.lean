import AccessGateway.Proofs.Service.GuardedRoutes
import AccessGateway.Proofs.Service.LoginRoundTrip
import AccessGateway.Proofs.Text.Separators

/-!
# The gate before guarded endpoints

Who presents a token is decided by the token header, the key and the clock
alone.  Whatever serves the guarded endpoints, it is handed a request exactly
when somebody is presented, and as that principal; every other request for a
guarded endpoint gets one and the same refusal from every state of that clock
and leaves nothing behind but the count of the answer.
-/

namespace AccessGateway

variable {δ : Type}

theorem TokenService.validate_of_dotless (service : TokenService) (now : Instant)
    {token : String} (h : '.' ∉ token.toList) (claims : Claims) :
    service.validate now token ≠ .ok claims := by
  simp [validate, readClaims, Text.rsplitOnce?_eq_none h]

namespace Gateway

/-! ## Who is presented -/

/-- The headers carry the token of a principal in the first value of the token header. -/
def Presents (gateway : Gateway) (now : Instant) (headers : Headers) (principal : Principal) :
    Prop :=
  ∃ value token claims,
    headers.first? (Text.Ascii.lower gateway.settings.token.header) = some value ∧
      Headers.isVisible value = true ∧
        extractToken value gateway.tokens.tokenType = some token ∧
          gateway.tokens.validate now token = .ok claims ∧
            claims.toPrincipal gateway.settings.defaultDomain = .ok principal

section

variable {gateway : Gateway} {now : Instant} {headers : Headers} {principal : Principal}

theorem tokenOf?_eq_some_iff {token : String} :
    gateway.tokenOf? headers = some token ↔
      ∃ value,
        headers.first? (Text.Ascii.lower gateway.settings.token.header) = some value ∧
          Headers.isVisible value = true ∧
            extractToken value gateway.tokens.tokenType = some token := by
  simp only [tokenOf?, Headers.firstVisible?, Option.bind_eq_some_iff, Option.filter_eq_some_iff,
    and_assoc]

theorem authenticate_eq_ok_iff :
    gateway.authenticate now headers = .ok principal ↔
      gateway.Presents now headers principal := by
  unfold authenticate
  constructor
  · intro h
    split at h
    · cases h
    next token htoken =>
      obtain ⟨value, hvalue, hvisible, hextract⟩ := tokenOf?_eq_some_iff.mp htoken
      split at h
      · cases h
      · cases h
      next claims hclaims =>
        split at h
        · cases h
        next found hfound =>
          cases h
          exact ⟨value, token, claims, hvalue, hvisible, hextract, hclaims, hfound⟩
  · rintro ⟨value, token, claims, hvalue, hvisible, hextract, hclaims, hprincipal⟩
    have htoken : gateway.tokenOf? headers = some token :=
      tokenOf?_eq_some_iff.mpr ⟨value, hvalue, hvisible, hextract⟩
    simp only [htoken, hclaims, hprincipal]

theorem status_of_authenticate {e : ApiError} (h : gateway.authenticate now headers = .error e) :
    e.status = 401 := by
  unfold authenticate at h
  split at h
  · cases h
    rfl
  · split at h
    · cases h
      rfl
    · cases h
      rfl
    · split at h
      · cases h
        rfl
      · cases h

theorem dot_mem_of_validate {value token : String} {claims : Claims}
    (hextract : extractToken value gateway.tokens.tokenType = some token)
    (hclaims : gateway.tokens.validate now token = .ok claims) : '.' ∈ value.toList := by
  by_cases hdot : '.' ∈ token.toList
  · exact mem_of_extractToken hextract hdot
  · exact absurd hclaims (gateway.tokens.validate_of_dotless now hdot claims)

theorem requestId_eq_iff {fresh value : String} (hfresh : '.' ∉ fresh.toList)
    (hdot : '.' ∈ value.toList) (hvisible : Headers.isVisible value = true) :
    requestId fresh headers = value ↔ headers.first? requestIdHeader = some value := by
  have hvalue : value.isEmpty = false := by
    cases hempty : value.isEmpty with
    | false => rfl
    | true =>
        rw [String.isEmpty_iff.mp hempty] at hdot
        cases hdot
  unfold requestId Headers.firstVisible?
  constructor
  · intro h
    cases hkept : ((headers.first? requestIdHeader).filter Headers.isVisible).filter
        (!·.isEmpty) with
    | none =>
        rw [hkept, Option.getD_none] at h
        rw [← h] at hdot
        exact absurd hdot hfresh
    | some found =>
        rw [hkept] at h
        simp only [Option.filter_eq_some_iff] at hkept
        exact h ▸ hkept.1.1
  · intro h
    simp [h, Option.filter_some, hvisible, hvalue]

/-- The identifier of a request presents nobody who was not presented before, even where it
stands in the token header. -/
theorem presents_withRequestId {fresh : String} (hfresh : '.' ∉ fresh.toList) :
    gateway.Presents now (headers.set requestIdHeader (requestId fresh headers)) principal ↔
      gateway.Presents now headers principal := by
  unfold Presents
  by_cases hname : Text.Ascii.lower gateway.settings.token.header = requestIdHeader
  -- the identifier overwrites the token header: a token has dots, a fresh identifier has none
  · rw [hname, Headers.first?_set_self]
    simp only [Option.some.injEq]
    constructor
    · rintro ⟨value, token, claims, hvalue, hvisible, hextract, hclaims, hprincipal⟩
      have hdot := dot_mem_of_validate hextract hclaims
      exact ⟨value, token, claims, (requestId_eq_iff hfresh hdot hvisible).mp hvalue, hvisible,
        hextract, hclaims, hprincipal⟩
    · rintro ⟨value, token, claims, hvalue, hvisible, hextract, hclaims, hprincipal⟩
      have hdot := dot_mem_of_validate hextract hclaims
      exact ⟨value, token, claims, (requestId_eq_iff hfresh hdot hvisible).mpr hvalue, hvisible,
        hextract, hclaims, hprincipal⟩
  · rw [Headers.first?_set_of_ne _ hname]

end

/-! ## Serving with any handler -/

/-- What serves guarded endpoints to a principal. -/
abbrev GuardedHandler (δ : Type) : Type :=
  GatewayState δ → Principal → Request → (names values : List String) → GuardedEndpoint →
    Response × GatewayState δ

def identified (fresh : String) (request : Request) : Request :=
  { request with
    headers := request.headers.set requestIdHeader (requestId fresh request.headers) }

def decorate (gateway : Gateway) (fresh : String) (request : Request) (response : Response) :
    Response :=
  let path := request.target.path
  let answered := (response.withPath path).withHeader requestIdHeader
    (requestId fresh request.headers)
  atRoute (gateway.routes.find? path) request.method
    (gateway.policy.release request.headers answered)

/-- What becomes of an answer on its way back: it is counted. -/
def complete (gateway : Gateway) (fresh : String) (request : Request) :
    Response × GatewayState δ → Response × GatewayState δ
  | (response, state) =>
    (gateway.decorate fresh request response,
      { state with
        served := state.served.add (request.method,
          routeLabel (gateway.routes.find? request.target.path), response.status) })

/-- Answers on a route, with a handler in the place of the gateway's own. -/
def answerBy (gateway : Gateway) (handler : GuardedHandler δ) (connector : Connector δ)
    (state : GatewayState δ) (request : Request) :
    Option (Route Endpoint × List String) → Except Breakdown Response × GatewayState δ
  | none => (.ok (.ofError (noRoute request.target.path)), state)
  | some (route, values) =>
    match route.endpoint? request.method with
    | none => (.ok (.ofError (noMethod request.method request.target.path)), state)
    | some (.free endpoint) => gateway.serveOpen connector state request values endpoint
    | some (.guarded endpoint) =>
      match gateway.authenticate state.clock request.headers with
      | .error e => (.ok (.ofError e), state)
      | .ok principal =>
        let (response, state) :=
          handler state principal request route.template.names values endpoint
        (.ok response, state)

def serveBy (gateway : Gateway) (handler : GuardedHandler δ) (connector : Connector δ)
    (fresh : String) (state : GatewayState δ) (request : Request) :
    Except Breakdown Response × GatewayState δ :=
  let route := gateway.routes.find? request.target.path
  if request.method = "OPTIONS" then
    (.ok (gateway.policy.preflight request.headers (route.bind (·.1.allowed?))), state)
  else
    match gateway.answerBy handler connector state (identified fresh request) route with
    | (.error breakdown, state) => (.error breakdown, state)
    | (.ok response, state) =>
      let (response, state) := gateway.complete fresh request (response, state)
      (.ok response, state)

theorem answerBy_serveGuarded (gateway : Gateway) (connector : Connector δ)
    (state : GatewayState δ) (request : Request)
    (route : Option (Route Endpoint × List String)) :
    gateway.answerBy gateway.serveGuarded connector state request route =
      gateway.answer connector state request route := by
  cases route with
  | none => rfl
  | some found => rfl

theorem serveBy_serveGuarded (gateway : Gateway) (connector : Connector δ) (fresh : String)
    (state : GatewayState δ) (request : Request) :
    gateway.serveBy gateway.serveGuarded connector fresh state request =
      gateway.serve connector fresh state request := by
  unfold serveBy serve
  simp only [answerBy_serveGuarded]
  rfl

/-! ## The gate -/

section

variable {gateway : Gateway} {fresh : String} {request : Request} {route : Route Endpoint}
  {values : List String} {endpoint : GuardedEndpoint}

theorem status_release (policy : OriginPolicy) (headers : Headers) (response : Response) :
    (policy.release headers response).status = response.status := by
  unfold OriginPolicy.release
  split <;> rfl

theorem status_atRoute (found : Option (Route Endpoint × List String)) (method : String)
    (response : Response) : (atRoute found method response).status = response.status := by
  unfold atRoute
  split
  · rfl
  · dsimp only
    split <;> split <;> rfl

theorem status_decorate (gateway : Gateway) (fresh : String) (request : Request)
    (response : Response) : (gateway.decorate fresh request response).status = response.status := by
  rw [decorate, status_atRoute, status_release]
  exact Response.status_withPath response request.target.path

theorem serveBy_of_guards (hmethod : request.method ≠ "OPTIONS")
    (hguards : gateway.Guards request.method request.target.path route values endpoint)
    (handler : GuardedHandler δ) (connector : Connector δ) (state : GatewayState δ) :
    gateway.serveBy handler connector fresh state request =
      let served := gateway.complete fresh request <|
        match gateway.authenticate state.clock (identified fresh request).headers with
        | .error e => (.ofError e, state)
        | .ok principal =>
          handler state principal (identified fresh request) route.template.names values endpoint
      (.ok served.1, served.2) := by
  obtain ⟨hfind, hendpoint⟩ := hguards
  have hknown : route.endpoint? (identified fresh request).method = some (.guarded endpoint) :=
    hendpoint
  unfold serveBy
  simp only [if_neg hmethod, hfind, answerBy, hknown]
  cases gateway.authenticate state.clock (identified fresh request).headers with
  | error e => rfl
  | ok principal => rfl

/-- Whatever serves the guarded endpoints is handed the request, as the request of a principal. -/
def HandsTo (gateway : Gateway) (connector : Connector δ) (fresh : String)
    (state : GatewayState δ) (request : Request) (route : Route Endpoint)
    (values : List String) (endpoint : GuardedEndpoint) (principal : Principal) : Prop :=
  ∀ handler : GuardedHandler δ,
    gateway.serveBy handler connector fresh state request =
      let served := gateway.complete fresh request
        (handler state principal (identified fresh request) route.template.names values endpoint)
      (.ok served.1, served.2)

theorem handsTo_iff (hmethod : request.method ≠ "OPTIONS")
    (hguards : gateway.Guards request.method request.target.path route values endpoint)
    (connector : Connector δ) (state : GatewayState δ) (principal : Principal) :
    gateway.HandsTo connector fresh state request route values endpoint principal ↔
      gateway.authenticate state.clock (identified fresh request).headers = .ok principal := by
  constructor
  · intro h
    -- a handler that answers by the principal it is handed
    let handler : GuardedHandler δ := fun state found _ _ _ _ =>
      ({ status := if found = principal then 200 else 404 }, state)
    have hhanded := (serveBy_of_guards hmethod hguards handler connector state).symm.trans
      (h handler)
    have hstatus := congrArg (fun served => served.1.map Response.status) hhanded
    simp only [Except.map, complete, status_decorate] at hstatus
    cases hverdict : gateway.authenticate state.clock (identified fresh request).headers with
    | error e =>
        rw [hverdict] at hstatus
        have hrefused := status_of_authenticate hverdict
        simp [handler, hrefused] at hstatus
    | ok found =>
        rw [hverdict] at hstatus
        by_cases hfound : found = principal
        · rw [hfound]
        · simp [handler, hfound] at hstatus
  · intro hverdict handler
    rw [serveBy_of_guards hmethod hguards, hverdict]

theorem serve_of_absent (hmethod : request.method ≠ "OPTIONS")
    (hguards : gateway.Guards request.method request.target.path route values endpoint)
    {now : Instant}
    (habsent : ∀ principal, gateway.authenticate now (identified fresh request).headers ≠
      .ok principal) :
    ∃ response : Response, response.status = 401 ∧
      ∀ (connector : Connector δ) (state : GatewayState δ), state.clock = now →
        gateway.serve connector fresh state request = (.ok response, { state with
          served := state.served.add (request.method, route.template.text, 401) }) := by
  cases hverdict : gateway.authenticate now (identified fresh request).headers with
  | ok principal => exact absurd hverdict (habsent principal)
  | error e =>
      have hstatus := status_of_authenticate hverdict
      refine ⟨gateway.decorate fresh request (.ofError e), ?_, ?_⟩
      · rw [status_decorate, Response.status_ofError, hstatus]
      · intro connector state hclock
        have hrefused := hclock ▸ hverdict
        rw [← serveBy_serveGuarded, serveBy_of_guards hmethod hguards, hrefused]
        simp only [complete, hguards.1, routeLabel, Response.status_ofError, hstatus]

end

/-- The method and the path of the user, of a group, or of the relay where no fixed route has the
path and the search for a route does not break off at a slash too many. -/
inductive Asks (settings : Settings) (routes : RouteTable Endpoint) (method path : String) : Prop
  | fixed {entry : String × List (String × Endpoint)} {endpoint : Endpoint}
      (hentry : entry ∈ Endpoint.fixedGuarded) (hcovers : Template.Covers entry.1 path)
      (hhandler : (Route.methodKey method, endpoint) ∈ entry.2)
  | relay {text : String} (htext : text ∈ relayTexts settings.proxy)
      (hcovers : Template.Covers text path)
      (hfree : ∀ entry ∈ Endpoint.fixedOpen settings.environment ++ Endpoint.fixedGuarded,
        ¬ Template.Covers entry.1 path)
      (hgoes : ¬ routes.Stops path)

theorem Asks.guards {settings : Settings} {gateway : Gateway}
    (hbuilt : ofSettings settings = .ok gateway) {method path : String}
    (h : Asks settings gateway.routes method path) :
    ∃ route values endpoint, gateway.Guards method path route values endpoint := by
  cases h with
  | fixed hentry hcovers hhandler => exact guards_of_fixedGuarded hbuilt hentry hcovers hhandler
  | relay htext hcovers hfree hgoes =>
      obtain ⟨route, values, hguards⟩ :=
        guards_of_relayText hbuilt method htext hcovers hfree hgoes
      exact ⟨route, values, .relay, hguards⟩

/-- The gate: a request for the user, for a group or for the relay meets a guarded endpoint, and
only the open routes meet an open one.  On a guarded endpoint, whatever serves it is handed the
request exactly as the principal that the token header presents.  Where nobody is presented there
is one refusal, which neither the store nor the backends, the team table or the target has a part
in, and but for the count of the answer the state stays as it is. -/
theorem serve_guarded {settings : Settings} {gateway : Gateway}
    (hbuilt : ofSettings settings = .ok gateway) {fresh : String} (hfresh : '.' ∉ fresh.toList)
    {request : Request} (hmethod : request.method ≠ "OPTIONS") :
    (Asks settings gateway.routes request.method request.target.path →
      ∃ route values endpoint,
        gateway.Guards request.method request.target.path route values endpoint) ∧
    (∀ route values endpoint,
      gateway.routes.find? request.target.path = some (route, values) →
        route.endpoint? request.method = some (.free endpoint) →
          ∃ entry ∈ Endpoint.fixedOpen settings.environment,
            Template.Covers entry.1 request.target.path ∧
              (Route.methodKey request.method, .free endpoint) ∈ entry.2) ∧
    ∀ route values endpoint,
      gateway.Guards request.method request.target.path route values endpoint →
        (∀ (connector : Connector δ) (state : GatewayState δ),
          gateway.serve connector fresh state request =
              gateway.serveBy gateway.serveGuarded connector fresh state request ∧
            ∀ principal,
              gateway.HandsTo connector fresh state request route values endpoint principal ↔
                gateway.Presents state.clock request.headers principal) ∧
        ∀ now, (∀ principal, ¬ gateway.Presents now request.headers principal) →
          ∃ response : Response, response.status = 401 ∧
            ∀ (connector : Connector δ) (state : GatewayState δ), state.clock = now →
              gateway.serve connector fresh state request = (.ok response, { state with
                served := state.served.add (request.method, route.template.text, 401) }) := by
  have hverdict : ∀ now principal,
      gateway.authenticate now (identified fresh request).headers = .ok principal ↔
        gateway.Presents now request.headers principal := by
    intro now principal
    rw [authenticate_eq_ok_iff]
    exact presents_withRequestId hfresh
  refine ⟨Asks.guards hbuilt, fun _ _ _ hfind => fixedOpen_of_free hbuilt hfind, ?_⟩
  intro route values endpoint hguards
  constructor
  · intro connector state
    refine ⟨(serveBy_serveGuarded gateway connector fresh state request).symm, ?_⟩
    intro principal
    rw [handsTo_iff hmethod hguards, hverdict]
  · intro now hnobody
    apply serve_of_absent hmethod hguards
    intro principal hok
    exact hnobody principal ((hverdict now principal).mp hok)

/-- Until it expires, a token that is issued for a principal presents that principal. -/
theorem exists_presenting {settings : Settings} {gateway : Gateway}
    (hbuilt : ofSettings settings = .ok gateway) (hkey : settings.token.signingKey ≠ "")
    (hword : Text.trimStart settings.token.tokenType = settings.token.tokenType)
    (hshown : Headers.isVisible (settings.token.tokenType ++ " ") = true)
    (hpos : 0 < settings.token.expirySeconds) {now expiry : Instant} (hnow : 0 ≤ now)
    (hexpiry : Calendar.add? now (settings.token.expirySeconds * 1000) = some expiry)
    {principal : Principal} (hroles : ∀ role ∈ principal.roles, TokenService.canCarry role = true) :
    ∃ token, ∀ (later : Instant) (headers : Headers),
      Calendar.seconds later < Calendar.seconds now + settings.token.expirySeconds →
        headers.first? (Text.Ascii.lower settings.token.header) =
            some (settings.token.tokenType ++ " " ++ token) →
          gateway.Presents later headers principal := by
  obtain ⟨hsettings, htokens⟩ := of_ofSettings hbuilt
  obtain ⟨service, hservice, htype, hseconds⟩ := TokenService.exists_of_signingKey hkey
  have hsame : gateway.tokens = service := Except.ok.inj (htokens.symm.trans hservice)
  rw [← hseconds] at hpos hexpiry
  obtain ⟨token, -, hne, hchars, hissued⟩ :=
    TokenService.exists_issued hnow hpos hroles hexpiry
  refine ⟨token, ?_⟩
  intro later headers hlater hheader
  obtain ⟨claims, hclaims, hprincipal⟩ := (hissued later).1 (hseconds ▸ hlater)
  have hvisible : Headers.isVisible (settings.token.tokenType ++ " " ++ token) = true :=
    Headers.isVisible_append hshown
      (Headers.isVisible_of_printable fun c hc => (hchars c hc).1)
  refine ⟨_, token, claims, hsettings ▸ hheader, hvisible, ?_, hsame ▸ hclaims, hprincipal _⟩
  rw [hsame, htype]
  exact extractToken_append hword hne fun c hc => (hchars c hc).2

/-- The user is told with a token in its last second, and refused without a header. -/
theorem serve_guarded_of_token :
    ∃ (settings : Settings) (gateway : Gateway) (token : String) (route : Route Endpoint)
        (values : List String) (endpoint : GuardedEndpoint),
      ofSettings settings = .ok gateway ∧
        gateway.Guards "GET" "/user" route values endpoint ∧
          (∀ (connector : Connector Unit) (state : GatewayState Unit), state.clock = 59999 →
            gateway.HandsTo connector "fresh" state
              ⟨"GET", ⟨"/user", none⟩, [("authorization", "Bearer" ++ " " ++ token)], ""⟩
              route values endpoint ⟨"ada", some "Ada", .dev, ["ROLE_USER"]⟩) ∧
            ∃ response : Response, response.status = 401 ∧
              ∀ (connector : Connector Unit) (state : GatewayState Unit), state.clock = 59999 →
                gateway.serve connector "fresh" state ⟨"GET", ⟨"/user", none⟩, [], ""⟩ =
                  (.ok response, { state with
                    served := state.served.add ("GET", route.template.text, 401) }) := by
  let settings : Settings := {
    token := ⟨"key", "gateway", 60, "Authorization", "Bearer"⟩
    directory :=
      { url := "ldap://directory", baseDn := "dc=org", bindDn := "", bindPassword := "" }
    store := { url := "https://store" }
    proxy := { target := "http://target" } }
  let principal : Principal := ⟨"ada", some "Ada", .dev, ["ROLE_USER"]⟩
  have hstarts : (ofSettings settings).isOk = true := by decide +kernel
  cases hbuilt : ofSettings settings with
  | error reason =>
      rw [hbuilt] at hstarts
      cases hstarts
  | ok gateway =>
      obtain ⟨hsettings, htokens⟩ := of_ofSettings hbuilt
      obtain ⟨service, hservice, htype, hseconds⟩ :=
        TokenService.exists_of_signingKey (show settings.token.signingKey ≠ "" by decide)
      have hsame : gateway.tokens = service := Except.ok.inj (htokens.symm.trans hservice)
      have hroles : ∀ role ∈ principal.roles, TokenService.canCarry role = true := by decide
      have hpos : 0 < service.expirySeconds := by
        rw [hseconds]
        decide
      have hexpiry : Calendar.add? 0 (service.expirySeconds * 1000) = some 60000 := by
        rw [hseconds]
        decide
      obtain ⟨token, -, hne, hword, hissued⟩ :=
        TokenService.exists_issued (Int.le_refl 0) hpos hroles hexpiry
      obtain ⟨claims, hclaims, hprincipal⟩ := (hissued 59999).1 (by rw [hseconds]; decide)
      have hextract : extractToken ("Bearer" ++ " " ++ token) "Bearer" = some token :=
        extractToken_append (by decide) hne fun c hc => (hword c hc).2
      have hvisible : Headers.isVisible ("Bearer" ++ " " ++ token) = true :=
        Headers.isVisible_append (by decide)
          (Headers.isVisible_of_printable fun c hc => (hword c hc).1)
      have hcovers : Template.Covers "/user" "/user" :=
        ⟨⟨"/user", "/user".toList.map .char, []⟩, [], by decide +kernel, by decide +kernel⟩
      have hentry : ("/user", [("GET", Endpoint.guarded .currentUser)]) ∈
          Endpoint.fixedGuarded := by decide
      have hasks : Asks settings gateway.routes "GET" "/user" :=
        .fixed hentry hcovers List.mem_cons_self
      let told : Request :=
        ⟨"GET", ⟨"/user", none⟩, [("authorization", "Bearer" ++ " " ++ token)], ""⟩
      let refused : Request := ⟨"GET", ⟨"/user", none⟩, [], ""⟩
      have hfresh : '.' ∉ "fresh".toList := by decide
      have hmethod : "GET" ≠ "OPTIONS" := by decide
      obtain ⟨hguarded, -, hgate⟩ :=
        @serve_guarded Unit settings gateway hbuilt "fresh" hfresh told hmethod
      obtain ⟨-, -, hrefuses⟩ :=
        @serve_guarded Unit settings gateway hbuilt "fresh" hfresh refused hmethod
      obtain ⟨route, values, endpoint, hguards⟩ := hguarded hasks
      obtain ⟨response, hstatus, hserve⟩ :=
        (hrefuses route values endpoint hguards).2 59999 fun principal hpresents => by
          obtain ⟨value, -, -, hvalue, -⟩ := hpresents
          cases hvalue
      refine ⟨settings, gateway, token, route, values, endpoint, hbuilt, hguards, ?_, response,
        hstatus, hserve⟩
      intro connector state hclock
      have hpresents : gateway.Presents 59999 told.headers principal := by
        refine ⟨"Bearer" ++ " " ++ token, token, claims, ?_, hvisible, ?_, ?_, ?_⟩
        · have hlower : Text.Ascii.lower "Authorization" = "authorization" := by decide +kernel
          rw [hsettings, hlower]
          rfl
        · rw [hsame, htype]
          exact hextract
        · rw [hsame]
          exact hclaims
        · exact hprincipal _
      exact (((hgate route values endpoint hguards).1 connector state).2 principal).mpr
        (hclock ▸ hpresents)

end Gateway

end AccessGateway
