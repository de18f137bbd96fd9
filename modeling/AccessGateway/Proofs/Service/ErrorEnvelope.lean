import AccessGateway.Proofs.Json.Rereading
import AccessGateway.Proofs.Service.AuthenticationGate
import AccessGateway.Proofs.Store.Exchanges

/-!
# The envelope of errors

Whatever goes wrong in the gateway is answered with one form of body, which is
written last and tells the status of the answer and the path of the request.
An answer is proper when it is no error or when the envelope knows its error,
and every endpoint gives proper answers, three cases apart: what the target
answered is handed on, a page that does not exist is none of the gateway's, and
a path parameter that is not the code of a text is refused in plain text.
-/

namespace AccessGateway

variable {δ : Type}

namespace Response

/-- Whenever its body is written, it is read as an object of these members and no others. -/
def Envelops (response : Response) (path : String) : Prop :=
  ∃ error message, ∀ timestamp,
    (Text.Utf8.decode? (response.payload.write timestamp)).bind Json.parse? =
      some (.object [("timestamp", .string timestamp), ("status", .nat response.status),
        ("error", .string error), ("message", .string message), ("path", .string path)])

/-- An answer that is no error, or whose error the envelope knows. -/
inductive Proper : Response → Prop
  | fine {response : Response} (h : response.status < 400) : Proper response
  | failure (e : ApiError) : Proper (ofError e)

theorem proper_ofJson {status : Nat} (h : status < 400) (value : Json) :
    (ofJson status value).Proper := .fine h

theorem proper_ofResult_error (e : GatewayError) : Proper (ofResult (.error e)) :=
  .failure e.toApi

end Response

open Response

theorem ErrorBody.parse?_print_toJson (body : ErrorBody) (timestamp : String) :
    Json.parse? (body.toJson timestamp).print = some (body.toJson timestamp) := by
  have hintegral : (body.toJson timestamp).isIntegral = true := rfl
  rw [Json.parse?, Json.Draft.parse_print hintegral]
  rfl

theorem Payload.parse?_write_failure (body : ErrorBody) (timestamp : String) :
    (Text.Utf8.decode? ((Payload.failure body).write timestamp)).bind Json.parse? =
      some (body.toJson timestamp) := by
  rw [write, Text.Utf8.decode?_encode, Option.bind_some, ErrorBody.parse?_print_toJson]

namespace ApplicationRequest

open StoreProgram

/-- However the store answers, the result of a request about a group is a proper answer. -/
theorem ends_program (what : ApplicationRequest) (principal : Principal) (group : Group) :
    (what.program principal group).Ends fun result => (ofResult result).Proper := by
  have hnamed : ∀ {short : String} {next : SecretName → StoreProgram _},
      (∀ name, (next name).Ends fun result => (ofResult result).Proper) →
        (named group short next).Ends fun result => (ofResult result).Proper := by
    intro short next hnext
    unfold named
    split
    · exact hnext _
    · exact proper_ofResult_error _
  cases what with
  | access => exact proper_ofJson (by decide) _
  | listSecrets | listClients =>
      exact ends_demandOr _ proper_ofResult_error fun _ => proper_ofJson (by decide) _
  | getSecret short =>
      exact hnamed fun _ => ends_demand proper_ofResult_error fun _ => proper_ofJson (by decide) _
  | createSecret short form =>
      refine hnamed fun name => ?_
      split
      · exact proper_ofResult_error _
      · refine ends_demand proper_ofResult_error fun _ => ?_
        refine ends_demand proper_ofResult_error fun _ => ?_
        exact ends_demand proper_ofResult_error fun _ => proper_ofJson (by decide) _
  | createClient short form =>
      refine hnamed fun name => ?_
      refine ends_demand proper_ofResult_error fun _ => ?_
      exact ends_demand proper_ofResult_error fun _ => proper_ofJson (by decide) _
  | deleteSecret short | deleteClient short =>
      refine hnamed fun name => ?_
      exact ends_demand proper_ofResult_error fun _ => .fine (show 204 < 400 by decide)

end ApplicationRequest

namespace Gateway

/-! ## What the endpoints answer -/

section

variable {state : GatewayState δ} {principal : Principal} {request : Request}
  {names values : List String} {endpoint : ApplicationEndpoint}

theorem serveApplication_of_fault {fault : PathFault}
    (h : PathFault.decodeNames names values = .error fault) :
    (serveApplication state principal request names values endpoint).1 = fault.response := by
  simp only [serveApplication, authorizedProgram, h]

theorem proper_serveApplication {decoded : String × String}
    (h : PathFault.decodeNames names values = .ok decoded) :
    (serveApplication state principal request names values endpoint).1.Proper := by
  unfold serveApplication authorizedProgram
  rw [h]
  dsimp only
  cases endpoint.read decoded.2 request with
  | error e => exact .failure e
  | ok what =>
      dsimp only
      cases Group.parse principal.domain decoded.1 with
      | error e => exact .failure _
      | ok group =>
          dsimp only
          cases hensured :
              state.dispatcher.ensureAuthorized state.teams state.network group principal with
          | mk verdict after =>
              cases verdict with
              | error e => exact .failure e.toApi
              | ok authorized =>
                  exact (what.ends_program principal group).run SecretStore.answer _

end

theorem proper_login (gateway : Gateway) (connector : Connector δ) (state : GatewayState δ)
    (request : Request) {response : Response}
    (h : (gateway.login connector state request).1 = .ok response) : response.Proper := by
  unfold login at h
  split at h
  · cases h
    exact .failure _
  · dsimp only at h
    split at h
    · cases h
      exact .failure _
    · split at h
      · cases h
        exact proper_ofJson (by decide) _
      · cases h
        exact .failure _
      · cases h

theorem proper_serveOpen {gateway : Gateway} {connector : Connector δ} {state : GatewayState δ}
    {request : Request} {values : List String} {endpoint : OpenEndpoint}
    (hpage : endpoint ≠ .documentPage) {response : Response}
    (h : (gateway.serveOpen connector state request values endpoint).1 = .ok response) :
    response.Proper := by
  cases endpoint with
  | login => exact gateway.proper_login connector state request h
  | documentPage => exact absurd rfl hpage
  | health | document =>
      cases h
      exact proper_ofJson (by decide) _
  | documentEntry =>
      cases h
      exact .fine (show 303 < 400 by decide)

/-- What the target answers to a request that is relayed. -/
def forwarded (gateway : Gateway) (state : GatewayState δ) (request : Request) :
    Except GatewayError RelayedAnswer :=
  (gateway.forwarder.forward state.network state.relayed
    ⟨request.method, request.target.query, request.headers, request.body⟩
    ((Text.stripStart? (relayPrefix gateway.settings.proxy) request.target.path).getD
      request.target.path)).1

theorem relay_eq (gateway : Gateway) (state : GatewayState δ) (request : Request) :
    (gateway.relay state request).1 =
      match gateway.forwarded state request with
      | .error e => .ofError e.toApi
      | .ok answer => ⟨answer.status, answer.headers, .bytes answer.body⟩ := by
  unfold relay forwarded
  dsimp only
  generalize gateway.forwarder.forward state.network state.relayed _ _ = forwarded
  obtain ⟨result, network, relayed⟩ := forwarded
  cases result with
  | error e => rfl
  | ok answer => rfl

/-! ## From an answer to what is written -/

section

variable {gateway : Gateway} {fresh : String} {request : Request}

theorem payload_decorate (hmethod : request.method ≠ "HEAD") (response : Response) :
    (gateway.decorate fresh request response).payload =
      (response.withPath request.target.path).payload := by
  have hkept : ∀ found answered, (atRoute found request.method answered).payload =
      answered.payload := by
    intro found answered
    unfold atRoute
    split
    · rfl
    next route _ =>
      have hdrops : route.dropsBody request.method = false := by
        simp [Route.dropsBody, hmethod]
      simp only [hdrops, Bool.false_eq_true, if_false]
      split <;> rfl
  rw [decorate, hkept, OriginPolicy.release]
  dsimp only
  split <;> rfl

/-- A proper answer that is an error has the envelope once it is written. -/
theorem envelops_decorate (hmethod : request.method ≠ "HEAD") {response : Response}
    (hproper : response.Proper)
    (herror : 400 ≤ (gateway.decorate fresh request response).status) :
    (gateway.decorate fresh request response).Envelops request.target.path := by
  rw [status_decorate] at herror
  cases hproper with
  | fine h => exact absurd herror (Nat.not_le.mpr h)
  | failure e =>
      let body := (ErrorBody.ofError e).withPath request.target.path
      refine ⟨body.error, body.message, ?_⟩
      intro timestamp
      rw [payload_decorate hmethod, status_decorate]
      exact Payload.parse?_write_failure body timestamp

/-- The fields that the gateway adds to every answer. -/
def addedFields : List String := [requestIdHeader, "access-control-allow-origin", "vary"]

theorem values_decorate {route : Route Endpoint} {values : List String} {endpoint : Endpoint}
    (hfind : gateway.routes.find? request.target.path = some (route, values))
    (hmeets : route.endpoint? request.method = some endpoint) (response : Response)
    {name : String} (hname : name ∉ addedFields) :
    (gateway.decorate fresh request response).headers.values name =
      response.headers.values name := by
  simp only [addedFields, List.mem_cons, List.not_mem_nil, or_false, not_or] at hname
  obtain ⟨hid, horigin, hvary⟩ := hname
  have hroute : ∀ answered, (atRoute (some (route, values)) request.method answered).headers =
      answered.headers := by
    intro answered
    simp only [atRoute, hmeets]
    split <;> rfl
  have hreleased : ∀ answered,
      (gateway.policy.release request.headers answered).headers.values name =
        answered.headers.values name := by
    intro answered
    unfold OriginPolicy.release
    have hnone : Headers.values [OriginPolicy.varyField] name = [] := by
      simp [Headers.values, OriginPolicy.varyField, Ne.symm hvary]
    dsimp only
    rw [Headers.values_append, hnone, List.append_nil]
    split
    next field value hfield =>
      have hadded : field = "access-control-allow-origin" := by
        unfold OriginPolicy.originField? at hfield
        split at hfield
        · cases hfield
        · split at hfield <;> cases hfield
          rfl
      rw [hadded]
      exact Headers.values_set_of_ne value horigin
    · rfl
  rw [decorate, hfind, hroute, hreleased, Response.withHeader,
    Headers.values_set_of_ne _ hid, Response.headers_withPath]

end

/-! ## Serving -/

/-- A request is admitted to a guarded endpoint, as the request of a principal. -/
structure Admits (gateway : Gateway) (fresh : String) (state : GatewayState δ)
    (request : Request) (route : Route Endpoint) (values : List String)
    (endpoint : GuardedEndpoint) (principal : Principal) : Prop where
  method_ne : request.method ≠ "OPTIONS"
  guards : gateway.Guards request.method request.target.path route values endpoint
  authenticated : gateway.authenticate state.clock (identified fresh request).headers =
    .ok principal

/-- The target answers a request that the gateway relays. -/
def Relays (gateway : Gateway) (fresh : String) (state : GatewayState δ) (request : Request)
    (answer : RelayedAnswer) : Prop :=
  ∃ route values principal,
    gateway.Admits fresh state request route values .relay principal ∧
      gateway.forwarded state (identified fresh request) = .ok answer

/-- An admitted request about a group has a parameter in its path that is not the code of a
text. -/
def Misspells (gateway : Gateway) (fresh : String) (state : GatewayState δ) (request : Request)
    (fault : PathFault) : Prop :=
  ∃ route values endpoint principal,
    gateway.Admits fresh state request route values (.application endpoint) principal ∧
      PathFault.decodeNames route.template.names values = .error fault

/-- A request for a page of the description. -/
def Browses (gateway : Gateway) (request : Request) : Prop :=
  ∃ route values,
    gateway.routes.find? request.target.path = some (route, values) ∧
      route.endpoint? request.method = some (.free .documentPage)

section

variable {gateway : Gateway} {fresh : String} {state : GatewayState δ} {request : Request}
  {connector : Connector δ} {response : Response} {after : GatewayState δ}

theorem Admits.serve_eq {route : Route Endpoint} {values : List String}
    {endpoint : GuardedEndpoint} {principal : Principal}
    (h : gateway.Admits fresh state request route values endpoint principal)
    (connector : Connector δ) :
    (gateway.serve connector fresh state request).1 =
      .ok (gateway.decorate fresh request
        (gateway.serveGuarded state principal (identified fresh request) route.template.names
          values endpoint).1) := by
  rw [← serveBy_serveGuarded, serveBy_of_guards h.method_ne h.guards, h.authenticated]
  rfl

theorem of_serve_eq_ok (hoptions : request.method ≠ "OPTIONS")
    (hserve : gateway.serve connector fresh state request = (.ok response, after)) :
    ∃ answered,
      (gateway.answer connector state (identified fresh request)
          (gateway.routes.find? request.target.path)).1 = .ok answered ∧
        response = gateway.decorate fresh request answered := by
  unfold serve at hserve
  simp only [if_neg hoptions] at hserve
  split at hserve
  · cases hserve
  next answered _ hanswer =>
    cases hserve
    exact ⟨answered, congrArg Prod.fst hanswer, rfl⟩

/-- Three cases apart, what the gateway answers on the route of a path is proper. -/
theorem proper_answer (hoptions : request.method ≠ "OPTIONS")
    (hrelays : ∀ answer, ¬ gateway.Relays fresh state request answer)
    (hspelled : ∀ fault, ¬ gateway.Misspells fresh state request fault)
    (hpage : ¬ gateway.Browses request) {answered : Response}
    (h : (gateway.answer connector state (identified fresh request)
      (gateway.routes.find? request.target.path)).1 = .ok answered) : answered.Proper := by
  unfold answer at h
  cases hfind : gateway.routes.find? request.target.path with
  | none =>
      rw [hfind] at h
      cases h
      exact .failure _
  | some found =>
      obtain ⟨route, values⟩ := found
      rw [hfind] at h
      dsimp only at h
      cases hmeets : route.endpoint? (identified fresh request).method with
      | none =>
          rw [hmeets] at h
          cases h
          exact .failure _
      | some endpoint =>
          rw [hmeets] at h
          cases endpoint with
          | free endpoint =>
              refine proper_serveOpen ?_ h
              rintro rfl
              exact hpage ⟨route, values, hfind, hmeets⟩
          | guarded endpoint =>
              dsimp only at h
              cases hverdict :
                  gateway.authenticate state.clock (identified fresh request).headers with
              | error e =>
                  rw [hverdict] at h
                  cases h
                  exact .failure _
              | ok principal =>
                  rw [hverdict] at h
                  cases h
                  have hadmits : gateway.Admits fresh state request route values endpoint
                      principal := ⟨hoptions, ⟨hfind, hmeets⟩, hverdict⟩
                  cases endpoint with
                  | currentUser => exact proper_ofJson (by decide) _
                  | application endpoint =>
                      cases hdecoded : PathFault.decodeNames route.template.names values with
                      | error fault =>
                          exact absurd ⟨_, _, _, _, hadmits, hdecoded⟩ (hspelled fault)
                      | ok decoded => exact proper_serveApplication hdecoded
                  | relay =>
                      show (gateway.relay state (identified fresh request)).1.Proper
                      rw [relay_eq]
                      cases hforwarded : gateway.forwarded state (identified fresh request) with
                      | error e => exact .failure _
                      | ok answer =>
                          exact absurd ⟨_, _, _, hadmits, hforwarded⟩ (hrelays answer)

/-- Every error that the gateway answers with has the envelope, but for the pages of the
description and for a path parameter that is not the code of a text, which is refused in plain
text; and the envelope leaves alone what the target answered. -/
theorem serve_envelops (hmethod : request.method ≠ "HEAD")
    (hserve : gateway.serve connector fresh state request = (.ok response, after)) :
    (∀ answer, gateway.Relays fresh state request answer →
      response.status = answer.status ∧ response.payload = .bytes answer.body ∧
        ∀ name, name ∉ addedFields →
          response.headers.values name = answer.headers.values name) ∧
    (∀ fault, gateway.Misspells fresh state request fault →
      response.status = 400 ∧ response.payload = fault.response.payload) ∧
    (400 ≤ response.status → (∀ answer, ¬ gateway.Relays fresh state request answer) →
      (∀ fault, ¬ gateway.Misspells fresh state request fault) → ¬ gateway.Browses request →
        response.Envelops request.target.path) := by
  refine ⟨?_, ?_, ?_⟩
  · rintro answer ⟨route, values, principal, hadmits, hforwarded⟩
    have hserved := hadmits.serve_eq connector
    rw [hserve] at hserved
    cases hserved
    have hanswer : (gateway.serveGuarded state principal (identified fresh request)
        route.template.names values .relay).1 =
          ⟨answer.status, answer.headers, .bytes answer.body⟩ := by
      rw [serveGuarded, relay_eq, hforwarded]
    rw [hanswer]
    refine ⟨status_decorate _ _ _ _, payload_decorate hmethod _, ?_⟩
    intro name hname
    exact values_decorate hadmits.guards.1 hadmits.guards.2 _ hname
  · rintro fault ⟨route, values, endpoint, principal, hadmits, hdecoded⟩
    have hserved := hadmits.serve_eq connector
    rw [hserve] at hserved
    cases hserved
    have hanswer : (gateway.serveGuarded state principal (identified fresh request)
        route.template.names values (.application endpoint)).1 = fault.response :=
      serveApplication_of_fault hdecoded
    rw [hanswer]
    exact ⟨status_decorate _ _ _ _, payload_decorate hmethod _⟩
  · intro herror hrelays hspelled hpage
    by_cases hoptions : request.method = "OPTIONS"
    · simp only [serve, if_pos hoptions] at hserve
      cases hserve
      exact absurd herror (show ¬ 400 ≤ 200 by decide)
    · obtain ⟨answered, hanswered, rfl⟩ := of_serve_eq_ok hoptions hserve
      exact envelops_decorate hmethod
        (proper_answer hoptions hrelays hspelled hpage hanswered) herror

end

/-- A path without a route. -/
theorem serve_envelops_of_noRoute :
    let settings : Settings := {
      token := ⟨"key", "gateway", 60, "Authorization", "Bearer"⟩
      directory :=
        { url := "ldap://directory", baseDn := "dc=org", bindDn := "", bindPassword := "" }
      store := { url := "https://store" }
      proxy := { target := "http://target" } }
    let request : Request := ⟨"GET", ⟨"/nowhere", none⟩, [], ""⟩
    let state : GatewayState Unit := .initial settings 0 () (.ofTable []) (.memory {}) .unreachable
    ∃ gateway, ofSettings settings = .ok gateway ∧
      ∀ connector : Connector Unit, ∃ response after,
        gateway.serve connector "fresh" state request = (.ok response, after) ∧
          response.status = 404 ∧ response.Envelops "/nowhere" := by
  intro settings request state
  have hstart : ((ofSettings settings).toOption.map
      fun gateway => (gateway.routes.find? "/nowhere").isNone) = some true := by decide +kernel
  cases hbuilt : ofSettings settings with
  | error reason =>
      rw [hbuilt] at hstart
      cases hstart
  | ok gateway =>
      rw [hbuilt] at hstart
      have hnone : gateway.routes.find? request.target.path = none :=
        Option.isNone_iff_eq_none.mp (Option.some.inj hstart)
      refine ⟨gateway, rfl, ?_⟩
      intro connector
      have hmethod : request.method ≠ "HEAD" := by decide
      have hoptions : request.method ≠ "OPTIONS" := by decide
      have hserve : gateway.serve connector "fresh" state request =
          (.ok (gateway.decorate "fresh" request (.ofError (noRoute "/nowhere"))),
            { state with served := state.served.add ("GET", "unmatched", 404) }) := by
        unfold serve decorate
        simp only [if_neg hoptions, hnone, answer]
        rfl
      have hstatus := gateway.status_decorate "fresh" request (.ofError (noRoute "/nowhere"))
      refine ⟨_, _, hserve, hstatus, ?_⟩
      refine (serve_envelops hmethod hserve).2.2 (by rw [hstatus]; decide) ?_ ?_ ?_
      · rintro answer ⟨route, values, principal, hadmits, -⟩
        have hfind := hadmits.guards.1
        rw [hnone] at hfind
        cases hfind
      · rintro fault ⟨route, values, endpoint, principal, hadmits, -⟩
        have hfind := hadmits.guards.1
        rw [hnone] at hfind
        cases hfind
      · rintro ⟨route, values, hfind, -⟩
        rw [hnone] at hfind
        cases hfind

/-- The name of a group that is no text is refused without the envelope. -/
theorem serve_lacks_envelope :
    let settings : Settings := {
      token := ⟨"key", "gateway", 60, "Authorization", "Bearer"⟩
      directory :=
        { url := "ldap://directory", baseDn := "dc=org", bindDn := "", bindPassword := "" }
      store := { url := "https://store" }
      proxy := { target := "http://target" } }
    let state : GatewayState Unit := .initial settings 0 () (.ofTable []) (.memory {}) .unreachable
    ∃ gateway token, ofSettings settings = .ok gateway ∧
      ∀ connector : Connector Unit, ∃ response,
        (gateway.serve connector "fresh" state
            ⟨"GET", ⟨"/apps/%FF/access", none⟩,
              [("authorization", "Bearer" ++ " " ++ token)], ""⟩).1 = .ok response ∧
          response.status = 400 ∧
            response.payload = .text "Invalid URL: Invalid UTF-8 in \x60app_name\x60" ∧
              ¬ response.Envelops "/apps/%FF/access" := by
  intro settings state
  let path := "/apps/%FF/access"
  have hstart : ((ofSettings settings).toOption.map fun gateway =>
      (gateway.routes.find? path).bind fun found =>
        match PathFault.decodeNames found.1.template.names found.2 with
        | .error fault => some (found.1.endpoint? "GET", fault)
        | .ok _ => none) =
      some (some (some (.guarded (.application .access)), ⟨"app_name"⟩)) := by decide +kernel
  cases hbuilt : ofSettings settings with
  | error reason =>
      rw [hbuilt] at hstart
      cases hstart
  | ok gateway =>
      rw [hbuilt] at hstart
      have hfound := Option.some.inj hstart
      obtain ⟨⟨route, values⟩, hfind, hmeets⟩ := Option.bind_eq_some_iff.mp hfound
      dsimp only at hmeets
      split at hmeets
      next fault hdecoded =>
        obtain ⟨hendpoint, rfl⟩ := Prod.mk.inj (Option.some.inj hmeets)
        obtain ⟨token, hpresents⟩ := @exists_presenting settings gateway hbuilt (by decide)
          (by decide +kernel) (by decide) (by decide) 0 60000 (by decide) (by decide)
          ⟨"ada", none, .dev, []⟩ (by decide)
        refine ⟨gateway, token, rfl, ?_⟩
        intro connector
        let request : Request :=
          ⟨"GET", ⟨path, none⟩, [("authorization", "Bearer" ++ " " ++ token)], ""⟩
        have hlower : Text.Ascii.lower "Authorization" = "authorization" := by decide +kernel
        have hpresented : gateway.Presents state.clock request.headers
            ⟨"ada", none, .dev, []⟩ := by
          refine hpresents 0 request.headers (by decide) ?_
          rw [hlower]
          rfl
        have hadmits : gateway.Admits "fresh" state request route values
            (.application .access) ⟨"ada", none, .dev, []⟩ := by
          refine ⟨show "GET" ≠ "OPTIONS" by decide, ⟨hfind, hendpoint⟩,
            authenticate_eq_ok_iff.mpr ?_⟩
          exact (presents_withRequestId (by decide)).mpr hpresented
        have hanswer : (gateway.serveGuarded state ⟨"ada", none, .dev, []⟩
            (identified "fresh" request) route.template.names values
            (.application .access)).1 = PathFault.response ⟨"app_name"⟩ :=
          serveApplication_of_fault hdecoded
        have hpayload := @payload_decorate gateway "fresh" request
          (show "GET" ≠ "HEAD" by decide) (PathFault.response ⟨"app_name"⟩)
        refine ⟨_, hadmits.serve_eq connector, ?_⟩
        rw [hanswer]
        refine ⟨status_decorate _ _ _ _, hpayload, ?_⟩
        rintro ⟨error, message, hread⟩
        let refusal := PathFault.response ⟨"app_name"⟩
        have hunread : ((Text.Utf8.decode? (refusal.payload.write "")).bind Json.parse?).isNone = true := by
          decide +kernel
        have hwritten : refusal.payload = (gateway.decorate "fresh" request refusal).payload :=
          hpayload.symm
        rw [hwritten, hread ""] at hunread
        cases hunread
      · cases hmeets

end Gateway

end AccessGateway
