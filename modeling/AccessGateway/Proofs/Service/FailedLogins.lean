import AccessGateway.Directory.Memory
import AccessGateway.Proofs.Service.AuthenticationGate

/-!
# Failed logins

While a directory answers, a login fails for one of two errors: the username was
refused before the directory was asked, or the credentials were.  Which of the
checks failed, and whether the name of the entry was kept from an earlier login,
is in neither of them, and both have one answer.  So two failed logins with
different bodies are answered alike, whatever was served before them; only the
identifiers of the two requests may differ.
-/

namespace AccessGateway

/-! ## Directories without an outage -/

/-- In the given states a directory answers every question, and stays in one of them. -/
structure Connector.Steady {σ : Type} (connector : Connector σ) (runs : σ → Prop) : Prop where
  search_ok : ∀ {directory} (base filter : String), runs directory →
    ∃ found after, connector.search directory base filter = (.ok found, after) ∧ runs after
  bind_ok : ∀ {directory} (name password : String), runs directory →
    ∃ outcome after, connector.bind directory name password = (.ok outcome, after) ∧ runs after

theorem MemoryDirectory.steady_connector :
    MemoryDirectory.connector.Steady fun directory => directory.failure = none where
  search_ok base filter h := ⟨_, _, search_of_running h base filter, h⟩
  bind_ok name password h := ⟨_, _, bind_of_running h name password, h⟩

namespace Authenticator

section

variable {σ : Type} {auth : Authenticator} {connector : Connector σ} {runs : σ → Prop}
  {directory : σ} {username password : String} {domain : Domain}

/-- A kept name and a search both end with a name or without one. -/
theorem resolve_of_steady (hsteady : connector.Steady runs) (hruns : runs directory) :
    ∃ name after directoryAfter,
      auth.resolve connector directory username = (.ok name, after, directoryAfter) ∧
        runs directoryAfter := by
  unfold resolve
  dsimp only
  split
  next name names _ => exact ⟨_, _, _, rfl, hruns⟩
  next names _ =>
    obtain ⟨found, later, hsearch, hlater⟩ :=
      hsteady.search_ok auth.baseDn (auth.filterFor username) hruns
    rw [hsearch]
    cases found with
    | nil => exact ⟨_, _, _, rfl, hlater⟩
    | cons name others =>
        cases others with
        | nil => exact ⟨_, _, _, rfl, hlater⟩
        | cons second others => exact ⟨_, _, _, rfl, hlater⟩

/-- A login fails for the username or for the credentials, and the directory goes on answering. -/
theorem decide_of_steady (hsteady : connector.Steady runs) (hruns : runs directory) :
    ∃ answer after directoryAfter,
      auth.decide connector directory username password domain =
          (answer, after, directoryAfter) ∧
        (∀ e, answer = .error e → e = .invalidUsername ∨ e = .invalidCredentials) ∧
          runs directoryAfter := by
  unfold decide
  by_cases hname : isUsername username = true
  · by_cases hpassword : password.isEmpty = true
    · rw [if_neg (by simp [hname]), if_pos hpassword]
      exact ⟨_, _, _, rfl, by simp, hruns⟩
    · rw [if_neg (by simp [hname]), if_neg hpassword]
      obtain ⟨found, after, later, hresolve, hlater⟩ :=
        @resolve_of_steady σ auth connector runs directory username hsteady hruns
      rw [hresolve]
      cases found with
      | none => exact ⟨_, _, _, rfl, by simp, hlater⟩
      | some name =>
          dsimp only
          obtain ⟨outcome, last, hbind, hlast⟩ := hsteady.bind_ok name password hlater
          rw [hbind]
          cases outcome with
          | rejected => exact ⟨_, _, _, rfl, by simp, hlast⟩
          | accepted => exact ⟨_, _, _, rfl, by simp, hlast⟩
  · rw [if_pos (by simp [hname])]
    exact ⟨_, _, _, rfl, by simp, hruns⟩

theorem authenticate_of_steady (hsteady : connector.Steady runs) (hruns : runs directory) :
    runs (auth.authenticate connector directory username password domain).2.2 ∧
      ∀ e, (auth.authenticate connector directory username password domain).1 = .error e →
        e.toApi = .unauthorized "Invalid username or password" := by
  obtain ⟨answer, after, later, hdecide, herror, hlater⟩ :=
    @decide_of_steady σ auth connector runs directory username password domain hsteady hruns
  unfold authenticate
  rw [hdecide]
  refine ⟨hlater, ?_⟩
  intro e he
  rcases herror e he with rfl | rfl <;> rfl

end

end Authenticator

/-! ## Answers that differ in their identifiers -/

namespace Headers

theorem erase_append (front back : Headers) (name : String) :
    erase (front ++ back) name = erase front name ++ erase back name := by
  simp [erase]

theorem erase_set_self (headers : Headers) (name value : String) :
    (headers.set name value).erase name = headers.erase name := by
  simp [set, erase]

theorem erase_set_congr {headers others : Headers} {name : String}
    (h : headers.erase name = others.erase name) (other value : String) :
    (headers.set other value).erase name = (others.set other value).erase name := by
  have hswap : ∀ fields : Headers, (fields.erase other).erase name =
      (fields.erase name).erase other := by
    intro fields
    simp only [erase, List.filter_filter, Bool.and_comm]
  rw [set, set, erase_append, erase_append, hswap, hswap, h]

end Headers

/-- Two answers are the same but for the identifiers of their requests. -/
structure Response.Alike (response other : Response) : Prop where
  status_eq : response.status = other.status
  payload_eq : response.payload = other.payload
  headers_eq : response.headers.erase Gateway.requestIdHeader =
    other.headers.erase Gateway.requestIdHeader

namespace Response.Alike

variable {response other : Response}

theorem withHeader (h : response.Alike other) (name value : String) :
    (response.withHeader name value).Alike (other.withHeader name value) :=
  ⟨h.status_eq, h.payload_eq, Headers.erase_set_congr h.headers_eq name value⟩

theorem release (h : response.Alike other) (policy : OriginPolicy) (headers : Headers) :
    (policy.release headers response).Alike (policy.release headers other) := by
  unfold OriginPolicy.release
  split
  next name value _ =>
    have hset := h.withHeader name value
    refine ⟨hset.status_eq, hset.payload_eq, ?_⟩
    rw [Headers.erase_append, Headers.erase_append, hset.headers_eq]
  · refine ⟨h.status_eq, h.payload_eq, ?_⟩
    rw [Headers.erase_append, Headers.erase_append, h.headers_eq]

theorem atRoute (h : response.Alike other) (found : Option (Route Endpoint × List String))
    (method : String) :
    (Gateway.atRoute found method response).Alike (Gateway.atRoute found method other) := by
  have hdrop : ∀ {a b : Response} (drops : Bool), a.Alike b →
      (if drops then a.withoutPayload else a).Alike (if drops then b.withoutPayload else b) := by
    intro a b drops halike
    cases drops with
    | false => exact halike
    | true => exact ⟨halike.status_eq, rfl, halike.headers_eq⟩
  unfold Gateway.atRoute
  cases found with
  | none => exact h
  | some chosen =>
      dsimp only
      cases chosen.1.endpoint? method with
      | some endpoint => exact hdrop _ h
      | none =>
          cases chosen.1.allowed? with
          | none => exact hdrop _ h
          | some methods => exact hdrop _ (h.withHeader "allow" methods)

theorem decorate (gateway : Gateway) (fresh other : String) (request : Request)
    (response : Response) :
    (gateway.decorate fresh request response).Alike (gateway.decorate other request response) := by
  unfold Gateway.decorate
  have hidentified : ((response.withPath request.target.path).withHeader Gateway.requestIdHeader
      (Gateway.requestId fresh request.headers)).Alike
        ((response.withPath request.target.path).withHeader Gateway.requestIdHeader
          (Gateway.requestId other request.headers)) := by
    refine ⟨rfl, rfl, ?_⟩
    simp only [Response.withHeader, Headers.erase_set_self]
  exact (hidentified.release _ _).atRoute _ _

end Response.Alike

namespace Gateway

variable {δ : Type}

/-! ## What is served before -/

section

variable {gateway : Gateway} {connector : Connector δ} {runs : δ → Prop}
  {state : GatewayState δ}

theorem directory_authorizedProgram (state : GatewayState δ) (principal : Principal)
    (request : Request) (names values : List String) (endpoint : ApplicationEndpoint) :
    (authorizedProgram state principal request names values endpoint).2.directory =
      state.directory := by
  unfold authorizedProgram
  split
  · rfl
  · split
    · rfl
    · split
      · rfl
      · dsimp only
        split <;> rfl

theorem directory_serveGuarded (state : GatewayState δ) (principal : Principal)
    (request : Request) (names values : List String) (endpoint : GuardedEndpoint) :
    (gateway.serveGuarded state principal request names values endpoint).2.directory =
      state.directory := by
  cases endpoint with
  | currentUser => rfl
  | application endpoint =>
      have hkept := directory_authorizedProgram state principal request names values endpoint
      show (serveApplication state principal request names values endpoint).2.directory = _
      unfold serveApplication
      split <;> rename_i heq <;> rw [heq] at hkept <;> exact hkept
  | relay =>
      show (gateway.relay state request).2.directory = _
      unfold relay
      dsimp only
      split <;> rfl

theorem runs_login (hsteady : connector.Steady runs) (hruns : runs state.directory)
    (request : Request) : runs (gateway.login connector state request).2.directory := by
  unfold login
  split
  · exact hruns
  next form _ =>
    have hauthenticate := (@Authenticator.authenticate_of_steady δ state.authenticator connector
      runs state.directory form.username form.password
      (form.domain.getD gateway.settings.defaultDomain) hsteady hruns).1
    dsimp only
    split
    · exact hauthenticate
    · split <;> exact hauthenticate

theorem runs_answer (hsteady : connector.Steady runs) (hruns : runs state.directory)
    (request : Request) (found : Option (Route Endpoint × List String)) :
    runs (gateway.answer connector state request found).2.directory := by
  unfold answer
  split
  · exact hruns
  · split
    · exact hruns
    next endpoint _ =>
      cases endpoint with
      | login => exact runs_login hsteady hruns request
      | _ => exact hruns
    next endpoint _ =>
      split
      · exact hruns
      · dsimp only
        rw [directory_serveGuarded]
        exact hruns

/-- No request that is served stops the directory from answering. -/
theorem runs_serve (hsteady : connector.Steady runs) (hruns : runs state.directory)
    (fresh : String) (request : Request) :
    runs (gateway.serve connector fresh state request).2.directory := by
  unfold serve
  dsimp only
  split
  · exact hruns
  · have hanswer := @runs_answer δ gateway connector runs state hsteady hruns
      (identified fresh request) (gateway.routes.find? request.target.path)
    split
    next heq =>
      rw [identified, heq] at hanswer
      exact hanswer
    next heq =>
      rw [identified, heq] at hanswer
      exact hanswer

/-- The state after requests with their fresh identifiers. -/
def afterAll (gateway : Gateway) (connector : Connector δ) (state : GatewayState δ) :
    List (String × Request) → GatewayState δ
  | [] => state
  | (fresh, request) :: rest =>
    afterAll gateway connector (gateway.serve connector fresh state request).2 rest

theorem runs_afterAll (hsteady : connector.Steady runs) (hruns : runs state.directory)
    (requests : List (String × Request)) :
    runs (gateway.afterAll connector state requests).directory := by
  induction requests generalizing state with
  | nil => exact hruns
  | cons first rest ih => exact ih (runs_serve hsteady hruns first.1 first.2)

end

/-! ## Two failed logins -/

/-- A request that is served as a login. -/
def LogsIn (gateway : Gateway) (request : Request) : Prop :=
  request.method ≠ "OPTIONS" ∧
    ∃ route values,
      gateway.routes.find? request.target.path = some (route, values) ∧
        route.endpoint? request.method = some (.free .login)

/-- A request carries a form with a username that is no longer than it may be, and nobody is
logged in with it. -/
def failsLogin (gateway : Gateway) (connector : Connector δ) (state : GatewayState δ)
    (request : Request) : Bool :=
  match Form.ofBody LoginForm request with
  | .error _ => false
  | .ok form =>
    1 ≤ form.username.length && form.username.length ≤ 256 &&
      !(state.authenticator.authenticate connector state.directory form.username form.password
        (form.domain.getD gateway.settings.defaultDomain)).1.isOk

section

variable {gateway : Gateway} {connector : Connector δ} {runs : δ → Prop}
  {state : GatewayState δ} {request : Request}

theorem ofBody_identified (fresh : String) (request : Request) :
    Form.ofBody LoginForm (identified fresh request) = Form.ofBody LoginForm request := by
  have hother : "content-type" ≠ requestIdHeader := by decide
  have hdeclares : Form.declaresJson (identified fresh request).headers =
      Form.declaresJson request.headers := by
    simp only [Form.declaresJson, identified, Headers.firstVisible?,
      Headers.first?_set_of_ne _ hother]
  simp only [Form.ofBody, hdeclares]
  rfl

theorem login_of_failsLogin (hsteady : connector.Steady runs) (hruns : runs state.directory)
    (hfails : gateway.failsLogin connector state request = true) (fresh : String) :
    (gateway.login connector state (identified fresh request)).1 =
      .ok (.ofError (.unauthorized "Invalid username or password")) := by
  unfold failsLogin at hfails
  split at hfails
  · cases hfails
  next form hform =>
    simp only [Bool.and_eq_true, decide_eq_true_eq, Bool.not_eq_true'] at hfails
    obtain ⟨⟨hlow, hhigh⟩, hrefused⟩ := hfails
    have hread : Form.ofRequest LoginForm (identified fresh request) = .ok form := by
      have hrules : Form.faults form = [] := by
        simp [Form.faults, Form.lengthFaults, hlow, hhigh]
      simp only [Form.ofRequest, ofBody_identified, hform, hrules]
    have hanswer := (@Authenticator.authenticate_of_steady δ state.authenticator connector runs
      state.directory form.username form.password
      (form.domain.getD gateway.settings.defaultDomain) hsteady hruns).2
    unfold login
    rw [hread]
    dsimp only
    cases hverdict : (state.authenticator.authenticate connector state.directory form.username
        form.password (form.domain.getD gateway.settings.defaultDomain)).1 with
    | ok principal =>
        rw [hverdict] at hrefused
        cases hrefused
    | error e =>
        dsimp only
        rw [hanswer e hverdict]

theorem serve_of_failsLogin (hlogin : gateway.LogsIn request) (hsteady : connector.Steady runs)
    (hruns : runs state.directory)
    (hfails : gateway.failsLogin connector state request = true) (fresh : String) :
    (gateway.serve connector fresh state request).1 =
      .ok (gateway.decorate fresh request
        (.ofError (.unauthorized "Invalid username or password"))) := by
  obtain ⟨hoptions, route, values, hfind, hmeets⟩ := hlogin
  have hmeets : route.endpoint? (identified fresh request).method = some (.free .login) := hmeets
  have hlogged := login_of_failsLogin hsteady hruns hfails fresh
  have hanswer : (gateway.answer connector state (identified fresh request)
      (some (route, values))).1 =
        .ok (.ofError (.unauthorized "Invalid username or password")) := by
    simp only [answer, hmeets, serveOpen, hlogged]
  unfold serve
  simp only [if_neg hoptions, hfind]
  split
  next heq =>
    rw [identified, heq] at hanswer
    cases hanswer
  next heq =>
    rw [identified, heq] at hanswer
    cases hanswer
    rw [decorate, hfind]

end

/-- Whatever was served before, two requests that differ in their bodies and that both fail to log
somebody in are answered alike, and with one identifier they have the same answer. -/
theorem serve_failed_logins {gateway : Gateway} {connector : Connector δ} {runs : δ → Prop}
    (hsteady : connector.Steady runs) {start other : GatewayState δ}
    (hstart : runs start.directory) (hother : runs other.directory)
    (earlier others : List (String × Request)) {request : Request}
    (hlogin : gateway.LogsIn request) {first second : String}
    (hfirst : gateway.failsLogin connector (gateway.afterAll connector start earlier)
      { request with body := first } = true)
    (hsecond : gateway.failsLogin connector (gateway.afterAll connector other others)
      { request with body := second } = true)
    (fresh freshOther : String) :
    ∃ response responseOther,
      (gateway.serve connector fresh (gateway.afterAll connector start earlier)
          { request with body := first }).1 = .ok response ∧
        (gateway.serve connector freshOther (gateway.afterAll connector other others)
            { request with body := second }).1 = .ok responseOther ∧
          response.status = 401 ∧ response.Alike responseOther ∧
            (fresh = freshOther → response = responseOther) := by
  have hserved := @serve_of_failsLogin δ gateway connector runs _ { request with body := first }
    hlogin hsteady (runs_afterAll hsteady hstart earlier) hfirst fresh
  have hservedOther := @serve_of_failsLogin δ gateway connector runs _
    { request with body := second } hlogin hsteady (runs_afterAll hsteady hother others) hsecond
    freshOther
  refine ⟨_, _, hserved, hservedOther, ?_, ?_, ?_⟩
  · rw [status_decorate]
    rfl
  · exact Response.Alike.decorate gateway fresh freshOther request _
  · rintro rfl
    rfl

/-- The wrong password of a user whose entry is known from an earlier login, and a username that
is none. -/
theorem serve_failed_logins_of_user :
    let settings : Settings := {
      token := ⟨"key", "gateway", 60, "Authorization", "Bearer"⟩
      directory :=
        { url := "ldap://directory", baseDn := "dc=org", bindDn := "", bindPassword := "" }
      store := { url := "https://store" }
      proxy := { target := "http://target" } }
    let directory : MemoryDirectory := { users := [⟨"ada", "cn=Ada,dc=org", "secret"⟩] }
    let state : GatewayState MemoryDirectory :=
      .initial settings 0 directory (.ofTable []) (.memory {}) .unreachable
    let request : Request := ⟨"POST", ⟨"/login", none⟩,
      [("content-type", "application/json")],
      "\x7b\"username\":\"ada\",\"password\":\"guess\"\x7d"⟩
    let nameless := "\x7b\"username\":\"ada lovelace\",\"password\":\"\"\x7d"
    ∃ gateway, ofSettings settings = .ok gateway ∧
      ∃ response other,
        (gateway.serve MemoryDirectory.connector "second"
            (gateway.afterAll MemoryDirectory.connector state [("first", request)]) request).1 =
              .ok response ∧
          (gateway.serve MemoryDirectory.connector "third"
              (gateway.afterAll MemoryDirectory.connector state [])
              { request with body := nameless }).1 = .ok other ∧
            response.status = 401 ∧ response.Alike other := by
  intro settings directory state request nameless
  have hrun : ((ofSettings settings).toOption.map fun gateway =>
      ((gateway.routes.find? "/login").bind fun found => found.1.endpoint? "POST",
        gateway.failsLogin MemoryDirectory.connector
          (gateway.afterAll MemoryDirectory.connector state [("first", request)]) request,
        gateway.failsLogin MemoryDirectory.connector state
          { request with body := nameless })) =
      some (some (.free .login), true, true) := by decide +kernel
  cases hbuilt : ofSettings settings with
  | error reason =>
      rw [hbuilt] at hrun
      cases hrun
  | ok gateway =>
      rw [hbuilt] at hrun
      obtain ⟨hmeets, hfails⟩ := Prod.mk.inj (Option.some.inj hrun)
      obtain ⟨hfirst, hsecond⟩ := Prod.mk.inj hfails
      obtain ⟨⟨route, values⟩, hfind, hendpoint⟩ := Option.bind_eq_some_iff.mp hmeets
      have hlogin : gateway.LogsIn request :=
        ⟨by decide, route, values, hfind, hendpoint⟩
      have hrunning : state.directory.failure = none := rfl
      obtain ⟨response, other, hserved, hother, hstatus, halike, -⟩ :=
        serve_failed_logins MemoryDirectory.steady_connector hrunning hrunning
          [("first", request)] [] hlogin hfirst hsecond "second" "third"
      exact ⟨gateway, rfl, response, other, hserved, hother, hstatus, halike⟩

end Gateway

end AccessGateway
