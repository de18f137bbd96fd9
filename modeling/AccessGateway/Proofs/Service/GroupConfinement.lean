import AccessGateway.Proofs.Store.Isolation
import AccessGateway.Service.Gateway

/-!
# Confinement to a group

A request about a group asks the store only when the caller was authorized for
that group, and only about the group and a short name in it.  Nothing else that
a gateway serves touches the store, so a store that was empty at first is filled
by such requests, and none of them sees or changes what other groups own.
-/

namespace AccessGateway

variable {δ : Type}

namespace ApplicationRequest

open StoreProgram

theorem asks_named {group : Group} {short : String}
    {next : SecretName → StoreProgram (Except GatewayError Response)}
    (h : SecretName.isShortName short = true →
      (next ⟨short, group⟩).Asks (StoreOperation.About group short)) :
    (named group short next).Asks (StoreOperation.About group short) := by
  unfold named
  split
  next name hname =>
    obtain ⟨hshort, rfl⟩ := SecretName.ofShort_eq_ok_iff.mp hname
    exact h hshort
  · trivial

theorem exists_of_map_eq_ok {ε α β : Type} {f : α → β} {result : Except ε α} {value : β}
    (h : result.map f = .ok value) : ∃ source, value = f source := by
  cases result with
  | error e => cases h
  | ok source =>
      cases h
      exact ⟨source, rfl⟩

/-- What is read from a request asks about the group and the short name only. -/
theorem asks_program {endpoint : ApplicationEndpoint} {short : String} {request : Request}
    {what : ApplicationRequest} (hread : endpoint.read short request = .ok what)
    (principal : Principal) (group : Group) :
    (what.program principal group).Asks (StoreOperation.About group short) := by
  cases endpoint with
  | access =>
      cases hread
      trivial
  | listSecrets =>
      cases hread
      exact asks_demandOr _ rfl fun _ => trivial
  | getSecret =>
      cases hread
      refine asks_named fun hshort => ?_
      exact asks_demand ⟨hshort, rfl⟩ fun _ => trivial
  | createSecret =>
      obtain ⟨form, rfl⟩ := exists_of_map_eq_ok hread
      refine asks_named fun hshort => ?_
      split
      · trivial
      · refine asks_demand rfl fun _ => ?_
        refine asks_demand ⟨hshort, rfl, rfl⟩ fun _ => ?_
        exact asks_demand ⟨hshort, rfl⟩ fun _ => trivial
  | deleteSecret =>
      cases hread
      refine asks_named fun hshort => ?_
      exact asks_demand ⟨hshort, rfl⟩ fun _ => trivial
  | listClients =>
      cases hread
      exact asks_demandOr _ rfl fun _ => trivial
  | createClient =>
      obtain ⟨form, rfl⟩ := exists_of_map_eq_ok hread
      refine asks_named fun hshort => ?_
      refine asks_demand rfl fun _ => ?_
      exact asks_demand ⟨hshort, rfl, rfl⟩ fun _ => trivial
  | deleteClient =>
      cases hread
      refine asks_named fun hshort => ?_
      exact asks_demand ⟨hshort, rfl⟩ fun _ => trivial

end ApplicationRequest

theorem Dispatcher.authorize_of_ensureAuthorized {dispatcher : Dispatcher}
    {teams : TeamRepository}    {network : Network} {group : Group} {principal : Principal}
    (h : (dispatcher.ensureAuthorized teams network group principal).1 = .ok ()) :
    (dispatcher.authorize teams network group principal).1 = .ok true := by
  unfold ensureAuthorized at h
  split at h
  next e after heq => cases h
  next after heq => rw [heq]
  next after heq => cases h

namespace SecretStore

theorem exchanges_memory {α : Type} (program : StoreProgram α) (content : MemoryStore)
    (network : Network) :
    program.exchanges answer (.memory content, network) =
      program.exchanges MemoryStore.answer content := by
  induction program generalizing content with
  | done result => rfl
  | ask operation next ih =>
      simp only [StoreProgram.exchanges]
      exact congrArg _ (ih _ _)

end SecretStore

namespace Gateway

section Application

variable {state : GatewayState δ} {principal : Principal} {request : Request}
  {names values : List String} {endpoint : ApplicationEndpoint}

/-- What passes between a request about a group and the secrets store. -/
def exchanges (state : GatewayState δ) (principal : Principal) (request : Request)
    (names values : List String) (endpoint : ApplicationEndpoint) : List StoreExchange :=
  match authorizedProgram state principal request names values endpoint with
  | (.error _, _) => []
  | (.ok program, state) =>
    program.exchanges SecretStore.answer (state.store, state.network)

theorem store_authorizedProgram (state : GatewayState δ) (principal : Principal)
    (request : Request) (names values : List String) (endpoint : ApplicationEndpoint) :
    (authorizedProgram state principal request names values endpoint).2.store =
      state.store := by
  unfold authorizedProgram
  split
  · rfl
  · split
    · rfl
    · split
      · rfl
      · dsimp only
        split <;> rfl

/-- The store has no part in whether a request is authorized. -/
theorem authorizedProgram_withStore (state : GatewayState δ) (principal : Principal)
    (request : Request) (names values : List String) (endpoint : ApplicationEndpoint)
    (store : SecretStore) :
    authorizedProgram { state with store := store } principal request names values endpoint =
      ((authorizedProgram state principal request names values endpoint).1,
        { (authorizedProgram state principal request names values endpoint).2 with
          store := store }) := by
  unfold authorizedProgram
  cases PathFault.decodeNames names values with
  | error fault => rfl
  | ok decoded =>
      dsimp only
      cases endpoint.read decoded.2 request with
      | error e => rfl
      | ok what =>
          dsimp only
          cases Group.parse principal.domain decoded.1 with
          | error e => rfl
          | ok group =>
              dsimp only
              split <;> rfl

/-- A program comes from a principal who was authorized just now, and asks about
the names in the path only. -/
theorem of_authorizedProgram {program : StoreProgram (Except GatewayError Response)}
    (h : (authorizedProgram state principal request names values endpoint).1 = .ok program) :
    ∃ app short group,
      PathFault.decodeNames names values = .ok (app, short) ∧
        Group.parse principal.domain app = .ok group ∧
          (state.dispatcher.authorize state.teams state.network group principal).1 =
              .ok true ∧
            program.Asks (StoreOperation.About group short) := by
  unfold authorizedProgram at h
  split at h
  · cases h
  next app short hdecoded =>
    split at h
    · cases h
    next what hread =>
      split at h
      · cases h
      next group hgroup =>
        dsimp only at h
        split at h
        · cases h
        next hensured =>
          cases h
          refine ⟨app, short, group, hdecoded, hgroup, ?_, ?_⟩
          · exact Dispatcher.authorize_of_ensureAuthorized hensured
          · exact ApplicationRequest.asks_program hread principal group

theorem serveApplication_of_authorized
    {program : StoreProgram (Except GatewayError Response)}
    (h : (authorizedProgram state principal request names values endpoint).1 = .ok program)
    {content : MemoryStore} (hstore : state.store = .memory content) :
    exchanges state principal request names values endpoint =
        program.exchanges MemoryStore.answer content ∧
      (serveApplication state principal request names values endpoint).1 =
          .ofResult (program.run MemoryStore.answer content).1 ∧
        (serveApplication state principal request names values endpoint).2.store =
          .memory (program.run MemoryStore.answer content).2 := by
  have hkept := store_authorizedProgram state principal request names values endpoint
  unfold exchanges serveApplication
  generalize authorizedProgram state principal request names values endpoint = result at h hkept
  obtain ⟨outcome, after⟩ := result
  cases h
  dsimp only at hkept ⊢
  rw [hkept, hstore, SecretStore.exchanges_memory, SecretStore.run_memory]
  exact ⟨rfl, rfl, rfl⟩

theorem serveApplication_of_refused {refusal : Response}
    (h : (authorizedProgram state principal request names values endpoint).1 =
      .error refusal) :
    exchanges state principal request names values endpoint = [] ∧
      (serveApplication state principal request names values endpoint).1 = refusal ∧
        (serveApplication state principal request names values endpoint).2.store =
          state.store := by
  have hkept := store_authorizedProgram state principal request names values endpoint
  unfold exchanges serveApplication
  generalize authorizedProgram state principal request names values endpoint = result at h hkept
  obtain ⟨outcome, after⟩ := result
  cases h
  exact ⟨rfl, rfl, hkept⟩

/-- Every question that reaches the store follows an authorization. -/
theorem of_mem_exchanges {exchange : StoreExchange}
    (hmem : exchange ∈ exchanges state principal request names values endpoint) :
    ∃ app short group,
      PathFault.decodeNames names values = .ok (app, short) ∧
        Group.parse principal.domain app = .ok group ∧
          (state.dispatcher.authorize state.teams state.network group principal).1 =
              .ok true ∧
            exchange.1.About group short := by
  unfold exchanges at hmem
  split at hmem
  · cases hmem
  next program after heq =>
    obtain ⟨app, short, group, hdecoded, hgroup, hauthorized, hasks⟩ :=
      of_authorizedProgram (congrArg Prod.fst heq)
    refine ⟨app, short, group, hdecoded, hgroup, hauthorized, ?_⟩
    obtain ⟨habout, -⟩ := StoreProgram.of_mem_exchanges (fun _ => True)
      (fun _ _ _ _ => trivial) hasks trivial hmem
    exact habout

/-- What other groups own stays as it is. -/
theorem find?_serveApplication {content : MemoryStore}
    (hstore : state.store = .memory content) :
    ∃ after,
      (serveApplication state principal request names values endpoint).2.store =
          .memory after ∧
        ∀ {key : String} {name : SecretName}, SecretName.ofUniqueName key = .ok name →
          (∀ {app short : String}, PathFault.decodeNames names values = .ok (app, short) →
            Group.parse principal.domain app ≠ .ok name.group) →
            after.secrets.find? key = content.secrets.find? key ∧
              after.clients.find? key = content.clients.find? key := by
  cases hprogram : (authorizedProgram state principal request names values endpoint).1 with
  | error refusal =>
      obtain ⟨-, -, hkept⟩ := serveApplication_of_refused hprogram
      exact ⟨content, hkept.trans hstore, fun _ _ => ⟨rfl, rfl⟩⟩
  | ok program =>
      obtain ⟨app, short, group, hdecoded, hgroup, -, hasks⟩ :=
        of_authorizedProgram hprogram
      have hname := Group.name_ne_empty_of_parse hgroup
      obtain ⟨-, -, hafter⟩ := serveApplication_of_authorized hprogram hstore
      refine ⟨_, hafter, ?_⟩
      intro key name hkey hother
      have hforeign : group.owns key = false := by
        cases howns : group.owns key with
        | false => rfl
        | true =>
            obtain ⟨found, hfound, hsame⟩ := Group.owns_iff.mp howns
            rw [hkey] at hfound
            cases hfound
            exact absurd (hsame ▸ hgroup) (hother hdecoded)
      exact MemoryStore.find?_run hasks hname content hforeign

theorem filled_serveApplication {content : MemoryStore}
    (hstore : state.store = .memory content) (hfilled : content.Filled) :
    ∃ after,
      (serveApplication state principal request names values endpoint).2.store =
          .memory after ∧ after.Filled := by
  cases hprogram : (authorizedProgram state principal request names values endpoint).1 with
  | error refusal =>
      obtain ⟨-, -, hkept⟩ := serveApplication_of_refused hprogram
      exact ⟨content, hkept.trans hstore, hfilled⟩
  | ok program =>
      obtain ⟨app, short, group, -, hgroup, -, hasks⟩ := of_authorizedProgram hprogram
      obtain ⟨-, -, hafter⟩ := serveApplication_of_authorized hprogram hstore
      exact ⟨_, hafter,
        MemoryStore.filled_run hasks (Group.name_ne_empty_of_parse hgroup) hfilled⟩

/-- From a filled store a request is told of its own group only, and it is
answered as if there were nothing else. -/
theorem serveApplication_only {content : MemoryStore}
    (hstore : state.store = .memory content) (hfilled : content.Filled)
    {app short : String} {group : Group}
    (hdecoded : PathFault.decodeNames names values = .ok (app, short))
    (hgroup : Group.parse principal.domain app = .ok group) :
    (∀ exchange ∈ exchanges state principal request names values endpoint,
        ∀ told ∈ exchange.told, group.owns told = true) ∧
      (serveApplication { state with store := .memory (content.only group) }
          principal request names values endpoint).1 =
        (serveApplication state principal request names values endpoint).1 := by
  have hname := Group.name_ne_empty_of_parse hgroup
  have hprogram' := congrArg Prod.fst
    (authorizedProgram_withStore state principal request names values endpoint
      (.memory (content.only group)))
  cases hprogram : (authorizedProgram state principal request names values endpoint).1 with
  | error refusal =>
      rw [hprogram] at hprogram'
      obtain ⟨hnone, hresponse, -⟩ := serveApplication_of_refused hprogram
      obtain ⟨-, hresponse', -⟩ := serveApplication_of_refused hprogram'
      rw [hnone, hresponse, hresponse']
      exact ⟨by simp, rfl⟩
  | ok program =>
      rw [hprogram] at hprogram'
      obtain ⟨app', short', group', hdecoded', hgroup', -, hasks⟩ :=
        of_authorizedProgram hprogram
      rw [hdecoded] at hdecoded'
      cases hdecoded'
      rw [hgroup] at hgroup'
      cases hgroup'
      obtain ⟨hexchanges, hresponse, -⟩ := serveApplication_of_authorized hprogram hstore
      obtain ⟨-, hresponse', -⟩ := serveApplication_of_authorized hprogram' rfl
      rw [hexchanges, hresponse, hresponse', MemoryStore.run_only hasks hname hfilled]
      refine ⟨?_, rfl⟩
      intro exchange hmem told htold
      exact MemoryStore.owns_of_mem_exchanges hasks hname hfilled hmem htold

end Application

/-! ## Reached states -/

/-- What is reached when a gateway serves one request after another; all but the
store may change in between. -/
inductive Reaches (gateway : Gateway) (start : GatewayState δ) : GatewayState δ → Prop
  | start : Reaches gateway start start
  | serve {state : GatewayState δ} (h : Reaches gateway start state)
      (connector : Connector δ) (fresh : String) (request : Request) :
      Reaches gateway start (gateway.serve connector fresh state request).2
  | elsewhere {state other : GatewayState δ} (h : Reaches gateway start state)
      (hstore : other.store = state.store) : Reaches gateway start other

/-- What becomes of the store when a request is served: it stays as it is, or is
left to a request about a group. -/
inductive StoreAfter (state : GatewayState δ) (store : SecretStore) : Prop
  | same (h : store = state.store)
  | application (principal : Principal) (request : Request) (names values : List String)
      (endpoint : ApplicationEndpoint)
      (h : store =
        (serveApplication state principal request names values endpoint).2.store)

section Serving

variable (gateway : Gateway) (connector : Connector δ) (state : GatewayState δ)

theorem store_login (request : Request) :
    (gateway.login connector state request).2.store = state.store := by
  unfold login
  split
  · rfl
  · dsimp only
    split
    · rfl
    · split <;> rfl

theorem store_serveOpen (request : Request) (values : List String) (endpoint : OpenEndpoint) :
    (gateway.serveOpen connector state request values endpoint).2.store = state.store := by
  cases endpoint with
  | login => exact store_login gateway connector state request
  | _ => rfl

theorem store_relay (request : Request) :
    (gateway.relay state request).2.store = state.store := by
  unfold relay
  dsimp only
  split <;> rfl

theorem storeAfter_serveGuarded (principal : Principal) (request : Request)
    (names values : List String) (endpoint : GuardedEndpoint) :
    StoreAfter state
      (gateway.serveGuarded state principal request names values endpoint).2.store := by
  cases endpoint with
  | currentUser => exact .same rfl
  | application endpoint => exact .application principal request names values endpoint rfl
  | relay => exact .same (store_relay gateway state request)

theorem storeAfter_answer (request : Request)
    (route : Option (Route Endpoint × List String)) :
    StoreAfter state (gateway.answer connector state request route).2.store := by
  unfold answer
  split
  · exact .same rfl
  next route values =>
    split
    · exact .same rfl
    next endpoint _ =>
      exact .same (store_serveOpen gateway connector state request values endpoint)
    next endpoint _ =>
      split
      · exact .same rfl
      next principal _ =>
        exact storeAfter_serveGuarded gateway state principal request
          route.template.names values endpoint

theorem storeAfter_serve (fresh : String) (request : Request) :
    StoreAfter state (gateway.serve connector fresh state request).2.store := by
  unfold serve
  dsimp only
  split
  · exact .same rfl
  · have hanswer := storeAfter_answer gateway connector state
      { request with
        headers := request.headers.set requestIdHeader (requestId fresh request.headers) }
      (gateway.routes.find? request.target.path)
    split
    next after heq =>
      rw [heq] at hanswer
      exact hanswer
    next response after heq =>
      rw [heq] at hanswer
      exact hanswer

end Serving

/-- A store that was empty at first stays filled by requests about groups. -/
theorem Reaches.filled {gateway : Gateway} {start state : GatewayState δ}
    (h : gateway.Reaches start state) (hstart : start.store = .memory {}) :
    ∃ content, state.store = .memory content ∧ content.Filled := by
  induction h with
  | start => exact ⟨_, hstart, MemoryStore.filled_empty⟩
  | serve h connector fresh request ih =>
      obtain ⟨content, hcontent, hfilled⟩ := ih
      cases storeAfter_serve gateway connector _ fresh request with
      | same hsame => exact ⟨content, hsame.trans hcontent, hfilled⟩
      | application principal known names values endpoint happlied =>
          rw [happlied]
          exact filled_serveApplication hcontent hfilled
  | elsewhere h hstore ih =>
      obtain ⟨content, hcontent, hfilled⟩ := ih
      exact ⟨content, hstore.trans hcontent, hfilled⟩

/-- In every reached state, what a request about a group asks the store follows
an authorization of the caller for that group, and carries names of that group
only.  Secrets and clients of other groups stay as they are, and in a store that
was filled by such requests they have no part in what is answered. -/
theorem serveApplication_confined {gateway : Gateway} {start state : GatewayState δ}
    (hreach : gateway.Reaches start state) (principal : Principal) (request : Request)
    (names values : List String) (endpoint : ApplicationEndpoint) :
    let asked := exchanges state principal request names values endpoint
    let served := serveApplication state principal request names values endpoint
    (∀ exchange ∈ asked,
      ∃ app short group,
        PathFault.decodeNames names values = .ok (app, short) ∧
          Group.parse principal.domain app = .ok group ∧
            (state.dispatcher.authorize state.teams state.network group principal).1 =
                .ok true ∧
              ∀ name ∈ exchange.1.names,
                name = group.qualifiedName ∨
                  ∃ secret, SecretName.ofShort short group = .ok secret ∧
                    name = secret.uniqueName) ∧
      (∀ content, state.store = .memory content →
        ∃ after, served.2.store = .memory after ∧
          ∀ {key : String} {name : SecretName}, SecretName.ofUniqueName key = .ok name →
            (∀ {app short : String}, PathFault.decodeNames names values = .ok (app, short) →
              Group.parse principal.domain app ≠ .ok name.group) →
              after.secrets.find? key = content.secrets.find? key ∧
                after.clients.find? key = content.clients.find? key) ∧
        (start.store = .memory {} →
          ∃ content, state.store = .memory content ∧
            ∀ {app short : String} {group : Group},
              PathFault.decodeNames names values = .ok (app, short) →
                Group.parse principal.domain app = .ok group →
                  (∀ exchange ∈ asked, ∀ told ∈ exchange.told,
                    ∃ name, SecretName.ofUniqueName told = .ok name ∧ name.group = group) ∧
                    (serveApplication
                        { state with store := .memory (content.only group) }
                        principal request names values endpoint).1 = served.1) := by
  refine ⟨?_, ?_, ?_⟩
  · intro exchange hmem
    obtain ⟨app, short, group, hdecoded, hgroup, hauthorized, habout⟩ :=
      of_mem_exchanges hmem
    exact ⟨app, short, group, hdecoded, hgroup, hauthorized,
      fun name hname => habout.names_eq hname⟩
  · intro content hstore
    exact find?_serveApplication hstore
  · intro hstart
    obtain ⟨content, hcontent, hfilled⟩ := hreach.filled hstart
    refine ⟨content, hcontent, ?_⟩
    intro app short group hdecoded hgroup
    obtain ⟨htold, halone⟩ := serveApplication_only hcontent hfilled hdecoded hgroup
    refine ⟨?_, halone⟩
    intro exchange hmem told hin
    exact Group.owns_iff.mp (htold exchange hmem told hin)

/-- An admin of an assembly asks an empty store for one of its secrets. -/
theorem serveApplication_confined_of_admin :
    ∃ (gateway : Gateway) (state : GatewayState Unit) (principal : Principal)
        (request : Request),
      gateway.Reaches state state ∧
        (exchanges state principal request ["app_name", "secret"] ["Org_Asm_dev", "key"]
            .getSecret).map (·.1.names) = [["dev_Org_Asm_dev@key"]] ∧
          ∀ exchange ∈ exchanges state principal request ["app_name", "secret"]
              ["Org_Asm_dev", "key"] .getSecret,
            ∃ app short group,
              PathFault.decodeNames ["app_name", "secret"] ["Org_Asm_dev", "key"] =
                  .ok (app, short) ∧
                Group.parse principal.domain app = .ok group ∧
                  (state.dispatcher.authorize state.teams state.network group
                      principal).1 = .ok true ∧
                    ∀ name ∈ exchange.1.names,
                      name = group.qualifiedName ∨
                        ∃ secret, SecretName.ofShort short group = .ok secret ∧
                          name = secret.uniqueName := by
  let settings : Settings := {
    token := ⟨"key", "gateway", 60, "Authorization", "Bearer"⟩
    directory :=
      { url := "ldap://directory", baseDn := "dc=org", bindDn := "", bindPassword := "" }
    store := { url := "https://store" }
    proxy := { target := "http://target" } }
  let gateway : Gateway :=
    ⟨settings, ⟨[], "gateway", 60, "Bearer"⟩, ⟨"http://target", ⟨[]⟩, 0⟩, [],
      ⟨[], "authorization"⟩⟩
  let state : GatewayState Unit :=
    .initial settings 0 ()
      (.ofTable [⟨"ada", "Org", "Asm", ⟨"keywhiz-admin", none, true, true, false⟩⟩])
      (.memory {}) .unreachable
  let principal : Principal := ⟨"ada", none, .dev, []⟩
  let request : Request :=
    ⟨"GET", ⟨"/apps/Org_Asm_dev/secrets/key", none⟩, [], ""⟩
  have hreach : gateway.Reaches state state := .start
  refine ⟨gateway, state, principal, request, hreach, by decide +kernel, ?_⟩
  obtain ⟨hasked, -, -⟩ := serveApplication_confined hreach principal request
    ["app_name", "secret"] ["Org_Asm_dev", "key"] .getSecret
  exact hasked

end Gateway

end AccessGateway
