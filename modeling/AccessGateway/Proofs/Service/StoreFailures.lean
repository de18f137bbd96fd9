import AccessGateway.Proofs.Service.GroupHistories
import AccessGateway.Proofs.Store.Courses

/-!
# Failures of the store

An authorized request about a group asks the store a fixed list of questions.  They go out in
order and stop at the first that fails; the answer to the caller is a success exactly if none
did, and else its status names the failure.
-/

namespace AccessGateway

variable {δ : Type}

namespace ApplicationRequest

open StoreProgram

/-- The short name and the content of a request are valid. -/
def Valid : ApplicationRequest → Prop
  | .access | .listSecrets | .listClients => True
  | .getSecret short | .deleteSecret short | .createClient short _ | .deleteClient short =>
    SecretName.isShortName short = true
  | .createSecret short form =>
    SecretName.isShortName short = true ∧ isContent form.content = true

/-- What a request asks the store as long as nothing fails. -/
def questions (principal : Principal) (group : Group) : ApplicationRequest → List StoreOperation
  | .access => []
  | .listSecrets => [.listSecrets group.qualifiedName]
  | .getSecret short => [.getSecret (SecretName.uniqueName ⟨short, group⟩)]
  | .createSecret short form =>
    [.ensureGroup group.qualifiedName (groupDescription group),
      .createSecret (newSecret principal ⟨short, group⟩ form),
      .getSecret (SecretName.uniqueName ⟨short, group⟩)]
  | .deleteSecret short => [.deleteSecret (SecretName.uniqueName ⟨short, group⟩)]
  | .listClients => [.listClients group.qualifiedName]
  | .createClient short form =>
    [.ensureGroup group.qualifiedName (groupDescription group),
      .createClient (newClient ⟨short, group⟩ form)]
  | .deleteClient short => [.deleteClient (SecretName.uniqueName ⟨short, group⟩)]

/-- Method and path of these questions, as they go to the store. -/
def requestLines (group : Group) : ApplicationRequest → List (String × String)
  | .access => []
  | .listSecrets => [("GET", "/groups/" ++ Text.Percent.encode group.qualifiedName ++ "/secrets")]
  | .getSecret short => [("GET", "/secrets/" ++ unique short)]
  | .createSecret short _ =>
    [("POST", "/groups"), ("POST", "/secrets"), ("GET", "/secrets/" ++ unique short)]
  | .deleteSecret short => [("DELETE", "/secrets/" ++ unique short)]
  | .listClients => [("GET", "/groups/" ++ Text.Percent.encode group.qualifiedName ++ "/clients")]
  | .createClient _ _ => [("POST", "/groups"), ("POST", "/clients")]
  | .deleteClient short => [("DELETE", "/clients/" ++ unique short)]
where
  unique (short : String) : String := Text.Percent.encode (SecretName.uniqueName ⟨short, group⟩)

theorem plan_questions (store : RemoteStore) (principal : Principal) (group : Group)
    (what : ApplicationRequest) :
    ((what.questions principal group).map fun question =>
        ((store.plan question).method, (store.plan question).url)) =
      (what.requestLines group).map fun line => (line.1, store.url line.2) := by
  cases what <;> rfl

theorem follows_named {group : Group} {short : String} {questions : List StoreOperation}
    {next : SecretName → StoreProgram (Except GatewayError Response)}
    (hshort : SecretName.isShortName short = true)
    (h : (next ⟨short, group⟩).Follows questions) : (named group short next).Follows questions := by
  rw [named, SecretName.ofShort, if_pos hshort]
  exact h

theorem follows_program {what : ApplicationRequest} (hvalid : what.Valid) (principal : Principal)
    (group : Group) :
    (what.program principal group).Follows (what.questions principal group) := by
  cases what with
  | access => exact follows_done rfl
  | listSecrets =>
      apply follows_listing
      · trivial
      · exact fun _ => rfl
      · simp [shortNames, Json.texts]
  | getSecret short =>
      apply follows_named hvalid
      exact follows_demand id fun _ => follows_done rfl
  | createSecret short form =>
      apply follows_named hvalid.1
      rw [if_neg (by simp [hvalid.2])]
      apply follows_demand id
      intro _
      apply follows_demand id
      intro _
      exact follows_demand id fun _ => follows_done rfl
  | deleteSecret short =>
      apply follows_named hvalid
      exact follows_demand id fun _ => follows_done rfl
  | listClients =>
      apply follows_listing
      · trivial
      · exact fun _ => rfl
      · rfl
  | createClient short form =>
      apply follows_named hvalid
      apply follows_demand id
      intro _
      exact follows_demand id fun _ => follows_done rfl
  | deleteClient short =>
      apply follows_named hvalid
      exact follows_demand id fun _ => follows_done rfl

end ApplicationRequest

namespace Gateway

variable {state : GatewayState δ} {principal : Principal} {request : Request}
  {names values : List String} {endpoint : ApplicationEndpoint}

theorem serveApplication_remote {program : StoreProgram (Except GatewayError Response)}
    (h : (authorizedProgram state principal request names values endpoint).1 = .ok program)
    {store : RemoteStore} (hstore : state.store = .remote store) :
    let ran := program.run store.answer
      (authorizedProgram state principal request names values endpoint).2.network
    let served := serveApplication state principal request names values endpoint
    served.1 = .ofResult ran.1 ∧ served.2.network = ran.2 := by
  have hkept := store_authorizedProgram state principal request names values endpoint
  unfold serveApplication
  generalize authorizedProgram state principal request names values endpoint = result at h hkept
  obtain ⟨outcome, after⟩ := result
  cases h
  dsimp only at hkept ⊢
  rw [hkept, hstore, SecretStore.run_remote]
  exact ⟨rfl, rfl⟩

end Gateway

namespace Visit

variable {visit : Visit δ} {what : ApplicationRequest}

/-- A visit to a store that is reached over the network. -/
def serveRemote (visit : Visit δ) (store : RemoteStore) : Response × GatewayState δ :=
  Gateway.serveApplication { visit.state with store := .remote store } visit.principal
    visit.request visit.names visit.values visit.endpoint

def networkAuthorized (visit : Visit δ) : Network :=
  (visit.state.dispatcher.ensureAuthorized visit.state.teams visit.state.network visit.group
    visit.principal).2.2.2

theorem network_authorizedProgram (hasked : visit.asked = .ok what) (store : SecretStore) :
    (Gateway.authorizedProgram { visit.state with store := store } visit.principal visit.request
      visit.names visit.values visit.endpoint).2.network = visit.networkAuthorized := by
  have hauthorized := visit.authorized
  unfold asked at hasked
  unfold Gateway.authorizedProgram networkAuthorized
  rw [visit.decoded]
  dsimp only
  rw [hasked]
  dsimp only
  rw [visit.parsed]
  dsimp only
  rw [hauthorized]

theorem serveRemote_of_ok (hasked : visit.asked = .ok what) (store : RemoteStore) :
    let ran := (what.program visit.principal visit.group).run store.answer visit.networkAuthorized
    (visit.serveRemote store).1 = .ofResult ran.1 ∧
      (visit.serveRemote store).2.network = ran.2 := by
  have hprogram := visit.authorizedProgram_eq (.remote store)
  rw [hasked] at hprogram
  have hserved := Gateway.serveApplication_remote hprogram rfl
  rwa [network_authorizedProgram hasked] at hserved

/-- Failures of the store reach the caller.  The requests of a visit go to the store in order until
one fails, over any line and over the network; the answer is a success exactly if none failed, and
else has the status of the failure. -/
theorem serveRemote_reports (hasked : visit.asked = .ok what) (hvalid : what.Valid)
    (store : RemoteStore) :
    let questions := what.questions visit.principal visit.group
    let served := visit.serveRemote store
    (questions.map fun question => ((store.plan question).method, (store.plan question).url)) =
        (what.requestLines visit.group).map (fun line => (line.1, store.url line.2)) ∧
      (what.program visit.principal visit.group).Follows questions ∧
        ∃ passed,
          store.Course Network.line visit.networkAuthorized questions passed served.2.network ∧
            served.1.Reports passed ∧
              served.2.network.sent = visit.networkAuthorized.sent ++
                passed.flatMap fun exchange =>
                  (store.plan exchange.1).prepare.toOption.toList := by
  intro questions served
  have hfollows : (what.program visit.principal visit.group).Follows questions :=
    ApplicationRequest.follows_program hvalid visit.principal visit.group
  obtain ⟨hresponse, hnetwork⟩ := serveRemote_of_ok hasked store
  obtain ⟨passed, hcourse, hreports⟩ := hfollows store Network.line visit.networkAuthorized
  refine ⟨?_, hfollows, passed, ?_, ?_, ?_⟩
  · exact ApplicationRequest.plan_questions store visit.principal visit.group what
  · rw [hnetwork]
    exact hcourse
  · rw [hresponse]
    exact hreports
  · rw [hnetwork]
    exact hcourse.sent

/-- A network where the store takes what is sent to it and tells nothing. -/
def muteNetwork : Network where
  deliver := fun _ request =>
    if request.method = "GET" then .reply 500 [] (some []) else .reply 201 [] (some [])

/-- An admin creates a secret in a store that tells nothing. -/
def muteCreation : Visit Unit :=
  let settings : Settings := {
    token := ⟨"key", "gateway", 60, "Authorization", "Bearer"⟩
    directory :=
      { url := "ldap://directory", baseDn := "dc=org", bindDn := "", bindPassword := "" }
    store := { url := "http://store" }
    proxy := { target := "http://target" } }
  { state := .initial settings 0 ()
      (.ofTable [⟨"ada", "Org", "Asm", ⟨"keywhiz-admin", none, true, true, false⟩⟩])
      (.memory {}) muteNetwork
    principal := ⟨"ada", none, .dev, []⟩
    request := ⟨"POST", ⟨"/apps/Org_Asm_dev/secrets/key", none⟩,
      [("content-type", "application/json")], "\x7b\"content\":\"aGVsbG8=\"\x7d"⟩
    endpoint := .createSecret
    names := ["app_name", "secret"]
    values := ["Org_Asm_dev", "key"]
    app := "Org_Asm_dev"
    short := "key"
    group := .ofName .dev "Org_Asm_dev"
    decoded := eq_ok_of_toOption (by decide +kernel)
    parsed := eq_ok_of_toOption (by decide +kernel)
    authorized := eq_ok_of_toOption (by decide +kernel) }

/-- The third request fails, and its status is what the caller is told. -/
theorem serveRemote_reports_of_mute :
    let what : ApplicationRequest := .createSecret "key" ⟨"aGVsbG8=", none⟩
    muteCreation.asked = .ok what ∧ what.Valid ∧
      (∃ passed, (muteCreation.serveRemote ⟨"http://store"⟩).1.Reports passed) ∧
        (muteCreation.serveRemote ⟨"http://store"⟩).1.status = 502 ∧
          (muteCreation.serveRemote ⟨"http://store"⟩).2.network.sent.map
              (fun request => (request.method, request.url.toText)) =
            [("POST", "http://store/automation/v2/groups"),
              ("POST", "http://store/automation/v2/secrets"),
              ("GET", "http://store/automation/v2/secrets/dev_Org_Asm_dev%40key")] := by
  intro what
  have hasked : muteCreation.asked = .ok what := eq_ok_of_toOption (by decide +kernel)
  have hvalid : what.Valid := ⟨by decide +kernel, by decide +kernel⟩
  obtain ⟨-, -, passed, -, hreports, -⟩ := serveRemote_reports hasked hvalid ⟨"http://store"⟩
  exact ⟨hasked, hvalid, ⟨passed, hreports⟩, by decide +kernel, by decide +kernel⟩

end Visit

end AccessGateway
