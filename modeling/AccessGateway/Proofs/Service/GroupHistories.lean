import AccessGateway.Proofs.Names.Spellings
import AccessGateway.Proofs.Service.Inventory

/-!
# Histories of requests about groups

Authorized requests come one after another to a store in memory that is empty at
first.  Nothing but the store is carried from one request to the next, and callers,
spellings and the rest of the state are any.  The inventory that the history makes
decides every answer, and an error leaves it as it is.
-/

namespace AccessGateway

variable {δ : Type}

/-- A request about a group whose caller is authorized for it. -/
structure Visit (δ : Type) where
  /-- The state the request comes in; its store is left out. -/
  state : GatewayState δ
  principal : Principal
  request : Request
  endpoint : ApplicationEndpoint
  /-- The parameters of the route. -/
  names : List String
  values : List String
  app : String
  short : String
  group : Group
  decoded : PathFault.decodeNames names values = .ok (app, short)
  parsed : Group.parse principal.domain app = .ok group
  authorized :
    (state.dispatcher.ensureAuthorized state.teams state.network group principal).1 = .ok ()

namespace Visit

/-- What is asked for, unless the form of the request is not valid. -/
def asked (visit : Visit δ) : Except ApiError ApplicationRequest :=
  visit.endpoint.read visit.short visit.request

/-- The answer to a visit, and the store afterwards. -/
def serve (visit : Visit δ) (store : SecretStore) : Response × SecretStore :=
  let served := Gateway.serveApplication { visit.state with store := store } visit.principal
    visit.request visit.names visit.values visit.endpoint
  (served.1, served.2.store)

/-- The store after several visits. -/
def serveAll (store : SecretStore) (visits : List (Visit δ)) : SecretStore :=
  visits.foldl (fun store visit => (visit.serve store).2) store

end Visit

namespace Inventory

/-- The inventory after a visit. -/
def afterVisit (inventory : Inventory) (visit : Visit δ) : Inventory :=
  match visit.asked with
  | .error _ => inventory
  | .ok what => inventory.after visit.principal visit.group what

/-- The inventory that visits make from nothing. -/
def ofVisits (visits : List (Visit δ)) : Inventory :=
  visits.foldl afterVisit empty

end Inventory

theorem eq_ok_of_toOption {ε α : Type} {result : Except ε α} {value : α}
    (h : result.toOption = some value) : result = .ok value := by
  cases result with
  | error e => cases h
  | ok found => exact congrArg Except.ok (Option.some.inj h)

/-- A form is refused as unreadable or for the rules it breaks. -/
theorem Form.status_of_error {α : Type} [Form α] {request : Request} {e : ApiError}
    (h : ofRequest α request = .error e) : e.status = 400 ∨ e.status = 422 := by
  unfold ofRequest at h
  split at h
  · cases h
    exact .inl rfl
  · split at h
    · cases h
    · cases h
      exact .inr rfl

namespace Visit

variable {visit : Visit δ}

theorem status_of_error {e : ApiError} (h : visit.asked = .error e) :
    e.status = 400 ∨ e.status = 422 := by
  have hform {α : Type} [Form α] {wrap : α → ApplicationRequest}
      (hread : (Form.ofRequest α visit.request).map wrap = .error e) :
      e.status = 400 ∨ e.status = 422 := by
    cases hsource : Form.ofRequest α visit.request with
    | error source =>
        rw [hsource] at hread
        cases hread
        exact Form.status_of_error hsource
    | ok form =>
        rw [hsource] at hread
        cases hread
  unfold asked at h
  cases hendpoint : visit.endpoint with
  | createSecret | createClient =>
      rw [hendpoint] at h
      exact hform h
  | _ =>
      rw [hendpoint] at h
      cases h

theorem authorizedProgram_eq (visit : Visit δ) (store : SecretStore) :
    (Gateway.authorizedProgram { visit.state with store := store } visit.principal visit.request
        visit.names visit.values visit.endpoint).1 =
      (visit.asked.mapError Response.ofError).map
        (ApplicationRequest.program visit.principal visit.group) := by
  have hauthorized := visit.authorized
  unfold Gateway.authorizedProgram asked
  rw [visit.decoded]
  dsimp only
  cases visit.endpoint.read visit.short visit.request with
  | error e => rfl
  | ok what =>
      rw [visit.parsed]
      dsimp only
      rw [hauthorized]
      rfl

theorem serve_of_error {e : ApiError} (h : visit.asked = .error e) (store : SecretStore) :
    visit.serve store = (.ofError e, store) := by
  have hrefused := visit.authorizedProgram_eq store
  rw [h] at hrefused
  obtain ⟨-, hresponse, hstore⟩ := Gateway.serveApplication_of_refused hrefused
  exact Prod.ext hresponse hstore

theorem serve_of_ok {what : ApplicationRequest} (h : visit.asked = .ok what)
    (content : MemoryStore) :
    let ran := (what.program visit.principal visit.group).run MemoryStore.answer content
    visit.serve (.memory content) = (.ofResult ran.1, .memory ran.2) := by
  have hprogram := visit.authorizedProgram_eq (.memory content)
  rw [h] at hprogram
  obtain ⟨-, hresponse, hstore⟩ := Gateway.serveApplication_of_authorized hprogram rfl
  exact Prod.ext hresponse hstore

/-- A visit to a store that holds an inventory leaves one that holds the inventory after it. -/
theorem holds_serve {content : MemoryStore} {inventory : Inventory}
    (h : content.Holds inventory) (visit : Visit δ) :
    ∃ after, (visit.serve (.memory content)).2 = .memory after ∧
      after.Holds (inventory.afterVisit visit) := by
  unfold Inventory.afterVisit
  cases hasked : visit.asked with
  | error e => exact ⟨content, by rw [serve_of_error hasked], h⟩
  | ok what =>
      have hserves := h.serves (Group.name_ne_empty_of_parse visit.parsed) visit.principal what
      exact ⟨_, by rw [serve_of_ok hasked], hserves.holds⟩

theorem holds_serveAll {content : MemoryStore} {inventory : Inventory}
    (h : content.Holds inventory) (visits : List (Visit δ)) :
    ∃ after, serveAll (.memory content) visits = .memory after ∧
      after.Holds (visits.foldl Inventory.afterVisit inventory) := by
  induction visits generalizing content inventory with
  | nil => exact ⟨content, rfl, h⟩
  | cons visit rest ih =>
      obtain ⟨after, hserved, hholds⟩ := holds_serve h visit
      obtain ⟨last, hlast, hrest⟩ := ih hholds
      refine ⟨last, ?_, hrest⟩
      rw [← hlast, ← hserved]
      rfl

/-- After every history the inventory that it made decides how the next visit is answered.  A form
that is not valid is refused first, an error changes neither map, and a group is the same under its
name after the token of its domain, in any letter case and for callers of every domain. -/
theorem serve_history (visits : List (Visit δ)) (visit : Visit δ) :
    let inventory := Inventory.ofVisits visits
    let served := visit.serve (serveAll (.memory {}) visits)
    (∀ what, visit.asked = .ok what →
        inventory.Answers visit.principal visit.group what served.1) ∧
      (∀ e, visit.asked = .error e →
        served.1 = .ofError e ∧ (e.status = 400 ∨ e.status = 422)) ∧
      (400 ≤ served.1.status → inventory.afterVisit visit = inventory) ∧
      (∃ content, served.2 = .memory content ∧ content.Holds (inventory.afterVisit visit)) ∧
      ∀ caller spelling, Text.Ascii.lower spelling = visit.group.domain.token →
        Group.parse caller (spelling ++ "_" ++ visit.group.name) = .ok visit.group := by
  intro inventory served
  obtain ⟨content, hstore, hholds⟩ := holds_serveAll MemoryStore.Holds.initial visits
  have hanswers : ∀ what, visit.asked = .ok what →
      inventory.Answers visit.principal visit.group what served.1 := by
    intro what hasked
    have hserves := hholds.serves (Group.name_ne_empty_of_parse visit.parsed) visit.principal what
    show inventory.Answers _ _ _ (visit.serve (serveAll (.memory {}) visits)).1
    rw [hstore, serve_of_ok hasked]
    exact hserves.answers
  refine ⟨hanswers, ?_, ?_, ?_, ?_⟩
  · intro e hasked
    exact ⟨congrArg Prod.fst (serve_of_error hasked _), status_of_error hasked⟩
  · intro hstatus
    unfold Inventory.afterVisit
    cases hasked : visit.asked with
    | error e => rfl
    | ok what => exact hholds.after_eq_of_error (hanswers what hasked) hstatus
  · obtain ⟨after, hserved, hafter⟩ := holds_serve hholds visit
    refine ⟨after, ?_, hafter⟩
    show (visit.serve (serveAll (.memory {}) visits)).2 = .memory after
    rw [hstore, hserved]
  · intro caller spelling hspelling
    exact Group.parse_spelled visit.parsed caller hspelling

/-- A secret is created in the caller's own domain and found under the domain's token by a caller
of another one. -/
theorem serve_history_of_spellings :
    let settings : Settings := {
      token := ⟨"key", "gateway", 60, "Authorization", "Bearer"⟩
      directory :=
        { url := "ldap://directory", baseDn := "dc=org", bindDn := "", bindPassword := "" }
      store := { url := "https://store" }
      proxy := { target := "http://target" } }
    let state : GatewayState Unit :=
      .initial settings 0 ()
        (.ofTable [⟨"ada", "Org", "Asm", ⟨"keywhiz-admin", none, true, true, false⟩⟩])
        (.memory {}) .unreachable
    ∃ first second : Visit Unit,
      (first.state = state ∧ first.principal.domain = .dev ∧ first.app = "Org_Asm_dev") ∧
        (second.state = state ∧ second.principal.domain = .prod ∧
          second.app = "Dev_Org_Asm_dev") ∧
        first.asked = .ok (.createSecret "key" ⟨"aGVsbG8=", none⟩) ∧
        second.asked = .ok (.getSecret "key") ∧
        (second.serve (serveAll (.memory {}) [first])).1.status = 200 := by
  intro settings state
  let group : Group := .ofName .dev "Org_Asm_dev"
  let first : Visit Unit := {
    state := state
    principal := ⟨"ada", none, .dev, []⟩
    request := ⟨"POST", ⟨"/apps/Org_Asm_dev/secrets/key", none⟩,
      [("content-type", "application/json")], "\x7b\"content\":\"aGVsbG8=\"\x7d"⟩
    endpoint := .createSecret
    names := ["app_name", "secret"]
    values := ["Org_Asm_dev", "key"]
    app := "Org_Asm_dev"
    short := "key"
    group := group
    decoded := eq_ok_of_toOption (by decide +kernel)
    parsed := eq_ok_of_toOption (by decide +kernel)
    authorized := eq_ok_of_toOption (by decide +kernel) }
  let second : Visit Unit := {
    state := state
    principal := ⟨"ada", none, .prod, []⟩
    request := ⟨"GET", ⟨"/apps/Dev_Org_Asm_dev/secrets/key", none⟩, [], ""⟩
    endpoint := .getSecret
    names := ["app_name", "secret"]
    values := ["Dev_Org_Asm_dev", "key"]
    app := "Dev_Org_Asm_dev"
    short := "key"
    group := group
    decoded := eq_ok_of_toOption (by decide +kernel)
    parsed := eq_ok_of_toOption (by decide +kernel)
    authorized := eq_ok_of_toOption (by decide +kernel) }
  have hfirst : first.asked = .ok (.createSecret "key" ⟨"aGVsbG8=", none⟩) :=
    eq_ok_of_toOption (by decide +kernel)
  have hsecond : second.asked = .ok (.getSecret "key") := rfl
  have hshort : SecretName.isShortName "key" = true := by decide +kernel
  have hcontent : ApplicationRequest.isContent "aGVsbG8=" = true := by decide +kernel
  have hpresent : (Inventory.ofVisits [first]).secrets ⟨"key", group⟩ ≠ none := by
    simp [Inventory.ofVisits, Inventory.afterVisit, hfirst, Inventory.after, hshort, hcontent,
      Inventory.empty, first]
  obtain ⟨hanswers, -⟩ := serve_history [first] second
  have hstatus := (hanswers _ hsecond).1.success_iff.mpr ⟨hshort, hpresent⟩
  exact ⟨first, second, ⟨rfl, rfl, rfl⟩, ⟨rfl, rfl, rfl⟩, hfirst, hsecond, hstatus⟩

/-- The form of a secret is checked before its name: where neither is valid, the answer tells of
the form. -/
theorem serve_invalid_form_of_invalid_name :
    let settings : Settings := {
      token := ⟨"key", "gateway", 60, "Authorization", "Bearer"⟩
      directory :=
        { url := "ldap://directory", baseDn := "dc=org", bindDn := "", bindPassword := "" }
      store := { url := "https://store" }
      proxy := { target := "http://target" } }
    let state : GatewayState Unit :=
      .initial settings 0 ()
        (.ofTable [⟨"ada", "Org", "Asm", ⟨"keywhiz-admin", none, true, true, false⟩⟩])
        (.memory {}) .unreachable
    ∃ visit : Visit Unit, visit.state = state ∧ visit.endpoint = .createSecret ∧
      visit.short = "x@y" ∧ SecretName.isShortName visit.short = false ∧
        visit.request.body = "\x7b\"content\":\"\"\x7d" ∧
          (visit.serve (serveAll (.memory {}) ([] : List (Visit Unit)))).1.status = 422 := by
  intro settings state
  let visit : Visit Unit := {
    state := state
    principal := ⟨"ada", none, .dev, []⟩
    request := ⟨"POST", ⟨"/apps/Org_Asm_dev/secrets/x@y", none⟩,
      [("content-type", "application/json")], "\x7b\"content\":\"\"\x7d"⟩
    endpoint := .createSecret
    names := ["app_name", "secret"]
    values := ["Org_Asm_dev", "x@y"]
    app := "Org_Asm_dev"
    short := "x@y"
    group := .ofName .dev "Org_Asm_dev"
    decoded := eq_ok_of_toOption (by decide +kernel)
    parsed := eq_ok_of_toOption (by decide +kernel)
    authorized := eq_ok_of_toOption (by decide +kernel) }
  exact ⟨visit, rfl, rfl, rfl, by decide +kernel, rfl, by decide +kernel⟩

end Visit

end AccessGateway
