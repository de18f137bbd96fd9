import Mathlib.Data.List.Basic
import AccessGateway.Proofs.Service.GroupConfinement
import AccessGateway.Proofs.Store.Stock

/-!
# The inventory behind the endpoints for groups

Secrets and clients are two maps from the pairs of a group and a short name.
What a request does to them is a function of the maps and of what was asked for,
without a store.  A store in memory that holds the maps gives the answers that the
maps give, and holds afterwards what the maps have become; a request that is
answered with an error leaves them as they were.
-/

namespace AccessGateway

/-- What is recorded of a secret. -/
structure SecretRecord where
  description : Option String
  creator : String

namespace SecretRecord

def detail (name : SecretName) (record : SecretRecord) : SecretDetail where
  name := name.uniqueName
  description := record.description
  createdBy := some record.creator

/-- What callers are told: the short name, the unique name and who created the secret. -/
def toAnswer (name : SecretName) (record : SecretRecord) : Json :=
  .object ([("name", .string name.short), ("uniqueName", .string name.uniqueName)] ++
    Json.memberOf? "description" record.description ++ [("createdBy", .string record.creator)])

theorem toAnswer_detail (name : SecretName) (record : SecretRecord) :
    (record.detail name).toAnswer name.short = record.toAnswer name := by
  simp [SecretDetail.toAnswer, detail, toAnswer, Json.memberOf?]

theorem shortName?_detail {name : SecretName} (h : name.Valid) (record : SecretRecord) :
    ApplicationRequest.shortName? (record.detail name) = some name.short := by
  rw [ApplicationRequest.shortName?, detail, h.ofUniqueName_eq]

end SecretRecord

/-- What is recorded of a client. -/
structure ClientRecord where
  description : Option String

namespace ClientRecord

def detail (name : SecretName) (record : ClientRecord) : ClientDetail where
  name := name.uniqueName
  description := record.description

def toAnswer (name : SecretName) (record : ClientRecord) : Json :=
  clientAnswer name.short name.uniqueName record.description

theorem listedClient_detail {name : SecretName} (h : name.Valid) (record : ClientRecord) :
    ApplicationRequest.listedClient (record.detail name) = record.toAnswer name := by
  have hcut : Text.rsplitOnce? '@' name.uniqueName = some (name.group.qualifiedName, name.short) :=
    Text.rsplitOnce?_eq_some (by simp [SecretName.uniqueName])
      (SecretName.at_not_mem_of_isShortName h.short)
  simp only [ApplicationRequest.listedClient, detail, ApplicationRequest.clientShortName, hcut,
    toAnswer]

end ClientRecord

/-- Two maps from the names in groups. -/
structure Inventory where
  secrets : SecretName → Option SecretRecord
  clients : SecretName → Option ClientRecord

/-- The store has what is in the inventory and nothing else. -/
structure MemoryStore.Holds (content : MemoryStore) (inventory : Inventory) : Prop where
  secrets : Stocked SecretRecord.detail content.groups content.secrets inventory.secrets
  clients : Stocked ClientRecord.detail content.groups content.clients inventory.clients

/-! ## What requests do -/

/-- The status of an answer tells whether a request was valid and whether what it needs holds. -/
structure Response.Decides (response : Response) (valid holds : Prop) (success failure : Nat) :
    Prop where
  success_iff : response.status = success ↔ valid ∧ holds
  failure_iff : response.status = failure ↔ valid ∧ ¬ holds
  refusal_iff : response.status = 400 ↔ ¬ valid

namespace Inventory

open ApplicationRequest MemoryStore.Stocked

def empty : Inventory := ⟨fun _ => none, fun _ => none⟩

/-- The inventory after a request. -/
def after (inventory : Inventory) (principal : Principal) (group : Group) :
    ApplicationRequest → Inventory
  | .createSecret short form =>
    if SecretName.isShortName short && isContent form.content &&
        (inventory.secrets ⟨short, group⟩).isNone then
      { inventory with
        secrets := Function.update inventory.secrets ⟨short, group⟩
          (some ⟨form.description, principal.username⟩) }
    else inventory
  | .deleteSecret short =>
    { inventory with secrets := Function.update inventory.secrets ⟨short, group⟩ none }
  | .createClient short form =>
    if SecretName.isShortName short && (inventory.clients ⟨short, group⟩).isNone then
      { inventory with
        clients := Function.update inventory.clients ⟨short, group⟩ (some ⟨form.description⟩) }
    else inventory
  | .deleteClient short =>
    { inventory with clients := Function.update inventory.clients ⟨short, group⟩ none }
  | .access | .listSecrets | .getSecret _ | .listClients => inventory

/-- The answer to a request about a group. -/
def Answers (inventory : Inventory) (principal : Principal) (group : Group) :
    ApplicationRequest → Response → Prop
  | .access, response => response.status = 200
  | .listSecrets, response =>
    ∃ listed, Lists inventory.secrets group listed ∧
      response = .ofJson 200 (.texts (listed.map Prod.fst))
  | .getSecret short, response =>
    response.Decides (SecretName.isShortName short = true)
        (inventory.secrets ⟨short, group⟩ ≠ none) 200 404 ∧
      ∀ record ∈ inventory.secrets ⟨short, group⟩,
        response = .ofJson 200 (record.toAnswer ⟨short, group⟩)
  | .createSecret short form, response =>
    response.Decides (SecretName.isShortName short = true ∧ isContent form.content = true)
        (inventory.secrets ⟨short, group⟩ = none) 201 409 ∧
      (response.status = 201 → response = .ofJson 201
        (SecretRecord.toAnswer ⟨short, group⟩ ⟨form.description, principal.username⟩))
  | .deleteSecret short, response =>
    response.Decides (SecretName.isShortName short = true)
      (inventory.secrets ⟨short, group⟩ ≠ none) 204 404
  | .listClients, response =>
    ∃ listed, Lists inventory.clients group listed ∧
      response = .ofJson 200
        (.array (listed.map fun item => item.2.toAnswer ⟨item.1, group⟩))
  | .createClient short form, response =>
    response.Decides (SecretName.isShortName short = true)
        (inventory.clients ⟨short, group⟩ = none) 201 409 ∧
      (response.status = 201 →
        response = .ofJson 201 (ClientRecord.toAnswer ⟨short, group⟩ ⟨form.description⟩))
  | .deleteClient short, response =>
    response.Decides (SecretName.isShortName short = true)
      (inventory.clients ⟨short, group⟩ ≠ none) 204 404

section Absent

variable {inventory : Inventory} {principal : Principal} {group : Group} {short : String}

theorem after_deleteSecret_of_absent (h : inventory.secrets ⟨short, group⟩ = none) :
    inventory.after principal group (.deleteSecret short) = inventory := by
  rw [after, ← h, Function.update_eq_self]

theorem after_deleteClient_of_absent (h : inventory.clients ⟨short, group⟩ = none) :
    inventory.after principal group (.deleteClient short) = inventory := by
  rw [after, ← h, Function.update_eq_self]

end Absent

end Inventory

namespace Response.Decides

variable {response : Response} {valid holds : Prop} {success failure : Nat}

theorem of_success (hstatus : response.status = success) (hvalid : valid) (hholds : holds)
    (hfailure : success ≠ failure) (hrefusal : success ≠ 400) :
    response.Decides valid holds success failure where
  success_iff := by simp [hstatus, hvalid, hholds]
  failure_iff := by simp [hstatus, hfailure, hholds]
  refusal_iff := by simp [hstatus, hrefusal, hvalid]

theorem of_failure (hstatus : response.status = failure) (hvalid : valid) (hholds : ¬ holds)
    (hsuccess : failure ≠ success) (hrefusal : failure ≠ 400) :
    response.Decides valid holds success failure where
  success_iff := by simp [hstatus, hsuccess, hholds]
  failure_iff := by simp [hstatus, hvalid, hholds]
  refusal_iff := by simp [hstatus, hrefusal, hvalid]

theorem of_refusal (hstatus : response.status = 400) (hvalid : ¬ valid)
    (hsuccess : 400 ≠ success) (hfailure : 400 ≠ failure) :
    response.Decides valid holds success failure where
  success_iff := by simp [hstatus, hsuccess, hvalid]
  failure_iff := by simp [hstatus, hfailure, hvalid]
  refusal_iff := by simp [hstatus, hvalid]

end Response.Decides

namespace ApplicationRequest

open MemoryStore.Stocked

variable {σ : Type} {answers : StoreAnswers σ} {state : σ} {group : Group} {short : String}
  {next : SecretName → StoreProgram (Except GatewayError Response)}

theorem run_named {outcome : Except GatewayError Response × σ}
    (hshort : SecretName.isShortName short = true)
    (h : (next ⟨short, group⟩).run answers state = outcome) :
    (named group short next).run answers state = outcome := by
  rw [named, SecretName.ofShort, if_pos hshort]
  exact h

theorem run_named_of_invalid (hshort : ¬ SecretName.isShortName short = true) :
    (named group short next).run answers state =
      (.error (.ofName (.badShortName short)), state) := by
  rw [named, SecretName.ofShort, if_neg hshort]
  rfl

/-- The short names in a listing are in order already. -/
theorem shortNames_details {groups : NameMap String}
    {map : NameMap (SecretDetail × List String)} {stock : SecretName → Option SecretRecord}
    (h : MemoryStore.Stocked SecretRecord.detail groups map stock)
    {listed : List (String × SecretRecord)} (hlisted : Lists stock group listed) :
    shortNames (listed.map fun item => item.2.detail ⟨item.1, group⟩) =
      listed.map Prod.fst := by
  have hnames : (listed.map fun item => item.2.detail ⟨item.1, group⟩).filterMap shortName? =
      listed.map Prod.fst := by
    rw [List.filterMap_map, List.filterMap_eq_map_iff_forall_eq_some]
    intro item hitem
    have hstock := (hlisted.mem_iff item.1 item.2).mp hitem
    exact SecretRecord.shortName?_detail (h.known hstock).1 item.2
  rw [shortNames, hnames]
  apply List.mergeSort_of_pairwise
  rw [List.pairwise_map]
  exact hlisted.ascending.imp fun hlt => decide_eq_true (Std.le_of_lt hlt)

theorem map_listedClient_details {groups : NameMap String}
    {map : NameMap (ClientDetail × List String)} {stock : SecretName → Option ClientRecord}
    (h : MemoryStore.Stocked ClientRecord.detail groups map stock)
    {listed : List (String × ClientRecord)} (hlisted : Lists stock group listed) :
    (listed.map fun item => item.2.detail ⟨item.1, group⟩).map listedClient =
      listed.map fun item => item.2.toAnswer ⟨item.1, group⟩ := by
  rw [List.map_map]
  apply List.map_congr_left
  intro item hitem
  have hstock := (hlisted.mem_iff item.1 item.2).mp hitem
  exact ClientRecord.listedClient_detail (h.known hstock).1 item.2

end ApplicationRequest

/-! ## Questions to a store that holds an inventory -/

namespace MemoryStore.Holds

open ApplicationRequest Stocked

variable {content : MemoryStore} {inventory : Inventory} {name : SecretName}

theorem initial : MemoryStore.Holds {} Inventory.empty :=
  ⟨stocked_nil, stocked_nil⟩

theorem answer_ensureGroup (h : content.Holds inventory) (group description : String) :
    ∃ after, content.answer (.ensureGroup group description) = (.ok (), after) ∧
      after.Holds inventory ∧ after.groups.contains group = true := by
  by_cases hthere : content.groups.contains group = true
  · refine ⟨content, ?_, h, hthere⟩
    simp only [answer, if_pos hthere]
  · let after : MemoryStore :=
      { content with groups := content.groups.insert group description }
    have hself : after.groups.contains group = true := by
      show ((content.groups.insert group description).find? group).isSome = true
      rw [NameMap.find?_insert_self]
      rfl
    have hkept : ∀ other, content.groups.contains other = true →
        after.groups.contains other = true := by
      intro other hother
      by_cases heq : other = group
      · exact heq ▸ hself
      · show ((content.groups.insert group description).find? other).isSome = true
        rw [NameMap.find?_insert_of_ne _ heq]
        exact hother
    refine ⟨after, ?_, ⟨h.secrets.ofGroups hkept, h.clients.ofGroups hkept⟩, hself⟩
    simp only [answer, if_neg hthere]
    rfl

theorem answer_getSecret (h : content.Holds inventory) (hname : name.Valid)
    {record : SecretRecord} (hrecord : inventory.secrets name = some record) :
    content.answer (.getSecret name.uniqueName) = (.ok (record.detail name), content) := by
  simp only [answer, h.secrets.find?_eq hname, hrecord, Option.map_some]

theorem answer_getSecret_of_absent (h : content.Holds inventory) (hname : name.Valid)
    (habsent : inventory.secrets name = none) :
    content.answer (.getSecret name.uniqueName) = (.error (.notFound name.uniqueName), content) := by
  simp only [answer, h.secrets.find?_eq hname, habsent, Option.map_none]

theorem answer_createSecret (h : content.Holds inventory) (hname : name.Valid)
    (hgroup : content.groups.contains name.group.qualifiedName = true)
    (habsent : inventory.secrets name = none) (principal : Principal) (form : SecretForm) :
    ∃ after,
      content.answer (.createSecret (newSecret principal name form)) = (.ok (), after) ∧
        after.Holds { inventory with
          secrets := Function.update inventory.secrets name
            (some ⟨form.description, principal.username⟩) } := by
  let record : SecretRecord := ⟨form.description, principal.username⟩
  let after : MemoryStore :=
    { content with
      secrets := content.secrets.insert name.uniqueName
        (record.detail name, [name.group.qualifiedName]) }
  refine ⟨after, ?_, ⟨h.secrets.insert hname hgroup record, h.clients⟩⟩
  simp only [answer, newSecret, h.secrets.contains_of_eq_none hname habsent]
  rfl

theorem answer_createSecret_of_present (h : content.Holds inventory) (hname : name.Valid)
    (hpresent : inventory.secrets name ≠ none) (principal : Principal) (form : SecretForm) :
    content.answer (.createSecret (newSecret principal name form)) =
      (.error (.conflict name.uniqueName), content) :=
  if_pos (h.secrets.contains_of_ne_none hname hpresent)

theorem answer_deleteSecret (h : content.Holds inventory) (hname : name.Valid)
    (hpresent : inventory.secrets name ≠ none) :
    ∃ after, content.answer (.deleteSecret name.uniqueName) = (.ok (), after) ∧
      after.Holds { inventory with secrets := Function.update inventory.secrets name none } :=
  ⟨_, if_pos (h.secrets.contains_of_ne_none hname hpresent), h.secrets.erase hname, h.clients⟩

theorem answer_deleteSecret_of_absent (h : content.Holds inventory) (hname : name.Valid)
    (habsent : inventory.secrets name = none) :
    content.answer (.deleteSecret name.uniqueName) =
      (.error (.notFound name.uniqueName), content) := by
  simp only [answer, h.secrets.contains_of_eq_none hname habsent]
  rfl

theorem answer_createClient (h : content.Holds inventory) (hname : name.Valid)
    (hgroup : content.groups.contains name.group.qualifiedName = true)
    (habsent : inventory.clients name = none) (form : ClientForm) :
    ∃ after,
      content.answer (.createClient (newClient name form)) = (.ok (), after) ∧
        after.Holds { inventory with
          clients := Function.update inventory.clients name (some ⟨form.description⟩) } := by
  let record : ClientRecord := ⟨form.description⟩
  let after : MemoryStore :=
    { content with
      clients := content.clients.insert name.uniqueName
        (record.detail name, [name.group.qualifiedName]) }
  refine ⟨after, ?_, ⟨h.secrets, h.clients.insert hname hgroup record⟩⟩
  simp only [answer, newClient, h.clients.contains_of_eq_none hname habsent]
  rfl

theorem answer_createClient_of_present (h : content.Holds inventory) (hname : name.Valid)
    (hpresent : inventory.clients name ≠ none) (form : ClientForm) :
    content.answer (.createClient (newClient name form)) =
      (.error (.conflict name.uniqueName), content) :=
  if_pos (h.clients.contains_of_ne_none hname hpresent)

theorem answer_deleteClient (h : content.Holds inventory) (hname : name.Valid)
    (hpresent : inventory.clients name ≠ none) :
    ∃ after, content.answer (.deleteClient name.uniqueName) = (.ok (), after) ∧
      after.Holds { inventory with clients := Function.update inventory.clients name none } :=
  ⟨_, if_pos (h.clients.contains_of_ne_none hname hpresent), h.secrets, h.clients.erase hname⟩

theorem answer_deleteClient_of_absent (h : content.Holds inventory) (hname : name.Valid)
    (habsent : inventory.clients name = none) :
    content.answer (.deleteClient name.uniqueName) =
      (.error (.notFound name.uniqueName), content) := by
  simp only [answer, h.clients.contains_of_eq_none hname habsent]
  rfl

section Listing

variable {α : Type} (group : Group)

/-- A listing tells what the inventory has of the group, also when the group is not known. -/
theorem run_listSecrets (h : content.Holds inventory)
    (next : List SecretDetail → StoreProgram (Except GatewayError α)) :
    ∃ listed, Lists inventory.secrets group listed ∧
      (StoreProgram.demandOr (.listSecrets group.qualifiedName) [] next).run answer content =
        (next (listed.map fun item => item.2.detail ⟨item.1, group⟩)).run answer content := by
  by_cases hknown : content.groups.contains group.qualifiedName = true
  · obtain ⟨listed, hlisted, hmembers⟩ := h.secrets.exists_lists group
    refine ⟨listed, hlisted, StoreProgram.run_demandOr_ok ?_⟩
    simp only [answer, if_pos hknown, hmembers]
  · have hanswer : content.answer (.listSecrets group.qualifiedName) =
        (.error (.notFound group.qualifiedName), content) := by
      simp only [answer, if_neg hknown]
    exact ⟨[], h.secrets.lists_nil (Bool.not_eq_true _ ▸ hknown),
      StoreProgram.run_demandOr_notFound hanswer⟩

theorem run_listClients (h : content.Holds inventory)
    (next : List ClientDetail → StoreProgram (Except GatewayError α)) :
    ∃ listed, Lists inventory.clients group listed ∧
      (StoreProgram.demandOr (.listClients group.qualifiedName) [] next).run answer content =
        (next (listed.map fun item => item.2.detail ⟨item.1, group⟩)).run answer content := by
  by_cases hknown : content.groups.contains group.qualifiedName = true
  · obtain ⟨listed, hlisted, hmembers⟩ := h.clients.exists_lists group
    refine ⟨listed, hlisted, StoreProgram.run_demandOr_ok ?_⟩
    simp only [answer, if_pos hknown, hmembers]
  · have hanswer : content.answer (.listClients group.qualifiedName) =
        (.error (.notFound group.qualifiedName), content) := by
      simp only [answer, if_neg hknown]
    exact ⟨[], h.clients.lists_nil (Bool.not_eq_true _ ▸ hknown),
      StoreProgram.run_demandOr_notFound hanswer⟩

end Listing

/-! ## Requests -/

section Requests

/-- A request is answered from the inventory, and the store holds what the inventory is
afterwards. -/
structure Serves (content : MemoryStore) (inventory : Inventory) (principal : Principal)
    (group : Group) (what : ApplicationRequest) : Prop where
  answers : inventory.Answers principal group what
    (.ofResult ((what.program principal group).run answer content).1)
  holds : ((what.program principal group).run answer content).2.Holds
    (inventory.after principal group what)

variable {principal : Principal} {group : Group}

theorem Serves.of_run {what : ApplicationRequest} {result : Except GatewayError Response}
    {after : MemoryStore}
    (hrun : (what.program principal group).run answer content = (result, after))
    (hanswers : inventory.Answers principal group what (.ofResult result))
    (hafter : after.Holds (inventory.after principal group what)) :
    Serves content inventory principal group what where
  answers := by rwa [hrun]
  holds := by rwa [hrun]

theorem serves_listSecrets (h : content.Holds inventory) :
    Serves content inventory principal group .listSecrets := by
  obtain ⟨listed, hlisted, hrun⟩ := h.run_listSecrets group fun details =>
    .done (.ok (Response.ofJson 200 (.texts (shortNames details))))
  refine .of_run hrun ⟨listed, hlisted, ?_⟩ h
  rw [shortNames_details h.secrets hlisted]
  rfl

theorem serves_getSecret (h : content.Holds inventory) (hgroup : group.name ≠ "")
    (short : String) : Serves content inventory principal group (.getSecret short) := by
  by_cases hshort : SecretName.isShortName short = true
  · have hname : SecretName.Valid ⟨short, group⟩ := ⟨hshort, hgroup⟩
    cases hrecord : inventory.secrets ⟨short, group⟩ with
    | none =>
        refine .of_run (run_named hshort (StoreProgram.run_demand_error
          (h.answer_getSecret_of_absent hname hrecord))) ⟨?_, by simp [hrecord]⟩ h
        exact .of_failure rfl hshort (by simp [hrecord]) (by decide) (by decide)
    | some record =>
        refine .of_run (run_named hshort (StoreProgram.run_demand_ok
          (h.answer_getSecret hname hrecord))) ⟨?_, ?_⟩ h
        · exact .of_success rfl hshort (by simp [hrecord]) (by decide) (by decide)
        · intro found hfound
          cases hrecord.symm.trans hfound
          exact congrArg (Response.ofJson 200) (record.toAnswer_detail _)
  · refine .of_run (run_named_of_invalid hshort) ⟨?_, ?_⟩ h
    · exact .of_refusal rfl hshort (by decide) (by decide)
    · intro record hrecord
      exact absurd (h.secrets.known hrecord).1.short hshort

theorem serves_createSecret_of_valid (h : content.Holds inventory) {short : String}
    (hname : SecretName.Valid ⟨short, group⟩) {form : SecretForm}
    (hcontent : isContent form.content = true) :
    Serves content inventory principal group (.createSecret short form) := by
  have hshort := hname.short
  obtain ⟨ensured, hensure, hheld, hknown⟩ :=
    h.answer_ensureGroup group.qualifiedName (groupDescription group)
  cases hrecord : inventory.secrets ⟨short, group⟩ with
  | none =>
      obtain ⟨created, hcreate, hafter⟩ :=
        hheld.answer_createSecret hname hknown hrecord principal form
      have hdetail := hafter.answer_getSecret hname (Function.update_self ..)
      have hrun : ((createSecret short form).program principal group).run answer content =
          (.ok (.ofJson 201 (SecretDetail.toAnswer short
            (SecretRecord.detail ⟨short, group⟩
              ⟨form.description, principal.username⟩))), created) := by
        apply run_named hshort
        rw [if_neg (by simp [hcontent]), StoreProgram.run_demand_ok hensure,
          StoreProgram.run_demand_ok hcreate, StoreProgram.run_demand_ok hdetail]
        rfl
      refine .of_run hrun ⟨?_, ?_⟩ ?_
      · exact .of_success rfl ⟨hshort, hcontent⟩ hrecord (by decide) (by decide)
      · intro _
        exact congrArg (Response.ofJson 201) (SecretRecord.toAnswer_detail ⟨short, group⟩ _)
      · simpa [Inventory.after, hshort, hcontent, hrecord] using hafter
  | some record =>
      -- the group may have become known, which the inventory does not record
      have hpresent : inventory.secrets ⟨short, group⟩ ≠ none := by simp [hrecord]
      have hrun : ((createSecret short form).program principal group).run answer content =
          (.error (.conflict (SecretName.uniqueName ⟨short, group⟩)), ensured) := by
        apply run_named hshort
        rw [if_neg (by simp [hcontent]), StoreProgram.run_demand_ok hensure]
        exact StoreProgram.run_demand_error
          (hheld.answer_createSecret_of_present hname hpresent principal form)
      refine .of_run hrun ⟨?_, nofun⟩ ?_
      · exact .of_failure rfl ⟨hshort, hcontent⟩ hpresent (by decide) (by decide)
      · simpa [Inventory.after, hrecord] using hheld

theorem serves_createSecret (h : content.Holds inventory) (hgroup : group.name ≠ "")
    (short : String) (form : SecretForm) :
    Serves content inventory principal group (.createSecret short form) := by
  by_cases hshort : SecretName.isShortName short = true
  · by_cases hcontent : isContent form.content = true
    · exact h.serves_createSecret_of_valid ⟨hshort, hgroup⟩ hcontent
    · have hrun : ((createSecret short form).program principal group).run answer content =
          (.error (.invalidFormat "Secret content must be base64 encoded"), content) := by
        apply run_named hshort
        rw [if_pos (by simp [hcontent])]
        rfl
      refine .of_run hrun ⟨?_, nofun⟩ ?_
      · exact .of_refusal rfl (fun hvalid => hcontent hvalid.2) (by decide) (by decide)
      · simpa [Inventory.after, hcontent] using h
  · refine .of_run (run_named_of_invalid hshort) ⟨?_, nofun⟩ ?_
    · exact .of_refusal rfl (fun hvalid => hshort hvalid.1) (by decide) (by decide)
    · simpa [Inventory.after, hshort] using h

theorem serves_deleteSecret (h : content.Holds inventory) (hgroup : group.name ≠ "")
    (short : String) : Serves content inventory principal group (.deleteSecret short) := by
  by_cases hshort : SecretName.isShortName short = true
  · have hname : SecretName.Valid ⟨short, group⟩ := ⟨hshort, hgroup⟩
    by_cases habsent : inventory.secrets ⟨short, group⟩ = none
    · refine .of_run (run_named hshort (StoreProgram.run_demand_error
        (h.answer_deleteSecret_of_absent hname habsent))) ?_ ?_
      · exact .of_failure rfl hshort (not_not.mpr habsent) (by decide) (by decide)
      · rwa [Inventory.after_deleteSecret_of_absent habsent]
    · obtain ⟨after, hdelete, hafter⟩ := h.answer_deleteSecret hname habsent
      refine .of_run (run_named hshort (StoreProgram.run_demand_ok hdelete)) ?_ hafter
      exact .of_success rfl hshort habsent (by decide) (by decide)
  · have habsent : inventory.secrets ⟨short, group⟩ = none :=
      not_not.mp fun hpresent => hshort (h.secrets.valid_of_ne_none hpresent).short
    refine .of_run (run_named_of_invalid hshort) ?_ ?_
    · exact .of_refusal rfl hshort (by decide) (by decide)
    · rwa [Inventory.after_deleteSecret_of_absent habsent]

theorem serves_listClients (h : content.Holds inventory) :
    Serves content inventory principal group .listClients := by
  obtain ⟨listed, hlisted, hrun⟩ := h.run_listClients group fun details =>
    .done (.ok (Response.ofJson 200 (.array (details.map listedClient))))
  refine .of_run hrun ⟨listed, hlisted, ?_⟩ h
  rw [map_listedClient_details h.clients hlisted]
  rfl

theorem serves_createClient (h : content.Holds inventory) (hgroup : group.name ≠ "")
    (short : String) (form : ClientForm) :
    Serves content inventory principal group (.createClient short form) := by
  by_cases hshort : SecretName.isShortName short = true
  · have hname : SecretName.Valid ⟨short, group⟩ := ⟨hshort, hgroup⟩
    obtain ⟨ensured, hensure, hheld, hknown⟩ :=
      h.answer_ensureGroup group.qualifiedName (groupDescription group)
    by_cases habsent : inventory.clients ⟨short, group⟩ = none
    · obtain ⟨created, hcreate, hafter⟩ := hheld.answer_createClient hname hknown habsent form
      have hrun : ((createClient short form).program principal group).run answer content =
          (.ok (.ofJson 201 (ClientRecord.toAnswer ⟨short, group⟩ ⟨form.description⟩)),
            created) := by
        apply run_named hshort
        rw [StoreProgram.run_demand_ok hensure, StoreProgram.run_demand_ok hcreate]
        rfl
      refine .of_run hrun ⟨?_, fun _ => rfl⟩ ?_
      · exact .of_success rfl hshort habsent (by decide) (by decide)
      · simpa [Inventory.after, hshort, habsent] using hafter
    · have hrun : ((createClient short form).program principal group).run answer content =
          (.error (.conflict (SecretName.uniqueName ⟨short, group⟩)), ensured) := by
        apply run_named hshort
        rw [StoreProgram.run_demand_ok hensure]
        exact StoreProgram.run_demand_error
          (hheld.answer_createClient_of_present hname habsent form)
      refine .of_run hrun ⟨?_, nofun⟩ ?_
      · exact .of_failure rfl hshort habsent (by decide) (by decide)
      · simpa [Inventory.after, habsent] using hheld
  · refine .of_run (run_named_of_invalid hshort) ⟨?_, nofun⟩ ?_
    · exact .of_refusal rfl hshort (by decide) (by decide)
    · simpa [Inventory.after, hshort] using h

theorem serves_deleteClient (h : content.Holds inventory) (hgroup : group.name ≠ "")
    (short : String) : Serves content inventory principal group (.deleteClient short) := by
  by_cases hshort : SecretName.isShortName short = true
  · have hname : SecretName.Valid ⟨short, group⟩ := ⟨hshort, hgroup⟩
    by_cases habsent : inventory.clients ⟨short, group⟩ = none
    · refine .of_run (run_named hshort (StoreProgram.run_demand_error
        (h.answer_deleteClient_of_absent hname habsent))) ?_ ?_
      · exact .of_failure rfl hshort (not_not.mpr habsent) (by decide) (by decide)
      · rwa [Inventory.after_deleteClient_of_absent habsent]
    · obtain ⟨after, hdelete, hafter⟩ := h.answer_deleteClient hname habsent
      refine .of_run (run_named hshort (StoreProgram.run_demand_ok hdelete)) ?_ hafter
      exact .of_success rfl hshort habsent (by decide) (by decide)
  · have habsent : inventory.clients ⟨short, group⟩ = none :=
      not_not.mp fun hpresent => hshort (h.clients.valid_of_ne_none hpresent).short
    refine .of_run (run_named_of_invalid hshort) ?_ ?_
    · exact .of_refusal rfl hshort (by decide) (by decide)
    · rwa [Inventory.after_deleteClient_of_absent habsent]

/-- Every request about a group with a name is answered from the inventory. -/
theorem serves (h : content.Holds inventory) (hgroup : group.name ≠ "") (principal : Principal)
    (what : ApplicationRequest) : Serves content inventory principal group what := by
  cases what with
  | access => exact ⟨rfl, h⟩
  | listSecrets => exact h.serves_listSecrets
  | getSecret short => exact h.serves_getSecret hgroup short
  | createSecret short form => exact h.serves_createSecret hgroup short form
  | deleteSecret short => exact h.serves_deleteSecret hgroup short
  | listClients => exact h.serves_listClients
  | createClient short form => exact h.serves_createClient hgroup short form
  | deleteClient short => exact h.serves_deleteClient hgroup short

/-- A request that is answered with an error changes nothing. -/
theorem after_eq_of_error (h : content.Holds inventory) {what : ApplicationRequest}
    {response : Response} (hanswers : inventory.Answers principal group what response)
    (hstatus : 400 ≤ response.status) : inventory.after principal group what = inventory := by
  cases what with
  | access | listSecrets | getSecret | listClients => rfl
  | createSecret short form =>
      have hnot := mt hanswers.1.success_iff.mpr (by omega)
      apply if_neg
      simpa using hnot
  | deleteSecret short =>
      have hnot := mt hanswers.success_iff.mpr (by omega)
      apply Inventory.after_deleteSecret_of_absent
      by_contra hpresent
      exact hnot ⟨(h.secrets.valid_of_ne_none hpresent).short, hpresent⟩
  | createClient short form =>
      have hnot := mt hanswers.1.success_iff.mpr (by omega)
      apply if_neg
      simpa using hnot
  | deleteClient short =>
      have hnot := mt hanswers.success_iff.mpr (by omega)
      apply Inventory.after_deleteClient_of_absent
      by_contra hpresent
      exact hnot ⟨(h.clients.valid_of_ne_none hpresent).short, hpresent⟩

end Requests

end MemoryStore.Holds

end AccessGateway
