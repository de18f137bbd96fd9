import AccessGateway.Store.Memory
import AccessGateway.Proofs.Names.UniqueName
import AccessGateway.Proofs.Store.Exchanges
import AccessGateway.Proofs.Store.NameOrder

/-!
# Groups in one store

Questions about one group carry its qualified name and unique names in it.  In
a store that was filled by such questions every entry stands under a unique
name and belongs to the group of that name, so questions about one group change
nothing of another, are told of nothing else, and are answered as if there were
nothing else.
-/

namespace AccessGateway

namespace StoreOperation

/-- The names that a question carries to the store. -/
def names : StoreOperation → List String
  | .ensureGroup group _ | .listSecrets group | .listClients group => [group]
  | .getSecret name | .deleteSecret name | .deleteClient name => [name]
  | .createSecret secret => secret.name :: secret.groups
  | .createClient client => client.name :: client.groups

/-- The question is about a group, or about a short name in it. -/
def About (group : Group) (short : String) : StoreOperation → Prop
  | .ensureGroup name _ | .listSecrets name | .listClients name =>
    name = group.qualifiedName
  | .getSecret name | .deleteSecret name | .deleteClient name =>
    SecretName.isShortName short = true ∧ name = SecretName.uniqueName ⟨short, group⟩
  | .createSecret secret =>
    SecretName.isShortName short = true ∧
      secret.name = SecretName.uniqueName ⟨short, group⟩ ∧
        secret.groups = [group.qualifiedName]
  | .createClient client =>
    SecretName.isShortName short = true ∧
      client.name = SecretName.uniqueName ⟨short, group⟩ ∧
        client.groups = [group.qualifiedName]

theorem About.names_eq {group : Group} {short : String} {operation : StoreOperation}
    (h : operation.About group short) {name : String} (hname : name ∈ operation.names) :
    name = group.qualifiedName ∨
      ∃ secret, SecretName.ofShort short group = .ok secret ∧ name = secret.uniqueName := by
  have hunique (hshort : SecretName.isShortName short = true) :
      ∃ secret, SecretName.ofShort short group = .ok secret ∧
        SecretName.uniqueName ⟨short, group⟩ = secret.uniqueName :=
    ⟨_, SecretName.ofShort_eq_ok_iff.mpr ⟨hshort, rfl⟩, rfl⟩
  cases operation with
  | ensureGroup | listSecrets | listClients =>
      exact .inl ((List.mem_singleton.mp hname).trans h)
  | getSecret | deleteSecret | deleteClient =>
      right
      obtain ⟨hshort, rfl⟩ := h
      simp only [names, List.mem_singleton] at hname
      rw [hname]
      exact hunique hshort
  | createSecret created | createClient created =>
      obtain ⟨hshort, hcreated, hgroups⟩ := h
      simp only [names, hcreated, hgroups, List.mem_cons, List.not_mem_nil, or_false] at hname
      rcases hname with rfl | rfl
      · exact .inr (hunique hshort)
      · exact .inl rfl

end StoreOperation

/-- The names of the secrets and clients that an exchange tells of. -/
def StoreExchange.told : StoreExchange → List String
  | ⟨.listSecrets _, .ok details⟩ => List.map SecretDetail.name details
  | ⟨.listClients _, .ok details⟩ => List.map ClientDetail.name details
  | ⟨.getSecret _, .ok detail⟩ => [SecretDetail.name detail]
  | _ => []

/-- The unique name is one of a secret in the group. -/
def Group.owns (group : Group) (unique : String) : Bool :=
  match SecretName.ofUniqueName unique with
  | .ok name => name.group = group
  | .error _ => false

theorem Group.owns_iff {group : Group} {unique : String} :
    group.owns unique = true ↔
      ∃ name, SecretName.ofUniqueName unique = .ok name ∧ name.group = group := by
  unfold owns
  split
  next name h => simp [h]
  next e h => simp [h]

theorem Group.owns_uniqueName {group : Group} {short : String}
    (hshort : SecretName.isShortName short = true) (hname : group.name ≠ "") :
    group.owns (SecretName.uniqueName ⟨short, group⟩) = true :=
  owns_iff.mpr ⟨_, SecretName.ofUniqueName_of_isShortName hshort hname, rfl⟩

namespace MemoryStore

variable {β : Type} {nameOf : β → String} {group : Group} {short : String}

/-- Every entry stands under its own unique name and belongs to the one group of
that name. -/
structure Filed (nameOf : β → String) (map : NameMap (β × List String)) : Prop where
  ascending : map.Ascending
  filed :
    ∀ entry ∈ map, ∃ name, SecretName.ofUniqueName entry.1 = .ok name ∧
      nameOf entry.2.1 = entry.1 ∧ entry.2.2 = [name.group.qualifiedName]

theorem filed_nil : Filed nameOf [] :=
  ⟨List.Pairwise.nil, by simp⟩

theorem Filed.filter {map : NameMap (β × List String)} (h : Filed nameOf map)
    (keep : String × (β × List String) → Bool) : Filed nameOf (map.filter keep) where
  ascending := NameMap.ascending_filter h.ascending keep
  filed entry hentry := h.filed entry (List.mem_filter.mp hentry).1

theorem Filed.insert {map : NameMap (β × List String)} (h : Filed nameOf map)
    (hshort : SecretName.isShortName short = true) (hname : group.name ≠ "") {value : β}
    (hvalue : nameOf value = SecretName.uniqueName ⟨short, group⟩) :
    Filed nameOf
      (map.insert (SecretName.uniqueName ⟨short, group⟩) (value, [group.qualifiedName])) where
  ascending := NameMap.ascending_insert h.ascending _ _
  filed := by
    intro entry hentry
    rcases NameMap.mem_insert hentry with rfl | hbefore
    · exact ⟨_, SecretName.ofUniqueName_of_isShortName hshort hname, hvalue, rfl⟩
    · exact h.filed entry hbefore

/-- What is listed under a group is owned by it. -/
theorem Filed.owns_of_contains {map : NameMap (β × List String)} (h : Filed nameOf map)
    {entry : String × (β × List String)} (hentry : entry ∈ map)
    (hgroup : entry.2.2.contains group.qualifiedName = true) :
    group.owns entry.1 = true := by
  obtain ⟨name, hname, -, hgroups⟩ := h.filed entry hentry
  rw [hgroups, List.contains_iff_mem, List.mem_singleton] at hgroup
  exact Group.owns_iff.mpr ⟨name, hname, (Group.qualifiedName_injective hgroup).symm⟩

theorem membersOf_eq (map : NameMap (β × List String)) (name : String) :
    membersOf map name = (map.filter fun entry => entry.2.2.contains name).map (·.2.1) := by
  simp [membersOf, NameMap.values, List.filter_map, Function.comp_def]

theorem Filed.owns_of_mem_membersOf {map : NameMap (β × List String)} (h : Filed nameOf map)
    {value : β} (hvalue : value ∈ membersOf map group.qualifiedName) :
    group.owns (nameOf value) = true := by
  rw [membersOf_eq] at hvalue
  obtain ⟨entry, hentry, rfl⟩ := List.mem_map.mp hvalue
  obtain ⟨hmem, hgroup⟩ := List.mem_filter.mp hentry
  obtain ⟨name, -, hnameOf, -⟩ := h.filed entry hmem
  rw [hnameOf]
  exact h.owns_of_contains hmem hgroup

/-- A listing does not depend on what other groups own. -/
theorem Filed.membersOf_filter {map : NameMap (β × List String)} (h : Filed nameOf map) :
    membersOf (map.filter fun entry => group.owns entry.1) group.qualifiedName =
      membersOf map group.qualifiedName := by
  rw [membersOf_eq, membersOf_eq, List.filter_filter]
  congr 1
  apply List.filter_congr
  intro entry hentry
  show (entry.2.2.contains group.qualifiedName && group.owns entry.1) = _
  cases hgroup : entry.2.2.contains group.qualifiedName with
  | false => rfl
  | true => rw [h.owns_of_contains hentry hgroup, Bool.and_self]

/-! ## Filled stores -/

/-- The store holds what questions about groups put into it. -/
structure Filled (store : MemoryStore) : Prop where
  secrets : Filed SecretDetail.name store.secrets
  clients : Filed ClientDetail.name store.clients

theorem filled_empty : Filled {} :=
  ⟨filed_nil, filed_nil⟩

/-- The store without the secrets and clients of other groups. -/
def only (store : MemoryStore) (group : Group) : MemoryStore where
  groups := store.groups
  secrets := store.secrets.filter fun entry => group.owns entry.1
  clients := store.clients.filter fun entry => group.owns entry.1

theorem filled_answer {operation : StoreOperation} (habout : operation.About group short)
    (hname : group.name ≠ "") {store : MemoryStore} (h : store.Filled) :
    (store.answer operation).2.Filled := by
  cases operation with
  | ensureGroup name description =>
      simp only [answer]
      split
      · exact h
      · exact ⟨h.secrets, h.clients⟩
  | listSecrets | listClients | getSecret => exact h
  | createSecret secret =>
      obtain ⟨hshort, hsecret, hgroups⟩ := habout
      simp only [answer]
      split
      · exact h
      · refine ⟨?_, h.clients⟩
        rw [hsecret, hgroups]
        exact h.secrets.insert hshort hname hsecret
  | createClient client =>
      obtain ⟨hshort, hclient, hgroups⟩ := habout
      simp only [answer]
      split
      · exact h
      · refine ⟨h.secrets, ?_⟩
        rw [hclient, hgroups]
        exact h.clients.insert hshort hname hclient
  | deleteSecret =>
      simp only [answer]
      split
      · exact ⟨h.secrets.filter _, h.clients⟩
      · exact h
  | deleteClient =>
      simp only [answer]
      split
      · exact ⟨h.secrets, h.clients.filter _⟩
      · exact h

/-- Questions about one group leave what other groups own as it is. -/
theorem find?_answer {operation : StoreOperation} (habout : operation.About group short)
    (hname : group.name ≠ "") (store : MemoryStore) {key : String}
    (hkey : group.owns key = false) :
    (store.answer operation).2.secrets.find? key = store.secrets.find? key ∧
      (store.answer operation).2.clients.find? key = store.clients.find? key := by
  have hne (hshort : SecretName.isShortName short = true) :
      key ≠ SecretName.uniqueName ⟨short, group⟩ := by
    rintro rfl
    rw [Group.owns_uniqueName hshort hname] at hkey
    cases hkey
  cases operation with
  | ensureGroup name description =>
      simp only [answer]
      split <;> exact ⟨rfl, rfl⟩
  | listSecrets | listClients | getSecret => exact ⟨rfl, rfl⟩
  | createSecret secret =>
      obtain ⟨hshort, hsecret, -⟩ := habout
      simp only [answer]
      split
      · exact ⟨rfl, rfl⟩
      · exact ⟨NameMap.find?_insert_of_ne _ (hsecret ▸ hne hshort), rfl⟩
  | createClient client =>
      obtain ⟨hshort, hclient, -⟩ := habout
      simp only [answer]
      split
      · exact ⟨rfl, rfl⟩
      · exact ⟨rfl, NameMap.find?_insert_of_ne _ (hclient ▸ hne hshort)⟩
  | deleteSecret =>
      obtain ⟨hshort, rfl⟩ := habout
      simp only [answer]
      split
      · exact ⟨NameMap.find?_erase_of_ne (hne hshort), rfl⟩
      · exact ⟨rfl, rfl⟩
  | deleteClient =>
      obtain ⟨hshort, rfl⟩ := habout
      simp only [answer]
      split
      · exact ⟨rfl, NameMap.find?_erase_of_ne (hne hshort)⟩
      · exact ⟨rfl, rfl⟩

/-- A filled store tells a question about a group of nothing else. -/
theorem owns_of_mem_told {operation : StoreOperation} (habout : operation.About group short)
    (hname : group.name ≠ "") {store : MemoryStore} (h : store.Filled) {told : String}
    (htold : told ∈ StoreExchange.told ⟨operation, (store.answer operation).1⟩) :
    group.owns told = true := by
  cases operation with
  | listSecrets name =>
      cases (habout : name = group.qualifiedName)
      simp only [answer] at htold
      split at htold
      · obtain ⟨detail, hdetail, rfl⟩ := List.mem_map.mp htold
        exact h.secrets.owns_of_mem_membersOf hdetail
      · simp [StoreExchange.told] at htold
  | listClients name =>
      cases (habout : name = group.qualifiedName)
      simp only [answer] at htold
      split at htold
      · obtain ⟨detail, hdetail, rfl⟩ := List.mem_map.mp htold
        exact h.clients.owns_of_mem_membersOf hdetail
      · simp [StoreExchange.told] at htold
  | getSecret name =>
      obtain ⟨hshort, rfl⟩ := habout
      simp only [answer] at htold
      split at htold
      next detail groups hfind =>
        obtain ⟨-, -, hown, -⟩ := h.secrets.filed _ (NameMap.mem_of_find? hfind)
        simp only [StoreExchange.told, List.mem_singleton] at htold
        rw [htold, hown]
        exact Group.owns_uniqueName hshort hname
      · simp [StoreExchange.told] at htold
  | _ => simp [StoreExchange.told] at htold

theorem contains_only {β : Type} (map : NameMap β) {key : String}
    (hkey : group.owns key = true) :
    NameMap.contains (map.filter fun entry => group.owns entry.1) key =
      map.contains key := by
  rw [NameMap.contains, NameMap.contains, NameMap.find?_filter hkey]

/-- Without the rest, a filled store answers a question about a group as with
it. -/
theorem answer_only {operation : StoreOperation} (habout : operation.About group short)
    (hname : group.name ≠ "") {store : MemoryStore} (h : store.Filled) :
    (store.only group).answer operation =
      ((store.answer operation).1, (store.answer operation).2.only group) := by
  have howns (hshort : SecretName.isShortName short = true) :
      group.owns (SecretName.uniqueName ⟨short, group⟩) = true :=
    Group.owns_uniqueName hshort hname
  cases operation with
  | ensureGroup name description =>
      by_cases hthere : store.groups.contains name = true
      · simp [answer, only, hthere]
      · simp [answer, only, hthere]
  | listSecrets name =>
      cases (habout : name = group.qualifiedName)
      simp only [answer, only, h.secrets.membersOf_filter]
  | listClients name =>
      cases (habout : name = group.qualifiedName)
      simp only [answer, only, h.clients.membersOf_filter]
  | getSecret name =>
      obtain ⟨hshort, rfl⟩ := habout
      simp only [answer, only, NameMap.find?_filter (howns hshort)]
  | createSecret secret =>
      obtain ⟨hshort, hsecret, -⟩ := habout
      have howned : group.owns secret.name = true := hsecret ▸ howns hshort
      simp only [answer, only, contains_only _ howned]
      split
      · rfl
      · simp only [NameMap.filter_insert h.secrets.ascending _ howned]
  | createClient client =>
      obtain ⟨hshort, hclient, -⟩ := habout
      have howned : group.owns client.name = true := hclient ▸ howns hshort
      simp only [answer, only, contains_only _ howned]
      split
      · rfl
      · simp only [NameMap.filter_insert h.clients.ascending _ howned]
  | deleteSecret name =>
      obtain ⟨hshort, rfl⟩ := habout
      simp only [answer, only, contains_only _ (howns hshort)]
      split
      · simp only [NameMap.filter_erase]
      · rfl
  | deleteClient name =>
      obtain ⟨hshort, rfl⟩ := habout
      simp only [answer, only, contains_only _ (howns hshort)]
      split
      · simp only [NameMap.filter_erase]
      · rfl

/-! ## Runs -/

variable {α : Type} {program : StoreProgram α}

theorem filled_run (hasks : program.Asks (StoreOperation.About group short))
    (hname : group.name ≠ "") {store : MemoryStore} (h : store.Filled) :
    (program.run answer store).2.Filled :=
  StoreProgram.invariant_run Filled
    (fun _ _ habout hfilled => filled_answer habout hname hfilled) hasks h

theorem find?_run (hasks : program.Asks (StoreOperation.About group short))
    (hname : group.name ≠ "") (store : MemoryStore) {key : String}
    (hkey : group.owns key = false) :
    (program.run answer store).2.secrets.find? key = store.secrets.find? key ∧
      (program.run answer store).2.clients.find? key = store.clients.find? key := by
  refine StoreProgram.invariant_run
    (fun later : MemoryStore =>
      later.secrets.find? key = store.secrets.find? key ∧
        later.clients.find? key = store.clients.find? key)
    ?_ hasks ⟨rfl, rfl⟩
  intro later operation habout hsofar
  obtain ⟨hsecrets, hclients⟩ := find?_answer habout hname later hkey
  exact ⟨hsecrets.trans hsofar.1, hclients.trans hsofar.2⟩

theorem owns_of_mem_exchanges (hasks : program.Asks (StoreOperation.About group short))
    (hname : group.name ≠ "") {store : MemoryStore} (h : store.Filled)
    {exchange : StoreExchange} (hmem : exchange ∈ program.exchanges answer store)
    {told : String} (htold : told ∈ exchange.told) : group.owns told = true := by
  obtain ⟨habout, later, hfilled, hanswer⟩ :=
    StoreProgram.of_mem_exchanges Filled
      (fun _ _ habout hfilled => filled_answer habout hname hfilled) hasks h hmem
  obtain ⟨operation, answer⟩ := exchange
  dsimp only at hanswer
  subst hanswer
  exact owns_of_mem_told habout hname hfilled htold

theorem run_only (hasks : program.Asks (StoreOperation.About group short))
    (hname : group.name ≠ "") {store : MemoryStore} (h : store.Filled) :
    (program.run answer (store.only group)).1 = (program.run answer store).1 := by
  refine StoreProgram.run_eq_of_related
    (fun other later : MemoryStore => later.Filled ∧ other = later.only group)
    ?_ hasks ⟨h, rfl⟩
  rintro _ later operation habout ⟨hfilled, rfl⟩
  rw [answer_only habout hname hfilled]
  exact ⟨rfl, filled_answer habout hname hfilled, rfl⟩

end MemoryStore

end AccessGateway
