import AccessGateway.Proofs.Http.Destinations
import AccessGateway.Proofs.Store.Stock
import AccessGateway.Proofs.Url.Bases
import AccessGateway.Store.Remote

/-!
# Where the store is asked about things

A question is about one secret, one client, or the secrets or clients of one group.  The
name of that is a single segment of the path, in percent code, below the base of the
store.  No character of a name ends the segment, and no name is a dot segment, so two
things never share a path.
-/

namespace AccessGateway

/-- What the store is asked about. -/
inductive StoreObject where
  | secret (name : SecretName)
  | client (name : SecretName)
  | secretsOf (group : Group)
  | clientsOf (group : Group)

namespace StoreObject

/-- The name that the store knows an object by. -/
def key : StoreObject → String
  | .secret name | .client name => name.uniqueName
  | .secretsOf group | .clientsOf group => group.qualifiedName

def collection : StoreObject → String
  | .secret _ => "secrets"
  | .client _ => "clients"
  | .secretsOf _ | .clientsOf _ => "groups"

/-- What follows the name of a group of which something is listed. -/
def listing : StoreObject → List String
  | .secret _ | .client _ => []
  | .secretsOf _ => ["secrets"]
  | .clientsOf _ => ["clients"]

/-- The segments below the base of a store, with the given one for the name. -/
def segments (object : StoreObject) (name : String) : List String :=
  ["automation", "v2", object.collection, name] ++ object.listing

/-- Secrets and clients have short names in groups that have a name. -/
def Valid : StoreObject → Prop
  | .secret name | .client name => name.Valid
  | .secretsOf _ | .clientsOf _ => True

theorem underscore_mem_key (object : StoreObject) : '_' ∈ object.key.toList := by
  cases object <;> simp [key, SecretName.uniqueName, Group.qualifiedName]

theorem encode_word : ∀ word ∈ ["automation", "v2", "secrets", "clients", "groups"],
    Text.Percent.encode word = word := by decide +kernel

theorem map_encode_segments (object : StoreObject) :
    (object.segments object.key).map Text.Percent.encode =
      object.segments (Text.Percent.encode object.key) := by
  cases object <;> simp [segments, collection, listing, encode_word]

theorem not_dots_of_mem_segments (object : StoreObject) :
    ∀ text ∈ object.segments object.key, text ≠ "." ∧ text ≠ ".." := by
  have hkey {dots : String} (hdots : '_' ∉ dots.toList) : object.key ≠ dots := by
    rintro rfl
    exact hdots object.underscore_mem_key
  have hdot := @hkey "." (by decide)
  have hdouble := @hkey ".." (by decide)
  cases object <;> simpa [segments, collection, listing] using And.intro hdot hdouble

/-- An object is told by its path. -/
theorem eq_of_segments {first second : StoreObject} (hfirst : first.Valid)
    (hsecond : second.Valid) (h : first.segments (Text.Percent.encode first.key) =
      second.segments (Text.Percent.encode second.key)) : first = second := by
  simp only [segments, List.cons_append, List.nil_append, List.cons.injEq, true_and] at h
  obtain ⟨hcollection, hcode, hlisting⟩ := h
  have hkey := Text.Percent.encode_injective hcode
  cases first <;> cases second <;> simp [collection, listing] at hcollection hlisting
  · exact congrArg secret (hfirst.uniqueName_injective hsecond hkey)
  · exact congrArg client (hfirst.uniqueName_injective hsecond hkey)
  · exact congrArg secretsOf (Group.qualifiedName_injective hkey)
  · exact congrArg clientsOf (Group.qualifiedName_injective hkey)

end StoreObject

/-- The questions about an object that is there already. -/
inductive StoreOperation.Concerns : StoreOperation → StoreObject → Prop
  | getSecret (name : SecretName) : Concerns (.getSecret name.uniqueName) (.secret name)
  | deleteSecret (name : SecretName) : Concerns (.deleteSecret name.uniqueName) (.secret name)
  | deleteClient (name : SecretName) : Concerns (.deleteClient name.uniqueName) (.client name)
  | listSecrets (group : Group) : Concerns (.listSecrets group.qualifiedName) (.secretsOf group)
  | listClients (group : Group) : Concerns (.listClients group.qualifiedName) (.clientsOf group)

namespace RemoteStore

variable {store : RemoteStore} {operation : StoreOperation} {object : StoreObject}

theorem exists_plan_eq (h : operation.Concerns object) (store : RemoteStore) :
    ∃ method url, store.plan operation = { method := method, url := url } ∧
      url.toList = store.baseUrl.toList ++ Url.codedPath (object.segments object.key) := by
  cases h
  all_goals
    refine ⟨_, _, rfl, ?_⟩
    simp [url, itemPath, Url.codedPath, Url.slashed, StoreObject.segments,
      StoreObject.collection, StoreObject.listing, StoreObject.key, StoreObject.encode_word]

/-- The request that is sent for a question, unless its plan is none. -/
def request? (store : RemoteStore) (operation : StoreOperation) : Option OutboundRequest :=
  (store.plan operation).prepare.toOption

theorem sent_answer (store : RemoteStore) (operation : StoreOperation) (network : Network) :
    (store.answer network operation).2.sent =
      network.sent ++ (store.request? operation).toList :=
  (store.plan operation).sent_send network

theorem of_request?_eq_some {method url : String} {sent : OutboundRequest}
    (hplan : store.plan operation = { method := method, url := url })
    (h : store.request? operation = some sent) :
    ∃ read, Url.parse url = .ok read ∧ sent.url = read.withoutUserInfo := by
  rw [request?, hplan, RequestPlan.prepare_eq] at h
  cases hdestination : RequestPlan.destination url with
  | error e =>
      rw [hdestination] at h
      cases h
  | ok place =>
      rw [hdestination] at h
      cases h
      exact RequestPlan.of_destination_eq_ok hdestination

theorem isSome_request? {method url : String} {read : Url}
    (hplan : store.plan operation = { method := method, url := url })
    (hread : Url.parse url = .ok read) (hweb : Url.IsWeb read.scheme) :
    (store.request? operation).isSome = true := by
  have hhost := Url.hasHost_of_parse hread hweb
  rw [request?, hplan, RequestPlan.prepare_eq, RequestPlan.destination_of_parse hread hhost hweb]
  rfl

/-- Below a base without query and fragment a question about an object is one request, to the
base and the path of the object, in which one segment is the code of its name.  Questions about
different objects go to different paths. -/
theorem sent_addresses {given : Url} (h : Url.parse store.baseUrl = .ok given)
    (hweb : Url.IsWeb given.scheme) (hquery : given.query = none)
    (hfragment : given.fragment = none) :
    (∀ operation network, (store.answer network operation).2.sent =
        network.sent ++ (store.request? operation).toList) ∧
      ∃ base : List String,
        (∀ site, Url.parse (store.baseUrl ++ "/") = .ok site →
          site.path = .segments (base ++ [""])) ∧
        (∀ operation object, operation.Concerns object →
          ((∀ c ∈ store.baseUrl.toList.getLast?, Url.isPlain c = true) →
            (store.request? operation).isSome = true) ∧
          ∀ sent, store.request? operation = some sent → ∃ segment,
            sent.url =
                { given.withoutUserInfo with
                  path := .segments (base ++ object.segments segment) } ∧
              Text.Percent.decode? segment = some object.key) ∧
        ∀ first second a b, first.Concerns a → second.Concerns b → a.Valid → b.Valid →
          ∀ sent other, store.request? first = some sent → store.request? second = some other →
            sent.url.path = other.url.path → a = b := by
  obtain ⟨base, hdirectory, hbase⟩ := Url.exists_base_of_coded h hweb hquery hfragment
  have hsent : ∀ {operation object sent}, operation.Concerns object →
      store.request? operation = some sent →
        sent.url = { given.withoutUserInfo with
          path := .segments (base ++ object.segments (Text.Percent.encode object.key)) } := by
    intro operation object sent hconcerns hrequest
    obtain ⟨method, url, hplan, hurl⟩ := exists_plan_eq hconcerns store
    obtain ⟨read, hread, hbare⟩ := of_request?_eq_some hplan hrequest
    rw [hbare, (hbase hurl object.not_dots_of_mem_segments).1 read hread]
    rw [← object.map_encode_segments]
    rfl
  refine ⟨fun operation => store.sent_answer operation, base, hdirectory, ?_, ?_⟩
  · intro operation object hconcerns
    obtain ⟨method, url, hplan, hurl⟩ := exists_plan_eq hconcerns store
    obtain ⟨hread, hexists⟩ := hbase hurl object.not_dots_of_mem_segments
    constructor
    · intro hend
      obtain ⟨read, hparse⟩ := hexists hend
      have hscheme : read.scheme = given.scheme := by rw [hread read hparse]
      exact isSome_request? hplan hparse (hscheme ▸ hweb)
    · intro sent hrequest
      exact ⟨_, hsent hconcerns hrequest, Text.Percent.decode?_encode object.key⟩
  · intro first second a b hfirst hsecond ha hb sent other hrequest hother hpath
    rw [hsent hfirst hrequest, hsent hsecond hother] at hpath
    have hsegments := List.append_cancel_left (UrlPath.segments.inj hpath)
    exact StoreObject.eq_of_segments ha hb hsegments

/-- A short name of dots, slashes and marks is one segment. -/
theorem sent_addresses_of_separators :
    let store : RemoteStore := ⟨"https://store:8443/keys"⟩
    ∃ (given : Url) (name : SecretName) (sent : OutboundRequest) (segment : String),
      Url.parse store.baseUrl = .ok given ∧
        Group.parse .dev "prod_or/g_a_.." = .ok name.group ∧ name.short = "../x?y#%2e" ∧
          store.request? (.deleteSecret name.uniqueName) = some sent ∧
            sent.url.path = .segments ["keys", "automation", "v2", "secrets", segment] ∧
              Text.Percent.decode? segment = some "prod_or/g_a_..@../x?y#%2e" := by
  intro store
  let given : Url :=
    ⟨"https", some ⟨"", .domain "store", some 8443⟩, .segments ["keys"], none, none⟩
  let name : SecretName := ⟨"../x?y#%2e", .ofName .prod "or/g_a_.."⟩
  have hgiven : Url.parse store.baseUrl = .ok given := by decide +kernel
  have hdirectory : Url.parse (store.baseUrl ++ "/") =
      .ok { given with path := .segments ["keys", ""] } := by decide +kernel
  have hgroup : Group.parse .dev "prod_or/g_a_.." = .ok name.group := by decide +kernel
  obtain ⟨-, base, hbase, hall, -⟩ := sent_addresses hgiven (.inr rfl) rfl rfl
  have hlast : store.baseUrl.toList.getLast? = some 's' := by decide +kernel
  have hend : ∀ c ∈ store.baseUrl.toList.getLast?, Url.isPlain c = true := by
    rw [hlast]
    rintro c ⟨⟩
    decide
  obtain ⟨hsome, haddress⟩ := hall _ _ (.deleteSecret name)
  obtain ⟨sent, hsent⟩ := Option.isSome_iff_exists.mp (hsome hend)
  obtain ⟨segment, hurl, hdecoded⟩ := haddress sent hsent
  have hkeys : base = ["keys"] :=
    List.append_cancel_right (UrlPath.segments.inj (hbase _ hdirectory)).symm
  refine ⟨given, name, sent, segment, hgiven, hgroup, rfl, hsent, ?_, hdecoded⟩
  rw [hurl, hkeys]
  rfl

end RemoteStore

end AccessGateway
