import AccessGateway.Proofs.Authorization.Undecomposed
import AccessGateway.Proofs.Http.CodedRequests

/-!
# What a tenant is asked about

A tenant is asked with one request, in which the user and the parts of the project
stand in the path alone.  They can be read back from it, unless one of them is a dot
segment: dots are not coded, and lead the question to another user or project.
-/

namespace AccessGateway.Tenant

open Url

/-- The names in a question, in the order of the path. -/
def names (username : String) (segments : String × String × String) : List String :=
  [username, segments.1, segments.2.1, segments.2.2]

/-- A name that does not lead elsewhere in a path. -/
def isFaithful (name : String) : Bool := name != "." && name != ".."

/-- What is sent for a user and the name of a group. -/
def outbound? (endpoint : TenantEndpoint) (username name : String) : Option OutboundRequest :=
  (segments? name).bind fun segments => (plan endpoint username segments).prepare.toOption

/-- The authority and the fields of every question to an endpoint, if it can be asked. -/
def access? (endpoint : TenantEndpoint) (site : Site) : Option (Authority × Headers) :=
  RequestPlan.access? site false ((RequestPlan.bearer? endpoint.token).map fun field => [field])

/-! ## The request -/

section

variable {endpoint : TenantEndpoint} {site : Site}
  (hsite : (Text.dropTrailing '/' endpoint.url).toList = site.text)

include hsite

theorem outbound?_eq {username name : String} {segments : String × String × String}
    (hsegments : segments? name = some segments) :
    outbound? endpoint username name =
      (access? endpoint site).map fun access =>
        ⟨"GET", RequestPlan.placeOf site access.1 (names username segments), access.2, []⟩ := by
  have hurl : (plan endpoint username segments).url.toList =
      site.text ++ codedPath (names username segments) := by
    rw [← hsite]
    simp [plan, questionUrl, codedPath, slashed, names]
  rw [outbound?, hsegments, Option.bind_some]
  exact RequestPlan.prepare_of_coded hurl

end

theorem sent_authorize (endpoint : TenantEndpoint) (teams : TeamRepository)
    (network : Network) (group : Group) (principal : Principal) :
    ((GroupClient.tenant endpoint).authorize teams network group principal).2.2.sent =
      network.sent ++ (outbound? endpoint principal.username group.name).toList := by
  unfold GroupClient.authorize outbound?
  cases segments? group.name with
  | none => simp
  | some segments =>
      dsimp only [Option.bind_some]
      rw [map_askOwner, RequestPlan.sent_send]

/-! ## The names -/

/-- A parsed group whose name a tenant takes apart is named by these parts. -/
theorem name_of_segments? {caller : Domain} {raw : String} {group : Group}
    (hgroup : Group.parse caller raw = .ok group) {segments : String × String × String}
    (hsegments : segments? group.name = some segments) :
    group.name.toList = ['_'].intercalate
      [segments.1.toList, segments.2.1.toList, segments.2.2.toList] := by
  have hslash : '/' ∉ group.name.toList := by
    intro hslash
    rw [segments?_eq_none_of_slash hslash (Group.two_le_count_of_parse hgroup)] at hsegments
    cases hsegments
  unfold segments? at hsegments
  rw [Text.replaceChar_eq_self hslash] at hsegments
  split at hsegments
  next org project env hsplit =>
    split at hsegments
    · cases hsegments
    · cases hsegments
      exact (Text.of_split_eq hsplit).1
  · cases hsegments

/-- The question about a project: one request to the endpoint, in which the user and the three
parts of the name lead on from the base of the endpoint.  Where none of these is a dot segment they
are the four segments below the base, they can be read back, and no other user or group of a
raw text without dot segments is asked about in the same way. -/
theorem authorize_asks {endpoint : TenantEndpoint} {site : Site}
    (hsite : (Text.dropTrailing '/' endpoint.url).toList = site.text)
    {caller : Domain} {raw : String} {group : Group} (hgroup : Group.parse caller raw = .ok group)
    {segments : String × String × String} (hsegments : segments? group.name = some segments)
    (principal : Principal) :
    let asked := names principal.username segments
    let outbound := (access? endpoint site).map fun access =>
      (⟨"GET", RequestPlan.placeOf site access.1 asked, access.2, []⟩ : OutboundRequest)
    (∀ (teams : TeamRepository) (network : Network),
      ((GroupClient.tenant endpoint).authorize teams network group principal).2.2.sent =
        network.sent ++ outbound.toList) ∧
      ((∀ name ∈ asked, isFaithful name = true) →
        (∀ sent ∈ outbound, ∃ coded,
          sent.url.path = .segments (site.segments ++ coded) ∧
            coded.map Text.Percent.decode? = asked.map some) ∧
          ∀ {otherCaller : Domain} {otherRaw : String} {other : Group}
              {otherSegments : String × String × String} {username : String},
            Group.parse otherCaller otherRaw = .ok other →
              segments? other.name = some otherSegments →
                (∀ name ∈ names username otherSegments, isFaithful name = true) →
                  ∀ sent ∈ outbound, outbound? endpoint username other.name = some sent →
                    username = principal.username ∧ other.name = group.name) := by
  intro asked outbound
  have hfaithful : ∀ {names : List String}, (∀ name ∈ names, isFaithful name = true) →
      ∀ name ∈ names, name ≠ "." ∧ name ≠ ".." := by
    intro names h name hname
    simpa [isFaithful] using h name hname
  have houtbound : outbound? endpoint principal.username group.name = outbound :=
    outbound?_eq hsite hsegments
  refine ⟨?_, ?_⟩
  · intro teams network
    rw [sent_authorize, houtbound]
  · intro hasked
    refine ⟨?_, ?_⟩
    · intro sent hsent
      obtain ⟨access, -, rfl⟩ := Option.map_eq_some_iff.mp hsent
      refine ⟨asked.map Text.Percent.encode, ?_, ?_⟩
      · exact RequestPlan.placeOf_of_ordinary (hfaithful hasked)
      · simp [Function.comp_def]
    · intro otherCaller otherRaw other otherSegments username hother hotherSegments hnames
        sent hsent hsame
      obtain ⟨access, haccess, rfl⟩ := Option.map_eq_some_iff.mp hsent
      rw [outbound?_eq hsite hotherSegments, haccess, Option.map_some, Option.some.injEq] at hsame
      have hlists := RequestPlan.placeOf_injective (hfaithful hnames) (hfaithful hasked)
        (congrArg OutboundRequest.url hsame)
      simp only [asked, names, List.cons.injEq, and_true] at hlists
      obtain ⟨hname, horg, hproject, henv⟩ := hlists
      refine ⟨hname, ?_⟩
      rw [← String.toList_inj, name_of_segments? hother hotherSegments,
        name_of_segments? hgroup hsegments, horg, hproject, henv]

/-- Percent signs and blanks in a name are coded and come back. -/
theorem authorize_asks_of_percent :
    let endpoint : TenantEndpoint := { url := "https://tenant.example/api/v1/", token := "secret" }
    let group := Group.ofName .tenantProd "acme_a b%2e_50%"
    let principal : Principal := ⟨"ada.l", none, .prod, []⟩
    Group.parse .prod "tenant-prod_acme_a b%2e_50%" = .ok group ∧
      ∃ sent : OutboundRequest,
        (∀ (teams : TeamRepository) (network : Network),
          ((GroupClient.tenant endpoint).authorize teams network group principal).2.2.sent =
            network.sent ++ [sent]) ∧
          ∃ coded, sent.url.path = .segments (["api", "v1"] ++ coded) ∧
            coded.map Text.Percent.decode? =
              [some "ada.l", some "acme", some "a b%2e", some "50%"] := by
  intro endpoint group principal
  let site : Site := {
    scheme := "https".toList
    authority := "tenant.example".toList
    base := ["api".toList, "v1".toList]
    scheme_eq := .inr (by decide +kernel)
    authority_ne := by decide +kernel
    authority_plain := List.all_eq_true.mp (by decide +kernel)
    base_plain := by
      have hall : ∀ segment ∈ ["api".toList, "v1".toList], segment.all isSegmentChar = true := by
        decide +kernel
      exact fun segment hsegment => List.all_eq_true.mp (hall segment hsegment)
    base_ordinary := by decide +kernel }
  have hsplit : Text.split '_' "tenant-prod_acme_a b%2e_50%" =
      ["tenant-prod", "acme", "a b%2e", "50%"] := by decide +kernel
  have hdomain : Domain.ofToken? "tenant-prod" = some .tenantProd := by decide +kernel
  have hjoin : "_".intercalate ["acme", "a b%2e", "50%"] = "acme_a b%2e_50%" := by decide +kernel
  have hparse : Group.parse .prod "tenant-prod_acme_a b%2e_50%" = .ok group := by
    rw [Group.parse, hsplit]
    dsimp only
    rw [hdomain, hjoin]
  have hsite : (Text.dropTrailing '/' endpoint.url).toList = site.text := by decide +kernel
  have hsegments : segments? group.name = some ("acme", "a b%2e", "50%") := by decide +kernel
  have hfaithful : ∀ name ∈ names "ada.l" ("acme", "a b%2e", "50%"), isFaithful name = true := by
    decide +kernel
  have hbase : site.segments = ["api", "v1"] := by decide +kernel
  have hreached : (access? endpoint site).isSome = true := by decide +kernel
  obtain ⟨hsent, hnames⟩ := authorize_asks hsite hparse hsegments principal
  obtain ⟨access, haccess⟩ := Option.isSome_iff_exists.mp hreached
  rw [haccess, Option.map_some] at hsent hnames
  refine ⟨hparse, _, hsent, ?_⟩
  rw [← hbase]
  exact (hnames hfaithful).1 _ rfl

/-- A part of two dots takes the part before it away, and one dot is passed over: a tenant is asked
about a project with a part less, and about two groups in the same words. -/
theorem authorize_asks_elsewhere :
    let endpoint : TenantEndpoint := { url := "http://127.0.0.1:1/tenants/v1", token := "t" }
    let paths (name : String) :=
      ((GroupClient.tenant endpoint).authorize (.ofTable []) .unreachable
        (Group.ofName .tenantProd name) ⟨"alice", none, .prod, []⟩).2.2.sent.map fun sent => sent.url.path
    (∀ name ∈ ["acme_.._prod", "._pay_prod", "pay_._prod"],
      Group.parse .tenantProd name = .ok (Group.ofName .tenantProd name)) ∧
      paths "acme_.._prod" = [.segments ["tenants", "v1", "alice", "prod"]] ∧
        paths "._pay_prod" = [.segments ["tenants", "v1", "alice", "pay", "prod"]] ∧
          paths "pay_._prod" = [.segments ["tenants", "v1", "alice", "pay", "prod"]] := by
  intro endpoint paths
  have hread : ∀ name ∈ ["acme_.._prod", "._pay_prod", "pay_._prod"],
      (Group.parse .tenantProd name).toOption = some (Group.ofName .tenantProd name) := by
    decide +kernel
  refine ⟨?_, by decide +kernel, by decide +kernel, by decide +kernel⟩
  intro name hname
  have hgroup := hread name hname
  cases hparse : Group.parse .tenantProd name with
  | error e =>
      rw [hparse] at hgroup
      cases hgroup
  | ok group =>
      rw [hparse] at hgroup
      exact congrArg Except.ok (Option.some.inj hgroup)

end AccessGateway.Tenant
