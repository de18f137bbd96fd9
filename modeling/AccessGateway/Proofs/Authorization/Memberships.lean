import AccessGateway.Authorization.Client
import Mathlib.Data.List.Basic

/-!
# Decisions by memberships

A table of teams grows by one membership after another.  A user may manage the secrets of a
group with parts exactly if one of these memberships grants it on its own: rights are not put
together from several teams.  So a membership that is added revokes nothing, the order in which
memberships were added does not matter, and those of other users, organisations or assemblies
might as well be missing.
-/

namespace AccessGateway

namespace Membership

/-- A membership of the user, for the assembly of the group. -/
structure Concerns (membership : Membership) (username : String) (parts : GroupParts) : Prop where
  username_eq : Text.lowercase membership.username = Text.lowercase username
  org_eq : membership.org = parts.org
  assembly_eq : membership.assembly = parts.assembly

/-- The membership is in an admin team of the group, and that team has both rights. -/
structure Grants (membership : Membership) (adminTeam username : String) (parts : GroupParts) :
    Prop where
  concerns : membership.Concerns username parts
  admin : membership.team.name = adminTeam ∨
    membership.team.name = adminTeam ++ "-" ++ parts.assembly
  design : membership.team.mayDesign = true
  transition : membership.team.mayTransition = true

end Membership

namespace TeamTable

/-- The table after memberships were added one after another. -/
def ofHistory (history : List Membership) : TeamTable := history.foldl add []

theorem mem_foldl_add (table : TeamTable) (history : List Membership) (membership : Membership) :
    membership ∈ history.foldl add table ↔ membership ∈ table ∨ membership ∈ history := by
  induction history generalizing table with
  | nil => simp
  | cons first rest ih =>
      rw [List.foldl_cons, ih, add, List.mem_append, List.mem_singleton, List.mem_cons, or_assoc]

@[simp] theorem mem_ofHistory {history : List Membership} {membership : Membership} :
    membership ∈ ofHistory history ↔ membership ∈ history := by
  rw [ofHistory, mem_foldl_add]
  simp

theorem mem_teamsOf {table : TeamTable} {username : String} {parts : GroupParts} {team : Team} :
    team ∈ table.teamsOf username parts.org parts.assembly ↔
      ∃ membership ∈ table, membership.Concerns username parts ∧ membership.team = team := by
  have hconcerns : ∀ membership : Membership,
      (Text.lowercase membership.username == Text.lowercase username &&
          membership.org == parts.org && membership.assembly == parts.assembly) = true ↔
        membership.Concerns username parts := by
    intro membership
    simp only [Bool.and_eq_true, beq_iff_eq]
    constructor
    · intro h
      exact ⟨h.1.1, h.1.2, h.2⟩
    · intro h
      exact ⟨⟨h.username_eq, h.org_eq⟩, h.assembly_eq⟩
  simp only [teamsOf, List.mem_map, List.mem_filter, hconcerns, and_assoc]

/-- Whether the teams that a table has for a user permit. -/
def permits (table : TeamTable) (adminTeam username : String) (parts : GroupParts) : Bool :=
  Team.permit (table.teamsOf username parts.org parts.assembly) adminTeam parts.assembly

theorem permits_iff {table : TeamTable} {adminTeam username : String} {parts : GroupParts} :
    table.permits adminTeam username parts = true ↔
      ∃ membership ∈ table, membership.Grants adminTeam username parts := by
  simp only [permits, Team.permit, List.any_eq_true, mem_teamsOf, Team.managesSecrets,
    Bool.and_eq_true, Bool.or_eq_true, beq_iff_eq]
  constructor
  · intro h
    obtain ⟨team, ⟨membership, hmem, hconcerns, hteam⟩, hname, hdesign, htransition⟩ := h
    subst hteam
    exact ⟨membership, hmem, hconcerns, hname, hdesign, htransition⟩
  · intro h
    obtain ⟨membership, hmem, hgrants⟩ := h
    exact ⟨membership.team, ⟨membership, hmem, hgrants.concerns, rfl⟩, hgrants.admin,
      hgrants.design, hgrants.transition⟩

/-- The decision depends on nothing but which memberships concern the user and the assembly. -/
theorem permits_congr {table other : TeamTable} {adminTeam username : String}
    {parts : GroupParts}
    (h : ∀ membership : Membership, membership.Concerns username parts →
      (membership ∈ table ↔ membership ∈ other)) :
    table.permits adminTeam username parts = other.permits adminTeam username parts := by
  rw [Bool.eq_iff_iff, permits_iff, permits_iff]
  apply exists_congr
  intro membership
  apply and_congr_left
  intro hgrants
  exact h membership hgrants.concerns

end TeamTable

namespace GroupClient

/-- For a group with parts the teams of the user are looked up, and nothing is sent. -/
theorem authorize_teams (adminTeam : String) (repository : TeamRepository) (network : Network)
    {group : Group} {parts : GroupParts} (hparts : group.parts = some parts)
    (principal : Principal) :
    (teams adminTeam).authorize repository network group principal =
      let found := repository.lookup ⟨principal.username, parts.org, parts.assembly⟩
      (found.1.map fun list => Team.permit list adminTeam parts.assembly, found.2, network) := by
  rw [authorize, hparts]

/-- Whatever was added to the table before, a principal may manage the secrets of a group with
parts exactly if one membership among it grants this; otherwise the decision is a denial and no
error.  Memberships that are added later revoke nothing, their order does not matter, and those
that concern somebody or something else may stand anywhere among them.  The table is asked once. -/
theorem authorize_by_memberships (adminTeam : String) (history : List Membership)
    (network : Network) {group : Group} {parts : GroupParts} (hparts : group.parts = some parts)
    (principal : Principal) :
    let decided (history : List Membership) :=
      (teams adminTeam).authorize (.ofTable (TeamTable.ofHistory history)) network group principal
    let decision (history : List Membership) := ((decided history).1, (decided history).2.2)
    (decision history = (.ok true, network) ↔
        ∃ membership ∈ history, membership.Grants adminTeam principal.username parts) ∧
      (decision history = (.ok false, network) ↔
        ∀ membership ∈ history, ¬ membership.Grants adminTeam principal.username parts) ∧
      (∀ larger, history ⊆ larger → decision history = (.ok true, network) →
        decision larger = (.ok true, network)) ∧
      (∀ other, history.Perm other → decision other = decision history) ∧
      (∀ others mixed, (∀ membership ∈ others, ¬ membership.Concerns principal.username parts) →
        mixed.Perm (history ++ others) → decision mixed = decision history) ∧
      (decided history).2.1.asked = [⟨principal.username, parts.org, parts.assembly⟩] := by
  intro decided decision
  let permitted (history : List Membership) : Bool :=
    (TeamTable.ofHistory history).permits adminTeam principal.username parts
  have hdecided : ∀ history, decided history =
      (.ok (permitted history),
        { TeamRepository.ofTable (TeamTable.ofHistory history) with
          asked := [⟨principal.username, parts.org, parts.assembly⟩] }, network) := by
    intro history
    exact authorize_teams adminTeam _ network hparts principal
  have hdecision : ∀ history, decision history = (.ok (permitted history), network) := by
    intro history
    simp only [decision, hdecided]
  have hpermitted : ∀ history, permitted history = true ↔
      ∃ membership ∈ history, membership.Grants adminTeam principal.username parts := by
    intro history
    simp only [permitted, TeamTable.permits_iff, TeamTable.mem_ofHistory]
  have htrue : ∀ history, decision history = (.ok true, network) ↔ permitted history = true := by
    intro history
    simp [hdecision]
  have halike : ∀ first second : List Membership,
      (∀ membership : Membership, membership.Concerns principal.username parts →
        (membership ∈ first ↔ membership ∈ second)) →
      decision first = decision second := by
    intro first second h
    have hsame : permitted first = permitted second := by
      apply TeamTable.permits_congr
      simpa only [TeamTable.mem_ofHistory] using h
    rw [hdecision, hdecision, hsame]
  refine ⟨?_, ?_, ?_, ?_, ?_, ?_⟩
  · rw [htrue, hpermitted]
  · have hdenied : decision history = (.ok false, network) ↔ ¬ permitted history = true := by
      simp [hdecision]
    rw [hdenied, hpermitted]
    simp
  · intro larger hsubset hgranted
    rw [htrue, hpermitted] at hgranted ⊢
    obtain ⟨membership, hmem, hgrants⟩ := hgranted
    exact ⟨membership, hsubset hmem, hgrants⟩
  · intro other hperm
    apply halike
    intro membership _
    exact hperm.mem_iff.symm
  · intro others mixed hothers hperm
    apply halike
    intro membership hconcerns
    rw [hperm.mem_iff, List.mem_append, or_iff_left]
    intro hmem
    exact hothers membership hmem hconcerns
  · rw [hdecided]

/-- Two admin teams with one right each do not grant what one team with both rights does. -/
theorem authorize_by_memberships_of_rights :
    let group : Group := .ofName .prod "acme_web_prod"
    let ada (username name : String) (design transition : Bool) : Membership :=
      ⟨username, "acme", "web", ⟨name, none, design, transition, true⟩⟩
    let halves := [ada "ada" "admin" true false, ada "ada" "admin-web" false true]
    let decision (history : List Membership) :=
      ((teams "admin").authorize (.ofTable (TeamTable.ofHistory history)) .unreachable group
        ⟨"ada", none, .dev, []⟩).1.toOption
    decision halves = some false ∧
      decision (ada "ADA" "admin-web" true true :: halves) = some true := by
  intro group ada halves decision
  have hparts : group.parts = some ⟨"acme", "web", "prod"⟩ := by decide +kernel
  obtain ⟨hgranted, -⟩ := authorize_by_memberships "admin"
    (ada "ADA" "admin-web" true true :: halves) .unreachable hparts ⟨"ada", none, .dev, []⟩
  obtain ⟨-, hdenied, -⟩ := authorize_by_memberships "admin" halves .unreachable hparts
    ⟨"ada", none, .dev, []⟩
  constructor
  · have hnone := hdenied.mpr (by
      intro membership hmem hgrants
      simp only [halves, List.mem_cons, List.not_mem_nil, or_false] at hmem
      rcases hmem with rfl | rfl
      · cases hgrants.transition
      · cases hgrants.design)
    exact congrArg (·.1.toOption) hnone
  · have hsome := hgranted.mpr ⟨ada "ADA" "admin-web" true true, List.mem_cons_self,
      ⟨by decide +kernel, rfl, rfl⟩, .inr (by decide +kernel), rfl, rfl⟩
    exact congrArg (·.1.toOption) hsome

end GroupClient

end AccessGateway
