import AccessGateway.Proofs.Authorization.FreshClients

/-!
# Groups without parts

A raw text that names a group has at least two underscores in the name of the group.
A name with a slash besides therefore never has exactly three pieces between
underscores and slashes, and a name without one has the same pieces either way.  So
a tenant finds parts in the name of a group only where the group itself has them,
and a group without parts is turned down before anybody is asked.
-/

namespace AccessGateway

namespace Group

/-- The name of a group that was read has two underscores at least. -/
theorem two_le_count_of_parse {caller : Domain} {raw : String} {group : Group}
    (h : parse caller raw = .ok group) : 2 ≤ group.name.toList.count '_' := by
  unfold parse at h
  split at h
  next org assembly env hsplit =>
    split at h
    · cases h
    · cases h
      have hlength := Text.length_split '_' raw
      rw [hsplit] at hlength
      simp only [List.length_cons, List.length_nil] at hlength
      rw [name_ofName]
      omega
  next first a b c rest hsplit =>
    split at h
    next domain hdomain =>
      cases h
      -- without the domain at least three pieces are left, and joining them loses none
      have hparts : ∀ part ∈ a :: b :: c :: rest, '_' ∉ part.toList := by
        intro part hpart
        exact (Text.of_split_eq hsplit).2 part (List.mem_cons_of_mem first hpart)
      have hagain : Text.split '_' ("_".intercalate (a :: b :: c :: rest)) =
          a :: b :: c :: rest := Text.split_intercalate (List.cons_ne_nil _ _) hparts
      have hlength := Text.length_split '_' ("_".intercalate (a :: b :: c :: rest))
      rw [hagain] at hlength
      simp only [List.length_cons] at hlength
      rw [name_ofName]
      omega
    · cases h
  · cases h

theorem count_of_parts {group : Group} {parts : GroupParts} (h : group.parts = some parts) :
    group.name.toList.count '_' = 2 := by
  rw [group.parts_eq] at h
  unfold GroupParts.ofName? at h
  split at h
  next org assembly env hsplit =>
    have hlength := Text.length_split '_' group.name
    rw [hsplit] at hlength
    simp only [List.length_cons, List.length_nil] at hlength
    omega
  · cases h

end Group

namespace Tenant

theorem segments?_eq_map_ofName? {name : String} (h : '/' ∉ name.toList) :
    segments? name =
      (GroupParts.ofName? name).map fun parts => (parts.org, parts.assembly, parts.env) := by
  rw [segments?, Text.replaceChar_eq_self h, GroupParts.ofName?]
  generalize Text.split '_' name = segments
  match segments with
  | [org, project, env] =>
    dsimp only
    split <;> rfl
  | [] | [_] | [_, _] | _ :: _ :: _ :: _ :: _ => rfl

theorem segments?_eq_none_of_slash {name : String} (hslash : '/' ∈ name.toList)
    (h : 2 ≤ name.toList.count '_') : segments? name = none := by
  unfold segments?
  split
  next org project env hsplit =>
    have hlength := Text.length_split '_' (Text.replaceChar '/' '_' name)
    rw [hsplit, Text.count_replaceChar (by decide)] at hlength
    simp only [List.length_cons, List.length_nil] at hlength
    have hpos : 0 < name.toList.count '/' := List.count_pos_iff.mpr hslash
    omega
  · rfl

theorem segments?_of_parts {group : Group} {parts : GroupParts}
    (h : group.parts = some parts) :
    segments? group.name =
      if '/' ∈ group.name.toList then none
      else some (parts.org, parts.assembly, parts.env) := by
  have hcount := Group.count_of_parts h
  split
  next hslash => exact segments?_eq_none_of_slash hslash (by omega)
  next hslash =>
    rw [segments?_eq_map_ofName? hslash, ← group.parts_eq, h]
    rfl

theorem segments?_eq_none {caller : Domain} {raw : String} {group : Group}
    (hgroup : Group.parse caller raw = .ok group) (h : group.parts = none) :
    segments? group.name = none := by
  by_cases hslash : '/' ∈ group.name.toList
  · exact segments?_eq_none_of_slash hslash (Group.two_le_count_of_parse hgroup)
  · rw [segments?_eq_map_ofName? hslash, ← group.parts_eq, h]
    rfl

end Tenant

namespace Dispatcher

variable {settings : AuthorizationSettings} {group : Group}

/-- Only teams or a tenant can own a group without parts: it has no organisation
that could mark it. -/
theorem build_of_undecomposed (settings : AuthorizationSettings) (h : group.parts = none) :
    GroupClient.build settings group = .ok (.teams settings.adminTeam) ∨
      (∃ endpoint, GroupClient.build settings group = .ok (.tenant endpoint)) ∨
        GroupClient.build settings group =
          .error (GroupClient.missing "delegated tenant" group.domain) := by
  have howner : group.owner settings =
      if Text.startsWith settings.delegatedDomainPrefix group.domain.token then .tenant
      else .teams := by
    rw [Group.owner, Group.ownerUnder, h]
    rfl
  rw [GroupClient.build, howner]
  split
  · rw [GroupClient.ofOwner]
    cases settings.delegatedTenant.lookup group.domain with
    | none => exact .inr (.inr rfl)
    | some endpoint => exact .inr (.inl ⟨endpoint, rfl⟩)
  · exact .inl rfl

theorem authorizeAfresh_of_undecomposed (settings : AuthorizationSettings)
    (h : group.parts = none) (hsegments : Tenant.segments? group.name = none) :
    ∃ refusal : Except GatewayError Bool,
      (refusal = .ok false ∨ (∃ reason, refusal = .error (.notAuthorized reason)) ∨
        ∃ reason, refusal = .error (.serviceUnavailable reason)) ∧
        ∀ (teams : TeamRepository) (network : Network) (principal : Principal),
          authorizeAfresh settings teams network group principal =
            (refusal, teams, network) := by
  unfold authorizeAfresh
  rcases build_of_undecomposed settings h with hteams | ⟨endpoint, htenant⟩ | hmissing
  · refine ⟨.ok false, .inl rfl, ?_⟩
    intro teams network principal
    simp [hteams, GroupClient.authorize, h]
  · refine ⟨.error (Tenant.nameError group), .inr (.inl ⟨_, rfl⟩), ?_⟩
    intro teams network principal
    simp [htenant, GroupClient.authorize, hsegments]
  · refine ⟨.error (GroupClient.missing "delegated tenant" group.domain),
      .inr (.inr ⟨_, rfl⟩), ?_⟩
    intro teams network principal
    rw [hmissing]

/-- A group without parts that was read from a raw text is refused, whatever was
asked before: no team is looked up and nothing is sent, so that no membership and no
reply has a part in it.  In a name without slashes a tenant finds the parts of the
group, in others none. -/
theorem authorize_undecomposed {caller : Domain} {raw : String}
    (hgroup : Group.parse caller raw = .ok group) (settings : AuthorizationSettings) :
    (group.parts = none →
      ∃ refusal : Except GatewayError Bool,
        (refusal = .ok false ∨ (∃ reason, refusal = .error (.notAuthorized reason)) ∨
          ∃ reason, refusal = .error (.serviceUnavailable reason)) ∧
          ∀ (events : List Event) (teams : TeamRepository) (network : Network)
              (principal : Principal),
            let dispatcher := ((ofSettings settings).run events).2
            let asked := dispatcher.authorize teams network group principal
            asked.1 = refusal ∧ asked.2.2 = (teams, network)) ∧
      ∀ parts, group.parts = some parts →
        Tenant.segments? group.name =
          if '/' ∈ group.name.toList then none
          else some (parts.org, parts.assembly, parts.env) := by
  refine ⟨?_, fun parts => Tenant.segments?_of_parts⟩
  intro hparts
  obtain ⟨refusal, hrefusal, hafresh⟩ :=
    authorizeAfresh_of_undecomposed settings hparts (Tenant.segments?_eq_none hgroup hparts)
  refine ⟨refusal, hrefusal, ?_⟩
  intro events teams network principal
  obtain ⟨-, hkeeps⟩ := (keepsBuilt_ofSettings settings).run events
  obtain ⟨decisions, hasked⟩ := hkeeps.authorize_eq teams network group principal
  dsimp only
  rw [hasked, hafresh teams network principal]
  exact ⟨rfl, rfl⟩

/-- With an empty beginning every other group belongs to the managed service, and a
group without parts to a tenant nobody knows. -/
theorem authorize_undecomposed_of_tenant :
    Group.parse .prod "stg_a_b_/_d" = .ok (Group.ofName .stg "a_b_/_d") ∧
      (Group.ofName .stg "a_b_/_d").parts = none ∧
        ∃ refusal : Except GatewayError Bool,
          (refusal = .ok false ∨ (∃ reason, refusal = .error (.notAuthorized reason)) ∨
            ∃ reason, refusal = .error (.serviceUnavailable reason)) ∧
            ∀ (events : List Event) (teams : TeamRepository) (network : Network)
                (principal : Principal),
              let settings : AuthorizationSettings :=
                { managedOrgPrefix := "", delegatedDomainPrefix := "" }
              let dispatcher := ((ofSettings settings).run events).2
              let asked := dispatcher.authorize teams network (Group.ofName .stg "a_b_/_d")
                principal
              asked.1 = refusal ∧ asked.2.2 = (teams, network) := by
  have hsplit : Text.split '_' "stg_a_b_/_d" = ["stg", "a", "b", "/", "d"] := by decide +kernel
  have hdomain : Domain.ofToken? "stg" = some .stg := by decide +kernel
  have hjoin : "_".intercalate ["a", "b", "/", "d"] = "a_b_/_d" := by decide +kernel
  have hparse : Group.parse .prod "stg_a_b_/_d" = .ok (Group.ofName .stg "a_b_/_d") := by
    rw [Group.parse, hsplit]
    dsimp only
    rw [hdomain, hjoin]
  have hparts : (Group.ofName .stg "a_b_/_d").parts = none := by decide +kernel
  exact ⟨hparse, hparts, (authorize_undecomposed hparse _).1 hparts⟩

end Dispatcher

end AccessGateway
