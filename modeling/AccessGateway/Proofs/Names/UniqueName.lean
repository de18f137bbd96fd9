import AccessGateway.Names.SecretName
import AccessGateway.Proofs.Text.Separators

/-!
# Unique names can be read back

A unique name is cut at its last `@` and then at the first `_`.  Group names
may hold both characters, but a domain token holds no `_` and a short name no
`@`, so both cuts fall where the name was joined.  The parts of the group are
those of its name again, whatever the name is.
-/

namespace AccessGateway

theorem Domain.underscore_not_mem_token (domain : Domain) :
    '_' ∉ domain.token.toList := by
  cases domain <;> decide

namespace Group

theorem splitOnce?_qualifiedName (group : Group) :
    Text.splitOnce? '_' group.qualifiedName = some (group.domain.token, group.name) := by
  apply Text.splitOnce?_eq_some
  · simp [qualifiedName]
  · exact group.domain.underscore_not_mem_token

/-- Groups of different domains or names have different qualified names: the
domain ends at the first `_`. -/
theorem qualifiedName_injective {a b : Group}
    (h : a.qualifiedName = b.qualifiedName) : a = b := by
  have hsplit := a.splitOnce?_qualifiedName
  rw [h, b.splitOnce?_qualifiedName] at hsplit
  simp only [Option.some.injEq, Prod.mk.injEq] at hsplit
  exact eq_of_domain_of_name (Domain.token_injective hsplit.1.symm) hsplit.2.symm

/-- The groups whose name is not empty: those that are read from a raw text,
and those that are made of a name that is not empty. -/
inductive Named : Group → Prop where
  | parsed {caller : Domain} {raw : String} {group : Group}
      (h : parse caller raw = .ok group) : Named group
  | named (domain : Domain) {name : String} (h : name ≠ "") :
      Named (ofName domain name)

private theorem underscore_mem_intercalate (a b : String) (rest : List String) :
    '_' ∈ ("_".intercalate (a :: b :: rest)).toList := by
  simp [String.intercalate_cons_cons]

theorem name_ne_empty_of_parse {caller : Domain} {raw : String} {group : Group}
    (h : parse caller raw = .ok group) : group.name ≠ "" := by
  unfold parse at h
  split at h
  next org assembly env hsplit =>
    split at h
    · cases h
    · cases h
      intro hempty
      simp only [name_ofName] at hempty
      subst hempty
      simp [Text.split, Text.pieces] at hsplit
  next first a b c rest hsplit =>
    split at h
    · cases h
      intro hempty
      have hmem := underscore_mem_intercalate a b (c :: rest)
      rw [name_ofName] at hempty
      rw [hempty] at hmem
      simp at hmem
    · cases h
  · cases h

theorem Named.name_ne_empty {group : Group} (h : group.Named) : group.name ≠ "" := by
  cases h with
  | parsed h => exact name_ne_empty_of_parse h
  | named domain h => exact h

end Group

namespace SecretName

theorem ofShort_eq_ok_iff {short : String} {group : Group} {name : SecretName} :
    ofShort short group = .ok name ↔ isShortName short = true ∧ name = ⟨short, group⟩ := by
  unfold ofShort
  split
  next h => simp [h, eq_comm]
  next h => simp [h]

theorem at_not_mem_of_isShortName {short : String} (h : isShortName short = true) :
    '@' ∉ short.toList := by
  simp only [isShortName, Bool.and_eq_true, Bool.not_eq_true'] at h
  simpa using h.2

/-- A short name in a group is found again in its unique name. -/
theorem ofUniqueName_of_isShortName {short : String} {group : Group}
    (hshort : isShortName short = true) (hname : group.name ≠ "") :
    ofUniqueName (uniqueName ⟨short, group⟩) = .ok ⟨short, group⟩ := by
  have hcut :
      Text.rsplitOnce? '@' (uniqueName ⟨short, group⟩) =
        some (group.qualifiedName, short) := by
    apply Text.rsplitOnce?_eq_some
    · simp [uniqueName]
    · exact at_not_mem_of_isShortName hshort
  have hfull : group.name.isEmpty = false := by simpa using hname
  unfold ofUniqueName
  simp only [hcut, group.splitOnce?_qualifiedName, hfull, Domain.ofToken?_token]
  exact ofShort_eq_ok_iff.mpr ⟨hshort, by rw [← group.eq_ofName]⟩

/-- Reading a unique name gives the short name and the whole group back, and
no two names of secrets have one unique name. -/
theorem ofUniqueName_uniqueName {group : Group} {short : String} {name : SecretName}
    (hgroup : group.Named) (hname : ofShort short group = .ok name) :
    ofUniqueName name.uniqueName = .ok name ∧
      name.short = short ∧ name.group = group ∧
      ∀ {otherGroup : Group} {otherShort : String} {other : SecretName},
        otherGroup.Named → ofShort otherShort otherGroup = .ok other →
          other.uniqueName = name.uniqueName →
            otherGroup = group ∧ otherShort = short := by
  obtain ⟨hshort, rfl⟩ := ofShort_eq_ok_iff.mp hname
  have hback := ofUniqueName_of_isShortName hshort hgroup.name_ne_empty
  refine ⟨hback, rfl, rfl, ?_⟩
  intro otherGroup otherShort other hother hofShort hsame
  obtain ⟨hotherShort, rfl⟩ := ofShort_eq_ok_iff.mp hofShort
  have hotherBack := ofUniqueName_of_isShortName hotherShort hother.name_ne_empty
  rw [hsame, hback] at hotherBack
  simp only [Except.ok.injEq, SecretName.mk.injEq] at hotherBack
  exact ⟨hotherBack.2.symm, hotherBack.1.symm⟩

/-- Here the domain is the one the raw text begins with, and the name of the
group holds every separator. -/
theorem ofUniqueName_uniqueName_of_separators :
    Group.parse .dev "Tenant-PROD_or@g_a__b/c" =
        .ok (Group.ofName .tenantProd "or@g_a__b/c") ∧
      ofShort "x_y" (Group.ofName .tenantProd "or@g_a__b/c") =
        .ok ⟨"x_y", Group.ofName .tenantProd "or@g_a__b/c"⟩ ∧
      ofUniqueName (uniqueName ⟨"x_y", Group.ofName .tenantProd "or@g_a__b/c"⟩) =
        .ok ⟨"x_y", Group.ofName .tenantProd "or@g_a__b/c"⟩ := by
  have hsplit : Text.split '_' "Tenant-PROD_or@g_a__b/c" =
      ["Tenant-PROD", "or@g", "a", "", "b/c"] := by decide +kernel
  have hdomain : Domain.ofToken? "Tenant-PROD" = some .tenantProd := by decide +kernel
  have hjoin : "_".intercalate ["or@g", "a", "", "b/c"] = "or@g_a__b/c" := by decide +kernel
  have hparse :
      Group.parse .dev "Tenant-PROD_or@g_a__b/c" =
        .ok (Group.ofName .tenantProd "or@g_a__b/c") := by
    rw [Group.parse, hsplit]
    dsimp only
    rw [hdomain, hjoin]
  have hshort :
      ofShort "x_y" (Group.ofName .tenantProd "or@g_a__b/c") =
        .ok ⟨"x_y", Group.ofName .tenantProd "or@g_a__b/c"⟩ :=
    ofShort_eq_ok_iff.mpr ⟨by decide +kernel, rfl⟩
  exact ⟨hparse, hshort, (ofUniqueName_uniqueName (.parsed hparse) hshort).1⟩

end SecretName

end AccessGateway
