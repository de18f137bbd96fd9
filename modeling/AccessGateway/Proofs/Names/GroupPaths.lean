import AccessGateway.Proofs.Authorization.Undecomposed
import AccessGateway.Proofs.Text.PercentWords

/-!
# Paths of groups

The path of a group is made of the words that tell the group, in percent code and a slash
before each.  A code holds no slash, so cutting at the slashes gives the codes, and reading
these gives the words: four of a group with parts and two of any other.
-/

namespace AccessGateway

open Text

theorem Text.Percent.slash_not_mem_encode (s : String) : '/' ∉ (Percent.encode s).toList := by
  intro hslash
  have hword := Percent.isWordChar_of_mem_encode hslash
  revert hword
  decide

theorem Domain.encode_token (domain : Domain) : Percent.encode domain.token = domain.token := by
  cases domain <;> decide +kernel

namespace Group

/-- The domain and the parts of a group, or the domain and the name where it has no parts. -/
def words (group : Group) : List String :=
  group.domain.token ::
    match group.parts with
    | some parts => [parts.org, parts.assembly, parts.env]
    | none => [group.name]

theorem canonicalPath_eq (group : Group) :
    group.canonicalPath = "/" ++ "/".intercalate (group.words.map Percent.encode) := by
  rw [canonicalPath, words]
  cases group.parts <;>
    simp [String.intercalate_cons_cons, Domain.encode_token, String.append_assoc]

theorem split_words (group : Group) :
    split '/' ("/".intercalate (group.words.map Percent.encode)) =
      group.words.map Percent.encode := by
  apply split_intercalate
  · simp [words]
  · intro code hcode
    obtain ⟨word, -, rfl⟩ := List.mem_map.mp hcode
    exact Percent.slash_not_mem_encode word

theorem name_of_parts {group : Group} {parts : GroupParts} (h : group.parts = some parts) :
    group.name = "_".intercalate [parts.org, parts.assembly, parts.env] := by
  rw [group.parts_eq] at h
  unfold GroupParts.ofName? at h
  split at h
  next org assembly env hsplit =>
    split at h
    · cases h
    · cases h
      rw [← String.toList_inj, (of_split_eq hsplit).1, String.toList_intercalate]
      rfl
  · cases h

theorem words_injective {a b : Group} (h : a.words = b.words) : a = b := by
  obtain ⟨htoken, hrest⟩ := List.cons.inj h
  refine eq_of_domain_of_name (Domain.token_injective htoken) ?_
  cases ha : a.parts with
  | none =>
      cases hb : b.parts with
      | none => simpa [ha, hb] using hrest
      | some parts => simp [ha, hb] at hrest
  | some parts =>
      cases hb : b.parts with
      | none => simp [ha, hb] at hrest
      | some others =>
          simp only [ha, hb, List.cons.injEq, and_true] at hrest
          rw [name_of_parts ha, name_of_parts hb, hrest.1, hrest.2.1, hrest.2.2]

/-- Behind its first slash the path of a group is cut at slashes into codes of the words of the
group, so groups with one path are one group. -/
theorem split_canonicalPath (group : Group) :
    (∃ coded, stripStart? "/" group.canonicalPath = some coded ∧
        (split '/' coded).map Percent.decode? = group.words.map some) ∧
      ∀ other : Group, other.canonicalPath = group.canonicalPath ↔ other = group := by
  have hread : ∀ group : Group, stripStart? "/" group.canonicalPath =
      some ("/".intercalate (group.words.map Percent.encode)) := by
    intro group
    rw [stripStart?, canonicalPath_eq, String.toList_append, dropPrefix?_eq_some_iff.mpr rfl,
      Option.map_some, String.ofList_toList]
  refine ⟨⟨_, hread group, by simp [split_words, Function.comp_def]⟩, ?_⟩
  intro other
  constructor
  · intro hpath
    have hcoded := hread other
    rw [hpath, hread group, Option.some.injEq] at hcoded
    have hcodes := congrArg (split '/') hcoded
    rw [split_words, split_words] at hcodes
    exact words_injective (List.map_injective_iff.mpr (fun _ _ => Percent.encode_injective)
      hcodes.symm)
  · rintro rfl
    rfl

end Group

end AccessGateway
