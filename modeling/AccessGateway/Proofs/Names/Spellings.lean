import AccessGateway.Proofs.Authorization.Undecomposed
import AccessGateway.Proofs.Url.CodedSegments

/-!
# Spellings of a group

A group that was read can be called by its name after the token of its domain, in
any letter case.  This is the same group for callers of every domain: the domain of
the caller is that of the group only where three pieces are all there is.
-/

namespace AccessGateway

open Text

theorem Domain.not_blank_of_token (domain : Domain) :
    domain.token.toList.all (fun c => !isBlank c && !isBlank c.toUpper) = true := by
  cases domain <;> decide

/-- A text that is a token in lower case is read as the domain of the token. -/
theorem Domain.ofToken?_of_lower {domain : Domain} {spelling : String}
    (h : Ascii.lower spelling = domain.token) : ofToken? spelling = some domain := by
  have hblank : ∀ c ∈ spelling.toList, isBlank c = false := by
    intro c hc
    have hlower : Ascii.lowerChar c ∈ domain.token.toList := by
      rw [← h, Ascii.toList_lower]
      exact List.mem_map_of_mem hc
    have hletter := List.all_eq_true.mp domain.not_blank_of_token _ hlower
    simp only [Bool.and_eq_true, Bool.not_eq_true'] at hletter
    rcases Url.eq_or_eq_toUpper_of_toLower (d := Ascii.lowerChar c) rfl with heq | heq
    · rw [heq]
      exact hletter.1
    · rw [heq]
      exact hletter.2
  have htrim : trim spelling = spelling := by
    rw [trim, trimChars_eq_self hblank, String.ofList_toList]
  rw [ofToken?, normalize, htrim, h, replaceChar_eq_self domain.underscore_not_mem_token]
  cases domain <;> rfl

theorem Text.split_append {separator : Char} {before : String} (after : String)
    (h : separator ∉ before.toList) :
    split separator (before ++ String.singleton separator ++ after) =
      before :: split separator after := by
  rw [split, split, String.toList_append, String.toList_append, String.toList_singleton,
    List.append_assoc, List.singleton_append, pieces_append_cons _ h, List.map_cons,
    String.ofList_toList]

theorem Text.intercalate_split (separator : Char) (s : String) :
    (String.singleton separator).intercalate (split separator s) = s := by
  rw [← String.toList_inj, String.toList_intercalate, String.toList_singleton]
  exact (of_split_eq rfl).1.symm

namespace Group

/-- Callers of every domain reach a group under its name and its domain's token. -/
theorem parse_spelled {caller : Domain} {raw : String} {group : Group}
    (h : parse caller raw = .ok group) (other : Domain) {spelling : String}
    (hspelling : Ascii.lower spelling = group.domain.token) :
    parse other (spelling ++ "_" ++ group.name) = .ok group := by
  have hfree : '_' ∉ spelling.toList := by
    intro hmem
    apply group.domain.underscore_not_mem_token
    rw [← hspelling, Ascii.toList_lower]
    exact List.mem_map_of_mem hmem
  have hpieces : 3 ≤ (split '_' group.name).length := by
    rw [length_split]
    exact Nat.succ_le_succ (two_le_count_of_parse h)
  have hjoin : "_".intercalate (split '_' group.name) = group.name :=
    intercalate_split '_' group.name
  have hsplit : split '_' (spelling ++ "_" ++ group.name) =
      spelling :: split '_' group.name := split_append group.name hfree
  generalize split '_' group.name = pieces at hpieces hjoin hsplit
  obtain ⟨a, b, c, rest, rfl⟩ : ∃ a b c rest, pieces = a :: b :: c :: rest := by
    rcases pieces with _ | ⟨a, _ | ⟨b, _ | ⟨c, rest⟩⟩⟩
    · cases hpieces
    · exact absurd hpieces (by simp)
    · exact absurd hpieces (by simp)
    · exact ⟨a, b, c, rest, rfl⟩
  rw [parse, hsplit]
  simp only [Domain.ofToken?_of_lower hspelling, hjoin]
  rw [← group.eq_ofName]

theorem parse_of_three {raw : String} (hlength : (split '_' raw).length = 3)
    (hblank : ∀ piece ∈ split '_' raw, isBlankText piece = false) (caller : Domain) :
    parse caller raw = .ok (ofName caller raw) := by
  obtain ⟨org, assembly, env, hsplit⟩ := List.length_eq_three.mp hlength
  have hnone : [org, assembly, env].any isBlankText = false := by
    rw [List.any_eq_false]
    intro piece hpiece
    simp [hblank piece (hsplit ▸ hpiece)]
  simp [parse, hsplit, hnone]

/-- Without three pieces to be taken as they are, a raw text means the same to every caller. -/
theorem parse_congr {raw : String}
    (h : ¬((split '_' raw).length = 3 ∧ ∀ piece ∈ split '_' raw, isBlankText piece = false))
    (caller other : Domain) : parse other raw = parse caller raw := by
  unfold parse
  split
  next org assembly env hsplit =>
    split
    · rfl
    next hblank =>
      refine absurd ⟨by simp [hsplit], ?_⟩ h
      intro piece hpiece
      rw [hsplit] at hpiece
      simpa using List.any_eq_false.mp (Bool.not_eq_true _ ▸ hblank) piece hpiece
  · rfl
  · rfl

/-- The qualified name of a group that was read is read as this group for callers of every
domain.  A raw text is read differently for different callers exactly if it has three pieces and
none of them is blank. -/
theorem parse_qualifiedName (caller : Domain) (raw : String) :
    (∀ group, parse caller raw = .ok group →
        ∀ other, parse other group.qualifiedName = .ok group) ∧
      ((∃ other, parse other raw ≠ parse caller raw) ↔
        (split '_' raw).length = 3 ∧ ∀ piece ∈ split '_' raw, isBlankText piece = false) := by
  refine ⟨?_, ?_, ?_⟩
  · intro group hgroup other
    exact parse_spelled hgroup other (by cases group.domain <;> decide +kernel)
  · rintro ⟨other, hdiffers⟩
    by_contra hpieces
    exact hdiffers (parse_congr hpieces caller other)
  · rintro ⟨hlength, hblank⟩
    obtain ⟨other, hother⟩ : ∃ other : Domain, other ≠ caller := by
      rcases eq_or_ne caller .prod with rfl | hprod
      · exact ⟨.stg, by decide⟩
      · exact ⟨.prod, hprod.symm⟩
    refine ⟨other, ?_⟩
    rw [parse_of_three hlength hblank, parse_of_three hlength hblank]
    intro hsame
    exact hother (congrArg Group.domain (Except.ok.inj hsame))

theorem parse_qualifiedName_of_three :
    let group := ofName .stg "acme_web_blue"
    parse .stg "acme_web_blue" = .ok group ∧ group.qualifiedName = "stg_acme_web_blue" ∧
      parse .prod group.qualifiedName = .ok group := by
  intro group
  have hread : parse .stg "acme_web_blue" = .ok group :=
    parse_of_three (by decide +kernel) (by decide +kernel) .stg
  exact ⟨hread, by decide +kernel, (parse_qualifiedName .stg "acme_web_blue").1 group hread .prod⟩

end Group

end AccessGateway
