import AccessGateway.Error
import AccessGateway.Proofs.Names.Spellings

/-!
# The forms of a unique name

Only the token of the domain may be written in more ways than one: in any letter
case and between blanks.  Reading a unique name forgets how it was written, so
writing the name again spells the token in its one canonical way and leaves the
rest as it is.
-/

namespace AccessGateway

open Text

namespace Domain

theorem underscore_not_mem_lower_trim {s : String} (h : '_' ∉ s.toList) :
    '_' ∉ (Ascii.lower (trim s)).toList := by
  rw [Ascii.toList_lower, toList_trim]
  intro hmem
  obtain ⟨c, hc, hlower⟩ := List.mem_map.mp hmem
  have hkept : c ∈ s.toList := mem_of_mem_trimChars hc
  rcases Url.eq_or_eq_toUpper_of_toLower hlower with rfl | rfl
  · exact h hkept
  · exact h hkept

/-- Without an underscore a text names the domain whose token it is, but for letter case and
blanks around it. -/
theorem ofToken?_eq_some_iff {s : String} (h : '_' ∉ s.toList) {domain : Domain} :
    ofToken? s = some domain ↔ Ascii.lower (trim s) = domain.token := by
  rw [ofToken?, normalize, replaceChar_eq_self (underscore_not_mem_lower_trim h)]
  constructor
  · intro hfind
    have htoken := List.find?_some hfind
    rw [beq_iff_eq] at htoken
    exact htoken.symm
  · intro htoken
    rw [htoken]
    cases domain <;> rfl

end Domain

namespace SecretName

/-- A way to write a unique name. -/
structure Spelling where
  /-- The token of the domain as it is written. -/
  token : String
  domain : Domain
  group : String
  short : String
  token_free : '_' ∉ token.toList
  token_eq : Ascii.lower (trim token) = domain.token
  group_ne : group ≠ ""
  short_not_blank : isBlankText short = false
  short_free : '@' ∉ short.toList

namespace Spelling

def text (spelling : Spelling) : String :=
  spelling.token ++ "_" ++ spelling.group ++ "@" ++ spelling.short

/-- What is written. -/
def name (spelling : Spelling) : SecretName :=
  ⟨spelling.short, .ofName spelling.domain spelling.group⟩

theorem isShortName_short (spelling : Spelling) : isShortName spelling.short = true := by
  simp [isShortName, spelling.short_not_blank, spelling.short_free]

theorem ofUniqueName_text (spelling : Spelling) :
    ofUniqueName spelling.text = .ok spelling.name := by
  have hcut : rsplitOnce? '@' spelling.text =
      some (spelling.token ++ "_" ++ spelling.group, spelling.short) :=
    rsplitOnce?_eq_some (by simp [text]) spelling.short_free
  have hsplit : splitOnce? '_' (spelling.token ++ "_" ++ spelling.group) =
      some (spelling.token, spelling.group) :=
    splitOnce?_eq_some (by simp) spelling.token_free
  have hfull : spelling.group.isEmpty = false := by simpa using spelling.group_ne
  have hdomain : Domain.ofToken? spelling.token = some spelling.domain :=
    (Domain.ofToken?_eq_some_iff spelling.token_free).mpr spelling.token_eq
  simp only [ofUniqueName, hcut, hsplit, hfull, hdomain]
  exact ofShort_eq_ok_iff.mpr ⟨spelling.isShortName_short, rfl⟩

theorem uniqueName_name (spelling : Spelling) : spelling.name.uniqueName =
    spelling.domain.token ++ "_" ++ spelling.group ++ "@" ++ spelling.short := rfl

theorem ofUniqueName_uniqueName_name (spelling : Spelling) :
    ofUniqueName spelling.name.uniqueName = .ok spelling.name :=
  ofUniqueName_of_isShortName spelling.isShortName_short spelling.group_ne

/-- Writing a name again gives the text it was read from only if the token was canonical. -/
theorem uniqueName_eq_text_iff (spelling : Spelling) :
    spelling.name.uniqueName = spelling.text ↔ spelling.token = spelling.domain.token := by
  simp only [uniqueName_name, text, String.append_left_inj]
  exact eq_comm

end Spelling

/-- A text is a spelling of a unique name, or it is refused: as a whole, or for a blank short
name. -/
theorem exists_spelling_or_error (unique : String) :
    (∃ spelling : Spelling, spelling.text = unique) ∨
      ∃ e, ofUniqueName unique = .error e ∧
        (e = .badUniqueName unique ∨
          ∃ short, isBlankText short = true ∧ e = .badShortName short) := by
  unfold ofUniqueName
  cases hcut : rsplitOnce? '@' unique with
  | none => exact .inr ⟨_, rfl, .inl rfl⟩
  | some parts =>
      obtain ⟨qualified, short⟩ := parts
      obtain ⟨hunique, hat⟩ := of_rsplitOnce?_eq_some hcut
      dsimp only
      cases hsplit : splitOnce? '_' qualified with
      | none => exact .inr ⟨_, rfl, .inl rfl⟩
      | some words =>
          obtain ⟨token, group⟩ := words
          obtain ⟨hqualified, hfree⟩ := of_splitOnce?_eq_some hsplit
          dsimp only
          split
          · exact .inr ⟨_, rfl, .inl rfl⟩
          next hgroup =>
            cases hdomain : Domain.ofToken? token with
            | none => exact .inr ⟨_, rfl, .inl rfl⟩
            | some domain =>
                cases hblank : isBlankText short with
                | true =>
                    refine .inr ⟨_, ?_, .inr ⟨short, hblank, rfl⟩⟩
                    simp [ofShort, isShortName, hblank]
                | false =>
                    refine .inl ⟨⟨token, domain, group, short, hfree,
                      (Domain.ofToken?_eq_some_iff hfree).mp hdomain, by simpa using hgroup,
                      hblank, hat⟩, ?_⟩
                    rw [← String.toList_inj, hunique, hqualified]
                    simp [Spelling.text]

/-- Exactly the spellings of a unique name are read.  The name that is read, written again, has
the token of its domain in place of the written one, which changes nothing only if that was the
token itself. -/
theorem ofUniqueName_spelled (unique : String) :
    (∀ name, ofUniqueName unique = .ok name ↔
        ∃ spelling : Spelling, spelling.text = unique ∧ spelling.name = name) ∧
      (∀ spelling : Spelling, spelling.text = unique →
        spelling.name.uniqueName =
            spelling.domain.token ++ "_" ++ spelling.group ++ "@" ++ spelling.short ∧
          ofUniqueName spelling.name.uniqueName = .ok spelling.name ∧
          (spelling.name.uniqueName = unique ↔ spelling.token = spelling.domain.token)) ∧
      ((∀ spelling : Spelling, spelling.text ≠ unique) →
        ∃ e, ofUniqueName unique = .error e ∧ GatewayError.ofName e = .invalidFormat e.message ∧
          (e = .badUniqueName unique ∨
            ∃ short, isBlankText short = true ∧ e = .badShortName short)) := by
  refine ⟨?_, ?_, ?_⟩
  · intro name
    constructor
    · intro hread
      rcases exists_spelling_or_error unique with ⟨spelling, rfl⟩ | ⟨e, herror, -⟩
      · rw [spelling.ofUniqueName_text] at hread
        exact ⟨spelling, rfl, Except.ok.inj hread⟩
      · rw [herror] at hread
        cases hread
    · rintro ⟨spelling, rfl, rfl⟩
      exact spelling.ofUniqueName_text
  · rintro spelling rfl
    exact ⟨spelling.uniqueName_name, spelling.ofUniqueName_uniqueName_name,
      spelling.uniqueName_eq_text_iff⟩
  · intro hnone
    rcases exists_spelling_or_error unique with ⟨spelling, htext⟩ | ⟨e, herror, hcause⟩
    · exact absurd htext (hnone spelling)
    · exact ⟨e, herror, rfl, hcause⟩

/-- The group may hold both separators, and a short name the first one. -/
example : ofUniqueName "\tMS-Prod _a@b_c@x_y" =
    .ok ⟨"x_y", .ofName .managedProd "a@b_c"⟩ := by decide +kernel

end SecretName

end AccessGateway
