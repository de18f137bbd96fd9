import AccessGateway.Http.Headers
import AccessGateway.Proofs.Text.Trimming
import AccessGateway.Token.Service

/-!
# Presenting a token

The value of a header presents a token behind a word.  Blanks may stand around both, and
have to stand between them unless the word is empty or ends in a blank itself.  Exactly
the values of this form have a token, which may hold blanks but neither begins nor ends
with one.  A word and a token of printable characters are visible in a header.
-/

namespace AccessGateway

/-- The blanks of a value: before the word, between the word and the token, and at the end. -/
structure TokenSpacing (word : String) where
  before : String
  gap : String
  after : String
  before_blank : Text.isBlankText before = true
  gap_blank : Text.isBlankText gap = true
  after_blank : Text.isBlankText after = true
  gap_ne : (∀ c ∈ word.toList.getLast?, Text.isBlank c = true) ∨ gap ≠ ""

def TokenSpacing.text {word : String} (spacing : TokenSpacing word) (token : String) : String :=
  spacing.before ++ word ++ spacing.gap ++ token ++ spacing.after

/-- A value has a token if blanks and the word stand at its front, the word is set off from the
rest, and something is left of the rest between its blanks. -/
theorem extractToken_eq_some_iff {value word token : String} :
    extractToken value word = some token ↔
      ∃ rest, Text.dropBlank value.toList = word.toList ++ rest ∧
        ((∀ c ∈ word.toList.getLast?, Text.isBlank c = true) ∨
          ∀ c ∈ rest.head?, Text.isBlank c = true) ∧
        Text.trimChars rest = token.toList ∧ token ≠ "" := by
  unfold extractToken
  cases hword : Text.dropPrefix? word.toList (Text.dropBlank value.toList) with
  | none =>
      simp only [reduceCtorEq, false_iff]
      rintro ⟨rest, hvalue, -⟩
      rw [Text.dropPrefix?_eq_some_iff.mpr hvalue] at hword
      cases hword
  | some rest =>
      rw [Text.dropPrefix?_eq_some_iff.mp hword]
      simp only [List.append_cancel_left_eq, exists_eq_left']
      rw [Option.ite_none_left_eq_some, Text.ite_isEmpty_eq_some_iff]
      apply and_congr_left'
      cases word.toList.getLast? <;> cases rest <;> simp [or_iff_not_imp_left]

namespace TokenSpacing

variable {word token : String}

theorem toList_text (spacing : TokenSpacing word) (token : String) :
    (spacing.text token).toList = spacing.before.toList ++
      (word.toList ++ (spacing.gap.toList ++ token.toList ++ spacing.after.toList)) := by
  simp [text]

theorem extractToken_text (spacing : TokenSpacing word)
    (hword : ∀ c ∈ word.toList.head?, Text.isBlank c = false) (hne : token ≠ "")
    (htight : Text.IsTight token.toList) : extractToken (spacing.text token) word = some token := by
  have hbefore := Text.isBlankText_iff.mp spacing.before_blank
  have hgap := Text.isBlankText_iff.mp spacing.gap_blank
  have hafter := Text.isBlankText_iff.mp spacing.after_blank
  have hchars : token.toList ≠ [] := by simpa using hne
  rw [extractToken_eq_some_iff, toList_text, Text.dropBlank_append hbefore]
  by_cases hempty : word.toList = []
  · -- the gap is dropped with the blanks at the front
    have hfirst : Text.dropBlank (token.toList ++ spacing.after.toList) =
        token.toList ++ spacing.after.toList := by
      apply Text.dropBlank_eq_self_iff.mpr
      rw [List.head?_append_of_ne_nil _ hchars]
      exact htight.front
    refine ⟨token.toList ++ spacing.after.toList, ?_, .inl ?_, ?_, hne⟩
    · rw [hempty, List.nil_append, List.nil_append, List.append_assoc,
        Text.dropBlank_append hgap, hfirst]
    · simp [hempty]
    · exact Text.trimChars_append_of_blank htight hafter
  · refine ⟨_, ?_, spacing.gap_ne.imp_right ?_, Text.trimChars_between hgap htight hafter, hne⟩
    · apply Text.dropBlank_eq_self_iff.mpr
      rw [List.head?_append_of_ne_nil _ hempty]
      exact hword
    · intro hgapNe c hc
      have hgapChars : spacing.gap.toList ≠ [] := by simpa using hgapNe
      rw [List.append_assoc, List.head?_append_of_ne_nil _ hgapChars] at hc
      exact hgap c (List.mem_of_mem_head? hc)

theorem exists_text {value : String} (h : extractToken value word = some token) :
    ∃ spacing : TokenSpacing word, value = spacing.text token := by
  obtain ⟨rest, hvalue, hoff, htrim, hne⟩ := extractToken_eq_some_iff.mp h
  obtain ⟨before, hbefore, hfront⟩ := Text.exists_dropBlank value.toList
  obtain ⟨htight, gap, after, hgap, hafter, hrest⟩ := Text.trimChars_eq_iff.mp htrim
  have hgapNe : (∀ c ∈ word.toList.getLast?, Text.isBlank c = true) ∨ String.ofList gap ≠ "" := by
    refine hoff.imp_right ?_
    -- without a gap the character behind the word is the first one of the token, which is no blank
    intro hblank hnone
    obtain rfl : gap = [] := by simpa using hnone
    obtain ⟨c, chars, htoken⟩ := List.exists_cons_of_ne_nil (by simpa using hne : token.toList ≠ [])
    rw [hrest, htoken] at hblank
    rw [htoken] at htight
    exact absurd (hblank c rfl) (by simp [htight.front c rfl])
  refine ⟨⟨.ofList before, .ofList gap, .ofList after, ?_, ?_, ?_, hgapNe⟩, ?_⟩
  · simpa [Text.isBlankText_iff] using hbefore
  · simpa [Text.isBlankText_iff] using hgap
  · simpa [Text.isBlankText_iff] using hafter
  · rw [← String.toList_inj, toList_text, hfront, hvalue, hrest]
    simp

end TokenSpacing

theorem extractToken_between {word token front back : String}
    (hword : ∀ c ∈ word.toList.head?, Text.isBlank c = false) (hne : token ≠ "")
    (htight : Text.IsTight token.toList) (hfront : Text.isBlankText front = true)
    (hback : Text.isBlankText back = true) :
    extractToken (front ++ (word ++ " " ++ token) ++ back) word = some token := by
  let spacing : TokenSpacing word := {
    before := front
    gap := " "
    after := back
    before_blank := hfront
    gap_blank := by decide
    after_blank := hback
    gap_ne := .inr (by decide) }
  have htext : front ++ (word ++ " " ++ token) ++ back = spacing.text token := by
    simp [spacing, TokenSpacing.text, String.append_assoc]
  rw [htext]
  exact spacing.extractToken_text hword hne htight

theorem extractToken_single {word token : String}
    (hword : ∀ c ∈ word.toList.head?, Text.isBlank c = false) (hne : token ≠ "")
    (htight : Text.IsTight token.toList) :
    extractToken (word ++ " " ++ token) word = some token := by
  have hnone : Text.isBlankText "" = true := rfl
  simpa using extractToken_between hword hne htight hnone hnone

theorem extractToken_append {word token : String} (hword : Text.trimStart word = word)
    (hne : token.toList ≠ []) (htoken : ∀ c ∈ token.toList, Text.isBlank c = false) :
    extractToken (word ++ " " ++ token) word = some token := by
  rw [← String.toList_inj, Text.toList_trimStart, Text.dropBlank_eq_self_iff] at hword
  exact extractToken_single hword (by simpa using hne) (Text.isTight_of_forall htoken)

/-- A word that only begins the one in the value has no token. -/
theorem extractToken_longer_word {before word rest : String} {last c : Char}
    (hbefore : Text.isBlankText before = true)
    (hword : ∀ c ∈ word.toList.head?, Text.isBlank c = false)
    (hlast : last ∈ word.toList.getLast?) (hend : Text.isBlank last = false)
    (hc : Text.isBlank c = false) :
    extractToken (before ++ word ++ String.singleton c ++ rest) word = none := by
  have hne : word.toList ≠ [] := List.ne_nil_of_mem (List.mem_of_getLast? hlast)
  have hfront : Text.dropBlank (word.toList ++ c :: rest.toList) =
      word.toList ++ c :: rest.toList := by
    apply Text.dropBlank_eq_self_iff.mpr
    rw [List.head?_append_of_ne_nil _ hne]
    exact hword
  have hvalue : Text.dropBlank (before ++ word ++ String.singleton c ++ rest).toList =
      word.toList ++ c :: rest.toList := by
    simpa [Text.dropBlank_append (Text.isBlankText_iff.mp hbefore)] using hfront
  rw [Option.eq_none_iff_forall_ne_some]
  intro token htoken
  obtain ⟨tail, hdrop, hoff, -⟩ := extractToken_eq_some_iff.mp htoken
  obtain rfl : c :: rest.toList = tail := List.append_cancel_left (hvalue.symm.trans hdrop)
  rcases hoff with hblank | hblank
  · exact absurd (hblank last hlast) (by simp [hend])
  · exact absurd (hblank c rfl) (by simp [hc])

/-- Exactly the values that present a token behind the word have it, and it is read as it is.
A word that only begins the one in the value does not count, and one blank is enough. -/
theorem extractToken_reads_spaced {word : String}
    (hword : ∀ c ∈ word.toList.head?, Text.isBlank c = false) :
    (∀ value token, extractToken value word = some token ↔
        (∃ spacing : TokenSpacing word, value = spacing.text token) ∧
          token ≠ "" ∧ Text.IsTight token.toList) ∧
      (∀ before c rest, Text.isBlankText before = true →
        (∃ last ∈ word.toList.getLast?, Text.isBlank last = false) → Text.isBlank c = false →
          extractToken (before ++ word ++ String.singleton c ++ rest) word = none) ∧
      ∀ token, token ≠ "" → Text.IsTight token.toList →
        extractToken (word ++ " " ++ token) word = some token ∧
          ∀ front back, Text.isBlankText front = true → Text.isBlankText back = true →
            extractToken (front ++ (word ++ " " ++ token) ++ back) word = some token := by
  refine ⟨?_, ?_, ?_⟩
  · intro value token
    constructor
    · intro h
      obtain ⟨rest, -, -, htrim, hne⟩ := extractToken_eq_some_iff.mp h
      exact ⟨TokenSpacing.exists_text h, hne, (Text.trimChars_eq_iff.mp htrim).1⟩
    · rintro ⟨⟨spacing, rfl⟩, hne, htight⟩
      exact spacing.extractToken_text hword hne htight
  · rintro before c rest hbefore ⟨last, hlast, hend⟩ hc
    exact extractToken_longer_word hbefore hword hlast hend hc
  · intro token hne htight
    refine ⟨extractToken_single hword hne htight, ?_⟩
    intro front back hfront hback
    exact extractToken_between hword hne htight hfront hback

/-- A token with a blank inside, behind a tab and between wider blanks; without the blank behind
the word there is none. -/
theorem extractToken_reads_spaced_of_bearer :
    (∀ c ∈ "Bearer".toList.head?, Text.isBlank c = false) ∧
      extractToken "\tBearer\u3000 a b\u00a0" "Bearer" = some "a b" ∧
      extractToken "\tBearera b" "Bearer" = none ∧
      extractToken "\u2003Bearer a b\n" "Bearer" = some "a b" := by
  have hword : ∀ c ∈ "Bearer".toList.head?, Text.isBlank c = false := by simp [Text.isBlank]
  obtain ⟨hexact, hlonger, hsingle⟩ := extractToken_reads_spaced hword
  have htight : Text.IsTight "a b".toList := {
    front := by simp [Text.isBlank]
    back := by simp [Text.isBlank] }
  let spacing : TokenSpacing "Bearer" := {
    before := "\t"
    gap := "\u3000 "
    after := "\u00a0"
    before_blank := by decide
    gap_blank := by decide
    after_blank := by decide
    gap_ne := .inr (by decide) }
  refine ⟨hword, (hexact _ "a b").mpr ⟨⟨spacing, by decide⟩, by decide, htight⟩, ?_, ?_⟩
  · exact hlonger "\t" 'a' " b" (by decide) ⟨'r', by decide, by decide⟩ (by decide)
  · exact (hsingle "a b" (by decide) htight).2 "\u2003" "\n" (by decide) (by decide)

theorem mem_of_extractToken {value word token : String}
    (h : extractToken value word = some token) {c : Char} (hc : c ∈ token.toList) :
    c ∈ value.toList := by
  obtain ⟨rest, hrest, -, htoken, -⟩ := extractToken_eq_some_iff.mp h
  rw [← htoken] at hc
  have hvalue : c ∈ Text.dropBlank value.toList := by
    rw [hrest]
    exact List.mem_append_right _ (Text.mem_of_mem_trimChars hc)
  exact (List.dropWhile_sublist _).subset hvalue

namespace Headers

theorem isVisible_append {front back : String} (hfront : isVisible front = true)
    (hback : isVisible back = true) : isVisible (front ++ back) = true := by
  unfold isVisible at hfront hback ⊢
  rw [String.toList_append, List.all_append, hfront, hback]
  rfl

theorem isVisible_of_printable {value : String}
    (h : ∀ c ∈ value.toList, Text.Ascii.isPrintable c = true) : isVisible value = true := by
  rw [isVisible, List.all_eq_true]
  intro c hc
  simp [h c hc]

end Headers

end AccessGateway
