import AccessGateway.Text.Blank
import Mathlib.Data.List.DropRight

/-!
# Blanks at the ends

Trimming takes the blanks from both ends of a text, until something else stands there.
What it leaves is the only tight text that stands between blanks in the whole one, so
trimming twice is trimming once.
-/

namespace AccessGateway.Text

/-- No blank stands at either end. -/
structure IsTight (chars : List Char) : Prop where
  front : ∀ c ∈ chars.head?, isBlank c = false
  back : ∀ c ∈ chars.getLast?, isBlank c = false

theorem isTight_of_forall {chars : List Char} (h : ∀ c ∈ chars, isBlank c = false) :
    IsTight chars where
  front := fun c hc => h c (List.mem_of_mem_head? hc)
  back := fun c hc => h c (List.mem_of_getLast? hc)

theorem isBlankText_iff {s : String} :
    isBlankText s = true ↔ ∀ c ∈ s.toList, isBlank c = true := by
  rw [isBlankText, List.all_eq_true]

theorem dropBlank_eq_self_iff {chars : List Char} :
    dropBlank chars = chars ↔ ∀ c ∈ chars.head?, isBlank c = false := by
  cases chars with
  | nil => simp
  | cons first rest =>
      constructor
      · intro h c hc
        cases hc
        exact not_blank_of_dropBlank_eq_self h
      · intro h
        exact dropBlank_cons_of_not_blank (h first rfl)

theorem dropBlank_append {front : List Char} (h : ∀ c ∈ front, isBlank c = true)
    (rest : List Char) : dropBlank (front ++ rest) = dropBlank rest :=
  List.dropWhile_append_of_pos h

theorem dropBlank_dropBlank (chars : List Char) : dropBlank (dropBlank chars) = dropBlank chars :=
  List.dropWhile_idempotent isBlank chars

theorem exists_dropBlank (chars : List Char) :
    ∃ front, (∀ c ∈ front, isBlank c = true) ∧ chars = front ++ dropBlank chars := by
  refine ⟨chars.takeWhile isBlank, ?_, List.takeWhile_append_dropWhile.symm⟩
  intro c hc
  exact List.mem_takeWhile_imp hc

theorem dropBlank_trimChars (chars : List Char) :
    dropBlank (trimChars chars) = trimChars chars := by
  have hstart : trimChars chars <+: dropBlank chars := List.rdropWhile_prefix isBlank _
  have hfront := dropBlank_eq_self_iff.mp (dropBlank_dropBlank chars)
  apply dropBlank_eq_self_iff.mpr
  intro c hc
  obtain ⟨back, hback⟩ := hstart
  apply hfront
  rw [← hback, List.head?_append, hc]
  rfl

theorem isTight_trimChars (chars : List Char) : IsTight (trimChars chars) where
  front := dropBlank_eq_self_iff.mp (dropBlank_trimChars chars)
  back := by
    rw [trimChars, List.getLast?_reverse]
    exact dropBlank_eq_self_iff.mp (dropBlank_dropBlank (dropBlank chars).reverse)

theorem trimChars_append_of_blank {chars back : List Char} (htight : IsTight chars)
    (hback : ∀ c ∈ back, isBlank c = true) : trimChars (chars ++ back) = chars := by
  have hreverse : ∀ c ∈ back.reverse, isBlank c = true := by
    intro c hc
    exact hback c (List.mem_reverse.mp hc)
  have hlast : dropBlank chars.reverse = chars.reverse := by
    apply dropBlank_eq_self_iff.mpr
    rw [List.head?_reverse]
    exact htight.back
  rw [trimChars]
  cases chars with
  | nil =>
      have hnone : dropBlank back = [] := by
        rw [dropBlank_eq_nil_iff, List.all_eq_true]
        exact hback
      rw [List.nil_append, hnone]
      rfl
  | cons c rest =>
      have hfirst : isBlank c = false := htight.front c rfl
      rw [List.cons_append, dropBlank_cons_of_not_blank hfirst, ← List.cons_append,
        List.reverse_append, dropBlank_append hreverse, hlast, List.reverse_reverse]

theorem trimChars_between {front chars back : List Char} (hfront : ∀ c ∈ front, isBlank c = true)
    (htight : IsTight chars) (hback : ∀ c ∈ back, isBlank c = true) :
    trimChars (front ++ chars ++ back) = chars := by
  rw [List.append_assoc, trimChars, dropBlank_append hfront]
  exact trimChars_append_of_blank htight hback

theorem trimChars_of_tight {chars : List Char} (h : IsTight chars) : trimChars chars = chars := by
  have hnone : ∀ c ∈ ([] : List Char), isBlank c = true := by simp
  simpa using trimChars_append_of_blank h hnone

theorem trimChars_trimChars (chars : List Char) : trimChars (trimChars chars) = trimChars chars :=
  trimChars_of_tight (isTight_trimChars chars)

theorem trim_trim (s : String) : trim (trim s) = trim s := by
  rw [trim, toList_trim, trimChars_trimChars, trim]

theorem ite_isEmpty_eq_some_iff {chars : List Char} {s : String} :
    (if chars.isEmpty = true then none else some (String.ofList chars)) = some s ↔
      chars = s.toList ∧ s ≠ "" := by
  rw [Option.ite_none_left_eq_some, Option.some.injEq, ← String.toList_inj, String.toList_ofList,
    and_comm]
  apply and_congr_right
  rintro rfl
  simp

theorem exists_trimChars (chars : List Char) :
    ∃ front back, (∀ c ∈ front, isBlank c = true) ∧ (∀ c ∈ back, isBlank c = true) ∧
      chars = front ++ trimChars chars ++ back := by
  obtain ⟨front, hfront, hchars⟩ := exists_dropBlank chars
  obtain ⟨back, hback, hreverse⟩ := exists_dropBlank (dropBlank chars).reverse
  refine ⟨front, back.reverse, hfront, ?_, ?_⟩
  · intro c hc
    exact hback c (List.mem_reverse.mp hc)
  · have hdropped : dropBlank chars = trimChars chars ++ back.reverse := by
      have hboth := congrArg List.reverse hreverse
      rwa [List.reverse_reverse, List.reverse_append] at hboth
    rw [List.append_assoc, ← hdropped]
    exact hchars

theorem trimChars_eq_iff {chars tight : List Char} :
    trimChars chars = tight ↔
      IsTight tight ∧ ∃ front back, (∀ c ∈ front, isBlank c = true) ∧
        (∀ c ∈ back, isBlank c = true) ∧ chars = front ++ tight ++ back := by
  constructor
  · rintro rfl
    exact ⟨isTight_trimChars chars, exists_trimChars chars⟩
  · rintro ⟨htight, front, back, hfront, hback, rfl⟩
    exact trimChars_between hfront htight hback

end AccessGateway.Text
