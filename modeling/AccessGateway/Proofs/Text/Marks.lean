import AccessGateway.Text.Split
import Mathlib.Data.List.Infix

/-!
# Texts with marked places

Every text is cut at the places of a mark into stretches that hold no mark.  If the first
character of the mark does not come again in it, then no two places overlap, and replacing
the mark keeps the stretches and puts the new text between them.
-/

namespace AccessGateway.Text

/-- Stretches without a mark: one before the first place, and one behind each place. -/
structure Cut (mark : List Char) where
  first : List Char
  others : List (List Char)
  first_unmarked : ¬ mark <:+: first
  others_unmarked : ∀ stretch ∈ others, ¬ mark <:+: stretch

namespace Cut

variable {mark : List Char}

/-- The stretches with a text in every place. -/
def fill (cut : Cut mark) (value : List Char) : List Char :=
  cut.first ++ cut.others.flatMap (value ++ ·)

theorem exists_fill_eq (hmark : mark ≠ []) (chars : List Char) :
    ∃ cut : Cut mark, cut.fill mark = chars := by
  induction hlength : chars.length using Nat.strong_induction_on generalizing chars with
  | _ n ih =>
    have hnone : ¬ mark <:+: [] := by
      rw [List.infix_nil]
      exact hmark
    by_cases hplace : mark <+: chars
    · obtain ⟨rest, rfl⟩ := hplace
      have hshorter : rest.length < n := by
        have hpos : 0 < mark.length := List.length_pos_iff.mpr hmark
        rw [List.length_append] at hlength
        omega
      obtain ⟨cut, hcut⟩ := ih rest.length hshorter rest rfl
      refine ⟨⟨[], cut.first :: cut.others, hnone, ?_⟩, ?_⟩
      · exact List.forall_mem_cons.mpr ⟨cut.first_unmarked, cut.others_unmarked⟩
      · rw [← hcut]
        simp [fill]
    · cases chars with
      | nil => exact ⟨⟨[], [], hnone, by simp⟩, rfl⟩
      | cons c rest =>
          have hshorter : rest.length < n := by
            rw [List.length_cons] at hlength
            omega
          obtain ⟨cut, hcut⟩ := ih rest.length hshorter rest rfl
          have hwhole : c :: cut.first ++ cut.others.flatMap (mark ++ ·) = c :: rest :=
            congrArg (c :: ·) hcut
          refine ⟨⟨c :: cut.first, cut.others, ?_, cut.others_unmarked⟩, hwhole⟩
          intro hmarked
          rcases List.infix_cons_iff.mp hmarked with hfront | hlater
          · apply hplace
            rw [← hwhole]
            exact hfront.trans (List.prefix_append _ _)
          · exact cut.first_unmarked hlater

theorem others_ne_nil (cut : Cut mark) (hmarked : mark <:+: cut.fill mark) : cut.others ≠ [] := by
  intro hothers
  apply cut.first_unmarked
  simpa [fill, hothers] using hmarked

theorem length_fill (cut : Cut mark) (value : List Char) :
    (cut.fill value).length =
      cut.first.length + cut.others.length * value.length + cut.others.flatten.length := by
  rw [fill, List.length_append]
  induction cut.others with
  | nil => simp
  | cons stretch others ih =>
      simp only [List.flatMap_cons, List.flatten_cons, List.length_append, List.length_cons,
        Nat.succ_mul]
      omega

theorem eq_of_fill_eq (cut : Cut mark) (hplaces : cut.others ≠ []) {a b : List Char}
    (h : cut.fill a = cut.fill b) : a = b := by
  have hlength : a.length = b.length := by
    have hwhole := congrArg List.length h
    rw [length_fill, length_fill] at hwhole
    have hpos : 0 < cut.others.length := List.length_pos_iff.mpr hplaces
    have hproduct : cut.others.length * a.length = cut.others.length * b.length := by omega
    exact Nat.eq_of_mul_eq_mul_left hpos hproduct
  obtain ⟨stretch, others, hothers⟩ := List.exists_cons_of_ne_nil hplaces
  simp only [fill, hothers, List.flatMap_cons, List.append_assoc, List.append_cancel_left_eq] at h
  exact (List.append_inj h hlength).1

theorem filter_fill (cut : Cut mark) {p : Char → Bool} {a b : List Char}
    (h : a.filter p = b.filter p) : (cut.fill a).filter p = (cut.fill b).filter p := by
  rw [fill, fill, List.filter_append, List.filter_append]
  congr 1
  induction cut.others with
  | nil => rfl
  | cons stretch others ih => simp [h, ih]

end Cut

section

variable {a : Char} {tail replacement : List Char}

theorem replaceFrom_append_of_passed (passed rest : List Char) :
    replaceFrom (a :: tail) replacement passed.length (passed ++ rest) =
      replaceFrom (a :: tail) replacement 0 rest := by
  induction passed with
  | nil => rfl
  | cons c passed ih => exact ih

theorem replaceFrom_append_of_place (rest : List Char) :
    replaceFrom (a :: tail) replacement 0 (a :: tail ++ rest) =
      replacement ++ replaceFrom (a :: tail) replacement 0 rest := by
  rw [List.cons_append, replaceFrom, ← List.cons_append, dropPrefix?_eq_some_iff.mpr rfl,
    Option.isSome_some, if_pos rfl]
  exact congrArg _ (replaceFrom_append_of_passed tail rest)

/-- No place begins inside a stretch that ends where the text or the next place does. -/
theorem dropPrefix?_eq_none_of_unmarked (ha : a ∉ tail) {c : Char} {stretch rest : List Char}
    (hstretch : ¬ a :: tail <:+: c :: stretch) (hrest : rest = [] ∨ a :: tail <+: rest) :
    dropPrefix? (a :: tail) (c :: stretch ++ rest) = none := by
  rw [Option.eq_none_iff_forall_ne_some]
  intro after hafter
  have hplace := dropPrefix?_eq_some_iff.mp hafter
  rcases List.append_eq_append_iff.mp hplace with ⟨overlap, hmark, hlater⟩ | ⟨within, hinside, -⟩
  · cases overlap with
    | nil =>
        rw [List.append_nil] at hmark
        exact hstretch (hmark ▸ List.infix_rfl)
    | cons d overlap =>
        -- the mark would reach over into the next place, whose first character it has only once
        obtain ⟨following, rfl⟩ : a :: tail <+: rest := hrest.resolve_left (by simp [hlater])
        simp only [List.cons_append, List.cons.injEq] at hmark hlater
        apply ha
        rw [hmark.2, hlater.1]
        simp
  · apply hstretch
    rw [hinside]
    exact List.infix_append' [] _ within

theorem replaceFrom_append_of_unmarked (ha : a ∉ tail) {stretch : List Char}
    (hstretch : ¬ a :: tail <:+: stretch) {rest : List Char}
    (hrest : rest = [] ∨ a :: tail <+: rest) :
    replaceFrom (a :: tail) replacement 0 (stretch ++ rest) =
      stretch ++ replaceFrom (a :: tail) replacement 0 rest := by
  induction stretch with
  | nil => rfl
  | cons c stretch ih =>
      have hlater : ¬ a :: tail <:+: stretch := fun hmarked =>
        hstretch (List.infix_cons_iff.mpr (.inr hmarked))
      rw [List.cons_append, replaceFrom, ← List.cons_append,
        dropPrefix?_eq_none_of_unmarked ha hstretch hrest, Option.isSome_none, if_neg (by simp),
        ih hlater, List.cons_append]

theorem replaceAll_fill (ha : a ∉ tail) (cut : Cut (a :: tail)) (value : List Char) :
    replaceAll (a :: tail) value (cut.fill (a :: tail)) = cut.fill value := by
  obtain ⟨first, others, hfirst, hothers⟩ := cut
  rw [replaceAll, if_neg (by simp), Cut.fill, Cut.fill]
  dsimp only
  induction others generalizing first with
  | nil =>
      have hnone : ([] : List Char) = [] ∨ a :: tail <+: [] := .inl rfl
      exact replaceFrom_append_of_unmarked ha hfirst hnone
  | cons stretch others ih =>
      obtain ⟨hstretch, hlater⟩ := List.forall_mem_cons.mp hothers
      have hplace : a :: tail <+: a :: tail ++ (stretch ++ others.flatMap (a :: tail ++ ·)) :=
        List.prefix_append _ _
      rw [List.flatMap_cons, List.flatMap_cons, List.append_assoc, List.append_assoc,
        replaceFrom_append_of_unmarked ha hfirst (.inr hplace), replaceFrom_append_of_place,
        ih stretch hstretch hlater]

end

end AccessGateway.Text
