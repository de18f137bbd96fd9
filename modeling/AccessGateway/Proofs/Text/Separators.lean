import AccessGateway.Text.Split
import Mathlib.Data.List.DropRight

/-!
# Texts joined at a separator

Cutting a text at the first or the last separator finds exactly the two texts
that were joined there, as long as the separator does not stand in the part
that is searched first.  Cutting into pieces finds the pieces that were joined,
if none of them holds the separator.
-/

namespace AccessGateway.Text

theorem cutLast?_eq_none {separator : Char} {chars : List Char}
    (h : separator ∉ chars) : cutLast? separator chars = none := by
  induction chars with
  | nil => rfl
  | cons c rest ih =>
      simp only [List.mem_cons, not_or] at h
      simp [cutLast?, Ne.symm h.1, ih h.2]

theorem cutFirst?_append_cons {separator : Char} {before : List Char}
    (after : List Char) (h : separator ∉ before) :
    cutFirst? separator (before ++ separator :: after) = some (before, after) := by
  induction before with
  | nil => simp [cutFirst?]
  | cons c before ih =>
      simp only [List.mem_cons, not_or] at h
      simp [cutFirst?, Ne.symm h.1, ih h.2]

theorem cutLast?_append_cons {separator : Char} {after : List Char}
    (before : List Char) (h : separator ∉ after) :
    cutLast? separator (before ++ separator :: after) = some (before, after) := by
  induction before with
  | nil => simp [cutLast?, cutLast?_eq_none h]
  | cons c before ih => simp [cutLast?, ih]

theorem not_mem_of_cutLast?_eq_none {separator : Char} {chars : List Char}
    (h : cutLast? separator chars = none) : separator ∉ chars := by
  induction chars with
  | nil => simp
  | cons c rest ih =>
      unfold cutLast? at h
      split at h
      · cases h
      next hrest =>
        split at h
        · cases h
        next hc =>
          rw [List.mem_cons, not_or]
          exact ⟨Ne.symm hc, ih hrest⟩

theorem of_cutLast?_eq_some {separator : Char} {chars before after : List Char}
    (h : cutLast? separator chars = some (before, after)) :
    chars = before ++ separator :: after ∧ separator ∉ after := by
  induction chars generalizing before with
  | nil => cases h
  | cons c rest ih =>
      unfold cutLast? at h
      split at h
      next front back hrest =>
        cases h
        obtain ⟨hchars, hafter⟩ := ih hrest
        exact ⟨congrArg (c :: ·) hchars, hafter⟩
      next hrest =>
        split at h
        next hc =>
          cases h
          exact ⟨by rw [hc, List.nil_append], not_mem_of_cutLast?_eq_none hrest⟩
        · cases h

theorem of_cutFirst?_eq_some {separator : Char} {chars before after : List Char}
    (h : cutFirst? separator chars = some (before, after)) :
    chars = before ++ separator :: after ∧ separator ∉ before := by
  induction chars generalizing before with
  | nil => cases h
  | cons c rest ih =>
      unfold cutFirst? at h
      split at h
      next hc =>
        cases h
        exact ⟨by rw [hc, List.nil_append], List.not_mem_nil⟩
      next hc =>
        obtain ⟨⟨front, back⟩, hcut, hparts⟩ := Option.map_eq_some_iff.mp h
        cases hparts
        obtain ⟨hchars, hfront⟩ := ih hcut
        refine ⟨congrArg (c :: ·) hchars, ?_⟩
        rw [List.mem_cons, not_or]
        exact ⟨Ne.symm hc, hfront⟩

theorem splitOnce?_eq_some {separator : Char} {s before after : String}
    (hs : s.toList = before.toList ++ separator :: after.toList)
    (h : separator ∉ before.toList) :
    splitOnce? separator s = some (before, after) := by
  rw [splitOnce?, hs, cutFirst?_append_cons _ h]
  simp

theorem of_splitOnce?_eq_some {separator : Char} {s before after : String}
    (h : splitOnce? separator s = some (before, after)) :
    s.toList = before.toList ++ separator :: after.toList ∧ separator ∉ before.toList := by
  unfold splitOnce? at h
  obtain ⟨⟨front, back⟩, hcut, hparts⟩ := Option.map_eq_some_iff.mp h
  cases hparts
  rw [String.toList_ofList, String.toList_ofList]
  exact of_cutFirst?_eq_some hcut

theorem rsplitOnce?_eq_some {separator : Char} {s before after : String}
    (hs : s.toList = before.toList ++ separator :: after.toList)
    (h : separator ∉ after.toList) :
    rsplitOnce? separator s = some (before, after) := by
  rw [rsplitOnce?, hs, cutLast?_append_cons _ h]
  simp

theorem rsplitOnce?_eq_none {separator : Char} {s : String} (h : separator ∉ s.toList) :
    rsplitOnce? separator s = none := by
  rw [rsplitOnce?, cutLast?_eq_none h]
  rfl

theorem of_rsplitOnce?_eq_some {separator : Char} {s before after : String}
    (h : rsplitOnce? separator s = some (before, after)) :
    s.toList = before.toList ++ separator :: after.toList ∧ separator ∉ after.toList := by
  unfold rsplitOnce? at h
  obtain ⟨⟨front, back⟩, hcut, hparts⟩ := Option.map_eq_some_iff.mp h
  cases hparts
  rw [String.toList_ofList, String.toList_ofList]
  exact of_cutLast?_eq_some hcut

theorem pieces_append_cons {separator : Char} {before : List Char} (after : List Char)
    (h : separator ∉ before) :
    pieces separator (before ++ separator :: after) = before :: pieces separator after := by
  induction before with
  | nil => simp [pieces]
  | cons c before ih =>
      simp only [List.mem_cons, not_or] at h
      simp [pieces, Ne.symm h.1, ih h.2]

theorem pieces_eq_singleton {separator : Char} {chars : List Char}
    (h : separator ∉ chars) : pieces separator chars = [chars] := by
  induction chars with
  | nil => rfl
  | cons c rest ih =>
      simp only [List.mem_cons, not_or] at h
      simp [pieces, Ne.symm h.1, ih h.2]

/-- Texts without the separator are the pieces of what they are joined to. -/
theorem pieces_intercalate {separator : Char} {parts : List (List Char)}
    (hne : parts ≠ []) (h : ∀ part ∈ parts, separator ∉ part) :
    pieces separator ([separator].intercalate parts) = parts := by
  induction parts with
  | nil => exact absurd rfl hne
  | cons first others ih =>
      have hfirst := h first List.mem_cons_self
      have hothers := fun part hpart => h part (List.mem_cons_of_mem first hpart)
      cases others with
      | nil =>
          rw [List.intercalate_singleton]
          exact pieces_eq_singleton hfirst
      | cons second others =>
          rw [List.intercalate_cons_cons, List.append_assoc, List.singleton_append,
            pieces_append_cons _ hfirst, ih (List.cons_ne_nil _ _) hothers]

theorem split_intercalate {separator : Char} {parts : List String} (hne : parts ≠ [])
    (h : ∀ part ∈ parts, separator ∉ part.toList) :
    split separator ((String.singleton separator).intercalate parts) = parts := by
  have hchars : ((String.singleton separator).intercalate parts).toList =
      [separator].intercalate (parts.map String.toList) := by
    rw [String.toList_intercalate, String.toList_singleton]
  have hparts : ∀ part ∈ parts.map String.toList, separator ∉ part := by
    intro part hpart
    obtain ⟨text, htext, rfl⟩ := List.mem_map.mp hpart
    exact h text htext
  rw [split, hchars, pieces_intercalate (by simpa using hne) hparts]
  simp

/-- The pieces of a text are joined to it, and none of them holds the separator. -/
theorem of_split_eq {separator : Char} {s : String} {parts : List String}
    (h : split separator s = parts) :
    s.toList = [separator].intercalate (parts.map String.toList) ∧
      ∀ part ∈ parts, separator ∉ part.toList := by
  subst h
  have hpieces : (split separator s).map String.toList = pieces separator s.toList := by
    rw [split, List.map_map]
    exact List.map_id'' (fun chars => String.toList_ofList) _
  refine ⟨by rw [hpieces, intercalate_pieces], ?_⟩
  intro part hpart
  have hpiece : part.toList ∈ pieces separator s.toList := by
    rw [← hpieces]
    exact List.mem_map_of_mem hpart
  exact not_mem_of_mem_pieces hpiece

/-- The pieces of a text, each behind a separator, are the text behind one. -/
theorem flatMap_pieces (separator : Char) (chars : List Char) :
    (pieces separator chars).flatMap (separator :: ·) = separator :: chars := by
  induction chars with
  | nil => rfl
  | cons c rest ih =>
      unfold pieces
      split
      next hc => rw [List.flatMap_cons, ih, hc, List.singleton_append]
      next hc =>
        obtain ⟨first, others, hpieces⟩ :=
          List.exists_cons_of_ne_nil (pieces_ne_nil separator rest)
        rw [hpieces] at ih ⊢
        simpa using ih

/-- A character other than the separator stands in one of the pieces. -/
theorem exists_piece_of_mem {separator c : Char} (hne : c ≠ separator) {chars : List Char}
    (hc : c ∈ chars) : ∃ piece ∈ pieces separator chars, c ∈ piece := by
  have hmem : c ∈ (pieces separator chars).flatMap (separator :: ·) := by
    rw [flatMap_pieces]
    exact List.mem_cons_of_mem _ hc
  obtain ⟨piece, hpiece, hcons⟩ := List.mem_flatMap.mp hmem
  exact ⟨piece, hpiece, (List.mem_cons.mp hcons).resolve_left hne⟩

theorem mem_intercalate {separator c : Char} {parts : List (List Char)} {part : List Char}
    (hpart : part ∈ parts) (hc : c ∈ part) : c ∈ [separator].intercalate parts := by
  induction parts with
  | nil => cases hpart
  | cons first others ih =>
      cases others with
      | nil =>
          rw [List.intercalate_singleton, ← List.mem_singleton.mp hpart]
          exact hc
      | cons second others =>
          rw [List.intercalate_cons_cons]
          rcases List.mem_cons.mp hpart with rfl | hothers
          · exact List.mem_append_left _ (List.mem_append_left _ hc)
          · exact List.mem_append_right _ (ih hothers)

theorem pieces_append (separator : Char) (before after : List Char) :
    pieces separator (before ++ separator :: after) =
      pieces separator before ++ pieces separator after := by
  induction before with
  | nil => simp [pieces]
  | cons c before ih =>
      simp only [List.cons_append, pieces, ih]
      split
      next => rfl
      next =>
        obtain ⟨first, others, hpieces⟩ :=
          List.exists_cons_of_ne_nil (pieces_ne_nil separator before)
        rw [hpieces]
        rfl

/-- There is one piece more than there are separators. -/
theorem length_pieces (separator : Char) (chars : List Char) :
    (pieces separator chars).length = chars.count separator + 1 := by
  induction chars with
  | nil => rfl
  | cons c rest ih =>
      unfold pieces
      split
      next hc => rw [hc, List.length_cons, ih, List.count_cons_self]
      next hc =>
        rw [List.count_cons_of_ne hc, ← ih]
        split
        next hnil => exact absurd hnil (pieces_ne_nil separator rest)
        next first others hpieces => rw [hpieces, List.length_cons, List.length_cons]

theorem length_split (separator : Char) (s : String) :
    (split separator s).length = s.toList.count separator + 1 := by
  rw [split, List.length_map, length_pieces]

/-- A character that is replaced by another one is counted with it. -/
theorem count_replaceChar {old new : Char} (h : old ≠ new) (s : String) :
    (replaceChar old new s).toList.count new = s.toList.count new + s.toList.count old := by
  rw [replaceChar, String.toList_map]
  induction s.toList with
  | nil => rfl
  | cons c rest ih =>
      rw [List.map_cons, List.count_cons, List.count_cons, List.count_cons, ih]
      by_cases hold : c = old
      · simp [hold, h]
        omega
      · simp [hold]
        omega

theorem replaceChar_eq_self {old new : Char} {s : String} (h : old ∉ s.toList) :
    replaceChar old new s = s := by
  have hkept : ∀ c ∈ s.toList, (if c = old then new else c) = c := by
    intro c hc
    apply if_neg
    intro hold
    exact h (hold ▸ hc)
  have hmap : s.toList.map (fun c => if c = old then new else c) = s.toList := by
    rw [List.map_congr_left hkept, List.map_id']
  rw [replaceChar, ← String.toList_inj, String.toList_map, hmap]

theorem dropTrailing_isPrefix (c : Char) (s : String) : (dropTrailing c s).toList <+: s.toList := by
  rw [dropTrailing, String.toList_ofList]
  exact List.rdropWhile_prefix (· == c) s.toList

theorem mem_of_mem_dropLeading {c d : Char} {s : String} (h : c ∈ (dropLeading d s).toList) :
    c ∈ s.toList := by
  rw [dropLeading, String.toList_ofList] at h
  exact (List.dropWhile_sublist _).subset h

theorem exists_dropTrailing_append (c : Char) (s : String) :
    ∃ trailing, s.toList = (dropTrailing c s).toList ++ trailing ∧ ∀ d ∈ trailing, d = c := by
  refine ⟨s.toList.rtakeWhile (· == c), ?_, ?_⟩
  · rw [dropTrailing, String.toList_ofList]
    exact List.rdropWhile_append_rtakeWhile.symm
  · intro d hd
    simpa using List.mem_rtakeWhile_imp hd

theorem startsWith_append (start rest : String) : startsWith start (start ++ rest) = true := by
  rw [startsWith, dropPrefix?_eq_some_iff.mpr String.toList_append]
  rfl

end AccessGateway.Text
