import AccessGateway.Proofs.Directory.WrittenNames
import AccessGateway.Text.Utf8
import Mathlib.Algebra.Ring.Parity

/-!
# How a name is taken apart

A name is taken apart at every separator that stands behind an even number of backslashes,
and nowhere else.  This determines the parts, and with the separators between them they are
the whole name.  The parts can be cut out by numbers of bytes: every bound is where a
character begins or the name ends.
-/

namespace AccessGateway

/-! ## Stretches of bytes -/

namespace Text.Utf8

/-- The text between two numbers of bytes.  There is none if one of them lies behind the end or
within a character, or if they are the wrong way round. -/
def slice? (s : String) (start stop : Nat) : Option String :=
  if h : (String.Pos.Raw.mk start).IsValid s ∧ (String.Pos.Raw.mk stop).IsValid s ∧
      start ≤ stop then
    some (s.extract ⟨⟨start⟩, h.1⟩ ⟨⟨stop⟩, h.2.1⟩)
  else none

def slices? (s : String) (bounds : List (Nat × Nat)) : Option (List String) :=
  bounds.mapM fun bound => slice? s bound.1 bound.2

theorem size_append_singleton (s : String) (c : Char) :
    size (s ++ .singleton c) = size s + c.utf8Size := by
  rw [size, String.utf8ByteSize_append, String.utf8ByteSize_singleton, size]

theorem append_ofList_cons (s : String) (c : Char) (rest : List Char) :
    s ++ .ofList (c :: rest) = s ++ .singleton c ++ .ofList rest := by
  rw [← String.toList_inj]
  simp

theorem slice?_append (before s after : String) :
    slice? (before ++ s ++ after) (size before) (size (before ++ s)) = some s := by
  have hstart : (String.Pos.Raw.mk (size before)).IsValid (before ++ s ++ after) :=
    String.Pos.Raw.isValid_iff_exists_append.mpr ⟨before, s ++ after, String.append_assoc, rfl⟩
  have hstop : (String.Pos.Raw.mk (size (before ++ s))).IsValid (before ++ s ++ after) :=
    String.Pos.Raw.isValid_iff_exists_append.mpr ⟨before ++ s, after, rfl, rfl⟩
  have hsize : size (before ++ s) = size before + size s := String.utf8ByteSize_append
  have hle : size before ≤ size (before ++ s) := by
    rw [hsize]
    exact Nat.le_add_right _ _
  rw [slice?, dif_pos ⟨hstart, hstop, hle⟩]
  have hbytes := ByteArray.extract_append_size_add (a := before.toByteArray)
    (b := s.toByteArray ++ after.toByteArray) (i := 0) (j := s.toByteArray.size)
  rw [ByteArray.extract_append_eq_left rfl, Nat.add_zero, ← ByteArray.append_assoc,
    ← String.toByteArray_append, ← String.toByteArray_append] at hbytes
  refine congrArg some (String.toByteArray_inj.mp ?_)
  rw [String.toByteArray_extract]
  simp only [hsize]
  exact hbytes

theorem exists_slice?_of_slices? {s : String} {bounds : List (Nat × Nat)} {texts : List String}
    (h : slices? s bounds = some texts) {bound : Nat × Nat} (hbound : bound ∈ bounds) :
    ∃ t, slice? s bound.1 bound.2 = some t := by
  induction bounds generalizing texts with
  | nil => cases hbound
  | cons first rest ih =>
      unfold slices? at h ih
      rw [List.mapM_cons] at h
      obtain ⟨t, ht, h⟩ := Option.bind_eq_some_iff.mp h
      obtain ⟨others, hothers, -⟩ := Option.bind_eq_some_iff.mp h
      rcases List.mem_cons.mp hbound with rfl | hrest
      · exact ⟨t, ht⟩
      · exact ih hothers hrest

theorem slices?_cons {s t : String} {start stop : Nat} (h : slice? s start stop = some t)
    {bounds : List (Nat × Nat)} {texts : List String} (hrest : slices? s bounds = some texts) :
    slices? s ((start, stop) :: bounds) = some (t :: texts) := by
  unfold slices? at hrest ⊢
  rw [List.mapM_cons, h, hrest]
  rfl

theorem bounds_of_slice? {s t : String} {start stop : Nat} (h : slice? s start stop = some t) :
    start ≤ stop ∧ (String.Pos.Raw.mk start).IsValid s ∧ (String.Pos.Raw.mk stop).IsValid s := by
  unfold slice? at h
  split at h
  next hbounds => exact ⟨hbounds.2.2, hbounds.1, hbounds.2.1⟩
  next => cases h

end Text.Utf8

namespace DistinguishedName

/-! ## Backslashes before a separator -/

/-- How many backslashes a text ends with. -/
def backslashes (text : List Char) : Nat := (text.rtakeWhile (· == '\\')).length

/-- What comes right after a text is escaped. -/
def escapes (text : List Char) : Bool := decide (Odd (backslashes text))

theorem backslashes_concat (text : List Char) (c : Char) :
    backslashes (text ++ [c]) = if c = '\\' then backslashes text + 1 else 0 := by
  by_cases hc : c = '\\' <;> simp [backslashes, hc]

theorem escapes_concat (text : List Char) (c : Char) :
    escapes (text ++ [c]) = (!escapes text && c == '\\') := by
  by_cases hc : c = '\\'
  · simp only [escapes, backslashes_concat, hc, if_true, Nat.odd_add_one, decide_not, BEq.rfl,
      Bool.and_true]
  · simp [escapes, backslashes_concat, hc]

theorem escapes_eq_false_iff {text : List Char} :
    escapes text = false ↔ Even (backslashes text) := by
  simp [escapes]

/-- Every separator in a text is escaped. -/
def Whole (text : List Char) : Prop :=
  ∀ before c after, text = before ++ c :: after → isSeparator c = true →
    Odd (backslashes before)

theorem whole_nil : Whole [] := by
  intro before c after hsplit
  simp at hsplit

theorem Whole.concat {text : List Char} (h : Whole text) {c : Char}
    (hc : (!escapes text && isSeparator c) = false) : Whole (text ++ [c]) := by
  intro before d after hsplit hd
  rcases List.eq_nil_or_concat after with rfl | ⟨rest, e, rfl⟩
  · obtain ⟨rfl, hlast⟩ := List.append_inj' hsplit rfl
    cases hlast
    simpa [hd, escapes] using hc
  · rw [List.concat_eq_append, ← List.cons_append, ← List.append_assoc] at hsplit
    obtain ⟨rfl, -⟩ := List.append_inj' hsplit rfl
    exact h before d rest rfl hd

/-! ## Divisions -/

/-- A text as parts with a character between any two of them. -/
structure Division where
  first : List Char
  others : List (Char × List Char)

namespace Division

def text (division : Division) : List Char :=
  division.first ++ division.others.flatMap fun other => other.1 :: other.2

def pieces (division : Division) : List (List Char) :=
  division.first :: division.others.map Prod.snd

/-- The cuts are at the separators that are not escaped, and at all of them. -/
structure AtSeparators (division : Division) : Prop where
  separators : ∀ other ∈ division.others, other.1 = ',' ∨ other.1 = ';'
  even : ∀ part ∈ division.pieces.dropLast, Even (backslashes part)
  whole : ∀ part ∈ division.pieces, Whole part

/-- A division with one more part in front. -/
def push (part : List Char) (c : Char) (division : Division) : Division :=
  ⟨part, (c, division.first) :: division.others⟩

theorem text_push (part : List Char) (c : Char) (division : Division) :
    (push part c division).text = part ++ c :: division.text := rfl

theorem atSeparators_single_iff {part : List Char} :
    AtSeparators ⟨part, []⟩ ↔ Whole part := by
  constructor
  · intro h
    exact h.whole part List.mem_cons_self
  · intro h
    exact ⟨by simp, by simp [pieces], by simpa [pieces] using h⟩

theorem atSeparators_push_iff {part : List Char} {c : Char} {division : Division} :
    (push part c division).AtSeparators ↔
      isSeparator c = true ∧ escapes part = false ∧ Whole part ∧ division.AtSeparators := by
  have hlast : (push part c division).pieces.dropLast = part :: division.pieces.dropLast := rfl
  have hseparator : isSeparator c = true ↔ c = ',' ∨ c = ';' := by simp [isSeparator]
  constructor
  · intro h
    obtain ⟨hc, hseparators⟩ := List.forall_mem_cons.mp h.separators
    obtain ⟨heven, hevens⟩ := List.forall_mem_cons.mp (hlast ▸ h.even)
    obtain ⟨hpart, hparts⟩ := List.forall_mem_cons.mp h.whole
    exact ⟨hseparator.mpr hc, escapes_eq_false_iff.mpr heven, hpart,
      ⟨hseparators, hevens, hparts⟩⟩
  · rintro ⟨hc, heven, hpart, h⟩
    refine ⟨List.forall_mem_cons.mpr ⟨hseparator.mp hc, h.separators⟩, ?_,
      List.forall_mem_cons.mpr ⟨hpart, h.whole⟩⟩
    rw [hlast]
    exact List.forall_mem_cons.mpr ⟨escapes_eq_false_iff.mp heven, h.even⟩

/-- Every text can be divided like this, whatever of it has been read without a cut. -/
theorem exists_atSeparators {read : List Char} (h : Whole read) (rest : List Char) :
    ∃ division : Division, division.text = read ++ rest ∧ division.AtSeparators := by
  induction rest generalizing read with
  | nil => exact ⟨⟨read, []⟩, by simp [text], atSeparators_single_iff.mpr h⟩
  | cons c rest ih =>
      cases hcut : (!escapes read && isSeparator c) with
      | true =>
          simp only [Bool.and_eq_true, Bool.not_eq_true'] at hcut
          obtain ⟨division, htext, hdivision⟩ := ih whole_nil
          refine ⟨push read c division, ?_, ?_⟩
          · rw [text_push, htext, List.nil_append]
          · exact atSeparators_push_iff.mpr ⟨hcut.2, hcut.1, h, hdivision⟩
      | false =>
          obtain ⟨division, htext, hdivision⟩ := ih (h.concat hcut)
          exact ⟨division, by simp [htext], hdivision⟩

end Division

/-! ## The parts of a name -/

/-- Nothing is cut in a text whose separators are escaped. -/
theorem partsFrom_append {read text rest first : List Char} {others : List (List Char)}
    (h : Whole (read ++ text))
    (hrest : partsFrom (escapes (read ++ text)) rest = first :: others) :
    partsFrom (escapes read) (text ++ rest) = (text ++ first) :: others := by
  induction text generalizing read with
  | nil => simpa using hrest
  | cons c text ih =>
      have hkept : (!escapes read && isSeparator c) = false := by
        by_cases hc : isSeparator c = true
        · simp [escapes, h read c text rfl hc]
        · simp [hc]
      have hassoc : read ++ c :: text = read ++ [c] ++ text := by simp
      rw [hassoc] at h hrest
      apply partsFrom_cons_of_kept hkept
      rw [← escapes_concat]
      exact ih h hrest

theorem parts_append_of_whole {text rest first : List Char} {others : List (List Char)}
    (h : Whole text) (hrest : partsFrom (escapes text) rest = first :: others) :
    parts (text ++ rest) = (text ++ first) :: others := by
  have hread : escapes [] = false := by decide
  rw [parts, ← hread]
  exact partsFrom_append h hrest

theorem Division.AtSeparators.parts_text {division : Division} (h : division.AtSeparators) :
    parts division.text = division.pieces := by
  obtain ⟨first, others⟩ := division
  -- the first piece is general, since behind a cut the next piece is the first one
  induction others generalizing first with
  | nil =>
      have hnil : partsFrom (escapes first) [] = [[]] := rfl
      have hparts := parts_append_of_whole (Division.atSeparators_single_iff.mp h) hnil
      simpa [Division.text, Division.pieces] using hparts
  | cons other others ih =>
      let division : Division := ⟨other.2, others⟩
      have hpush : (Division.push first other.1 division).AtSeparators := h
      obtain ⟨hc, heven, hfirst, hrest⟩ := Division.atSeparators_push_iff.mp hpush
      have hcut : partsFrom (escapes first) (other.1 :: division.text) =
          [] :: division.pieces := by
        rw [heven, ← ih other.2 hrest]
        exact parts_cons_of_separator hc _
      have hparts := parts_append_of_whole hfirst hcut
      rwa [List.append_nil] at hparts

/-! ## The bounds of the parts -/

open Text.Utf8 (size slice? slices? size_append_singleton append_ofList_cons slice?_append
  slices?_cons exists_slice?_of_slices? bounds_of_slice?)

/-- The bounds of the parts in numbers of bytes, from the part that begins at `start` on, where the
next character begins at `position`. -/
def boundsFrom (start position : Nat) (escaped : Bool) : List Char → List (Nat × Nat)
  | [] => [(start, position)]
  | c :: rest =>
    let next := position + c.utf8Size
    if escaped then boundsFrom start next false rest
    else if c = '\\' then boundsFrom start next true rest
    else if isSeparator c then (start, position) :: boundsFrom (position + 1) next false rest
    else boundsFrom start next false rest

def bounds (name : String) : List (Nat × Nat) := boundsFrom 0 0 false name.toList

theorem boundsFrom_cons_of_kept {escaped : Bool} {c : Char}
    (h : (!escaped && isSeparator c) = false) (start position : Nat) (rest : List Char) :
    boundsFrom start position escaped (c :: rest) =
      boundsFrom start (position + c.utf8Size) (!escaped && c == '\\') rest := by
  cases escaped with
  | true => rfl
  | false =>
      have hc : isSeparator c = false := by simpa using h
      by_cases hbackslash : c = '\\'
      · simp [boundsFrom, hbackslash]
      · have hflag : (c == '\\') = false := by simpa using hbackslash
        simp [boundsFrom, hbackslash, hflag, hc]

theorem utf8Size_of_isSeparator {c : Char} (hc : isSeparator c = true) : c.utf8Size = 1 := by
  simp only [isSeparator, Bool.or_eq_true, decide_eq_true_eq] at hc
  rcases hc with rfl | rfl <;> decide

theorem boundsFrom_cons_of_separator {c : Char} (hc : isSeparator c = true)
    (start position : Nat) (rest : List Char) :
    boundsFrom start position false (c :: rest) =
      (start, position) :: boundsFrom (position + 1) (position + 1) false rest := by
  have hbackslash : c ≠ '\\' := by
    rintro rfl
    exact absurd hc (by decide)
  simp [boundsFrom, hc, hbackslash, utf8Size_of_isSeparator hc]

theorem exists_partsFrom (escaped : Bool) (rest : List Char) :
    ∃ first others, partsFrom escaped rest = first :: others := by
  cases rest with
  | nil => exact ⟨[], [], rfl⟩
  | cons c rest =>
      unfold partsFrom
      split
      · exact ⟨_, _, rfl⟩
      · split <;> exact ⟨_, _, rfl⟩

/-- Whatever has been read, of the parts before and of the one that goes on: the bounds cut out the
parts of the rest, the first one with what was read of it. -/
theorem slices?_boundsFrom (before current : String) {escaped : Bool} {rest first : List Char}
    {others : List (List Char)} (h : partsFrom escaped rest = first :: others) :
    slices? (before ++ current ++ .ofList rest)
        (boundsFrom (size before) (size (before ++ current)) escaped rest) =
      some ((current ++ .ofList first) :: others.map .ofList) := by
  induction rest generalizing before current escaped first others with
  | nil =>
      have hslice := slice?_append before current (.ofList [])
      cases h
      rw [boundsFrom, slices?_cons hslice rfl, String.ofList_nil, String.append_empty]
      rfl
  | cons c rest ih =>
      cases hcut : (!escaped && isSeparator c) with
      | true =>
          simp only [Bool.and_eq_true, Bool.not_eq_true'] at hcut
          obtain ⟨rfl, hc⟩ := hcut
          have hslice := slice?_append before current (.ofList (c :: rest))
          obtain ⟨next, later, hrest⟩ := exists_partsFrom false rest
          have hparts : partsFrom false (c :: rest) = [] :: next :: later :=
            (parts_cons_of_separator hc rest).trans (congrArg _ hrest)
          cases hparts.symm.trans h
          -- the next part begins behind the separator, and nothing of it has been read
          have hnext := ih (before ++ current ++ .singleton c) "" hrest
          rw [String.append_empty, String.empty_append, ← append_ofList_cons,
            size_append_singleton, utf8Size_of_isSeparator hc] at hnext
          rw [boundsFrom_cons_of_separator hc, slices?_cons hslice hnext, String.ofList_nil,
            String.append_empty]
          rfl
      | false =>
          obtain ⟨next, later, hrest⟩ := exists_partsFrom (!escaped && c == '\\') rest
          rw [partsFrom_cons_of_kept hcut hrest] at h
          cases h
          have hnext := ih before (current ++ .singleton c) hrest
          rw [← String.append_assoc, size_append_singleton, ← append_ofList_cons,
            ← append_ofList_cons] at hnext
          rwa [boundsFrom_cons_of_kept hcut]

/-- The whole of a name is made up of its parts, with a separator between any two of them.  Of
these every one stands behind an even number of backslashes of its part, and every separator within
a part behind an odd one, which leaves no other parts.  The bounds in bytes that the parts are cut
out by are where a character begins or the name ends. -/
theorem parts_of_name (name : String) :
    (∃ division : Division, division.text = name.toList ∧ division.AtSeparators ∧
        division.pieces = parts name.toList) ∧
      (∀ division : Division, division.text = name.toList → division.AtSeparators →
        division.pieces = parts name.toList) ∧
      (∀ bound ∈ bounds name, bound.1 ≤ bound.2 ∧ (String.Pos.Raw.mk bound.1).IsValid name ∧
        (String.Pos.Raw.mk bound.2).IsValid name) ∧
      slices? name (bounds name) = some ((parts name.toList).map .ofList) := by
  have hpieces : ∀ division : Division, division.text = name.toList → division.AtSeparators →
      division.pieces = parts name.toList := by
    intro division htext h
    rw [← htext, h.parts_text]
  have hslices : slices? name (bounds name) = some ((parts name.toList).map .ofList) := by
    obtain ⟨first, others, hparts⟩ := exists_partsFrom false name.toList
    have hwhole := slices?_boundsFrom "" "" hparts
    rw [String.append_empty, String.empty_append, String.empty_append, String.ofList_toList]
      at hwhole
    rw [parts, hparts]
    exact hwhole
  refine ⟨?_, hpieces, ?_, hslices⟩
  · obtain ⟨division, htext, h⟩ := Division.exists_atSeparators whole_nil name.toList
    exact ⟨division, htext, h, hpieces division htext h⟩
  · intro bound hbound
    obtain ⟨t, ht⟩ := exists_slice?_of_slices? hslices hbound
    exact bounds_of_slice? ht

/-- The letter takes two bytes, and the first comma stands behind a backslash. -/
example : bounds "cn=ä\\,b,ou=c" = [(0, 8), (9, 13)] := by decide

end DistinguishedName

end AccessGateway
