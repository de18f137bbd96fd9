/-!
# Cutting texts at separators

`pieces` cuts a list of characters at every occurrence of a separator, `cutFirst?` at the first
and `cutLast?` at the last one.  The text-level functions `split`, `splitOnce?` and
`rsplitOnce?` are these on strings.  Joining the pieces with the separator gives the text back.
-/

namespace AccessGateway.Text

/-- The stretches between the separators; there is always at least one. -/
def pieces (separator : Char) : List Char → List (List Char)
  | [] => [[]]
  | c :: rest =>
    if c = separator then [] :: pieces separator rest
    else
      match pieces separator rest with
      | [] => [[c]]
      | first :: others => (c :: first) :: others

def cutFirst? (separator : Char) : List Char → Option (List Char × List Char)
  | [] => none
  | c :: rest =>
    if c = separator then some ([], rest)
    else (cutFirst? separator rest).map fun (before, after) => (c :: before, after)

def cutLast? (separator : Char) : List Char → Option (List Char × List Char)
  | [] => none
  | c :: rest =>
    match cutLast? separator rest with
    | some (before, after) => some (c :: before, after)
    | none => if c = separator then some ([], rest) else none

def split (separator : Char) (s : String) : List String :=
  (pieces separator s.toList).map String.ofList

def splitOnce? (separator : Char) (s : String) : Option (String × String) :=
  (cutFirst? separator s.toList).map fun (before, after) =>
    (String.ofList before, String.ofList after)

def rsplitOnce? (separator : Char) (s : String) : Option (String × String) :=
  (cutLast? separator s.toList).map fun (before, after) =>
    (String.ofList before, String.ofList after)

def dropPrefix? : (start chars : List Char) → Option (List Char)
  | [], chars => some chars
  | _ :: _, [] => none
  | a :: start, c :: chars => if a = c then dropPrefix? start chars else none

def stripStart? (start s : String) : Option String :=
  (dropPrefix? start.toList s.toList).map String.ofList

def startsWith (start s : String) : Bool :=
  (dropPrefix? start.toList s.toList).isSome

/-- The text without the given character at its end, however often it stands there. -/
def dropTrailing (c : Char) (s : String) : String :=
  String.ofList (s.toList.reverse.dropWhile (· == c)).reverse

/-- The text with the given character at its front removed, however often it stands there. -/
def dropLeading (c : Char) (s : String) : String :=
  String.ofList (s.toList.dropWhile (· == c))

def replaceChar (old new : Char) (s : String) : String :=
  s.map fun c => if c = old then new else c

/-- Replaces a pattern wherever it stands, after some characters that are passed over. -/
def replaceFrom (pattern replacement : List Char) : (skip : Nat) → List Char → List Char
  | _, [] => []
  | skip + 1, _ :: rest => replaceFrom pattern replacement skip rest
  | 0, c :: rest =>
    if (dropPrefix? pattern (c :: rest)).isSome then
      replacement ++ replaceFrom pattern replacement (pattern.length - 1) rest
    else c :: replaceFrom pattern replacement 0 rest

/-- Replaces every occurrence of a pattern, scanning from the front; an empty one occurs nowhere. -/
def replaceAll (pattern replacement chars : List Char) : List Char :=
  if pattern.isEmpty then chars else replaceFrom pattern replacement 0 chars

def contains (pattern : List Char) : List Char → Bool
  | [] => pattern.isEmpty
  | c :: rest => (dropPrefix? pattern (c :: rest)).isSome || contains pattern rest

theorem pieces_ne_nil (separator : Char) (chars : List Char) : pieces separator chars ≠ [] := by
  cases chars with
  | nil => simp [pieces]
  | cons c rest =>
    unfold pieces
    split
    · simp
    · split <;> simp

/-- Joining the pieces gives the text back. -/
theorem intercalate_pieces (separator : Char) (chars : List Char) :
    [separator].intercalate (pieces separator chars) = chars := by
  induction chars with
  | nil => rfl
  | cons c rest ih =>
    unfold pieces
    split
    · next h =>
      subst h
      obtain ⟨first, others, hp⟩ := List.exists_cons_of_ne_nil (pieces_ne_nil c rest)
      rw [hp] at ih ⊢
      simpa [List.intercalate] using ih
    · obtain ⟨first, others, hp⟩ := List.exists_cons_of_ne_nil (pieces_ne_nil separator rest)
      rw [hp] at ih ⊢
      cases others with
      | nil => simpa [List.intercalate] using ih
      | cons second others => simpa [List.intercalate] using ih

/-- No piece holds the separator. -/
theorem not_mem_of_mem_pieces {separator : Char} {chars piece : List Char}
    (h : piece ∈ pieces separator chars) : separator ∉ piece := by
  induction chars generalizing piece with
  | nil => simp [pieces] at h; simp [h]
  | cons c rest ih =>
    unfold pieces at h
    split at h
    · rcases List.mem_cons.1 h with h | h
      · simp [h]
      · exact ih h
    · next hc =>
      obtain ⟨first, others, hp⟩ := List.exists_cons_of_ne_nil (pieces_ne_nil separator rest)
      rw [hp] at h ih
      rcases List.mem_cons.1 h with h | h
      · subst h
        simp only [List.mem_cons, not_or]
        exact ⟨fun hcs => hc hcs.symm, ih List.mem_cons_self⟩
      · exact ih (List.mem_cons_of_mem _ h)

theorem dropPrefix?_eq_some_iff {start chars rest : List Char} :
    dropPrefix? start chars = some rest ↔ chars = start ++ rest := by
  induction start generalizing chars with
  | nil => simp [dropPrefix?, eq_comm]
  | cons a start ih =>
    cases chars with
    | nil => simp [dropPrefix?]
    | cons c chars =>
      by_cases h : a = c
      · subst h; simp [dropPrefix?, ih]
      · simp [dropPrefix?, h, Ne.symm h]

end AccessGateway.Text
