import AccessGateway.Directory.DistinguishedName
import AccessGateway.Proofs.Text.Separators
import AccessGateway.Proofs.Text.Trimming

/-!
# Names as they are written

A name is written as pairs of an attribute and a value, with a separator between two pairs
and blanks around attributes and values.  In a value the separators and the backslash stand
behind a backslash each, so no separator of a pair is taken for one between pairs, and the
value that is read is the one that was written.
-/

namespace AccessGateway.DistinguishedName

theorem partsFrom_cons_of_kept {escaped : Bool} {c : Char} {rest first : List Char}
    {others : List (List Char)} (hc : (!escaped && isSeparator c) = false)
    (hrest : partsFrom (!escaped && c == '\\') rest = first :: others) :
    partsFrom escaped (c :: rest) = (c :: first) :: others := by
  rw [partsFrom, hc, if_neg Bool.false_ne_true, hrest]

theorem parts_cons_of_separator {c : Char} (hc : isSeparator c = true) (rest : List Char) :
    parts (c :: rest) = [] :: parts rest := by
  rw [parts, partsFrom, hc, Bool.not_false, Bool.true_and, if_pos rfl, parts]

/-- A text in which every separator and every backslash is escaped, and the characters it stands
for.  Other characters may be escaped too. -/
inductive Spells : List Char → List Char → Prop
  | nil : Spells [] []
  | plain {c : Char} {text chars : List Char} (hseparator : isSeparator c = false)
      (hbackslash : c ≠ '\\') (h : Spells text chars) : Spells (c :: text) (c :: chars)
  | escaped (c : Char) {text chars : List Char} (h : Spells text chars) :
      Spells ('\\' :: c :: text) (c :: chars)

namespace Spells

variable {text chars : List Char}

theorem append {text' chars' : List Char} (h : Spells text chars) (h' : Spells text' chars') :
    Spells (text ++ text') (chars ++ chars') := by
  induction h with
  | nil => exact h'
  | plain hseparator hbackslash _ ih => exact .plain hseparator hbackslash ih
  | escaped c _ ih => exact .escaped c ih

theorem of_plain {chars : List Char} (h : ∀ c ∈ chars, isSeparator c = false ∧ c ≠ '\\') :
    Spells chars chars := by
  induction chars with
  | nil => exact .nil
  | cons c chars ih =>
      obtain ⟨hc, hrest⟩ := List.forall_mem_cons.mp h
      exact .plain hc.1 hc.2 (ih hrest)

theorem of_blank {chars : List Char} (h : ∀ c ∈ chars, Text.isBlank c = true) :
    Spells chars chars := by
  apply of_plain
  intro c hc
  have hblank := h c hc
  constructor
  · by_contra hseparator
    simp only [isSeparator, Bool.not_eq_false, Bool.or_eq_true, decide_eq_true_eq] at hseparator
    rcases hseparator with rfl | rfl <;> exact absurd hblank (by decide)
  · rintro rfl
    exact absurd hblank (by decide)

theorem unescape_eq (h : Spells text chars) : unescape text = chars := by
  induction h with
  | nil => rfl
  | plain _ hbackslash _ ih => simp [unescape, hbackslash, ih]
  | escaped c _ ih => simp [unescape, ih]

theorem unescape_append_backslash (h : Spells text chars) : unescape (text ++ ['\\']) = chars := by
  induction h with
  | nil => rfl
  | plain _ hbackslash _ ih => simp [unescape, hbackslash, ih]
  | escaped c _ ih => simp [unescape, ih]

theorem parts_append (h : Spells text chars) {rest first : List Char}
    {others : List (List Char)} (hrest : parts rest = first :: others) :
    parts (text ++ rest) = (text ++ first) :: others := by
  induction h with
  | nil => exact hrest
  | @plain c _ _ hseparator hbackslash _ ih =>
      have hflag : (!false && c == '\\') = false := by simpa using hbackslash
      apply partsFrom_cons_of_kept
      · rw [hseparator, Bool.and_false]
      · rw [hflag]
        exact ih
  | escaped c _ ih =>
      have hescaped : partsFrom true (c :: (_ ++ rest)) = (c :: (_ ++ first)) :: others :=
        partsFrom_cons_of_kept rfl ih
      exact partsFrom_cons_of_kept rfl hescaped

theorem parts_append_cons (h : Spells text chars) {c : Char} (hc : isSeparator c = true)
    (rest : List Char) : parts (text ++ c :: rest) = text :: parts rest := by
  rw [h.parts_append (parts_cons_of_separator hc rest), List.append_nil]

theorem parts_eq (h : Spells text chars) : parts text = [text] := by
  have hnone : parts [] = [[]] := rfl
  simpa using h.parts_append hnone

theorem commonName_append_cons (h : Spells text chars) {c : Char} (hc : isSeparator c = true)
    (rest : List Char) :
    commonName (.ofList (text ++ c :: rest)) =
      (commonNameOf? text).or (commonName (.ofList rest)) := by
  rw [commonName, commonName, String.toList_ofList, String.toList_ofList,
    h.parts_append_cons hc, List.findSome?_cons]
  cases commonNameOf? text <;> rfl

theorem commonName_eq (h : Spells text chars) :
    commonName (.ofList text) = commonNameOf? text := by
  rw [commonName, String.toList_ofList, h.parts_eq, List.findSome?_singleton]

end Spells

theorem commonNameOf?_append_cons {kind : List Char} (hkind : '=' ∉ kind) (value : List Char) :
    commonNameOf? (kind ++ '=' :: value) =
      if Text.Ascii.lower (.ofList (Text.trimChars kind)) = "cn" then
        if (unescape (Text.trimChars value)).isEmpty then none
        else some (.ofList (unescape (Text.trimChars value)))
      else none := by
  have hlower : Text.Ascii.lower "cn" = "cn" := by
    rw [← String.toList_inj, Text.Ascii.toList_lower]
    decide
  rw [commonNameOf?, Text.cutFirst?_append_cons value hkind]
  simp [Text.Ascii.equalIgnoringCase, hlower]

/-! ## Written pairs -/

structure Part where
  kind : String
  value : String
  kind_plain : ∀ c ∈ kind.toList, c ≠ '=' ∧ c ≠ ',' ∧ c ≠ ';' ∧ c ≠ '\\'
  kind_tight : Text.IsTight kind.toList
  value_ne : value ≠ ""
  value_tight : Text.IsTight value.toList

def Part.isCommonName (part : Part) : Bool := Text.Ascii.lower part.kind = "cn"

theorem map_value_find?_cons (part : Part) (others : List Part) :
    ((part :: others).find? Part.isCommonName).map Part.value =
      (if part.isCommonName then some part.value else none).or
        ((others.find? Part.isCommonName).map Part.value) := by
  rw [List.find?_cons]
  cases part.isCommonName <;> simp

/-- Blanks around a text. -/
structure Padding where
  front : String
  back : String
  front_blank : Text.isBlankText front = true
  back_blank : Text.isBlankText back = true

namespace Padding

def around (padding : Padding) (chars : List Char) : List Char :=
  padding.front.toList ++ chars ++ padding.back.toList

theorem trimChars_around (padding : Padding) {chars : List Char} (h : Text.IsTight chars) :
    Text.trimChars (padding.around chars) = chars :=
  Text.trimChars_between (Text.isBlankText_iff.mp padding.front_blank) h
    (Text.isBlankText_iff.mp padding.back_blank)

theorem spells_around (padding : Padding) {text chars : List Char} (h : Spells text chars) :
    Spells (padding.around text) (padding.around chars) := by
  have hfront := Spells.of_blank (Text.isBlankText_iff.mp padding.front_blank)
  have hback := Spells.of_blank (Text.isBlankText_iff.mp padding.back_blank)
  exact (hfront.append h).append hback

theorem not_mem_around (padding : Padding) {c : Char} (hc : Text.isBlank c = false)
    {chars : List Char} (h : c ∉ chars) : c ∉ padding.around chars := by
  have hblank : ∀ {s : String}, Text.isBlankText s = true → c ∉ s.toList := by
    intro s hs hmem
    exact absurd (Text.isBlankText_iff.mp hs c hmem) (by simp [hc])
  simp [around, h, hblank padding.front_blank, hblank padding.back_blank]

end Padding

/-- A backslash before every separator and every backslash of a value. -/
def escapeChar (c : Char) : List Char :=
  if c = ',' ∨ c = ';' ∨ c = '\\' then ['\\', c] else [c]

def escape (value : List Char) : List Char := value.flatMap escapeChar

theorem spells_escape (value : List Char) : Spells (escape value) value := by
  induction value with
  | nil => exact .nil
  | cons c rest ih =>
      rw [escape, List.flatMap_cons, escapeChar]
      by_cases hc : c = ',' ∨ c = ';' ∨ c = '\\'
      · rw [if_pos hc]
        exact .escaped c ih
      · rw [if_neg hc]
        push Not at hc
        exact .plain (by simp [isSeparator, hc]) hc.2.2 ih

theorem isTight_escape {value : List Char} (h : Text.IsTight value) :
    Text.IsTight (escape value) where
  front := by
    cases value with
    | nil => simp [escape]
    | cons c rest =>
        have hc := h.front c rfl
        by_cases hspecial : c = ',' ∨ c = ';' ∨ c = '\\'
        · simp [escape, escapeChar, hspecial]
          decide
        · simpa [escape, escapeChar, hspecial] using hc
  back := by
    rcases List.eq_nil_or_concat value with rfl | ⟨rest, c, rfl⟩
    · simp [escape]
    · have hc := h.back c (by simp)
      have hlast : (escape (rest ++ [c])).getLast? = some c := by
        by_cases hspecial : c = ',' ∨ c = ';' ∨ c = '\\' <;>
          simp [escape, escapeChar, hspecial]
      simpa [hlast] using hc

/-- A pair with the blanks it is written with. -/
structure WrittenPart extends Part where
  kindPadding : Padding
  valuePadding : Padding

namespace WrittenPart

def text (part : WrittenPart) : List Char :=
  part.kindPadding.around part.kind.toList ++
    '=' :: part.valuePadding.around (escape part.value.toList)

theorem exists_spells (part : WrittenPart) : ∃ chars, Spells part.text chars := by
  have hkind : ∀ c ∈ part.kind.toList, isSeparator c = false ∧ c ≠ '\\' := by
    intro c hc
    obtain ⟨-, hcomma, hsemicolon, hbackslash⟩ := part.kind_plain c hc
    exact ⟨by simp [isSeparator, hcomma, hsemicolon], hbackslash⟩
  have hvalue := part.valuePadding.spells_around (spells_escape part.value.toList)
  exact ⟨_, (part.kindPadding.spells_around (.of_plain hkind)).append
    (.plain (by decide) (by decide) hvalue)⟩

theorem commonNameOf?_text (part : WrittenPart) :
    commonNameOf? part.text = if part.isCommonName then some part.value else none := by
  have hkind : '=' ∉ part.kindPadding.around part.kind.toList := by
    apply part.kindPadding.not_mem_around (by decide)
    intro hmem
    exact (part.kind_plain '=' hmem).1 rfl
  have hvalue : unescape (Text.trimChars (part.valuePadding.around (escape part.value.toList))) =
      part.value.toList := by
    rw [part.valuePadding.trimChars_around (isTight_escape part.value_tight),
      (spells_escape part.value.toList).unescape_eq]
  have hne : part.value.toList.isEmpty = false := by simpa using part.value_ne
  rw [text, commonNameOf?_append_cons hkind, part.kindPadding.trimChars_around part.kind_tight,
    hvalue, hne, String.ofList_toList, String.ofList_toList]
  simp [Part.isCommonName]

end WrittenPart

/-- A way to write a list of pairs, with a separator before each but the first. -/
structure WrittenName where
  first : WrittenPart
  others : List (Char × WrittenPart)
  separated : ∀ other ∈ others, other.1 = ',' ∨ other.1 = ';'

namespace WrittenName

def text (name : WrittenName) : String :=
  .ofList (name.first.text ++ name.others.flatMap fun other => other.1 :: other.2.text)

def parts (name : WrittenName) : List Part :=
  name.first.toPart :: name.others.map fun other => other.2.toPart

/-- However a list of pairs is written, the common name is the value of the first pair of that
kind, without the escapes and with everything else. -/
theorem commonName_text (name : WrittenName) :
    commonName name.text = (name.parts.find? Part.isCommonName).map Part.value := by
  obtain ⟨first, others, hseparated⟩ := name
  simp only [text, parts]
  -- the first pair is general, since the separator before another pair makes that one the first
  induction others generalizing first with
  | nil =>
      obtain ⟨chars, hspells⟩ := first.exists_spells
      rw [List.flatMap_nil, List.append_nil, hspells.commonName_eq, first.commonNameOf?_text,
        map_value_find?_cons]
      simp
  | cons other others ih =>
      obtain ⟨hother, hlater⟩ := List.forall_mem_cons.mp hseparated
      obtain ⟨chars, hspells⟩ := first.exists_spells
      have hseparator : isSeparator other.1 = true := by simpa [isSeparator] using hother
      rw [List.flatMap_cons, List.cons_append, hspells.commonName_append_cons hseparator,
        first.commonNameOf?_text, ih other.2 hlater]
      exact (map_value_find?_cons first.toPart _).symm

/-- Of two values the first is read, with a separator and a backslash in it and without the blanks
around it. -/
theorem commonName_text_of_escapes :
    ∃ name : WrittenName,
      (name.parts.map fun part => (part.kind, part.value)) =
          [("o", ";"), ("cn", "A,J=\\"), ("CN", "b")] ∧
        name.text = "o=\\;;cn\t= A\\,J=\\\\ ,CN=b" ∧ commonName name.text = some "A,J=\\" := by
  let unpadded : Padding := ⟨"", "", by decide, by decide⟩
  let organization : WrittenPart := {
    kind := "o"
    value := ";"
    kind_plain := by simp
    kind_tight := Text.isTight_of_forall (by simp [Text.isBlank])
    value_ne := by decide
    value_tight := Text.isTight_of_forall (by simp [Text.isBlank])
    kindPadding := unpadded
    valuePadding := unpadded }
  let person : WrittenPart := {
    kind := "cn"
    value := "A,J=\\"
    kind_plain := by simp
    kind_tight := Text.isTight_of_forall (by simp [Text.isBlank])
    value_ne := by decide
    value_tight := Text.isTight_of_forall (by simp [Text.isBlank])
    kindPadding := ⟨"", "\t", by decide, by decide⟩
    valuePadding := ⟨" ", " ", by decide, by decide⟩ }
  let other : WrittenPart := { person with
    kind := "CN"
    value := "b"
    kind_plain := by simp
    kind_tight := Text.isTight_of_forall (by simp [Text.isBlank])
    value_ne := by decide
    value_tight := Text.isTight_of_forall (by simp [Text.isBlank])
    kindPadding := unpadded
    valuePadding := unpadded }
  let name : WrittenName := ⟨organization, [(';', person), (',', other)], by simp⟩
  refine ⟨name, rfl, by decide +kernel, ?_⟩
  rw [commonName_text]
  decide +kernel

end WrittenName

end AccessGateway.DistinguishedName
