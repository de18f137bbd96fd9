import AccessGateway.Proofs.Directory.WrittenNames
import AccessGateway.Proofs.Text.PercentWords

/-!
# Escaped values

The standard text form of a name has two escapes in a value: a backslash before a special
character, and a backslash before the two hexadecimal digits of a byte.  A value is read
back if it is written with the first one only and no blank stands at an end of the text.
The digits of a byte stay in the value as they are, and blanks at the ends are lost, an
escaped one at the end as well as one that needs no escape.
-/

namespace AccessGateway

namespace Text

theorem bounds_of_hexValue? {c : Char} (h : (Ascii.hexValue? c).isSome = true) :
    48 ≤ c.toNat ∧ c.toNat ≤ 57 ∨ 97 ≤ c.toNat ∧ c.toNat ≤ 102 ∨
      65 ≤ c.toNat ∧ c.toNat ≤ 70 := by
  unfold Ascii.hexValue? at h
  split at h
  next hdigit => exact .inl hdigit
  next =>
    split at h
    next hlower => exact .inr (.inl hlower)
    next =>
      split at h
      next hupper => exact .inr (.inr hupper)
      next => cases h

theorem hexValue?_of_blank {c : Char} (h : isBlank c = true) : Ascii.hexValue? c = none := by
  rw [← Option.not_isSome_iff_eq_none]
  intro hdigit
  have hbounds := bounds_of_hexValue? hdigit
  simp only [isBlank, Bool.or_eq_true, Bool.and_eq_true, decide_eq_true_eq, beq_iff_eq] at h
  omega

theorem isHexByte_of_blank {c : Char} (h : isBlank c = true) {b : UInt8}
    (hb : b ∈ String.utf8EncodeChar c) : Percent.isHexByte b = false := by
  rw [Percent.isHexByte, Option.isSome_eq_false_iff, Option.isNone_iff_eq_none]
  by_contra hdigit
  have hbounds := bounds_of_hexValue? (Option.isSome_iff_ne_none.mpr hdigit)
  rw [Percent.toNat_charOf] at hbounds
  have hsame : b.toNat = c.toNat := Utf8.toNat_of_mem_utf8EncodeChar hb (by omega)
  rw [hsame, Char.ofNat_toNat] at hdigit
  exact hdigit (hexValue?_of_blank h)

end Text

namespace DistinguishedName

/-- A character that a value cannot hold as it is. -/
def isReserved (c : Char) : Bool := ['"', '+', ',', ';', '<', '>', '\\', '\x00'].contains c

/-- A character that may stand behind a backslash. -/
def isSpecial (c : Char) : Bool :=
  ['"', '+', ',', ';', '<', '>', '\\', ' ', '#', '='].contains c

structure HexDigit where
  char : Char
  value : Nat
  value_eq : Text.Ascii.hexValue? char = some value

/-- A character or a byte of a value, as it is written. -/
inductive Piece where
  | plain (c : Char) (h : isReserved c = false)
  | escaped (c : Char) (h : isSpecial c = true)
  | octet (high low : HexDigit)

namespace Piece

def text : Piece → List Char
  | plain c _ => [c]
  | escaped c _ => ['\\', c]
  | octet high low => ['\\', high.char, low.char]

/-- What is written. -/
def bytes : Piece → List UInt8
  | plain c _ => String.utf8EncodeChar c
  | escaped c _ => String.utf8EncodeChar c
  | octet high low => [UInt8.ofNat (16 * high.value + low.value)]

/-- What is read. -/
def shown : Piece → List Char
  | plain c _ => [c]
  | escaped c _ => [c]
  | octet high low => [high.char, low.char]

def isOctet : Piece → Bool
  | octet _ _ => true
  | _ => false

def isPlainBlank : Piece → Bool
  | plain c _ => Text.isBlank c
  | _ => false

def endsBlank : Piece → Bool
  | plain c _ => Text.isBlank c
  | escaped c _ => Text.isBlank c
  | octet _ _ => false

end Piece

open Piece

/-- Blanks go until something else is met; of an escaped blank the backslash stays behind alone, and
nothing is read of it. -/
def dropBlanks : List Piece → List Piece
  | [] => []
  | piece :: rest =>
    if piece.isPlainBlank then dropBlanks rest else if piece.endsBlank then rest else piece :: rest

def trimmed (pieces : List Piece) : List Piece :=
  (dropBlanks (pieces.dropWhile isPlainBlank).reverse).reverse

theorem HexDigit.ne (digit : HexDigit) {c : Char} (h : Text.Ascii.hexValue? c = none) :
    digit.char ≠ c := by
  intro hc
  have hvalue := digit.value_eq
  rw [hc, h] at hvalue
  cases hvalue

theorem HexDigit.isAscii_char (digit : HexDigit) : Text.Ascii.isAscii digit.char = true := by
  have hbounds := Text.bounds_of_hexValue? (Option.isSome_of_eq_some digit.value_eq)
  rw [Text.Ascii.isAscii, decide_eq_true_eq]
  omega

theorem HexDigit.not_blank (digit : HexDigit) : Text.isBlank digit.char = false := by
  by_contra hblank
  rw [Bool.not_eq_false] at hblank
  exact digit.ne (Text.hexValue?_of_blank hblank) rfl

theorem spells_text (piece : Piece) : Spells piece.text piece.shown := by
  cases piece with
  | plain c h =>
      simp only [isReserved, List.contains_eq_mem, List.mem_cons, List.not_mem_nil, or_false,
        decide_eq_false_iff_not, not_or] at h
      exact .plain (by simp [isSeparator, h]) h.2.2.2.2.2.2.1 .nil
  | escaped c => exact .escaped c .nil
  | octet high low =>
      have hcomma : low.char ≠ ',' := low.ne (by decide)
      have hsemicolon : low.char ≠ ';' := low.ne (by decide)
      have hbackslash : low.char ≠ '\\' := low.ne (by decide)
      exact .escaped _ (.plain (by simp [isSeparator, hcomma, hsemicolon]) hbackslash .nil)

theorem spells_flatMap (pieces : List Piece) :
    Spells (pieces.flatMap text) (pieces.flatMap shown) := by
  induction pieces with
  | nil => exact .nil
  | cons piece pieces ih => exact (spells_text piece).append ih

/-! ## Blanks at the ends of the text -/

theorem not_blank_backslash : Text.isBlank '\\' = false := by decide

theorem endsBlank_of_isPlainBlank {piece : Piece} (h : piece.isPlainBlank = true) :
    piece.endsBlank = true := by
  cases piece with
  | plain c => exact h
  | escaped | octet => cases h

theorem dropBlank_flatMap_text (pieces : List Piece) :
    Text.dropBlank (pieces.flatMap text) = (pieces.dropWhile isPlainBlank).flatMap text := by
  induction pieces with
  | nil => rfl
  | cons piece pieces ih =>
      by_cases hblank : piece.isPlainBlank = true
      · rw [List.dropWhile_cons_of_pos hblank, ← ih]
        cases piece with
        | plain c => exact Text.dropBlank_cons_of_blank hblank
        | escaped | octet => cases hblank
      · rw [List.dropWhile_cons_of_neg hblank]
        cases piece with
        | plain c => exact Text.dropBlank_cons_of_not_blank (Bool.not_eq_true _ ▸ hblank)
        | escaped | octet => exact Text.dropBlank_cons_of_not_blank not_blank_backslash

/-- From the end, all that is left of an escaped blank is its backslash. -/
theorem exists_dropBlank_backwards (pieces : List Piece) :
    ∃ stub, (stub = [] ∨ stub = ['\\']) ∧
      Text.dropBlank (pieces.flatMap fun piece => piece.text.reverse) =
        stub ++ (dropBlanks pieces).flatMap fun piece => piece.text.reverse := by
  induction pieces with
  | nil => exact ⟨[], .inl rfl, rfl⟩
  | cons piece pieces ih =>
      rw [dropBlanks]
      by_cases hplain : piece.isPlainBlank = true
      · obtain ⟨stub, hstub, hdrop⟩ := ih
        refine ⟨stub, hstub, ?_⟩
        rw [if_pos hplain, ← hdrop]
        cases piece with
        | plain c => exact Text.dropBlank_cons_of_blank hplain
        | escaped | octet => cases hplain
      · rw [if_neg hplain]
        by_cases hblank : piece.endsBlank = true
        · refine ⟨['\\'], .inr rfl, ?_⟩
          rw [if_pos hblank]
          cases piece with
          | plain c => exact absurd hblank hplain
          | escaped c =>
              exact (Text.dropBlank_cons_of_blank hblank).trans
                (Text.dropBlank_cons_of_not_blank not_blank_backslash)
          | octet => cases hblank
        · refine ⟨[], .inl rfl, ?_⟩
          rw [if_neg hblank]
          cases piece with
          | plain c | escaped c =>
              exact Text.dropBlank_cons_of_not_blank (Bool.not_eq_true _ ▸ hblank)
          | octet high low => exact Text.dropBlank_cons_of_not_blank low.not_blank

theorem unescape_trimChars (pieces : List Piece) :
    unescape (Text.trimChars (pieces.flatMap text)) = (trimmed pieces).flatMap shown := by
  have hspells := spells_flatMap (trimmed pieces)
  obtain ⟨stub, hstub, hdrop⟩ :=
    exists_dropBlank_backwards (pieces.dropWhile isPlainBlank).reverse
  have hbackwards : (stub ++
      (dropBlanks (pieces.dropWhile isPlainBlank).reverse).flatMap
        fun piece => piece.text.reverse).reverse =
      (trimmed pieces).flatMap text ++ stub.reverse := by
    rw [List.reverse_append, List.reverse_flatMap, trimmed]
    simp [Function.comp_def]
  have htrim : Text.trimChars (pieces.flatMap text) =
      (trimmed pieces).flatMap text ++ stub.reverse := by
    rw [Text.trimChars, dropBlank_flatMap_text, List.reverse_flatMap]
    exact (congrArg List.reverse hdrop).trans hbackwards
  rw [htrim]
  rcases hstub with rfl | rfl
  · rw [List.reverse_nil, List.append_nil, hspells.unescape_eq]
  · exact hspells.unescape_append_backslash

theorem dropBlanks_eq_self {pieces : List Piece}
    (h : ∀ piece ∈ pieces.head?, piece.endsBlank = false) : dropBlanks pieces = pieces := by
  cases pieces with
  | nil => rfl
  | cons piece rest =>
      have hblank : ¬ piece.endsBlank = true := by simp [h piece rfl]
      have hplain : ¬ piece.isPlainBlank = true := fun hplain =>
        hblank (endsBlank_of_isPlainBlank hplain)
      rw [dropBlanks, if_neg hplain, if_neg hblank]

theorem exists_dropBlanks (pieces : List Piece) :
    ∃ gone, (∀ piece ∈ gone, piece.endsBlank = true) ∧ pieces = gone ++ dropBlanks pieces ∧
      (gone = [] → ∀ piece ∈ pieces.head?, piece.endsBlank = false) := by
  induction pieces with
  | nil => exact ⟨[], by simp, rfl, by simp⟩
  | cons piece rest ih =>
      rw [dropBlanks]
      by_cases hplain : piece.isPlainBlank = true
      · obtain ⟨gone, hgone, hrest, -⟩ := ih
        refine ⟨piece :: gone, ?_, ?_, by simp⟩
        · exact List.forall_mem_cons.mpr ⟨endsBlank_of_isPlainBlank hplain, hgone⟩
        · rw [if_pos hplain, List.cons_append, ← hrest]
      · rw [if_neg hplain]
        by_cases hblank : piece.endsBlank = true
        · exact ⟨[piece], by simpa using hblank, by rw [if_pos hblank]; rfl, by simp⟩
        · exact ⟨[], by simp, by rw [if_neg hblank]; rfl, by simpa using hblank⟩

theorem trimmed_eq_self {pieces : List Piece}
    (hhead : ∀ piece ∈ pieces.head?, piece.isPlainBlank = false)
    (hlast : ∀ piece ∈ pieces.getLast?, piece.endsBlank = false) : trimmed pieces = pieces := by
  have hfront : pieces.dropWhile isPlainBlank = pieces := by
    cases pieces with
    | nil => rfl
    | cons piece rest => exact List.dropWhile_cons_of_neg (by simp [hhead piece rfl])
  rw [trimmed, hfront, dropBlanks_eq_self, List.reverse_reverse]
  rw [List.head?_reverse]
  exact hlast

theorem isTight_flatMap_text_iff {pieces : List Piece} :
    Text.IsTight (pieces.flatMap text) ↔
      (∀ piece ∈ pieces.head?, piece.isPlainBlank = false) ∧
        ∀ piece ∈ pieces.getLast?, piece.endsBlank = false := by
  have hfront : (∀ c ∈ (pieces.flatMap text).head?, Text.isBlank c = false) ↔
      ∀ piece ∈ pieces.head?, piece.isPlainBlank = false := by
    cases pieces with
    | nil => simp
    | cons piece rest => cases piece <;> simp [text, isPlainBlank, not_blank_backslash]
  have hback : (∀ c ∈ (pieces.flatMap text).getLast?, Text.isBlank c = false) ↔
      ∀ piece ∈ pieces.getLast?, piece.endsBlank = false := by
    rcases List.eq_nil_or_concat pieces with rfl | ⟨rest, piece, rfl⟩
    · simp
    · cases piece with
      | plain | escaped => simp [text, endsBlank]
      | octet high low => simp [text, endsBlank, low.not_blank]
  exact ⟨fun h => ⟨hfront.mp h.front, hback.mp h.back⟩,
    fun h => ⟨hfront.mpr h.1, hback.mpr h.2⟩⟩

theorem exists_trimmed (pieces : List Piece) :
    ∃ front back, (∀ piece ∈ front ++ back, piece.endsBlank = true) ∧
      pieces = front ++ trimmed pieces ++ back ∧
        (front ++ back = [] → Text.IsTight (pieces.flatMap text)) := by
  obtain ⟨gone, hgone, hback, hnone⟩ := exists_dropBlanks (pieces.dropWhile isPlainBlank).reverse
  have hwhole : pieces.takeWhile isPlainBlank ++ pieces.dropWhile isPlainBlank = pieces :=
    List.takeWhile_append_dropWhile
  refine ⟨pieces.takeWhile isPlainBlank, gone.reverse, ?_, ?_, ?_⟩
  · intro piece hpiece
    rcases List.mem_append.mp hpiece with hfront | hend
    · exact endsBlank_of_isPlainBlank (List.mem_takeWhile_imp hfront)
    · exact hgone piece (List.mem_reverse.mp hend)
  · have hkept : pieces.dropWhile isPlainBlank = trimmed pieces ++ gone.reverse := by
      rw [trimmed, ← List.reverse_append, ← hback, List.reverse_reverse]
    rw [List.append_assoc, ← hkept, hwhole]
  · intro hempty
    obtain ⟨hfront, hend⟩ := List.append_eq_nil_iff.mp hempty
    rw [hfront, List.nil_append] at hwhole
    rw [hwhole, List.head?_reverse] at hnone
    refine isTight_flatMap_text_iff.mpr ⟨?_, hnone (List.reverse_eq_nil_iff.mp hend)⟩
    intro piece hpiece
    obtain ⟨rest, rfl⟩ := List.head?_eq_some_iff.mp hpiece
    simpa [List.takeWhile_cons] using hfront

/-! ## Bytes that are written and bytes that are read -/

def shownBytes (piece : Piece) : List UInt8 := piece.shown.flatMap String.utf8EncodeChar

theorem shownBytes_of_not_octet {piece : Piece} (h : piece.isOctet = false) :
    shownBytes piece = piece.bytes := by
  cases piece with
  | plain | escaped => exact List.flatMap_singleton _ _
  | octet => cases h

theorem shownBytes_octet (high low : HexDigit) :
    shownBytes (.octet high low) =
      [Text.Percent.byteOf high.char, Text.Percent.byteOf low.char] := by
  have hascii : ∀ c ∈ [high.char, low.char], Text.Ascii.isAscii c = true := by
    simp [high.isAscii_char, low.isAscii_char]
  exact Text.Percent.flatMap_utf8EncodeChar hascii

theorem HexDigit.isHexByte_char (digit : HexDigit) :
    Text.Percent.isHexByte (Text.Percent.byteOf digit.char) = true := by
  rw [Text.Percent.isHexByte, Text.Percent.charOf_byteOf digit.isAscii_char, digit.value_eq]
  rfl

/-- Nothing but digits is read that was not written. -/
theorem countP_shownBytes_le (pieces : List Piece) :
    (pieces.flatMap shownBytes).countP (!Text.Percent.isHexByte ·) ≤
      (pieces.flatMap bytes).countP (!Text.Percent.isHexByte ·) := by
  induction pieces with
  | nil => exact le_rfl
  | cons piece pieces ih =>
      rw [List.flatMap_cons, List.flatMap_cons, List.countP_append, List.countP_append]
      refine Nat.add_le_add ?_ ih
      cases piece with
      | plain | escaped => rw [shownBytes_of_not_octet rfl]
      | octet high low =>
          rw [shownBytes_octet]
          simp [high.isHexByte_char, low.isHexByte_char]

theorem length_le_countP_of_blank {pieces : List Piece}
    (h : ∀ piece ∈ pieces, piece.endsBlank = true) :
    pieces.length ≤ (pieces.flatMap bytes).countP (!Text.Percent.isHexByte ·) := by
  have hblank : ∀ {c : Char}, Text.isBlank c = true →
      1 ≤ (String.utf8EncodeChar c).countP (!Text.Percent.isHexByte ·) := by
    intro c hc
    have hall : ∀ b ∈ String.utf8EncodeChar c, (!Text.Percent.isHexByte b) = true := by
      intro b hb
      rw [Text.isHexByte_of_blank hc hb]
      rfl
    rw [List.countP_eq_length.mpr hall, String.length_utf8EncodeChar]
    exact c.utf8Size_pos
  induction pieces with
  | nil => exact le_rfl
  | cons piece pieces ih =>
      obtain ⟨hpiece, hpieces⟩ := List.forall_mem_cons.mp h
      rw [List.flatMap_cons, List.countP_append, List.length_cons, Nat.add_comm]
      refine Nat.add_le_add ?_ (ih hpieces)
      cases piece with
      | plain | escaped => exact hblank hpiece
      | octet => cases hpiece

/-- A byte that is written in digits is read as two. -/
theorem length_flatMap_shownBytes (pieces : List Piece) :
    (pieces.flatMap shownBytes).length =
      (pieces.flatMap bytes).length + pieces.countP isOctet := by
  induction pieces with
  | nil => rfl
  | cons piece pieces ih =>
      rw [List.flatMap_cons, List.flatMap_cons, List.length_append, List.length_append, ih,
        List.countP_cons]
      cases piece with
      | plain | escaped =>
          rw [shownBytes_of_not_octet rfl]
          simp [isOctet]
          omega
      | octet high low =>
          rw [shownBytes_octet]
          simp [isOctet, bytes]
          omega

theorem encode_shown (pieces : List Piece) :
    Text.Utf8.encode (.ofList (pieces.flatMap shown)) = pieces.flatMap shownBytes := by
  rw [Text.Utf8.encode, String.toList_ofList, List.flatMap_assoc]
  rfl

/-- The value itself is read exactly if none of its bytes is written in digits and none of its
pieces is lost at an end. -/
theorem shown_trimmed_eq_iff {value : String} {pieces : List Piece}
    (hbytes : pieces.flatMap bytes = Text.Utf8.encode value) :
    (trimmed pieces).flatMap shown = value.toList ↔
      (∀ piece ∈ pieces, piece.isOctet = false) ∧ Text.IsTight (pieces.flatMap text) := by
  constructor
  · intro hshown
    have hread : (trimmed pieces).flatMap shownBytes = pieces.flatMap bytes := by
      rw [hbytes, ← encode_shown, hshown, String.ofList_toList]
    obtain ⟨front, back, hends, hpieces, htight⟩ := exists_trimmed pieces
    -- each piece that is lost at an end has a byte that no digit makes up for
    have hnone : front ++ back = [] := by
      have hle := countP_shownBytes_le (trimmed pieces)
      have hlost := length_le_countP_of_blank hends
      have hcount := congrArg
        (fun whole => (whole.flatMap bytes).countP (!Text.Percent.isHexByte ·)) hpieces
      simp only [List.flatMap_append, List.countP_append] at hlost hcount
      rw [hread] at hle
      apply List.length_eq_zero_iff.mp
      omega
    have hkept : trimmed pieces = pieces := by
      obtain ⟨rfl, rfl⟩ := List.append_eq_nil_iff.mp hnone
      simpa using hpieces.symm
    have hlength := length_flatMap_shownBytes pieces
    rw [← hread, hkept] at hlength
    have hoctets : pieces.countP isOctet = 0 := by omega
    refine ⟨?_, htight hnone⟩
    intro piece hpiece
    simpa using List.countP_eq_zero.mp hoctets piece hpiece
  · rintro ⟨hoctets, htight⟩
    obtain ⟨hhead, hlast⟩ := isTight_flatMap_text_iff.mp htight
    have hread : pieces.flatMap shownBytes = pieces.flatMap bytes :=
      List.flatMap_congr fun piece hpiece => shownBytes_of_not_octet (hoctets piece hpiece)
    have hencode : Text.Utf8.encode (.ofList (pieces.flatMap shown)) = Text.Utf8.encode value := by
      rw [encode_shown, hread, hbytes]
    rw [trimmed_eq_self hhead hlast, ← Text.Utf8.encode_injective hencode, String.toList_ofList]

/-! ## Written values -/

/-- A way to write a value: a space at an end and a number sign at the front are never plain. -/
structure Writing (value : String) where
  pieces : List Piece
  bytes_eq : pieces.flatMap bytes = Text.Utf8.encode value
  front : ∀ piece ∈ pieces.head?, piece.text ≠ [' '] ∧ piece.text ≠ ['#']
  back : ∀ piece ∈ pieces.getLast?, piece.text ≠ [' ']

namespace Writing

variable {value : String}

def text (writing : Writing value) : String := .ofList (writing.pieces.flatMap Piece.text)

def shown (writing : Writing value) : String :=
  .ofList ((trimmed writing.pieces).flatMap Piece.shown)

theorem commonName_eq (writing : Writing value) :
    commonName ("CN=" ++ writing.text ++ ",OU=x") =
      if writing.shown.toList.isEmpty = true then none
      else some (.ofList writing.shown.toList) := by
  have hname : "CN=" ++ writing.text ++ ",OU=x" =
      .ofList ("CN".toList ++ '=' :: writing.pieces.flatMap Piece.text ++
        ',' :: "OU=x".toList) := by
    rw [← String.toList_inj]
    simp [text]
  have hkind : Spells "CN".toList "CN".toList := .of_plain (by simp [isSeparator])
  have hspells := hkind.append
    (.plain (by decide) (by decide) (spells_flatMap writing.pieces) : Spells ('=' :: _) _)
  have hlower : Text.Ascii.lower (.ofList (Text.trimChars "CN".toList)) = "cn" := by
    rw [← String.toList_inj, Text.Ascii.toList_lower, String.toList_ofList]
    decide
  have hunit : Text.Ascii.lower (.ofList (Text.trimChars "OU".toList)) ≠ "cn" := by
    rw [Ne, ← String.toList_inj, Text.Ascii.toList_lower, String.toList_ofList]
    decide
  have hplain : Spells "OU=x".toList "OU=x".toList := .of_plain (by simp [isSeparator])
  have hother : commonName (.ofList "OU=x".toList) = none := by
    have hcut : "OU=x".toList = "OU".toList ++ '=' :: "x".toList := rfl
    rw [hplain.commonName_eq, hcut, commonNameOf?_append_cons (by decide), if_neg hunit]
  rw [hname, hspells.commonName_append_cons (by decide), hother, Option.or_none,
    commonNameOf?_append_cons (by decide), if_pos hlower, unescape_trimChars, shown,
    String.toList_ofList]

/-- What is read of a value that is written in the standard form: its pieces without the blanks at
the ends, and the digits of a byte in place of the byte.  So it is the value itself only if no
byte is written in digits and no blank stands at an end of the text. -/
theorem commonName_writing (writing : Writing value) :
    (∀ read, commonName ("CN=" ++ writing.text ++ ",OU=x") = some read ↔
        writing.shown = read ∧ read ≠ "") ∧
      (commonName ("CN=" ++ writing.text ++ ",OU=x") = some value ↔
        value ≠ "" ∧ (∀ piece ∈ writing.pieces, piece.isOctet = false) ∧
          Text.IsTight writing.text.toList) := by
  have hread : ∀ read, commonName ("CN=" ++ writing.text ++ ",OU=x") = some read ↔
      writing.shown = read ∧ read ≠ "" := by
    intro read
    rw [writing.commonName_eq, Text.ite_isEmpty_eq_some_iff, String.toList_inj]
  refine ⟨hread, ?_⟩
  rw [hread, ← String.toList_inj, shown, text, String.toList_ofList, String.toList_ofList,
    shown_trimmed_eq_iff writing.bytes_eq, and_comm]

/-- A letter written as its two bytes, and an escaped space at the end. -/
theorem commonName_differs :
    (∃ writing : Writing "é", writing.text = "\\C3\\A9" ∧
        commonName ("CN=" ++ writing.text ++ ",OU=x") = some "C3A9") ∧
      ∃ writing : Writing "a ", writing.text = "a\\ " ∧
        commonName ("CN=" ++ writing.text ++ ",OU=x") = some "a" := by
  let digitC : HexDigit := ⟨'C', 12, by decide⟩
  let digit3 : HexDigit := ⟨'3', 3, by decide⟩
  let digitA : HexDigit := ⟨'A', 10, by decide⟩
  let digit9 : HexDigit := ⟨'9', 9, by decide⟩
  let letter : Writing "é" := {
    pieces := [.octet digitC digit3, .octet digitA digit9]
    bytes_eq := by decide
    front := by decide
    back := by decide }
  let spaced : Writing "a " := {
    pieces := [.plain 'a' (by decide), .escaped ' ' (by decide)]
    bytes_eq := by decide
    front := by decide
    back := by decide }
  have hletter : letter.shown = "C3A9" := rfl
  have hspaced : spaced.shown = "a" := rfl
  refine ⟨⟨letter, rfl, ?_⟩, ⟨spaced, rfl, ?_⟩⟩
  · rw [letter.commonName_eq, hletter]
    rfl
  · rw [spaced.commonName_eq, hspaced]
    rfl

end Writing

end DistinguishedName

end AccessGateway
