import AccessGateway.Json.Printer
import AccessGateway.Json.Token
import AccessGateway.Proofs.Text.DecimalDigits

/-!
# Scanning what was written

The compact form of a value is scanned into the tokens of the value.  A number
ends only with the character after it, so what follows a value must begin with a
comma or with the end of a container.  Numbers that are kept as literals are left
out, since nothing says that the literal is one.
-/

namespace AccessGateway.Json

mutual

/-- The tokens of the compact form of a value. -/
def tokens : Json → List Token
  | .null => [.null]
  | .bool b => [.bool b]
  | .integer i => [.integer i]
  | .decimal literal => [.decimal literal]
  | .string s => [.text (some s)]
  | .array items => .openArray :: (itemTokens items ++ [.closeArray])
  | .object members => .openObject :: (memberTokens members ++ [.closeObject])

def itemTokens : List Json → List Token
  | [] => []
  | [item] => tokens item
  | item :: rest => tokens item ++ .comma :: itemTokens rest

def memberTokens : List (String × Json) → List Token
  | [] => []
  | [(name, value)] => .text (some name) :: .colon :: tokens value
  | (name, value) :: rest =>
    .text (some name) :: .colon :: (tokens value ++ .comma :: memberTokens rest)

end

mutual

/-- Every number in a value is an integer. -/
def isIntegral : Json → Bool
  | .decimal _ => false
  | .array items => areIntegral items
  | .object members => membersIntegral members
  | _ => true

def areIntegral : List Json → Bool
  | [] => true
  | item :: rest => isIntegral item && areIntegral rest

def membersIntegral : List (String × Json) → Bool
  | [] => true
  | (_, value) :: rest => isIntegral value && membersIntegral rest

end

namespace Token

/-- Nothing follows, or what ends a number does. -/
def Delimited (rest : List Char) : Prop :=
  ∀ c ∈ rest.head?, c = ',' ∨ c = ']' ∨ c = '\x7d'

theorem delimited_nil : Delimited [] := by
  simp [Delimited]

theorem delimited_cons {c : Char} (rest : List Char) (h : c = ',' ∨ c = ']' ∨ c = '\x7d') :
    Delimited (c :: rest) := by
  intro d hd
  cases hd
  exact h

/-! ## Numbers -/

theorem startOf_digit {c : Char} (hdigit : c.isDigit = true) (hzero : c ≠ '0') :
    startOf c = ([], .number [c] .whole) := by
  unfold startOf
  split
  all_goals first
    | exact absurd rfl hzero
    | exact absurd hdigit (by decide)
    | rw [if_pos hdigit]

theorem scanFrom_digits {digits : List Char} (h : ∀ c ∈ digits, c.isDigit = true)
    (read : List Char) (done : List Token) (rest : List Char) :
    scanFrom (.number read .whole) done (digits ++ rest) =
      scanFrom (.number (digits.reverse ++ read) .whole) done rest := by
  induction digits generalizing read with
  | nil => rfl
  | cons c digits ih =>
      have hc := h c List.mem_cons_self
      have hnext := ih (fun d hd => h d (List.mem_cons_of_mem c hd)) (c :: read)
      simp [scanFrom, step, NumberPart.next?, hc, hnext]

theorem scanFrom_number_end {rest : List Char} (hrest : Delimited rest) {read : List Char}
    {part : NumberPart} (hpart : part = .zero ∨ part = .whole) (done : List Token) :
    scanFrom (.number read part) done rest =
      scanFrom .between (ofNumber read part :: done) rest := by
  cases rest with
  | nil => simp [scanFrom, finish]
  | cons c rest =>
      rcases hrest c rfl with rfl | rfl | rfl <;> rcases hpart with rfl | rfl <;>
        simp [scanFrom, step, NumberPart.next?, NumberPart.isComplete, startOf]

/-- The digits of a positive number are scanned from the second one to the end. -/
theorem scanFrom_positive {n : Nat} (h : 0 < n) {rest : List Char} (hrest : Delimited rest)
    (read : List Char) (done : List Token) :
    ∃ c digits, Text.Decimal.digits n = c :: digits ∧ c.isDigit = true ∧ c ≠ '0' ∧
      scanFrom (.number (c :: read) .whole) done (digits ++ rest) =
        scanFrom .between
          (ofNumber ((Text.Decimal.digits n).reverse ++ read) .whole :: done) rest := by
  obtain ⟨c, digits, hdigits, hzero⟩ := Text.Decimal.digits_eq_cons h
  have hall : ∀ d ∈ c :: digits, d.isDigit = true := by
    intro d hd
    exact Text.Decimal.isDigit_of_mem_digits (hdigits ▸ hd)
  refine ⟨c, digits, hdigits, hall c List.mem_cons_self, hzero, ?_⟩
  rw [scanFrom_digits fun d hd => hall d (List.mem_cons_of_mem c hd),
    scanFrom_number_end hrest (.inr rfl), hdigits]
  simp

theorem scanFrom_nat (n : Nat) {rest : List Char} (hrest : Delimited rest)
    (done : List Token) :
    scanFrom .between done (Text.Decimal.digits n ++ rest) =
      scanFrom .between (.integer n :: done) rest := by
  rcases Nat.eq_zero_or_pos n with rfl | hpos
  · show scanFrom (.number ['0'] .zero) done rest = _
    rw [scanFrom_number_end hrest (.inl rfl)]
    rfl
  · obtain ⟨c, digits, hdigits, hc, hzero, hscan⟩ := scanFrom_positive hpos hrest [] done
    have hsign : c ≠ '-' := by
      rintro rfl
      cases hc
    have hvalue := Text.Decimal.value_digits n
    rw [hdigits] at hscan hvalue ⊢
    rw [List.cons_append, scanFrom, step, startOf_digit hc hzero]
    refine hscan.trans ?_
    simp [ofNumber, hsign, hvalue]

theorem scanFrom_negative {n : Nat} (hpos : 0 < n) {rest : List Char}
    (hrest : Delimited rest) (done : List Token) :
    scanFrom .between done ('-' :: Text.Decimal.digits n ++ rest) =
      scanFrom .between (.integer (-n) :: done) rest := by
  obtain ⟨c, digits, hdigits, hc, hzero, hscan⟩ := scanFrom_positive hpos hrest ['-'] done
  have hvalue := Text.Decimal.value_digits n
  rw [hdigits] at hscan hvalue ⊢
  have hstart : scanFrom .between done ('-' :: (c :: digits) ++ rest) =
      scanFrom (.number [c, '-'] .whole) done (digits ++ rest) := by
    simp [scanFrom, step, startOf, NumberPart.next?, hc, hzero]
  rw [hstart, hscan]
  simp [ofNumber, hvalue]

theorem scanFrom_integer (i : Int) {rest : List Char} (hrest : Delimited rest)
    (done : List Token) :
    scanFrom .between done ((Text.Decimal.ofInt i).toList ++ rest) =
      scanFrom .between (.integer i :: done) rest := by
  cases i with
  | ofNat n =>
      rw [Text.Decimal.ofInt, String.toList_ofList]
      exact scanFrom_nat n hrest done
  | negSucc n =>
      rw [Text.Decimal.ofInt, String.toList_ofList]
      exact scanFrom_negative (Nat.succ_pos n) hrest done

/-! ## Strings -/

/-- A character is read back from its spelling inside a string. -/
theorem scanFrom_printedChar (c : Char) (read : List Char) (done : List Token)
    (rest : List Char) :
    scanFrom (.text read true) done (printedChar c ++ rest) =
      scanFrom (.text (c :: read) true) done rest := by
  unfold printedChar
  split
  all_goals try rfl
  next hquote hbackslash _ _ _ _ _ =>
    replace hquote : c ≠ '"' := hquote
    replace hbackslash : c ≠ '\\' := hbackslash
    split
    next hlow =>
      have hhigh := Text.Ascii.hexValue?_hexDigit (n := c.toNat / 16) (by omega)
      have hdigit := Text.Ascii.hexValue?_hexDigit (n := c.toNat % 16) (by omega)
      have hvalue : c.toNat / 16 * 16 + c.toNat % 16 = c.toNat := by omega
      have hzero : Text.Ascii.hexValue? '0' = some 0 := by decide
      have hnot : ¬ (0xD800 ≤ c.toNat ∧ c.toNat < 0xDC00) := by omega
      have hnot' : ¬ (0xDC00 ≤ c.toNat ∧ c.toNat < 0xE000) := by omega
      simp [scanFrom, step, stepText, hzero, hhigh, hdigit, afterUnicode, hvalue, hnot, hnot',
        Char.ofNat_toNat]
    next hlow =>
      simp [scanFrom, step, stepText, hquote, hbackslash, hlow]

theorem scanFrom_printedChars (chars read : List Char) (done : List Token)
    (rest : List Char) :
    scanFrom (.text read true) done (chars.flatMap printedChar ++ rest) =
      scanFrom (.text (chars.reverse ++ read) true) done rest := by
  induction chars generalizing read with
  | nil => rfl
  | cons c chars ih =>
      rw [List.flatMap_cons, List.append_assoc, scanFrom_printedChar, ih]
      simp

theorem scanFrom_printedString (s : String) (done : List Token) (rest : List Char) :
    scanFrom .between done ((printedString s).toList ++ rest) =
      scanFrom .between (.text (some s) :: done) rest := by
  have hopen : scanFrom .between done ((printedString s).toList ++ rest) =
      scanFrom (.text [] true) done (s.toList.flatMap printedChar ++ '"' :: rest) := by
    simp [printedString, scanFrom, step, startOf]
  rw [hopen, scanFrom_printedChars]
  simp [scanFrom, step, stepText]

/-! ## Values -/

theorem scanFrom_punctuation {c : Char} {token : Token} (h : startOf c = ([token], .between))
    (done : List Token) (rest : List Char) :
    scanFrom .between done (c :: rest) = scanFrom .between (token :: done) rest := by
  simp [scanFrom, step, h]

mutual

/-- The compact form of a value is scanned into its tokens. -/
theorem scanFrom_print (value : Json) (h : value.isIntegral = true) {rest : List Char}
    (hrest : Delimited rest) (done : List Token) :
    scanFrom .between done (value.print.toList ++ rest) =
      scanFrom .between (value.tokens.reverse ++ done) rest := by
  cases value with
  | null => rfl
  | bool b => cases b <;> rfl
  | integer i => exact scanFrom_integer i hrest done
  | decimal literal => cases h
  | string s => exact scanFrom_printedString s done rest
  | array items =>
      simp only [print, tokens, String.toList_append, List.append_assoc]
      show scanFrom .between done ('[' :: ((printItems items).toList ++ ']' :: rest)) = _
      rw [scanFrom_punctuation rfl,
        scanFrom_printItems items h (delimited_cons rest (by simp)),
        scanFrom_punctuation rfl]
      simp
  | object members =>
      simp only [print, tokens, String.toList_append, List.append_assoc]
      show scanFrom .between done
        ('\x7b' :: ((printMembers members).toList ++ '\x7d' :: rest)) = _
      rw [scanFrom_punctuation rfl,
        scanFrom_printMembers members h (delimited_cons rest (by simp)),
        scanFrom_punctuation rfl]
      simp

theorem scanFrom_printItems (items : List Json) (h : areIntegral items = true)
    {rest : List Char} (hrest : Delimited rest) (done : List Token) :
    scanFrom .between done ((printItems items).toList ++ rest) =
      scanFrom .between ((itemTokens items).reverse ++ done) rest := by
  match items with
  | [] => rfl
  | [item] =>
      simp only [areIntegral, Bool.and_true] at h
      exact scanFrom_print item h hrest done
  | item :: second :: others =>
      rw [areIntegral, Bool.and_eq_true] at h
      simp only [printItems, itemTokens, String.toList_append, List.append_assoc]
      show scanFrom .between done
        (item.print.toList ++ ',' :: ((printItems (second :: others)).toList ++ rest)) = _
      rw [scanFrom_print item h.1 (delimited_cons _ (by simp)), scanFrom_punctuation rfl,
        scanFrom_printItems (second :: others) h.2 hrest]
      simp

theorem scanFrom_printMembers (members : List (String × Json))
    (h : membersIntegral members = true) {rest : List Char} (hrest : Delimited rest)
    (done : List Token) :
    scanFrom .between done ((printMembers members).toList ++ rest) =
      scanFrom .between ((memberTokens members).reverse ++ done) rest := by
  match members with
  | [] => rfl
  | [(name, value)] =>
      simp only [membersIntegral, Bool.and_true] at h
      simp only [printMembers, memberTokens, String.toList_append, List.append_assoc]
      show scanFrom .between done
        ((printedString name).toList ++ ':' :: (value.print.toList ++ rest)) = _
      rw [scanFrom_printedString, scanFrom_punctuation rfl, scanFrom_print value h hrest]
      simp
  | (name, value) :: second :: others =>
      rw [membersIntegral, Bool.and_eq_true] at h
      simp only [printMembers, memberTokens, String.toList_append, List.append_assoc]
      show scanFrom .between done
        ((printedString name).toList ++ ':' :: (value.print.toList ++
          ',' :: ((printMembers (second :: others)).toList ++ rest))) = _
      rw [scanFrom_printedString, scanFrom_punctuation rfl,
        scanFrom_print value h.1 (delimited_cons _ (by simp)), scanFrom_punctuation rfl,
        scanFrom_printMembers (second :: others) h.2 hrest]
      simp

end

theorem scan_print {value : Json} (h : value.isIntegral = true) :
    scan value.print = value.tokens := by
  have hscan := scanFrom_print value h delimited_nil []
  rw [List.append_nil] at hscan
  rw [scan, hscan]
  simp [scanFrom, finish]

end Token

end AccessGateway.Json
