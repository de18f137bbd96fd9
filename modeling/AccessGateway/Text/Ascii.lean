/-!
# ASCII letters, digits and hexadecimal

Case folding that touches ASCII letters alone, the character classes of the network formats
(names of headers, host names, hexadecimal digits), and comparison without regard to ASCII case.
-/

namespace AccessGateway.Text.Ascii

/-- An upper case ASCII letter as lower case; every other character as it is. -/
def lowerChar (c : Char) : Char := c.toLower

def lower (s : String) : String := s.map lowerChar

def equalIgnoringCase (s t : String) : Bool := lower s == lower t

def isLetter (c : Char) : Bool := c.isAlpha

def isDigit (c : Char) : Bool := c.isDigit

def isLetterOrDigit (c : Char) : Bool := isLetter c || isDigit c

def isAscii (c : Char) : Bool := c.toNat < 0x80

/-- A visible ASCII character, the space included. -/
def isPrintable (c : Char) : Bool := 0x20 ≤ c.toNat && c.toNat < 0x7F

def hexValue? (c : Char) : Option Nat :=
  if '0' ≤ c ∧ c ≤ '9' then some (c.toNat - '0'.toNat)
  else if 'a' ≤ c ∧ c ≤ 'f' then some (c.toNat - 'a'.toNat + 10)
  else if 'A' ≤ c ∧ c ≤ 'F' then some (c.toNat - 'A'.toNat + 10)
  else none

/-- The lower case hexadecimal digit of a number below sixteen. -/
def hexDigit (n : Nat) : Char := Nat.digitChar n

/-- The upper case hexadecimal digit of a number below sixteen. -/
def upperHexDigit (n : Nat) : Char := (Nat.digitChar n).toUpper

theorem hexValue?_upperHexDigit {n : Nat} (h : n < 16) : hexValue? (upperHexDigit n) = some n := by
  have : ∀ m : Fin 16, hexValue? (upperHexDigit m) = some m.val := by decide
  exact this ⟨n, h⟩

theorem hexValue?_hexDigit {n : Nat} (h : n < 16) : hexValue? (hexDigit n) = some n := by
  have : ∀ m : Fin 16, hexValue? (hexDigit m) = some m.val := by decide
  exact this ⟨n, h⟩

@[simp] theorem toList_lower (s : String) : (lower s).toList = s.toList.map lowerChar := by
  simp [lower]

/-- A number in lower case hexadecimal with leading zeros up to the given width. -/
def hexPadded (width n : Nat) : String :=
  let digits := Nat.toDigits 16 n
  String.ofList (List.replicate (width - digits.length) '0' ++ digits)

def hexNat? (s : String) : Option Nat :=
  if s.isEmpty then none
  else s.toList.foldlM (fun value c => (hexValue? c).map (value * 16 + ·)) 0

end AccessGateway.Text.Ascii
