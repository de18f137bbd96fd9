/-!
# Whole numbers in decimal

Writing and reading of natural numbers and integers without a plus sign, blanks or
leading decoration.  Reading accepts a non-empty run of ASCII digits.
-/

namespace AccessGateway.Text.Decimal

/-- The digits of a natural number, most significant first. -/
def digits (n : Nat) : List Char := Nat.toDigits 10 n

def digitValue (c : Char) : Nat := c.toNat - '0'.toNat

/-- The value of a list of digits, most significant first. -/
def value (chars : List Char) : Nat :=
  chars.foldl (fun total c => total * 10 + digitValue c) 0

def nat? (s : String) : Option Nat :=
  let chars := s.toList
  if chars.isEmpty then none
  else if chars.all Char.isDigit then some (value chars) else none

/-- Writes an integer; a negative one begins with `-`. -/
def ofInt (i : Int) : String :=
  match i with
  | .ofNat n => String.ofList (digits n)
  | .negSucc n => String.ofList ('-' :: digits (n + 1))

def ofNat (n : Nat) : String := String.ofList (digits n)

end AccessGateway.Text.Decimal
