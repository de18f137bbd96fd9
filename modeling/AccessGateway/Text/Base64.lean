/-!
# Base64

Bytes as text, six bits a character, in the standard alphabet with padding and in the alphabet
for URLs without it.  Reading is strict: the padding must be exactly the one writing gives, and
the unused bits of the last character must be zero, so every byte string has one spelling.
-/

namespace AccessGateway.Text.Base64

/-- The two characters after the letters and digits, and whether the text is padded. -/
structure Variant where
  char62 : Char
  char63 : Char
  padded : Bool

/-- The alphabet with `+` and `/`, padded to groups of four. -/
def standard : Variant := ⟨'+', '/', true⟩

/-- The alphabet with `-` and `_`, without padding. -/
def urlSafe : Variant := ⟨'-', '_', false⟩

def charOf (variant : Variant) (n : Nat) : Char :=
  if n < 26 then Char.ofNat ('A'.toNat + n)
  else if n < 52 then Char.ofNat ('a'.toNat + (n - 26))
  else if n < 62 then Char.ofNat ('0'.toNat + (n - 52))
  else if n = 62 then variant.char62
  else variant.char63

def valueOf? (variant : Variant) (c : Char) : Option Nat :=
  if 'A' ≤ c ∧ c ≤ 'Z' then some (c.toNat - 'A'.toNat)
  else if 'a' ≤ c ∧ c ≤ 'z' then some (c.toNat - 'a'.toNat + 26)
  else if '0' ≤ c ∧ c ≤ '9' then some (c.toNat - '0'.toNat + 52)
  else if c = variant.char62 then some 62
  else if c = variant.char63 then some 63
  else none

/-- The six-bit numbers of a byte string; the last one is filled up with zeros. -/
def sextets : List UInt8 → List Nat
  | [] => []
  | [a] => [a.toNat / 4, a.toNat % 4 * 16]
  | [a, b] => [a.toNat / 4, a.toNat % 4 * 16 + b.toNat / 16, b.toNat % 16 * 4]
  | a :: b :: c :: rest =>
    a.toNat / 4 :: (a.toNat % 4 * 16 + b.toNat / 16) :: (b.toNat % 16 * 4 + c.toNat / 64) ::
      (c.toNat % 64) :: sextets rest

/-- The bytes behind six-bit numbers, if there is a whole number of them and the rest is zero. -/
def octets? : List Nat → Option (List UInt8)
  | [] => some []
  | [_] => none
  | [a, b] => if b % 16 = 0 then some [UInt8.ofNat (a * 4 + b / 16)] else none
  | [a, b, c] =>
    if c % 4 = 0 then
      some [UInt8.ofNat (a * 4 + b / 16), UInt8.ofNat (b % 16 * 16 + c / 4)]
    else none
  | a :: b :: c :: d :: rest =>
    (octets? rest).map fun bytes =>
      UInt8.ofNat (a * 4 + b / 16) :: UInt8.ofNat (b % 16 * 16 + c / 4) ::
        UInt8.ofNat (c % 4 * 64 + d) :: bytes

/-- How many padding characters follow a number of others. -/
def padding (length : Nat) : Nat := (4 - length % 4) % 4

def encode (variant : Variant) (bytes : List UInt8) : String :=
  let chars := (sextets bytes).map (charOf variant)
  let pad := if variant.padded then List.replicate (padding chars.length) '=' else []
  String.ofList (chars ++ pad)

/-- Reads bytes; nothing when the text is not what writing gives. -/
def decode? (variant : Variant) (s : String) : Option (List UInt8) :=
  let chars := s.toList
  if variant.padded then
    let tail := (chars.reverse.takeWhile (· == '=')).length
    let body := chars.take (chars.length - tail)
    if tail = padding body.length then (body.mapM (valueOf? variant)).bind octets? else none
  else (chars.mapM (valueOf? variant)).bind octets?

end AccessGateway.Text.Base64
