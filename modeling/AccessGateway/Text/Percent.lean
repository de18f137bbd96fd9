import AccessGateway.Text.Ascii
import AccessGateway.Text.Utf8

/-!
# Percent coding

A byte that may not stand for itself is written as `%` and two upper case hexadecimal digits.
Which bytes are kept is a parameter; reading back is lenient, so that a `%` that is not followed
by two hexadecimal digits stands for itself.  Whenever `%` is among the bytes that are coded,
reading undoes writing.
-/

namespace AccessGateway.Text.Percent

def escape (b : UInt8) : List Char :=
  ['%', Ascii.upperHexDigit (b.toNat / 16), Ascii.upperHexDigit (b.toNat % 16)]

/-- One byte, as itself when it is kept and coded otherwise. -/
def encodeByte (keep : UInt8 → Bool) (b : UInt8) : List Char :=
  if keep b then [Char.ofNat b.toNat] else escape b

/-- The bytes of a text, each kept or coded. -/
def encodeWith (keep : UInt8 → Bool) (s : String) : String :=
  String.ofList ((Utf8.encode s).flatMap (encodeByte keep))

/-- Letters, digits, `-`, `_`, `.` and `~`: what is kept in a single path segment. -/
def isUnreserved (b : UInt8) : Bool :=
  let c := Char.ofNat b.toNat
  Ascii.isLetterOrDigit c || c == '-' || c == '_' || c == '.' || c == '~'

/-- The text as one segment of a path: everything but the unreserved characters is coded. -/
def encode (s : String) : String := encodeWith isUnreserved s

/-- Reads coded bytes back; a `%` without two hexadecimal digits after it is kept. -/
def decodeBytes : List UInt8 → List UInt8
  | [] => []
  | 0x25 :: high :: low :: rest =>
    match Ascii.hexValue? (Char.ofNat high.toNat), Ascii.hexValue? (Char.ofNat low.toNat) with
    | some h, some l => UInt8.ofNat (h * 16 + l) :: decodeBytes rest
    | _, _ => 0x25 :: decodeBytes (high :: low :: rest)
  | b :: rest => b :: decodeBytes rest

/-- The text behind a coded text; nothing when the bytes are not well-formed UTF-8. -/
def decode? (s : String) : Option String :=
  Utf8.decode? (decodeBytes (Utf8.encode s))

end AccessGateway.Text.Percent
