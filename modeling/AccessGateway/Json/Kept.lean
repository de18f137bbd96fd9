import AccessGateway.Json.Draft
import AccessGateway.Text.Binary64

/-!
# Values that are kept

A reader that may look at a value more than once keeps it first.  Not every well-formed value can
be kept: each of its strings must have a text, each of its numbers must be in the range of 64-bit
floating point, and its containers must not be nested deeper than `maxDepth`.  A number is kept
as a word of 64 bits with as many of its digits as fit, times a power of ten.
-/

namespace AccessGateway.Json

namespace Scaled

open Text

/-- Goes on with a number digit by digit, up to the first digit with which it does not fit a word
of 64 bits; gives the digits from there on. -/
def gather (number : Nat) : List Char → Nat × List Char
  | [] => (number, [])
  | c :: rest =>
    let next := number * 10 + Decimal.digitValue c
    if next < Nat.pow 2 64 then gather next rest else (number, c :: rest)

/-- A literal without its sign as a word times a power of ten. -/
def ofDigits (whole fraction : List Char) (power : Int) : Nat × Int :=
  let (word, dropped) := gather 0 whole
  let (word, rest) := gather word fraction
  (word, power + dropped.length - (fraction.length - rest.length : Nat))

/-- Whether a word times a power of ten is in range; both factors are rounded before they are
multiplied. -/
def isInRange (word : Nat) (power : Int) : Bool :=
  if word = 0 ∨ power < 0 then true
  else if 308 < power then false
  else
    match Binary64.ofRatio false word 1, Binary64.ofRatio false (Nat.pow 10 power.toNat) 1 with
    | .finite _ m e, .finite _ n f =>
      let (num, den) := Binary64.scaled (m * n) 1 (e + f)
      (Binary64.ofRatio false num den).isFinite
    | _, _ => false

def literalInRange (literal : List Char) : Bool :=
  let unsigned := match literal with
    | '-' :: rest => rest
    | rest => rest
  match Binary64.parts? unsigned with
  | some (whole, fraction, power) =>
    let (word, power) := ofDigits whole fraction power
    isInRange word power
  | none => false

end Scaled

/-- How deep containers may be nested in a value that is kept. -/
def maxDepth : Nat := 127

mutual

/-- Whether the numbers of a value are in range and its containers not nested deeper than given. -/
def isKeepable (depth : Nat) : Json → Bool
  | .integer i => Scaled.literalInRange (Text.Decimal.ofInt i).toList
  | .decimal literal => Scaled.literalInRange literal.toList
  | .array items => 0 < depth && areKeepable (depth - 1) items
  | .object members => 0 < depth && membersKeepable (depth - 1) members
  | _ => true

def areKeepable (depth : Nat) : List Json → Bool
  | [] => true
  | item :: rest => isKeepable depth item && areKeepable depth rest

def membersKeepable (depth : Nat) : List (String × Json) → Bool
  | [] => true
  | (_, value) :: rest => isKeepable depth value && membersKeepable depth rest

end

/-- The one value in bytes, if it can be kept. -/
def parseKept? (bytes : List UInt8) : Option Json :=
  match Draft.parseBytes bytes with
  | (draft, []) => draft.toJson?.filter (isKeepable maxDepth)
  | _ => none

end AccessGateway.Json
