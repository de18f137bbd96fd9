import AccessGateway.Text.Ascii
import AccessGateway.Text.Decimal
import AccessGateway.Text.Split

/-!
# Floating-point numbers in decimal

Numbers of 64-bit binary floating point: reading a decimal literal gives the nearest one, a tie
going to the even mantissa, and writing gives the shortest decimal that reads back, without an
exponent.  Of several shortest decimals the nearest is written, and of two as near the greater.
-/

namespace AccessGateway.Text

/-- A number of 64-bit binary floating point. -/
inductive Binary64 where
  /-- `mantissa * 2 ^ exponent`. -/
  | finite (negative : Bool) (mantissa : Nat) (exponent : Int)
  | infinite (negative : Bool)
  | nan
  deriving DecidableEq, Repr

namespace Binary64

/-- `num / den * 2 ^ shift` as a fraction. -/
def scaled (num den : Nat) (shift : Int) : Nat × Nat :=
  if 0 ≤ shift then (num * Nat.pow 2 shift.toNat, den) else (num, den * Nat.pow 2 (-shift).toNat)

/-- The quotient rounded to nearest, a tie to the even neighbour. -/
def roundDiv (num den : Nat) : Nat :=
  let q := num / den
  let twice := 2 * (num % den)
  if twice < den then q else if den < twice then q + 1 else if q % 2 = 0 then q else q + 1

def ofRatio (negative : Bool) (num den : Nat) : Binary64 :=
  if num = 0 ∨ den = 0 then .finite negative 0 0
  else
    let guess : Int := (Nat.log2 num : Int) - Nat.log2 den - 52
    let (n, d) := scaled num den (-guess)
    let fitted := if n / d < Nat.pow 2 52 then guess - 1 else guess
    let exponent := max fitted (-1074)
    let (n, d) := scaled num den (-exponent)
    let m := roundDiv n d
    let (m, exponent) := if m = Nat.pow 2 53 then (Nat.pow 2 52, exponent + 1) else (m, exponent)
    if exponent > 971 then .infinite negative else .finite negative m exponent

/-- The digits of a literal without its sign: whole part, fraction, and exponent of ten. -/
def parts? (chars : List Char) : Option (List Char × List Char × Int) :=
  let (front, power) :=
    match cutFirst? 'e' (chars.map Char.toLower) with
    | some (before, after) => (before, some after)
    | none => (chars, none)
  let (whole, fraction) := (cutFirst? '.' front).getD (front, [])
  let exponent? : Option Int :=
    match power with
    | none => some 0
    | some text =>
      let (minus, digits) := match text with
        | '-' :: rest => (true, rest)
        | '+' :: rest => (false, rest)
        | rest => (false, rest)
      if digits.isEmpty || !digits.all Char.isDigit then none
      else some (if minus then -(Decimal.value digits : Int) else Decimal.value digits)
  if (whole.isEmpty && fraction.isEmpty) || !(whole ++ fraction).all Char.isDigit then none
  else exponent?.map fun e => (whole, fraction, e)

/-- Reads a literal: digits with an optional point, exponent and sign, or the name of infinity or
of no number. -/
def parse? (s : String) : Option Binary64 :=
  let (negative, chars) := match s.toList with
    | '-' :: rest => (true, rest)
    | '+' :: rest => (false, rest)
    | rest => (false, rest)
  let word := String.ofList (chars.map Char.toLower)
  if word == "inf" || word == "infinity" then some (.infinite negative)
  else if word == "nan" then some .nan
  else
    (parts? chars).map fun (whole, fraction, exponent) =>
      let digits := Decimal.value (whole ++ fraction)
      let power := exponent - fraction.length
      if digits = 0 then .finite negative 0 0
      else if power > 400 then .infinite negative
      else if power < -(1500 + (whole.length + fraction.length : Int)) then .finite negative 0 0
      else if 0 ≤ power then ofRatio negative (digits * Nat.pow 10 power.toNat) 1
      else ofRatio negative digits (Nat.pow 10 (-power).toNat)

/-- The number of decimal digits before the point of a fraction; not positive below one. -/
def wholeDigits (num den : Nat) : Int :=
  if den ≤ num then (Decimal.digits (num / den)).length
  else
    let digits := (Decimal.digits (den / num)).length
    -- `10 ^ (digits - 1) ≤ den / num`, so one of two places is right
    if den ≤ num * Nat.pow 10 (digits - 1) then 2 - digits else 1 - digits

/-- Searches the shortest decimal between two bounds around a number, all over one denominator:
a number of digits, its digits as a number and their power of ten. -/
def shortest (low value high den : Nat) (closed : Bool) (place : Int) :
    (count : Nat) → (length : Nat) → Nat × Int
  | 0, length =>
    let power := place - length
    let (n, d) :=
      if 0 ≤ power then (value, den * Nat.pow 10 power.toNat) else (value * Nat.pow 10 (-power).toNat, den)
    (roundDiv n d, power)
  | count + 1, length =>
    let power := place - length
    let up := if 0 ≤ power then 1 else Nat.pow 10 (-power).toNat
    let down := if 0 ≤ power then Nat.pow 10 power.toNat else 1
    let unit := den * down
    let below := value * up / unit
    let inside (a : Nat) : Bool :=
      if closed then low * up ≤ a * unit && a * unit ≤ high * up
      else low * up < a * unit && a * unit < high * up
    let above := below + 1
    match inside below, inside above with
    | true, true =>
      if 2 * (value * up) < (below + above) * unit then (below, power) else (above, power)
    | true, false => (below, power)
    | false, true => (above, power)
    | false, false => shortest low value high den closed place count (length + 1)

/-- The digits and the power of ten of the shortest decimal for a positive number. -/
def shortestDigits (mantissa : Nat) (exponent : Int) : Nat × Int :=
  let lowerGap := if mantissa = Nat.pow 2 52 ∧ exponent > -1074 then 1 else 2
  let (scale, den) :=
    if 2 ≤ exponent then (Nat.pow 2 (exponent - 2).toNat, 1) else (1, Nat.pow 2 (2 - exponent).toNat)
  let value := 4 * mantissa * scale
  shortest ((4 * mantissa - lowerGap) * scale) value ((4 * mantissa + 2) * scale) den
    (mantissa % 2 = 0) (wholeDigits value den) 17 1

/-- Digits without the zeros at their end, which go to the power of ten. -/
def dropZeros (digits : List Char) (power : Int) : List Char × Int :=
  let zeros := (digits.reverse.takeWhile (· == '0')).length
  (digits.take (digits.length - zeros), power + zeros)

/-- Digits with a power of ten in positional form. -/
def positional (digits : List Char) (power : Int) : List Char :=
  if 0 ≤ power then digits ++ List.replicate power.toNat '0'
  else
    let places := (-power).toNat
    if places < digits.length then
      digits.take (digits.length - places) ++ '.' :: digits.drop (digits.length - places)
    else '0' :: '.' :: List.replicate (places - digits.length) '0' ++ digits

/-- The shortest decimal that reads back. -/
def toText : Binary64 → String
  | .nan => "NaN"
  | .infinite negative => if negative then "-inf" else "inf"
  | .finite negative mantissa exponent =>
    let sign := if negative then ['-'] else []
    if mantissa = 0 then String.ofList (sign ++ ['0'])
    else
      let (digits, power) := shortestDigits mantissa exponent
      let (digits, power) := dropZeros (Decimal.digits digits) power
      String.ofList (sign ++ positional digits power)

/-- The nearest integer, a half going away from zero; nothing for what is not finite. -/
def round? : Binary64 → Option Int
  | .finite negative mantissa exponent =>
    let (n, d) := scaled mantissa 1 exponent
    let magnitude : Int := ((2 * n + d) / (2 * d) : Nat)
    some (if negative then -magnitude else magnitude)
  | _ => none

def isFinite : Binary64 → Bool
  | .finite .. => true
  | _ => false

def isZero : Binary64 → Bool
  | .finite _ mantissa _ => mantissa = 0
  | _ => false

end Binary64

end AccessGateway.Text
