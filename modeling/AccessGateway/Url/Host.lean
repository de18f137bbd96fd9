import AccessGateway.Text.Lowercase
import AccessGateway.Text.Percent
import AccessGateway.Text.Split

/-!
# Hosts of URLs

A host is a domain name, an IPv4 address or an IPv6 address.  Names are compared in lower case;
labels beyond ASCII are written in Punycode.  A name whose last label is a number is an IPv4
address, whose parts may be written in decimal, octal or hexadecimal and may leave out zeros.
-/

namespace AccessGateway

inductive UrlError where
  | emptyHost
  | badInternationalName
  | badPort
  | badIpv4
  | badIpv6
  | badDomainCharacter
  | relative
  deriving DecidableEq, Repr

namespace UrlError

def message : UrlError → String
  | .emptyHost => "empty host"
  | .badInternationalName => "invalid international domain name"
  | .badPort => "invalid port number"
  | .badIpv4 => "invalid IPv4 address"
  | .badIpv6 => "invalid IPv6 address"
  | .badDomainCharacter => "invalid domain character"
  | .relative => "relative URL without a base"

end UrlError

inductive Host where
  | domain (name : String)
  | ipv4 (address : Nat)
  /-- The eight groups of sixteen bits. -/
  | ipv6 (groups : List Nat)
  deriving DecidableEq, Repr

namespace Host

/-! ## Punycode -/

/-- The next bias after a delta has been written. -/
def adapt (delta points : Nat) (first : Bool) : Nat :=
  let d := if first then delta / 700 else delta / 2
  reduce (d + d / points) 0 (d + d / points)
where
  reduce (d k : Nat) : Nat → Nat
    | 0 => k + 36 * d / (d + 38)
    | fuel + 1 => if d > 455 then reduce (d / 35) (k + 36) fuel else k + 36 * d / (d + 38)

/-- A digit of base 36: letters first. -/
def digit36 (n : Nat) : Char :=
  if n < 26 then Char.ofNat ('a'.toNat + n) else Char.ofNat ('0'.toNat + (n - 26))

/-- A delta as a number of variable base, with the given bias. -/
def variableDigits (bias : Nat) : (fuel k q : Nat) → List Char
  | 0, _, q => [digit36 q]
  | fuel + 1, k, q =>
    let t := if k ≤ bias then 1 else if bias + 26 ≤ k then 26 else k - bias
    if q < t then [digit36 q]
    else digit36 (t + (q - t) % (36 - t)) :: variableDigits bias fuel (k + 36) ((q - t) / (36 - t))

/-- The state of the encoder: code point reached, delta, bias, characters handled, output. -/
structure Encoder where
  n : Nat := 128
  delta : Nat := 0
  bias : Nat := 72
  handled : Nat
  output : List Char

/-- Handles every character at the code point reached. -/
def Encoder.pass (basic : Nat) (label : List Char) (state : Encoder) : Encoder :=
  let state := label.foldl (fun s c =>
    if c.toNat < s.n then { s with delta := s.delta + 1 }
    else if c.toNat = s.n then
      { s with
        output := s.output ++ variableDigits s.bias s.delta 36 s.delta
        bias := adapt s.delta (s.handled + 1) (s.handled == basic)
        delta := 0
        handled := s.handled + 1 }
    else s) state
  { state with delta := state.delta + 1, n := state.n + 1 }

/-- Goes through the code points of the label in ascending order. -/
def Encoder.run (basic : Nat) (label : List Char) : List Nat → Encoder → Encoder
  | [], state => state
  | m :: rest, state =>
    let state := { state with delta := state.delta + (m - state.n) * (state.handled + 1), n := m }
    run basic label rest (state.pass basic label)

def punycode (label : List Char) : List Char :=
  let basic := label.filter Text.Ascii.isAscii
  let points := ((label.filter (!Text.Ascii.isAscii ·)).map Char.toNat).eraseDups.mergeSort
  let start := if basic.isEmpty then [] else basic ++ ['-']
  (Encoder.run basic.length label points { handled := basic.length, output := start }).output

/-! ## Domain names -/

def isForbiddenInDomain (c : Char) : Bool :=
  c.toNat ≤ 0x20 || c.toNat == 0x7F || "#/:<>?@[\\]^|%".toList.contains c

/-- The spelling of a character in domain names: lower case, full-width forms in their plain
form, every full stop as a dot; nothing for a soft hyphen. -/
def mapDomainChar (c : Char) : List Char :=
  if c.toNat = 0xAD then []
  else if c.toNat = 0x3002 ∨ c.toNat = 0xFF61 then ['.']
  else if 0xFF01 ≤ c.toNat ∧ c.toNat ≤ 0xFF5E then
    [Text.Ascii.lowerChar (Char.ofNat (c.toNat - 0xFEE0))]
  else Text.lowercaseChar c

def labelToAscii (label : List Char) : List Char :=
  if label.all Text.Ascii.isAscii then label else "xn--".toList ++ punycode label

/-- A domain name in ASCII, if it is one.  Of the tables for international names only what
`mapDomainChar` says is followed, and labels are not checked. -/
def domainToAscii? (name : String) : Option String :=
  let labels := Text.pieces '.' (name.toList.flatMap mapDomainChar)
  let ascii := ['.'].intercalate (labels.map labelToAscii)
  if ascii.any isForbiddenInDomain then none else some (String.ofList ascii)

/-! ## Addresses -/

/-- A part of an IPv4 address: nothing when it is not a number. -/
def ipv4Number? (part : List Char) : Option Nat :=
  let read (base : Nat) (digits : List Char) : Option Nat :=
    digits.foldlM (fun total c =>
      match Text.Ascii.hexValue? c with
      | some d => if d < base then some (total * base + d) else none
      | none => none) 0
  match part with
  | [] => none
  | '0' :: 'x' :: digits | '0' :: 'X' :: digits => read 16 digits
  | '0' :: d :: digits => read 8 (d :: digits)
  | digits => read 10 digits

/-- The labels of a name without the empty one after a final dot. -/
def labelsOf (name : List Char) : List (List Char) :=
  let labels := Text.pieces '.' name
  if labels.getLast? = some [] then labels.dropLast else labels

/-- Whether the last label of a name is a number. -/
def endsInNumber (name : List Char) : Bool :=
  match (labelsOf name).getLast? with
  | some last => (!last.isEmpty && last.all Char.isDigit) || (ipv4Number? last).isSome
  | none => false

def ipv4? (name : List Char) : Option Nat :=
  let labels := labelsOf name
  match labels.mapM ipv4Number? with
  | none => none
  | some numbers =>
    match numbers.reverse with
    | [] => none
    | last :: front =>
      if labels.length > 4 || front.any (· > 255) || last ≥ Nat.pow 256 (4 - front.length) then none
      else
        some (front.reverse.zipIdx.foldl (fun total (n, i) => total + n * Nat.pow 256 (3 - i)) last)

/-- A group of an IPv6 address: one to four hexadecimal digits. -/
def ipv6Group? (chars : List Char) : Option Nat :=
  if chars.isEmpty || chars.length > 4 then none
  else
    chars.foldlM (fun total c => (Text.Ascii.hexValue? c).map (total * 16 + ·)) 0

/-- A strict dotted address at the end of an IPv6 address, as two groups. -/
def ipv6Tail? (chars : List Char) : Option (List Nat) :=
  match (Text.pieces '.' chars).mapM fun part =>
    if part.isEmpty || part.length > 3 || !part.all Char.isDigit ||
      (part.length > 1 && part.head? == some '0') then none
    else
      let n := part.foldl (fun total c => total * 10 + (c.toNat - 48)) 0
      if n < 256 then some n else none with
  | some [a, b, c, d] => some [a * 256 + b, c * 256 + d]
  | _ => none

/-- The groups between colons; the last may be a dotted address. -/
def ipv6Groups? (chars : List Char) : Option (List Nat) :=
  if chars.isEmpty then some []
  else
    let parts := Text.pieces ':' chars
    let front := parts.dropLast.mapM ipv6Group?
    let last := match parts.getLast? with
      | some p => if p.contains '.' then ipv6Tail? p else (ipv6Group? p).map ([·])
      | none => none
    match front, last with
    | some f, some l => some (f ++ l)
    | _, _ => none

def cutDoubleColon? : List Char → Option (List Char × List Char)
  | ':' :: ':' :: rest => some ([], rest)
  | [] => none
  | c :: rest => (cutDoubleColon? rest).map fun (before, after) => (c :: before, after)

def ipv6? (chars : List Char) : Option (List Nat) :=
  match cutDoubleColon? chars with
  | none =>
    match ipv6Groups? chars with
    | some groups => if groups.length = 8 then some groups else none
    | none => none
  | some (before, after) =>
    if before.contains '.' then none
    else
      match ipv6Groups? before, ipv6Groups? after with
      | some front, some back =>
        if front.length + back.length < 8 then
          some (front ++ List.replicate (8 - front.length - back.length) 0 ++ back)
        else none
      | _, _ => none

/-! ## Reading and writing -/

def parseSpecial (chars : List Char) : Except UrlError Host :=
  match chars with
  | [] => .error .emptyHost
  | '[' :: rest =>
    match rest.reverse with
    | ']' :: inner =>
      match ipv6? inner.reverse with
      | some groups => .ok (.ipv6 groups)
      | none => .error .badIpv6
    | _ => .error .badIpv6
  | _ =>
    match (Text.Percent.decode? (String.ofList chars)).bind domainToAscii? with
    | none => .error .badInternationalName
    | some name =>
      if name.isEmpty then .error .emptyHost
      else if endsInNumber name.toList then
        match ipv4? name.toList with
        | some address => .ok (.ipv4 address)
        | none => .error .badIpv4
      else .ok (.domain name)

def isControlByte (b : UInt8) : Bool := b < 0x20 || b ≥ 0x7F

/-- Reads a host of any other scheme. -/
def parseOther (chars : List Char) : Except UrlError Host :=
  match chars with
  | '[' :: rest =>
    match rest.reverse with
    | ']' :: inner =>
      match ipv6? inner.reverse with
      | some groups => .ok (.ipv6 groups)
      | none => .error .badIpv6
    | _ => .error .badIpv6
  | _ =>
    if chars.any fun c => c.toNat = 0 || " #/:<>?@[\\]^|".toList.contains c then
      .error .badDomainCharacter
    else
      .ok (.domain (Text.Percent.encodeWith (fun b => !isControlByte b) (String.ofList chars)))

def zeroRun : List Nat → Nat
  | 0 :: rest => zeroRun rest + 1
  | _ => 0

/-- The place and length of the first longest run of at least two zero groups. -/
def longestRun (groups : List Nat) : Option (Nat × Nat) :=
  (List.range groups.length).foldl (fun best i =>
    let n := zeroRun (groups.drop i)
    match best with
    | some (_, m) => if n > m then some (i, n) else best
    | none => if n ≥ 2 then some (i, n) else none) none

/-- The text of an IPv6 address, its longest run of zero groups left out. -/
def ipv6Text (groups : List Nat) : String :=
  let join (parts : List Nat) : String :=
    ":".intercalate (parts.map fun n => String.ofList (Nat.toDigits 16 n))
  match longestRun groups with
  | some (start, length) =>
    join (groups.take start) ++ "::" ++ join (groups.drop (start + length))
  | none => join groups

def toText : Host → String
  | .domain name => name
  | .ipv4 n =>
    ".".intercalate
      ([n / 16777216, n / 65536 % 256, n / 256 % 256, n % 256].map fun part => toString part)
  | .ipv6 groups => "[" ++ ipv6Text groups ++ "]"

end Host

end AccessGateway
