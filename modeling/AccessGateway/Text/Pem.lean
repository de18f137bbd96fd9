import AccessGateway.Text.Base64
import AccessGateway.Text.Split

/-!
# Certificates and keys as text

A file of certificates and keys has sections between a line `-----BEGIN LABEL-----` and a line
`-----END LABEL-----`, with bytes in base64 in between.  What stands outside sections, and
sections with other labels, does not count.
-/

namespace AccessGateway.Text.Pem

inductive Label where
  | certificate
  | privateKey
  | other
  deriving DecidableEq, Repr

namespace Label

/-- What a label stands for; nothing for the ones that do not count. -/
def ofText? (text : String) : Option Label :=
  if text = "CERTIFICATE" then some .certificate
  else if ["RSA PRIVATE KEY", "PRIVATE KEY", "EC PRIVATE KEY"].contains text then
    some .privateKey
  else if ["PUBLIC KEY", "X509 CRL", "CERTIFICATE REQUEST"].contains text then some .other
  else none

end Label

structure Section where
  label : Label
  bytes : List UInt8
  deriving DecidableEq, Repr

namespace Section

def isCertificate (s : Section) : Bool := s.label == .certificate

def isPrivateKey (s : Section) : Bool := s.label == .privateKey

end Section

/-- A character that does not count at the end of a line. -/
def isLineEnd (c : Char) : Bool := c = '\n' || c = '\r' || c = ' '

def dropLineEnd (line : List Char) : List Char := (line.reverse.dropWhile isLineEnd).reverse

def dashes : List Char := List.replicate 5 '-'

/-- The label of a line that begins a section; an error if the line does not end properly. -/
def beginning (line : List Char) : Except Unit (Option (List Char)) :=
  match dropPrefix? (dashes ++ "BEGIN ".toList) line with
  | none => .ok none
  | some rest =>
    let body := (dropLineEnd rest).reverse
    if (body.takeWhile fun c => c = '-' || isLineEnd c).count '-' = 5 then
      .ok (some (body.dropWhile fun c => c = '-' || isLineEnd c).reverse)
    else .error ()

/-- The bytes of a section; padding may be left out. -/
def decode? (chars : List Char) : Option (List UInt8) :=
  Base64.decode? ⟨'+', '/', false⟩ (dropTrailing '=' (String.ofList chars))

/-- A section that is being read: its label and its characters so far. -/
abbrev Open := Option (List Char × List Char)

def readLines (started : Open) : List (List Char) → Option (List Section)
  | [] => if started.isSome then none else some []
  | line :: rest =>
    match beginning line with
    | .error () => none
    | .ok (some label) => readLines (some (label, (started.map Prod.snd).getD [])) rest
    | .ok none =>
      match started with
      | none => readLines none rest
      | some (label, chars) =>
        if (dropPrefix? (dashes ++ "END ".toList ++ label ++ dashes) line).isSome then
          match decode? chars with
          | none => none
          | some bytes =>
            match Label.ofText? (String.ofList label) with
            | some l => (readLines none rest).map (⟨l, bytes⟩ :: ·)
            | none => readLines none rest
        else readLines (some (label, chars ++ dropLineEnd line)) rest

/-- The sections of a text, if all are well formed. -/
def sections? (text : String) : Option (List Section) := readLines none (pieces '\n' text.toList)

/-- The number of bytes behind the length octets of an encoded value, and what follows them. -/
def length? : List UInt8 → Option (Nat × List UInt8)
  | [] => none
  | first :: rest =>
    if first < 0x80 then some (first.toNat, rest)
    else
      let n := first.toNat - 0x80
      if n = 0 ∨ rest.length < n then none
      else some ((rest.take n).foldl (fun total b => total * 256 + b.toNat) 0, rest.drop n)

/-- Whether bytes are one encoded sequence. -/
def isSequence : List UInt8 → Bool
  | 0x30 :: rest => (length? rest).any fun (n, content) => content.length = n
  | _ => false

end AccessGateway.Text.Pem
