import AccessGateway.Http.Headers
import AccessGateway.Text.Split

/-!
# Media types

The value of a content type: a type and a subtype, joined by a slash, and parameters after
semicolons.  A subtype may end in a suffix after its last plus sign.  Upper and lower case are
the same.
-/

namespace AccessGateway

structure MediaType where
  type : String
  /-- The subtype without its suffix. -/
  subtype : String
  suffix : Option String
  deriving DecidableEq, Repr

namespace MediaType

/-- The longest token at the front, and what follows it. -/
def token (chars : List Char) : List Char × List Char :=
  chars.span Headers.isNameChar

/-- A character that may stand between quotes. -/
def isQuotable (c : Char) : Bool := 0x1F < c.toNat && c.toNat ≠ 0x7F

/-- What follows a quoted text, which holds at least one character; the first may be a quote. -/
def afterQuoted? (chars : List Char) : Option (List Char) :=
  match chars with
  | [] => none
  | first :: rest =>
    match rest.dropWhile fun c => isQuotable c && c ≠ '"' with
    | '"' :: after => if isQuotable first then some after else none
    | _ => none

/-- What follows the value of a parameter, which is a token or a quoted text; only at the end of
everything may a token be empty. -/
def dropValue? (chars : List Char) : Option (List Char) :=
  match chars with
  | '"' :: rest =>
    match (afterQuoted? rest).map (·.dropWhile (· = ' ')) with
    | some [] => some []
    | some (';' :: more) => some more
    | _ => none
  | _ =>
    match token chars with
    | (_, []) => some []
    | (_ :: _, ';' :: after) => some after
    | _ => none

def areParameters (chars : List Char) : Bool :=
  go chars.length chars
where
  go : Nat → List Char → Bool
    | _, [] => true
    | 0, _ => false
    | fuel + 1, chars =>
      match chars with
      | ' ' :: rest => go fuel rest
      | _ =>
        match token chars with
        | (_ :: _, '=' :: rest) =>
          match dropValue? rest with
          | some after => go fuel after
          | none => false
        | _ => false

/-- A subtype and its suffix; a plus sign in front begins no suffix. -/
def ofSubtype (type : String) (chars : List Char) : MediaType :=
  match chars with
  | [] => ⟨type, "", none⟩
  | first :: rest =>
    match Text.cutLast? '+' rest with
    | some (name, suffix) => ⟨type, String.ofList (first :: name), some (String.ofList suffix)⟩
    | none => ⟨type, String.ofList chars, none⟩

def parse? (s : String) : Option MediaType :=
  match token (Text.Ascii.lower s).toList with
  | (type@(_ :: _), '/' :: rest) =>
    match token rest with
    | (subtype, []) => some (ofSubtype (String.ofList type) subtype)
    | (subtype@(_ :: _), ';' :: parameters) =>
      if areParameters parameters then some (ofSubtype (String.ofList type) subtype) else none
    | _ => none
  | _ => none

def isJson (m : MediaType) : Bool :=
  m.type == "application" && (m.subtype == "json" || m.suffix == some "json")

end MediaType

end AccessGateway
