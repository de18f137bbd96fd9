import AccessGateway.Text.Ascii
import AccessGateway.Text.Blank
import AccessGateway.Text.Split

/-!
# Distinguished names

A distinguished name is a list of parts `attribute=value` between commas or semicolons; a
backslash takes the next character out of its role.  `parts` cuts at the separators that are not
escaped, and `commonName` is the first value of the attribute `cn`.
-/

namespace AccessGateway.DistinguishedName

/-- A character that stands between two parts. -/
def isSeparator (c : Char) : Bool := c = ',' || c = ';'

/-- The parts of the rest of a name: the first one continues what was read before, and the
first character is escaped or not. -/
def partsFrom (escaped : Bool) : List Char → List (List Char)
  | [] => [[]]
  | c :: rest =>
    if !escaped && isSeparator c then [] :: partsFrom false rest
    else
      match partsFrom (!escaped && c == '\\') rest with
      | [] => [[c]]
      | first :: others => (c :: first) :: others

def parts (name : List Char) : List (List Char) := partsFrom false name

/-- The value with every escaped character in its own role; a lone backslash at the end is
dropped. -/
def unescape : List Char → List Char
  | '\\' :: c :: rest => c :: unescape rest
  | ['\\'] => []
  | c :: rest => c :: unescape rest
  | [] => []

/-- The value of a part whose attribute is `cn`. -/
def commonNameOf? (part : List Char) : Option String :=
  match Text.cutFirst? '=' part with
  | none => none
  | some (kind, value) =>
    if Text.Ascii.equalIgnoringCase (String.ofList (Text.trimChars kind)) "cn" then
      let plain := unescape (Text.trimChars value)
      if plain.isEmpty then none else some (String.ofList plain)
    else none

/-- The first value of the attribute `cn`, without escapes. -/
def commonName (name : String) : Option String :=
  (parts name.toList).findSome? commonNameOf?

end AccessGateway.DistinguishedName
