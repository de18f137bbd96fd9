import AccessGateway.Text.Ascii
import AccessGateway.Text.Split

/-!
# Search filters

A search filter is made from a template by putting a text in every place marked `{0}`.  The text
is escaped first, so that it cannot change the structure of the filter.
-/

namespace AccessGateway.SearchFilter

def isSpecial (c : Char) : Bool :=
  c = '\\' || c = '*' || c = '(' || c = ')' || c = '\x00'

/-- One character, as a backslash and two hexadecimal digits if it is special. -/
def escapeChar (c : Char) : List Char :=
  if isSpecial c then '\\' :: (Text.Ascii.hexPadded 2 c.toNat).toList else [c]

def escape (s : String) : String := String.ofList (s.toList.flatMap escapeChar)

/-- The place of the username in a template. -/
def placeholder : List Char := ['{', '0', '}']

/-- The template with a text in every marked place. -/
def fill (template value : String) : String :=
  String.ofList (Text.replaceAll placeholder (escape value).toList template.toList)

end AccessGateway.SearchFilter
