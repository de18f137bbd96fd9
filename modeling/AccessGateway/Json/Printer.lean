import AccessGateway.Json.Basic
import AccessGateway.Text.Ascii
import AccessGateway.Text.Decimal

/-!
# Writing JSON

The compact form: no blanks, members in their order, characters beyond ASCII as they are, and in
strings only quotes, backslashes and control characters escaped.
-/

namespace AccessGateway.Json

def printedChar (c : Char) : List Char :=
  match c with
  | '"' => ['\\', '"']
  | '\\' => ['\\', '\\']
  | '\n' => ['\\', 'n']
  | '\r' => ['\\', 'r']
  | '\t' => ['\\', 't']
  | '\x08' => ['\\', 'b']
  | '\x0c' => ['\\', 'f']
  | _ =>
    if c.toNat < 0x20 then
      ['\\', 'u', '0', '0', Text.Ascii.hexDigit (c.toNat / 16), Text.Ascii.hexDigit (c.toNat % 16)]
    else [c]

def printedString (s : String) : String :=
  String.ofList ('"' :: s.toList.flatMap printedChar ++ ['"'])

mutual

def print : Json → String
  | .null => "null"
  | .bool true => "true"
  | .bool false => "false"
  | .integer i => Text.Decimal.ofInt i
  | .decimal literal => literal
  | .string s => printedString s
  | .array items => "[" ++ printItems items ++ "]"
  | .object members => "\x7b" ++ printMembers members ++ "\x7d"

def printItems : List Json → String
  | [] => ""
  | [item] => print item
  | item :: rest => print item ++ "," ++ printItems rest

def printMembers : List (String × Json) → String
  | [] => ""
  | [(name, value)] => printedString name ++ ":" ++ print value
  | (name, value) :: rest => printedString name ++ ":" ++ print value ++ "," ++ printMembers rest

end

end AccessGateway.Json
