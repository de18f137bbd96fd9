import AccessGateway.Text.Ascii
import AccessGateway.Text.Unprintable

/-!
# Quoted texts

A text between double quotes, as error messages show it: quotes and backslashes are preceded by a
backslash, tabs, line ends and NUL have short escapes, and what cannot be shown is written by its
number.
-/

namespace AccessGateway.Text

def quotedChar (c : Char) : List Char :=
  match c with
  | '"' => ['\\', '"']
  | '\\' => ['\\', '\\']
  | '\t' => ['\\', 't']
  | '\r' => ['\\', 'r']
  | '\n' => ['\\', 'n']
  | _ =>
    if c.toNat == 0 then ['\\', '0']
    else if isUnprintable c then
      ['\\', 'u', '\x7b'] ++ Nat.toDigits 16 c.toNat ++ ['\x7d']
    else [c]

def quoted (s : String) : String :=
  String.ofList ('"' :: s.toList.flatMap quotedChar ++ ['"'])

end AccessGateway.Text
