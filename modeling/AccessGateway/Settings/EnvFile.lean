import AccessGateway.Text.Split
import AccessGateway.Text.Blank

/-!
# Environment files

A file of variables has one assignment `NAME=value` a line.  A value in single quotes is taken
literally; in double quotes, and outside quotes, a backslash escapes and `$NAME` or `$` with a
name in braces stands for a variable.  An open quote joins the next line.  Reading stops at the
first line that is not of this form; the assignments before it count.  A variable that is set
already keeps its value.
-/

namespace AccessGateway.EnvFile

/-- Variables with their values, in the order in which they were set. -/
abbrev Variables := List (String × String)

/-- The value of a variable; an unset one is empty. -/
def valueOf (held : Variables) (name : String) : String :=
  (held.lookup name).getD ""

/-- Sets a variable that is not set. -/
def setDefault (held : Variables) (name value : String) : Variables :=
  if (held.lookup name).isSome then held else held ++ [(name, value)]

/-! ## Lines -/

/-- What is open at a place of a line. -/
inductive Opening where
  | nothing
  | blank
  | escape
  | single (escaped : Bool)
  | double (escaped : Bool)
  deriving DecidableEq, Repr

namespace Opening

def ofPlain : Char → Opening
  | '\\' => .escape
  | '"' => .double false
  | '\'' => .single false
  | _ => .nothing

/-- What is open after a character; nothing at all where a comment begins. -/
def next? (opening : Opening) (c : Char) : Option Opening :=
  match opening with
  | .blank => if c = '#' then none else some (ofPlain c)
  | .escape => some .nothing
  | .nothing =>
    if Text.isBlank c && c != '\n' && c != '\r' then some .blank else some (ofPlain c)
  | .single true => some (.single false)
  | .single false =>
    some (if c = '\\' then .single true else if c = '\'' then .nothing else .single false)
  | .double true => some (.double false)
  | .double false =>
    some (if c = '\\' then .double true else if c = '"' then .nothing else .double false)

/-- Follows a line: what stands before a comment, and what is open at the end of a line
without one. -/
def follow (opening : Opening) : List Char → List Char × Option Opening
  | [] => ([], some opening)
  | c :: rest =>
    match opening.next? c with
    | none => ([], none)
    | some following =>
      let (kept, final) := follow following rest
      (c :: kept, final)

end Opening

def dropLineEnd (line : List Char) : List Char :=
  match line.reverse with
  | '\n' :: '\r' :: rest => rest.reverse
  | '\n' :: rest => rest.reverse
  | _ => line

def rawLines (chars : List Char) : List (List Char) :=
  match Text.pieces '\n' chars with
  | [] => []
  | lines => (lines.dropLast.map (· ++ ['\n'])) ++ (lines.getLast?.toList.filter (· ≠ []))

def isComment (line : List Char) : Bool :=
  (Text.dropBlank line).head? == some '#'

/-- Joins lines until nothing is open; what is still open at the end is left out. -/
def joinLines (joined : List Char) (opening : Opening) : List (List Char) → List (List Char)
  | [] => []
  | line :: rest =>
    if isComment (joined ++ line) then [] :: joinLines [] .nothing rest
    else
      match opening.follow line with
      | (kept, none) => (joined ++ kept) :: joinLines [] .nothing rest
      | (_, some .nothing) => dropLineEnd (joined ++ line) :: joinLines [] .nothing rest
      | (_, some still) => joinLines (joined ++ line) still rest

/-! ## Values -/

inductive ValueState where
  | text (inQuotes : Bool)
  | literal
  | escape (inQuotes : Bool)
  /-- In the name of a variable, read back to front. -/
  | name (inQuotes : Bool) (read : List Char)
  | braced (inQuotes : Bool) (read : List Char)
  /-- Past the value: blanks and a comment may follow. -/
  | past
  | comment

/-- A letter or digit; beyond ASCII every character that is not blank counts as one. -/
def isNameChar (c : Char) : Bool :=
  c.isAlphanum || (0x80 ≤ c.toNat && !Text.isBlank c)

/-- The value of the variable whose name was read. -/
def substituted (held : Variables) (read : List Char) : List Char :=
  (valueOf held (String.ofList read.reverse)).toList

namespace ValueState

/-- What a character adds to the value, and the place after it. -/
def step? (held : Variables) : ValueState → Char → Option (List Char × ValueState)
  | .past, c =>
    if c = ' ' ∨ c = '\t' then some ([], .past) else if c = '#' then some ([], .comment) else none
  | .comment, _ => some ([], .comment)
  | .escape q, c =>
    if c = 'n' then some (['\n'], .text q)
    else if ['\\', '\'', '"', '$', ' '].contains c then some ([c], .text q) else none
  | .literal, c => if c = '\'' then some ([], .text false) else some ([c], .literal)
  | .name q read, c =>
    if isNameChar c then some ([], .name q (c :: read))
    else if c = '{' ∧ read = [] then some ([], .braced q [])
    else if c = '$' then some (substituted held read, .name q [])
    else some (substituted held read ++ [c], .text q)
  | .braced q read, c =>
    if c = '}' then some (substituted held read, .text q)
    else some ([], .braced q (c :: read))
  | .text true, c =>
    if c = '$' then some ([], .name true [])
    else if c = '"' then some ([], .text false)
    else if c = '\\' then some ([], .escape true) else some ([c], .text true)
  | .text false, c =>
    if c = '$' then some ([], .name false [])
    else if c = '\'' then some ([], .literal)
    else if c = '"' then some ([], .text true)
    else if c = '\\' then some ([], .escape false)
    else if c = ' ' ∨ c = '\t' then some ([], .past) else some ([c], .text false)

/-- What the end adds to the value; nothing may be open there. -/
def finish? (held : Variables) : ValueState → Option (List Char)
  | .text false | .escape false | .past | .comment => some []
  | .name false read => some (substituted held read)
  | _ => none

end ValueState

def readValue? (held : Variables) (state : ValueState) : List Char → Option (List Char)
  | [] => state.finish? held
  | c :: rest =>
    match state.step? held c with
    | none => none
    | some (added, following) => (readValue? held following rest).map (added ++ ·)

/-! ## Assignments -/

def readName? (chars : List Char) : Option (String × List Char) :=
  let belongs (c : Char) := c.isAlphanum || c = '_' || c = '.'
  match chars with
  | c :: _ =>
    if c.isAlpha || c = '_' then
      some (String.ofList (chars.takeWhile belongs), Text.dropBlank (chars.dropWhile belongs))
    else none
  | [] => none

def afterEquals? : List Char → Option (List Char)
  | '=' :: rest => some (Text.dropBlank rest)
  | _ => none

/-- A name with what follows its equals sign; `export` may stand before it. -/
def readTarget? (chars : List Char) : Option (String × List Char) :=
  match readName? chars with
  | none => none
  | some (name, rest) =>
    match afterEquals? rest with
    | some value => some (name, value)
    | none =>
      if name = "export" then
        (readName? rest).bind fun (name, rest) => (afterEquals? rest).map (name, ·)
      else none

inductive Line where
  | empty
  | assignment (name value : String)
  | malformed
  deriving DecidableEq, Repr

def readLine (held : Variables) (line : List Char) : Line :=
  let chars := Text.trimChars line
  if chars.isEmpty || chars.head? == some '#' then .empty
  else
    match readTarget? chars with
    | none => .malformed
    | some (name, value) =>
      if value.isEmpty || value.head? == some '#' then .assignment name ""
      else
        match readValue? held (.text false) value with
        | some text => .assignment name (String.ofList text)
        | none => .malformed

/-- Takes over the assignments of lines up to the first malformed one. -/
def loadLines (held : Variables) : List (List Char) → Variables
  | [] => held
  | line :: rest =>
    match readLine held line with
    | .empty => loadLines held rest
    | .assignment name value => loadLines (setDefault held name value) rest
    | .malformed => held

/-- The variables after an environment file; a byte order mark at its front is passed over. -/
def load (held : Variables) (text : String) : Variables :=
  let chars := match text.toList with
    | '\uFEFF' :: rest => rest
    | chars => chars
  loadLines held (joinLines [] .nothing (rawLines chars))

end AccessGateway.EnvFile
