import AccessGateway.Text.Split

/-!
# Path templates

A template is a path in which `:name` stands for the characters up to the next slash and, at the
end and after a slash, `*name` for the rest of the path.  A parameter may be empty in the middle
of a path; at its end neither a parameter nor the rest is.  A template with too many
parameters cannot be read.
-/

namespace AccessGateway

inductive TemplatePiece where
  /-- A character that stands for itself. -/
  | char (c : Char)
  | parameter
  | rest
  deriving DecidableEq, Repr

structure Template where
  /-- The template as it was written. -/
  text : String
  pieces : List TemplatePiece
  /-- The names of the parameters and of the rest, in order. -/
  names : List String
  deriving DecidableEq, Repr

namespace Template

/-- Whether a character begins a parameter or the rest. -/
def isSigil (c : Char) : Bool := c = ':' || c = '*'

/-- Reads what stands between two slashes; the rest may only be named in the last place. -/
def readSegment? (isLast : Bool) (chars : List Char) :
    Option (List TemplatePiece × List String) :=
  let fixed := chars.takeWhile (!isSigil ·)
  match chars.dropWhile (!isSigil ·) with
  | [] => some (fixed.map .char, [])
  | sigil :: name =>
    if name.isEmpty || name.any isSigil then none
    else if sigil = ':' then some (fixed.map .char ++ [.parameter], [String.ofList name])
    else if isLast && fixed.isEmpty then some ([.rest], [String.ofList name])
    else none

/-- Reads segments, each with the slash before it. -/
def readSegments? : List (List Char) → Option (List TemplatePiece × List String)
  | [] => some ([], [])
  | segment :: others =>
    match readSegment? others.isEmpty segment, readSegments? others with
    | some (pieces, names), some (morePieces, moreNames) =>
      some (.char '/' :: pieces ++ morePieces, names ++ moreNames)
    | _, _ => none

/-- The most parameters that a template can have; the rest does not count. -/
def maxParameters : Nat := 25

def readForm? (segments : List (List Char)) : Option (List TemplatePiece × List String) :=
  (readSegments? segments).filter fun (pieces, _) => pieces.count .parameter ≤ maxParameters

/-- Reads a template, which begins with a slash. -/
def parse? (s : String) : Option Template :=
  match Text.pieces '/' s.toList with
  | [] :: first :: others =>
    (readForm? (first :: others)).map fun (pieces, names) => ⟨s, pieces, names⟩
  | _ => none

/-- The values of the parameters, if a path is of the form. -/
def values? : List TemplatePiece → List Char → Option (List String)
  | [], [] => some []
  | [], _ :: _ => none
  | _ :: _, [] => none
  | .char a :: pieces, c :: path => if a = c then values? pieces path else none
  | .parameter :: pieces, path =>
    (values? pieces (path.dropWhile (· ≠ '/'))).map
      (String.ofList (path.takeWhile (· ≠ '/')) :: ·)
  | .rest :: _, path => some [String.ofList path]

/-- The values of the parameters of a path, if it is of the template's form. -/
def match? (template : Template) (path : String) : Option (List String) :=
  values? template.pieces path.toList

/-- Whether no order of trial tells two forms apart. -/
def clashes : List TemplatePiece → List TemplatePiece → Bool
  | [], [] => true
  | .char a :: p, .char b :: q => a = b && clashes p q
  | .parameter :: p, .parameter :: q => clashes p q
  | .rest :: _, .rest :: _ => true
  | .parameter :: _, .rest :: _ => true
  | .rest :: _, .parameter :: _ => true
  | _, _ => false

end Template

end AccessGateway
