import AccessGateway.Settings.Decode
import AccessGateway.Settings.EnvFile
import AccessGateway.Settings.Validation

/-!
# Where settings come from

Settings are read from a file in the working directory, over which the variables of the
environment are laid whose names start with `GATEWAY__`.  The rest of such a name is a path: `__`
stands between the names of nested sections.  Variables may also come from an environment file.
-/

namespace AccessGateway

open Json

/-- A step into a tree of settings. -/
inductive SettingsStep where
  | child (name : String)
  | index (i : Nat)
  deriving DecidableEq, Repr

namespace SettingsTree

/-- The members of an object; anything else has none. -/
def membersOf (tree : Json) : List (String × Json) := tree.members?.getD []

/-- The items of an array; anything else has none. -/
def itemsOf (tree : Json) : List Json := tree.items?.getD []

mutual

/-- Sets a value under a name, in lower case, in an object; objects are merged. -/
def put (tree : Json) (name : String) : Json → Json
  | .object members =>
    let key := Text.lowercase name
    let held := (tree.lookup? key).getD (.object [])
    .object (setMember (membersOf tree) key (putAll held members))
  | value => .object (setMember (membersOf tree) (Text.lowercase name) value)

def putAll (tree : Json) : List (String × Json) → Json
  | [] => tree
  | (name, value) :: rest => putAll (put tree name value) rest

end

/-- The items with the one at an index replaced; missing ones before it are null. -/
def setItem (items : List Json) (i : Nat) (value : Json) : List Json :=
  (items ++ List.replicate (i + 1 - items.length) Json.null).set i value

/-- Sets a value at the end of a path; what lies on the way is made an object or array. -/
def setAt (value : Json) : List SettingsStep → Json → Json
  | [], _ => value
  | [.child name], tree => put tree name value
  | .child name :: rest, tree =>
    let inner := setAt value rest ((tree.lookup? name).getD .null)
    .object (setMember (membersOf tree) name inner)
  | .index i :: rest, tree =>
    let inner := setAt value rest (((itemsOf tree)[i]?).getD .null)
    .array (setItem (itemsOf tree) i inner)

def isNameChar (c : Char) : Bool := c.isAlphanum || c = '_' || c = '-'

/-- The steps of a path after its first name: `.name` and `[index]`. -/
def laterSteps? (chars : List Char) : Option (List SettingsStep) :=
  match chars with
  | [] => some []
  | '.' :: rest =>
    let name := rest.takeWhile isNameChar
    if name.isEmpty then none
    else (laterSteps? (rest.dropWhile isNameChar)).map (.child (String.ofList name) :: ·)
  | '[' :: rest =>
    match rest.dropWhile Char.isDigit with
    | ']' :: after =>
      if after.length < rest.length then
        match Text.Decimal.nat? (String.ofList (rest.takeWhile Char.isDigit)) with
        | some i => (laterSteps? after).map (.index i :: ·)
        | none => none
      else none
    | _ => none
  | _ => none
termination_by chars.length
decreasing_by
  · have := (List.dropWhile_suffix isNameChar (l := rest)).length_le
    simp only [List.length_cons]
    omega
  · simp only [List.length_cons]
    omega

/-- A text as a path; one that is none is a single name. -/
def pathOf (text : String) : List SettingsStep :=
  let name := text.toList.takeWhile isNameChar
  match laterSteps? (text.toList.dropWhile isNameChar) with
  | some steps => if name.isEmpty then [.child text] else .child (String.ofList name) :: steps
  | none => [.child text]

/-- Lays values with their paths over a tree. -/
def overlay (tree : Json) (values : List (String × Json)) : Json :=
  values.foldl (fun tree (path, value) => setAt value (pathOf path) tree) tree

/-- What every variable that counts begins with, in lower case. -/
def variablePrefix : String := "gateway__"

/-- The value a text stands for: a truth value, an integer, a number or itself. -/
def valueOf (text : String) : Json :=
  let word := Text.lowercase text
  if word = "true" then .bool true
  else if word = "false" then .bool false
  else
    match (Scalars.signedInteger? text).filter fun i =>
        -Scalars.maxInteger - 1 ≤ i ∧ i ≤ Scalars.maxInteger with
    | some i => .integer i
    | none => if (Text.Binary64.parse? text).isSome then .decimal text else .string text

/-- The paths and values of the variables that count. -/
def ofVariables (held : EnvFile.Variables) : List (String × Json) :=
  held.filterMap fun (name, value) =>
    (Text.stripStart? variablePrefix (Text.lowercase name)).map fun rest =>
      (String.ofList (Text.replaceAll ['_', '_'] ['.'] rest.toList), valueOf value)

end SettingsTree

inductive LoadError where
  /-- A source cannot be read, or a value is missing or of the wrong type. -/
  | unreadable
  | invalid (e : SettingsError)
  deriving DecidableEq, Repr

/-- The settings of a file, the environment and an environment file. -/
def Settings.load (file : Option Json) (environment : EnvFile.Variables)
    (envFile : Option String) : Except LoadError Settings :=
  let held := (envFile.map (EnvFile.load environment)).getD environment
  match file.getD (.object []) with
  | .object members =>
    let tree := SettingsTree.overlay (SettingsTree.overlay (.object []) members)
      (SettingsTree.ofVariables held)
    match decodeValue Scalars.loose.settings tree with
    | .error _ => .error .unreadable
    | .ok settings =>
      match settings.validate with
      | .ok () => .ok settings
      | .error e => .error (.invalid e)
  | _ => .error .unreadable

end AccessGateway
