/-!
# JSON values

Values as the gateway builds them and as its settings hold them.  A number is an integer or a
literal of another form (with a fraction, an exponent, or a negative zero) that is kept as it was
written.  Members of an object stay in order; `lookup?` finds the last one of a name.
-/

namespace AccessGateway

inductive Json where
  | null
  | bool (value : Bool)
  | integer (value : Int)
  | decimal (literal : String)
  | string (value : String)
  | array (items : List Json)
  | object (members : List (String × Json))
  deriving Inhabited

namespace Json

def nat (n : Nat) : Json := .integer n

/-- The text, or null when there is none. -/
def ofText? (text : Option String) : Json :=
  match text with
  | some s => .string s
  | none => .null

def texts (items : List String) : Json := .array (items.map .string)

/-- The members with the given name; the last one counts. -/
def find? (members : List (String × Json)) (name : String) : Option Json :=
  (members.reverse.find? fun member => member.1 == name).map Prod.snd

/-- The value under a name, if this is an object that has one. -/
def lookup? (name : String) : Json → Option Json
  | .object members => find? members name
  | _ => none

/-- The text, if this is one. -/
def text? : Json → Option String
  | .string s => some s
  | _ => none

/-- The integer, if this is one. -/
def int? : Json → Option Int
  | .integer i => some i
  | _ => none

/-- The items, if this is an array. -/
def items? : Json → Option (List Json)
  | .array items => some items
  | _ => none

/-- The members, if this is an object. -/
def members? : Json → Option (List (String × Json))
  | .object members => some members
  | _ => none

/-- Adds a member to a list in ascending order of names, in place of one of the same name. -/
def insertMember (name : String) (value : Json) : List (String × Json) → List (String × Json)
  | [] => [(name, value)]
  | (other, v) :: rest =>
    if name < other then (name, value) :: (other, v) :: rest
    else if name = other then (name, value) :: rest
    else (other, v) :: insertMember name value rest

mutual

/-- The same value with the members of every object in ascending order of their names, one of
each name, the last. -/
def canonical : Json → Json
  | .array items => .array (canonicalItems items)
  | .object members => .object (canonicalMembers members [])
  | other => other

def canonicalItems : List Json → List Json
  | [] => []
  | item :: rest => canonical item :: canonicalItems rest

def canonicalMembers : List (String × Json) → List (String × Json) → List (String × Json)
  | [], done => done
  | (name, value) :: rest, done =>
    canonicalMembers rest (insertMember name (canonical value) done)

end

/-- Sets a member of a list: in place of those of the same name, or at the end. -/
def setMember (members : List (String × Json)) (name : String) (value : Json) :
    List (String × Json) :=
  if members.any (·.1 == name) then
    members.map fun member => if member.1 == name then (name, value) else member
  else members ++ [(name, value)]

mutual

/-- Lays `patch` over a value: objects are merged member by member, a null removes the member,
and anything else takes the place of what was there. -/
def merge (base : Json) : Json → Json
  | .object patch =>
    match base with
    | .object members => .object (mergeMembers members patch)
    | _ => .object patch
  | other => other

def mergeMembers (members : List (String × Json)) :
    List (String × Json) → List (String × Json)
  | [] => members
  | (name, .null) :: rest =>
    mergeMembers (members.filter fun member => member.1 != name) rest
  | (name, value) :: rest =>
    mergeMembers
      (setMember members name (merge ((find? members name).getD .null) value)) rest

end

end Json

end AccessGateway
