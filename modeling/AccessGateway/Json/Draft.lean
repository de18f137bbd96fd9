import AccessGateway.Json.Basic
import AccessGateway.Json.Token

/-!
# JSON texts up to their first fault

A `Draft` is what a reader has seen of a JSON text when it meets the first fault: the tree of
values in the order of the text, with `fault` in the place where it stops being well formed.
A reader that walks a draft in order meets ill-typed values and faults in the order in which
they stand.  `Draft.parse` builds the draft of a text with an explicit stack of open containers
and gives the tokens after it.
-/

namespace AccessGateway.Json

inductive Draft where
  /-- Here the text stops being well formed. -/
  | fault
  | null
  | bool (value : Bool)
  | integer (value : Int)
  | decimal (literal : String)
  /-- A string; without a text when it cannot be read. -/
  | string (value : Option String)
  | array (items : List Draft)
  /-- The members with their names; a name that cannot be read is missing. -/
  | object (members : List (Option String × Draft))
  deriving Inhabited

namespace Draft

/-- A container that is still open, with what it holds so far, last first. -/
inductive Frame where
  | array (done : List Draft)
  | object (done : List (Option String × Draft)) (key : Option String)

inductive Phase where
  /-- A value; at the start of an array also its end. -/
  | value (mayClose : Bool)
  /-- The name of a member; at the start of an object also its end. -/
  | key (mayClose : Bool)
  | colon
  /-- A comma or the end of the container. -/
  | next
  deriving DecidableEq

/-- Closes every open container around a value, innermost first. -/
def closeAll (value : Draft) : List Frame → Draft
  | [] => value
  | .array done :: outer => closeAll (.array (value :: done).reverse) outer
  | .object done key :: outer => closeAll (.object ((key, value) :: done).reverse) outer

/-- Puts a complete value into the innermost open container. -/
def place (value : Draft) : Frame → Frame
  | .array done => .array (value :: done)
  | .object done key => .object ((key, value) :: done) none

inductive Step where
  | complete (value : Draft)
  | goOn (frames : List Frame) (phase : Phase)
  | broken

def step (phase : Phase) (frames : List Frame) (token : Token) : Step :=
  match phase, token, frames with
  | .value _, .null, _ => .complete .null
  | .value _, .bool b, _ => .complete (.bool b)
  | .value _, .integer i, _ => .complete (.integer i)
  | .value _, .decimal literal, _ => .complete (.decimal literal)
  | .value _, .text s, _ => .complete (.string s)
  | .value _, .openArray, frames => .goOn (.array [] :: frames) (.value true)
  | .value _, .openObject, frames => .goOn (.object [] none :: frames) (.key true)
  | .value true, .closeArray, .array done :: _ => .complete (.array done.reverse)
  | .key _, .text s, .object done _ :: outer => .goOn (.object done s :: outer) .colon
  | .key true, .closeObject, .object done _ :: _ => .complete (.object done.reverse)
  | .colon, .colon, frames => .goOn frames (.value false)
  | .next, .comma, .array done :: outer => .goOn (.array done :: outer) (.value false)
  | .next, .comma, .object done key :: outer => .goOn (.object done key :: outer) (.key false)
  | .next, .closeArray, .array done :: _ => .complete (.array done.reverse)
  | .next, .closeObject, .object done _ :: _ => .complete (.object done.reverse)
  | _, _, _ => .broken

def closes : Token → Bool
  | .closeArray | .closeObject => true
  | _ => false

/-- Reads on from a phase with the given containers open; gives the draft and the tokens after
it. -/
def parseFrom (phase : Phase) (frames : List Frame) : List Token → Draft × List Token
  | [] => (closeAll .fault frames, [])
  | token :: rest =>
    match step phase frames token with
    | .broken => (closeAll .fault frames, [])
    | .goOn frames phase => parseFrom phase frames rest
    | .complete value =>
      let outer := if closes token then frames.tail else frames
      match outer with
      | [] => (value, rest)
      | frame :: outer => parseFrom .next (place value frame :: outer) rest

/-- The draft of a text, and the tokens that follow its first value. -/
def parse (s : String) : Draft × List Token :=
  parseFrom (.value false) [] (Token.scan s)

/-- The draft of a text of which the bytes are given, and the tokens that follow it. -/
def parseBytes (bytes : List UInt8) : Draft × List Token :=
  parseFrom (.value false) [] (Token.scanBytes bytes)

@[simp] theorem parseBytes_encode (s : String) : parseBytes (Text.Utf8.encode s) = parse s := by
  rw [parseBytes, Token.scanBytes_encode, parse]

mutual

/-- Whether no fault stands in a draft: such a value can be passed over. -/
def isWellFormed : Draft → Bool
  | .fault => false
  | .array items => areWellFormed items
  | .object members => membersWellFormed members
  | _ => true

def areWellFormed : List Draft → Bool
  | [] => true
  | item :: rest => isWellFormed item && areWellFormed rest

def membersWellFormed : List (Option String × Draft) → Bool
  | [] => true
  | (_, value) :: rest => isWellFormed value && membersWellFormed rest

end

mutual

/-- The value a draft holds, if all of it can be read. -/
def toJson? : Draft → Option Json
  | .fault => none
  | .null => some .null
  | .bool b => some (.bool b)
  | .integer i => some (.integer i)
  | .decimal literal => some (.decimal literal)
  | .string s => s.map .string
  | .array items => (itemsToJson? items).map .array
  | .object members => (membersToJson? members).map .object

def itemsToJson? : List Draft → Option (List Json)
  | [] => some []
  | item :: rest =>
    match toJson? item, itemsToJson? rest with
    | some v, some vs => some (v :: vs)
    | _, _ => none

def membersToJson? : List (Option String × Draft) → Option (List (String × Json))
  | [] => some []
  | (name, value) :: rest =>
    match name, toJson? value, membersToJson? rest with
    | some n, some v, some vs => some ((n, v) :: vs)
    | _, _, _ => none

end

mutual

def ofJson : Json → Draft
  | .null => .null
  | .bool b => .bool b
  | .integer i => .integer i
  | .decimal literal => .decimal literal
  | .string s => .string (some s)
  | .array items => .array (itemsOfJson items)
  | .object members => .object (membersOfJson members)

def itemsOfJson : List Json → List Draft
  | [] => []
  | item :: rest => ofJson item :: itemsOfJson rest

def membersOfJson : List (String × Json) → List (Option String × Draft)
  | [] => []
  | (name, value) :: rest => (some name, ofJson value) :: membersOfJson rest

end

end Draft

/-- Reads a text that holds exactly one value. -/
def parse? (s : String) : Option Json :=
  match Draft.parse s with
  | (draft, []) => draft.toJson?
  | _ => none

end AccessGateway.Json
