import AccessGateway.Json.Draft
import AccessGateway.Text.Utf8

/-!
# Reading typed values from JSON

A `Decoder` reads a value of a type from a draft.  It walks in the order of the text, so of an
ill-typed value and a fault it reports the one that stands first.  Records may be written as
objects, whose unknown members are passed over, or as arrays of their fields in order.
-/

namespace AccessGateway.Json

inductive DecodeError where
  /-- The text is not JSON, or holds a string that cannot be read where one is read. -/
  | malformed
  /-- The text is JSON of another type. -/
  | mismatch
  deriving DecidableEq, Repr

abbrev Decoder (α : Type) := Draft → Except DecodeError α

namespace Decoder

/-- The error of a reader that wanted something else. -/
def refuse {α : Type} : Draft → Except DecodeError α
  | .fault | .string none => .error .malformed
  | _ => .error .mismatch

def string : Decoder String
  | .string (some s) => .ok s
  | other => refuse other

def bool : Decoder Bool
  | .bool b => .ok b
  | other => refuse other

def integer (low high : Int) : Decoder Int
  | .integer i => if low ≤ i ∧ i ≤ high then .ok i else .error .mismatch
  | other => refuse other

/-- A number of the given width in bits, without sign. -/
def unsigned (bits : Nat) : Decoder Nat := fun draft =>
  (integer 0 (Int.ofNat (Nat.pow 2 bits) - 1) draft).map Int.toNat

def signed64 : Decoder Int := integer (-9223372036854775808) 9223372036854775807

/-- Null reads as no value. -/
def option {α : Type} (decoder : Decoder α) : Decoder (Option α)
  | .null => .ok none
  | other => (decoder other).map some

/-- A value read by one decoder and accepted by a function of it. -/
def filterMap {α β : Type} (decoder : Decoder α) (accept : α → Option β) : Decoder β :=
  fun draft =>
    match decoder draft with
    | .ok a =>
      match accept a with
      | some b => .ok b
      | none => .error .mismatch
    | .error e => .error e

def list {α : Type} (decoder : Decoder α) : Decoder (List α)
  | .array items => items.mapM decoder
  | other => refuse other

/-- An object with arbitrary names, in the order of the text. -/
def entries {α β : Type} (name : String → Option α) (decoder : Decoder β) :
    Decoder (List (α × β))
  | .object members => members.mapM fun
    | (none, _) => .error .malformed
    | (some key, value) =>
      match name key with
      | none => .error .mismatch
      | some a => (decoder value).map (a, ·)
  | other => refuse other

/-- One of several named alternatives: its name, or an object with its name and null. -/
def choice {α : Type} (alternative : String → Option α) : Decoder α
  | .string (some s) =>
    match alternative s with
    | some a => .ok a
    | none => .error .mismatch
  | .object [(some key, value)] =>
    match alternative key, value with
    | some a, .null => .ok a
    | some _, other => refuse other
    | none, _ => .error .mismatch
  | .object ((none, _) :: _) => .error .malformed
  | other => refuse other

end Decoder

/-- When a field may be missing. -/
inductive Presence where
  | required
  /-- May be missing from an object. -/
  | optional
  /-- May be missing from an object, and from the end of an array. -/
  | defaulted
  deriving DecidableEq

/-- A field of a record, with the test of its value. -/
structure Field where
  name : String
  presence : Presence
  accepts : Draft → Except DecodeError Unit

namespace Field

def of {α : Type} (name : String) (presence : Presence) (decoder : Decoder α) : Field :=
  ⟨name, presence, fun draft => (decoder draft).map fun _ => ()⟩

end Field

/-- The fields of a record that were present, with their values. -/
abbrev Record := List (String × Draft)

namespace Record

/-- Reads the members of an object; a field must not occur twice. -/
def ofMembers (fields : List Field) (seen : Record) :
    List (Option String × Draft) → Except DecodeError Record
  | [] =>
    if fields.all fun field => field.presence ≠ .required || seen.any (·.1 == field.name) then
      .ok seen
    else .error .mismatch
  | (none, _) :: _ => .error .malformed
  | (some name, value) :: rest =>
    match fields.find? (·.name == name) with
    | none =>
      if value.isWellFormed then ofMembers fields seen rest else .error .malformed
    | some field =>
      if seen.any (·.1 == name) then .error .mismatch
      else
        match field.accepts value with
        | .ok () => ofMembers fields (seen ++ [(name, value)]) rest
        | .error e => .error e

def ofItems : List Field → List Draft → Except DecodeError Record
  | [], [] => .ok []
  | [], _ :: _ => .error .malformed
  | fields, [] =>
    if fields.all (·.presence = .defaulted) then .ok [] else .error .mismatch
  | field :: fields, value :: rest =>
    match field.accepts value with
    | .ok () => (ofItems fields rest).map ((field.name, value) :: ·)
    | .error e => .error e

def decode (fields : List Field) : Decoder Record
  | .object members => ofMembers fields [] members
  | .array items => ofItems fields items
  | other => Decoder.refuse other

def get {α : Type} (record : Record) (name : String) (decoder : Decoder α) :
    Except DecodeError α :=
  match record.lookup name with
  | some value => decoder value
  | none => .error .mismatch

/-- The value of a field, or another one if it is missing. -/
def getD {α : Type} (record : Record) (name : String) (decoder : Decoder α) (default : α) :
    Except DecodeError α :=
  match record.lookup name with
  | some value => decoder value
  | none => .ok default

end Record

/-- A description of a record: its fields in order, and the value they make. -/
structure Shape (α : Type) where
  fields : List Field
  read : Record → Except DecodeError α

namespace Shape

def required {α : Type} (name : String) (decoder : Decoder α) : Shape α :=
  ⟨[.of name .required decoder], fun record => record.get name decoder⟩

/-- A field that may be null or missing from an object. -/
def optional {α : Type} (name : String) (decoder : Decoder α) : Shape (Option α) :=
  ⟨[.of name .optional (Decoder.option decoder)],
    fun record => record.getD name (Decoder.option decoder) none⟩

def defaulted {α : Type} (name : String) (decoder : Decoder α) (default : α) : Shape α :=
  ⟨[.of name .defaulted decoder], fun record => record.getD name decoder default⟩

/-- A field that may be null or missing. -/
def omissible {α : Type} (name : String) (decoder : Decoder α) : Shape (Option α) :=
  defaulted name (Decoder.option decoder) none

instance : Applicative Shape where
  pure a := ⟨[], fun _ => .ok a⟩
  seq f a :=
    let a := a ()
    ⟨f.fields ++ a.fields, fun record => do
      let g ← f.read record
      return g (← a.read record)⟩

def decoder {α : Type} (shape : Shape α) : Decoder α := fun draft =>
  match Record.decode shape.fields draft with
  | .ok record => shape.read record
  | .error e => .error e

end Shape

/-- Reads a text that holds exactly one value of a type. -/
def decodeText {α : Type} (decoder : Decoder α) (s : String) : Except DecodeError α :=
  match Draft.parse s with
  | (draft, rest) =>
    match decoder draft with
    | .ok a => if rest.isEmpty then .ok a else .error .malformed
    | .error e => .error e

def decodeBytes {α : Type} (decoder : Decoder α) (bytes : List UInt8) : Except DecodeError α :=
  match Draft.parseBytes bytes with
  | (draft, rest) =>
    match decoder draft with
    | .ok a => if rest.isEmpty then .ok a else .error .malformed
    | .error e => .error e

@[simp] theorem decodeBytes_encode {α : Type} (decoder : Decoder α) (s : String) :
    decodeBytes decoder (Text.Utf8.encode s) = decodeText decoder s := by
  rw [decodeBytes, Draft.parseBytes_encode, decodeText]

def decodePrefix {α : Type} (decoder : Decoder α) (bytes : List UInt8) : Except DecodeError α :=
  decoder (Draft.parseBytes bytes).1

def decodeValue {α : Type} (decoder : Decoder α) (value : Json) : Except DecodeError α :=
  decoder (Draft.ofJson value)

end AccessGateway.Json
