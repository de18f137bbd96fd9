import AccessGateway.Text.Ascii
import AccessGateway.Text.Decimal
import AccessGateway.Text.Utf8

/-!
# JSON tokens

The tokens of a JSON text.  `Token.scan` reads a text character by character; from the first
character that no token allows it gives the one token `fault` and looks at nothing after it.
A string that is well formed but holds half of a surrogate pair is a token without a text: it
can be passed over, and cannot be read.  `Token.scanBytes` reads bytes, of which not all have to be
the code of a character: in a string such a byte takes the text away as well.
-/

namespace AccessGateway.Json

inductive Token where
  | openObject
  | closeObject
  | openArray
  | closeArray
  | comma
  | colon
  | null
  | bool (value : Bool)
  | integer (value : Int)
  | decimal (literal : String)
  | text (value : Option String)
  | fault
  deriving DecidableEq, Repr

namespace Token

/-- How much of a number has been read. -/
inductive NumberPart where
  /-- A minus sign: a digit must follow. -/
  | sign
  /-- A zero: no digit may follow. -/
  | zero
  | whole
  /-- A point: a digit must follow. -/
  | point
  | fraction
  /-- The letter of the exponent: a sign or a digit must follow. -/
  | exponentMark
  /-- The sign of the exponent: a digit must follow. -/
  | exponentSign
  | exponent

/-- Where the reading of a text stands: between tokens, or inside one.  Characters read so far
are held last first. -/
inductive State where
  | between
  | word (expected : List Char) (token : Token)
  | number (read : List Char) (part : NumberPart)
  | text (read : List Char) (readable : Bool)
  | escape (read : List Char) (readable : Bool)
  /-- Inside `\uXXXX`, with the first half of a pair if one stands open. -/
  | unicode (read : List Char) (readable : Bool) (high : Option Nat) (count value : Nat)
  /-- After the first half of a surrogate pair. -/
  | halfPair (read : List Char) (readable : Bool) (high : Nat)
  | halfPairEscape (read : List Char) (readable : Bool) (high : Nat)
  | stopped

/-- A number literal as a token; one without fraction and exponent is an integer, but for the
negative zero. -/
def ofNumber (read : List Char) (part : NumberPart) : Token :=
  let literal := read.reverse
  match part with
  | .zero => if literal = ['0'] then .integer 0 else .decimal (String.ofList literal)
  | .whole =>
    match literal with
    | '-' :: digits => .integer (-(Text.Decimal.value digits : Int))
    | digits => .integer (Text.Decimal.value digits)
  | .fraction | .exponent => .decimal (String.ofList literal)
  | _ => .fault

/-- The part of a number after one more character, if the number goes on. -/
def NumberPart.next? (part : NumberPart) (c : Char) : Option NumberPart :=
  match part with
  | .sign => if c == '0' then some .zero else if c.isDigit then some .whole else none
  | .zero =>
    if c == '.' then some .point else if c == 'e' || c == 'E' then some .exponentMark else none
  | .whole =>
    if c.isDigit then some .whole
    else if c == '.' then some .point
    else if c == 'e' || c == 'E' then some .exponentMark
    else none
  | .point => if c.isDigit then some .fraction else none
  | .fraction =>
    if c.isDigit then some .fraction
    else if c == 'e' || c == 'E' then some .exponentMark
    else none
  | .exponentMark =>
    if c == '+' || c == '-' then some .exponentSign
    else if c.isDigit then some .exponent
    else none
  | .exponentSign => if c.isDigit then some .exponent else none
  | .exponent => if c.isDigit then some .exponent else none

def NumberPart.isComplete : NumberPart → Bool
  | .zero | .whole | .fraction | .exponent => true
  | _ => false

def startOf (c : Char) : List Token × State :=
  match c with
  | ' ' | '\n' | '\t' | '\r' => ([], .between)
  | '\x7b' => ([openObject], .between)
  | '\x7d' => ([closeObject], .between)
  | '[' => ([openArray], .between)
  | ']' => ([closeArray], .between)
  | ',' => ([comma], .between)
  | ':' => ([colon], .between)
  | '"' => ([], .text [] true)
  | 't' => ([], .word ['r', 'u', 'e'] (.bool true))
  | 'f' => ([], .word ['a', 'l', 's', 'e'] (.bool false))
  | 'n' => ([], .word ['u', 'l', 'l'] .null)
  | '-' => ([], .number ['-'] .sign)
  | '0' => ([], .number ['0'] .zero)
  | _ => if c.isDigit then ([], .number [c] .whole) else ([fault], .stopped)

def escaped? (c : Char) : Option Char :=
  match c with
  | '"' => some '"'
  | '\\' => some '\\'
  | '/' => some '/'
  | 'b' => some '\x08'
  | 'f' => some '\x0c'
  | 'n' => some '\n'
  | 'r' => some '\r'
  | 't' => some '\t'
  | _ => none

/-- What follows a complete `\uXXXX` with the given value. -/
def afterUnicode (read : List Char) (readable : Bool) (high : Option Nat) (value : Nat) : State :=
  match high with
  | some h =>
    if 0xDC00 ≤ value ∧ value < 0xE000 then
      .text (Char.ofNat (0x10000 + (h - 0xD800) * 0x400 + (value - 0xDC00)) :: read) readable
    else .text read false
  | none =>
    if 0xD800 ≤ value ∧ value < 0xDC00 then .halfPair read readable value
    else if 0xDC00 ≤ value ∧ value < 0xE000 then .text read false
    else .text (Char.ofNat value :: read) readable

def stepText (read : List Char) (readable : Bool) (c : Char) : List Token × State :=
  if c == '"' then
    ([text (if readable then some (String.ofList read.reverse) else none)], .between)
  else if c == '\\' then ([], .escape read readable)
  else if c.toNat < 0x20 then ([fault], .stopped)
  else ([], .text (c :: read) readable)

/-- One character, in every state. -/
def step (state : State) (c : Char) : List Token × State :=
  match state with
  | .between => startOf c
  | .word [] token =>
    let (tokens, next) := startOf c
    (token :: tokens, next)
  | .word (e :: expected) token =>
    if c = e then
      match expected with
      | [] => ([token], .between)
      | _ => ([], .word expected token)
    else ([fault], .stopped)
  | .number read part =>
    match part.next? c with
    | some next => ([], .number (c :: read) next)
    | none =>
      if part.isComplete && !(part matches .zero && c.isDigit) then
        let (tokens, next) := startOf c
        (ofNumber read part :: tokens, next)
      else ([fault], .stopped)
  | .text read readable => stepText read readable c
  | .escape read readable =>
    if c == 'u' then ([], .unicode read readable none 0 0)
    else
      match escaped? c with
      | some e => ([], .text (e :: read) readable)
      | none => ([fault], .stopped)
  | .unicode read readable high count value =>
    match Text.Ascii.hexValue? c with
    | none => ([fault], .stopped)
    | some digit =>
      let value := value * 16 + digit
      if count < 3 then ([], .unicode read readable high (count + 1) value)
      else ([], afterUnicode read readable high value)
  | .halfPair read readable high =>
    if c == '\\' then ([], .halfPairEscape read readable high)
    else stepText read false c
  | .halfPairEscape read readable high =>
    if c == 'u' then ([], .unicode read readable (some high) 0 0)
    else
      match escaped? c with
      | some e => ([], .text (e :: read) false)
      | none => ([fault], .stopped)
  | .stopped => ([], .stopped)

def finish : State → List Token
  | .between | .stopped => []
  | .number read part => [ofNumber read part]
  | _ => [fault]

/-- Reads on from a state, with the tokens so far last first. -/
def scanFrom (state : State) (done : List Token) : List Char → List Token
  | [] => ((finish state).reverse ++ done).reverse
  | c :: rest =>
    let (tokens, next) := step state c
    scanFrom next (tokens.reverse ++ done) rest

def scan (s : String) : List Token := scanFrom .between [] s.toList

/-- The same state, but inside a string without its text. -/
def State.withoutText : State → State
  | .text read _ => .text read false
  | other => other

/-- One character, or a byte in the code of none, which may stand where U+FFFD may. -/
def stepOver (state : State) : Option Char → List Token × State
  | some c => step state c
  | none =>
    let (tokens, next) := step state '\uFFFD'
    (tokens, next.withoutText)

/-- Reads on from a state over characters with gaps, with the tokens so far last first. -/
def scanOver (state : State) (done : List Token) : List (Option Char) → List Token
  | [] => ((finish state).reverse ++ done).reverse
  | c :: rest =>
    let (tokens, next) := stepOver state c
    scanOver next (tokens.reverse ++ done) rest

def scanBytes (bytes : List UInt8) : List Token :=
  scanOver .between [] (Text.Utf8.characters bytes)

theorem scanOver_map_some (state : State) (done : List Token) (chars : List Char) :
    scanOver state done (chars.map some) = scanFrom state done chars := by
  induction chars generalizing state done with
  | nil => rfl
  | cons c chars ih => exact ih _ _

@[simp] theorem scanBytes_encode (s : String) : scanBytes (Text.Utf8.encode s) = scan s := by
  rw [scanBytes, Text.Utf8.characters_encode, scanOver_map_some, scan]

end Token

end AccessGateway.Json
