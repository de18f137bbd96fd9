import AccessGateway.Http.Headers
import AccessGateway.Text.Split

/-!
# Trace context

Calls the gateway makes carry the trace they belong to: `traceparent` names the trace and the
calling span, and `tracestate` lists what the systems on the way have added.  A span under a
caller that does not sample the trace is not sampled either and passes no state on.
-/

namespace AccessGateway

structure TraceParent where
  traceId : Nat
  flags : Nat
  state : List (String × String)
  deriving DecidableEq, Repr

structure TraceContext where
  traceId : Nat
  spanId : Nat
  flags : Nat
  state : List (String × String)
  deriving DecidableEq, Repr

namespace TraceState

def maxLength : Nat := 256

/-- How far from its end the vendor in a key may begin. -/
def vendorLength : Nat := 14

def isLowerOrDigit (c : Char) : Bool := c.isLower || c.isDigit

/-- Whether the rest of a key is well formed after another character, with the number of
characters after it and whether a vendor mark was seen. -/
def isKeyRest (before : Char) (vendorSeen : Bool) : List Char → Bool
  | [] => true
  | c :: rest =>
    if c = '@' then
      !vendorSeen && rest.length < vendorLength && isKeyRest c true rest
    else
      (isLowerOrDigit c || (before ≠ '@' && (c = '_' || c = '-' || c = '*' || c = '/'))) &&
        isKeyRest c vendorSeen rest

def isKey (key : String) : Bool :=
  Text.Utf8.size key ≤ maxLength &&
    match key.toList with
    | [] => true
    | first :: rest => isLowerOrDigit first && isKeyRest first false rest

def isValue (value : String) : Bool :=
  Text.Utf8.size value ≤ maxLength && !value.toList.contains ',' && !value.toList.contains '='

def isValid (state : List (String × String)) : Bool :=
  state.all fun entry => isKey entry.1 && isValue entry.2

def toText (state : List (String × String)) : String :=
  ",".intercalate (state.map fun entry => entry.1 ++ "=" ++ entry.2)

end TraceState

namespace TraceContext

def untraced : TraceContext := ⟨0, 0, 0, []⟩

def under (parent : TraceParent) (spanId : Nat) : TraceContext :=
  if parent.flags % 2 = 1 then ⟨parent.traceId, spanId, parent.flags, parent.state⟩
  else ⟨parent.traceId, spanId, 0, []⟩

/-- The value of `traceparent`. -/
def parentText (context : TraceContext) : String :=
  "00-" ++ Text.Ascii.hexPadded 32 context.traceId ++ "-" ++
    Text.Ascii.hexPadded 16 context.spanId ++ "-" ++ Text.Ascii.hexPadded 2 context.flags

/-- Adds the context to header fields, unless it names no trace or no span. -/
def inject (context : TraceContext) (headers : Headers) : Headers :=
  if context.traceId = 0 ∨ context.spanId = 0 then headers
  else
    let traced := headers.set "traceparent" context.parentText
    let state := TraceState.toText context.state
    if state.isEmpty || !Headers.isValue state then traced
    else traced.set "tracestate" state

end TraceContext

end AccessGateway
