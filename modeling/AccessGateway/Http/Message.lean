import AccessGateway.Error
import AccessGateway.Http.Headers
import AccessGateway.Json.Printer
import AccessGateway.Text.Split
import AccessGateway.Text.Utf8

/-!
# Requests and responses

A request asks for a target, which is a path as it was sent and a query.  The body of a response
may be the body of an error, which is kept apart from other JSON until it is written: it carries
the instant of writing, and the path of the request is filled in last.
-/

namespace AccessGateway

structure RequestTarget where
  path : String
  query : Option String
  deriving DecidableEq, Repr

namespace RequestTarget

/-- The text from the first occurrence of one of the given characters on. -/
def fromFirst (stops : List Char) (chars : List Char) : List Char :=
  chars.dropWhile fun c => !stops.contains c

/-- What follows scheme and authority: nothing if the text is an authority alone, and the root if
no path stands after them. -/
def afterAuthority (chars : List Char) : List Char :=
  match chars with
  | '/' :: _ | '*' :: _ => chars
  | _ =>
    match Text.dropPrefix? "://".toList (fromFirst [':'] chars) with
    | none => []
    | some rest =>
      match fromFirst ['/', '?'] rest with
      | '/' :: path => '/' :: path
      | query => '/' :: query

/-- Reads a target; a fragment ends it. -/
def parse (s : String) : RequestTarget :=
  let chars := afterAuthority (s.toList.takeWhile (· ≠ '#'))
  match Text.cutFirst? '?' chars with
  | none => ⟨String.ofList chars, none⟩
  | some (path, query) => ⟨String.ofList path, some (String.ofList query)⟩

end RequestTarget

/-- The body of a request: the bytes that arrive, and why no more of them do if it breaks off. -/
structure RequestBody where
  bytes : List UInt8
  fault : Option String := none
  deriving DecidableEq, Repr

namespace RequestBody

def ofText (s : String) : RequestBody := ⟨Text.Utf8.encode s, none⟩

instance : Coe String RequestBody := ⟨ofText⟩

/-- Reads a body that must not be longer than a limit, or tells why it cannot be read. -/
def read (limit : Nat) (body : RequestBody) : Except String (List UInt8) :=
  if limit < body.bytes.length then .error "length limit exceeded"
  else
    match body.fault with
    | some reason => .error reason
    | none => .ok body.bytes

theorem read_of_whole {limit : Nat} {body : RequestBody} (hwhole : body.fault = none)
    (hfits : body.bytes.length ≤ limit) : body.read limit = .ok body.bytes := by
  rw [read, if_neg (Nat.not_lt.mpr hfits), hwhole]

end RequestBody

structure Request where
  method : String
  target : RequestTarget
  headers : Headers
  body : RequestBody
  deriving DecidableEq, Repr

inductive Payload where
  | empty
  | text (content : String)
  | bytes (content : List UInt8)
  | json (value : Json)
  | failure (body : ErrorBody)

namespace Payload

/-- The body as it is written at an instant of the given text. -/
def write (timestamp : String) : Payload → List UInt8
  | .empty => []
  | .text content => Text.Utf8.encode content
  | .bytes content => content
  | .json value => Text.Utf8.encode value.print
  | .failure body => Text.Utf8.encode (body.toJson timestamp).print

end Payload

structure Response where
  status : Nat
  headers : Headers := []
  payload : Payload := .empty

namespace Response

def jsonField : String × String := ("content-type", "application/json")

def ofJson (status : Nat) (value : Json) : Response where
  status := status
  headers := [jsonField]
  payload := .json value

def noContent : Response where
  status := 204

def ofText (status : Nat) (content : String) : Response where
  status := status
  headers := [("content-type", "text/plain; charset=utf-8")]
  payload := .text content

/-- The answer for an error; it does not know the path yet. -/
def ofError (e : ApiError) : Response where
  status := e.status
  headers := [jsonField]
  payload := .failure (.ofError e)

def ofResult : Except GatewayError Response → Response
  | .ok response => response
  | .error e => .ofError e.toApi

/-- The body of an error with the path of the request; every other body as it is. -/
def withPath (response : Response) (path : String) : Response :=
  match response.payload with
  | .failure body => { response with payload := .failure (body.withPath path) }
  | _ => response

def withHeader (response : Response) (name value : String) : Response :=
  { response with headers := response.headers.set name value }

def withoutPayload (response : Response) : Response := { response with payload := .empty }

@[simp] theorem status_ofError (e : ApiError) : (ofError e).status = e.status := rfl

@[simp] theorem status_withPath (response : Response) (path : String) :
    (response.withPath path).status = response.status := by
  unfold withPath
  split <;> rfl

@[simp] theorem headers_withPath (response : Response) (path : String) :
    (response.withPath path).headers = response.headers := by
  unfold withPath
  split <;> rfl

end Response

end AccessGateway
