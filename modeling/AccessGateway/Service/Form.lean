import AccessGateway.Http.MediaType
import AccessGateway.Http.Message
import AccessGateway.Settings.Decode

/-!
# Forms

The bodies of requests that carry one.  A form is JSON, complete and no longer than a limit, and what
follows the value is not looked at.  A form that can be read may still break rules for its fields, which
is another error.
-/

namespace AccessGateway

/-- Why the body of a request is not the JSON that is wanted. -/
inductive BodyFault where
  | contentType
  /-- The body is too long or breaks off. -/
  | unread
  | malformed
  | mismatch
  deriving DecidableEq, Repr

namespace BodyFault

def message : BodyFault → String
  | .contentType => "Expected request with \x60Content-Type: application/json\x60"
  | .unread => "Failed to buffer the request body"
  | .malformed => "Failed to parse the request body as JSON"
  | .mismatch => "Failed to deserialize the JSON body into the target type"

def toApi (fault : BodyFault) : ApiError := .badRequest ("Json parse error: " ++ fault.message)

def ofDecodeError : Json.DecodeError → BodyFault
  | .malformed => .malformed
  | .mismatch => .mismatch

end BodyFault

/-- What a body is read as. -/
class Form (α : Type) where
  decoder : Json.Decoder α
  /-- The rules that a form breaks. -/
  faults : α → List FieldFault

namespace Form

def maxBytes : Nat := 2 * 1024 * 1024

def declaresJson (headers : Headers) : Bool :=
  match (headers.firstVisible? "content-type").bind MediaType.parse? with
  | some mediaType => mediaType.isJson
  | none => false

def ofBody (α : Type) [Form α] (request : Request) : Except BodyFault α :=
  if !declaresJson request.headers then .error .contentType
  else
    match request.body.read maxBytes with
    | .error _ => .error .unread
    | .ok bytes => (Json.decodePrefix (Form.decoder (α := α)) bytes).mapError .ofDecodeError

def ofRequest (α : Type) [Form α] (request : Request) : Except ApiError α :=
  match ofBody α request with
  | .error fault => .error fault.toApi
  | .ok form =>
    match Form.faults form with
    | [] => .ok form
    | faults => .error (.validation faults)

/-- The fault of a text whose number of characters is out of bounds. -/
def lengthFaults (field text : String) (low : Nat) (high : Option Nat) (value : String) :
    List FieldFault :=
  if low ≤ value.length && high.all (value.length ≤ ·) then [] else [⟨field, "length", some text⟩]

def descriptionFaults : Option String → List FieldFault
  | none => []
  | some value => lengthFaults "description" "Description is too long" 0 (some 1024) value

end Form

structure LoginForm where
  username : String
  password : String
  /-- The domain of the login, if it is not the default one. -/
  domain : Option Domain
  deriving DecidableEq, Repr

open Json in
instance : Form LoginForm where
  decoder := (LoginForm.mk <$> .required "username" Decoder.string
    <*> .required "password" Decoder.string
    <*> .omissible "domain" Scalars.strict.domain : Shape LoginForm).decoder
  faults form := Form.lengthFaults "username" "Username is required" 1 (some 256) form.username

structure SecretForm where
  /-- The content in base64. -/
  content : String
  description : Option String
  deriving DecidableEq, Repr

open Json in
instance : Form SecretForm where
  decoder := (SecretForm.mk <$> .required "content" Decoder.string
    <*> .omissible "description" Decoder.string : Shape SecretForm).decoder
  faults form :=
    Form.lengthFaults "content" "Secret content is required" 1 none form.content ++
      Form.descriptionFaults form.description

structure ClientForm where
  description : Option String
  deriving DecidableEq, Repr

open Json in
instance : Form ClientForm where
  decoder := (ClientForm.mk <$> .omissible "description" Decoder.string :
    Shape ClientForm).decoder
  faults form := Form.descriptionFaults form.description

end AccessGateway
