import AccessGateway.Names.Group
import AccessGateway.Json.Basic

/-!
# Errors

What can go wrong between a request and its answer, by layer: the directory, the secrets store
and the gateway itself report their own causes, and every cause ends as an `ApiError`, which has
a status and a message for the caller.  The text for the caller is not the text for the log: a
rejected username reads like a wrong password, and internal causes are not shown.
-/

namespace AccessGateway

/-- The gateway's own view of a failure. -/
inductive GatewayError where
  | invalidFormat (reason : String)
  /-- The username was refused before the directory was asked. -/
  | invalidUsername
  | invalidCredentials
  | serviceUnavailable (reason : String)
  | tokenExpired
  | tokenInvalid
  | notAuthorized (reason : String)
  | badGateway (reason : String)
  | notFound (what : String)
  | conflict (what : String)
  | internal (reason : String)
  deriving DecidableEq, Repr

namespace GatewayError

def message : GatewayError → String
  | .invalidFormat reason => "Invalid format: " ++ reason
  | .invalidUsername => "Invalid username"
  | .invalidCredentials => "Invalid credentials"
  | .serviceUnavailable reason => "Service unavailable: " ++ reason
  | .tokenExpired => "Token expired"
  | .tokenInvalid => "Invalid token"
  | .notAuthorized reason => "Not authorized: " ++ reason
  | .badGateway reason => "Upstream gateway error: " ++ reason
  | .notFound what => "Not found: " ++ what
  | .conflict what => "Conflict: " ++ what
  | .internal reason => "Internal server error: " ++ reason

/-- A name that cannot be read is a malformed request. -/
def ofName (e : NameError) : GatewayError := .invalidFormat e.message

end GatewayError

inductive DirectoryError where
  | unavailable (reason : String)
  | timeout (operation : String)
  | protocol (reason : String)
  deriving DecidableEq, Repr

namespace DirectoryError

def message : DirectoryError → String
  | .unavailable reason => "directory unreachable: " ++ reason
  | .timeout operation => "directory operation timed out: " ++ operation
  | .protocol reason => "directory protocol error: " ++ reason

/-- Whatever the directory's trouble, the service is not available. -/
def toGateway (e : DirectoryError) : GatewayError := .serviceUnavailable e.message

end DirectoryError

inductive StoreError where
  | notFound (what : String)
  | conflict (what : String)
  | status (code : Nat) (body : String)
  | unavailable (reason : String)
  | invalidResponse (reason : String)
  deriving DecidableEq, Repr

namespace StoreError

def message : StoreError → String
  | .notFound what => "not found: " ++ what
  | .conflict what => "already exists: " ++ what
  | .status code body => "secrets store returned " ++ toString code ++ ": " ++ body
  | .unavailable reason => "secrets store unavailable: " ++ reason
  | .invalidResponse reason => "unexpected secrets store response: " ++ reason

def toGateway : StoreError → GatewayError
  | .notFound what => .notFound what
  | .conflict what => .conflict what
  | .unavailable reason => .serviceUnavailable reason
  | .status code body => .badGateway (message (.status code body))
  | .invalidResponse reason => .badGateway (message (.invalidResponse reason))

end StoreError

/-- A field of a request body that breaks a rule. -/
structure FieldFault where
  field : String
  code : String
  /-- The text for the caller, where the rule has one. -/
  text : Option String
  deriving DecidableEq, Repr

namespace FieldFault

def message (fault : FieldFault) : String :=
  fault.field ++ ": " ++
    match fault.text with
    | some text => text
    | none => "Validation error: " ++ fault.code ++ " [\x7b\x7d]"

end FieldFault

/-- What a caller is told. -/
inductive ApiError where
  | validation (faults : List FieldFault)
  | badRequest (reason : String)
  | notFound (reason : String)
  | unauthorized (reason : String)
  | forbidden (reason : String)
  | conflict (reason : String)
  | methodNotAllowed (reason : String)
  | internal (reason : String)
  | badGateway (reason : String)
  | serviceUnavailable (reason : String)
  | configuration (reason : String)
  deriving DecidableEq, Repr

namespace ApiError

/-- The faults of a body, one a line. -/
def faultList (faults : List FieldFault) : String :=
  "\n".intercalate (faults.map FieldFault.message)

def status : ApiError → Nat
  | .validation _ => 422
  | .badRequest _ => 400
  | .notFound _ => 404
  | .unauthorized _ => 401
  | .forbidden _ => 403
  | .conflict _ => 409
  | .methodNotAllowed _ => 405
  | .internal _ | .configuration _ => 500
  | .badGateway _ => 502
  | .serviceUnavailable _ => 503

def logText : ApiError → String
  | .validation faults => "Validation error: " ++ faultList faults
  | .badRequest reason => "Bad request: " ++ reason
  | .notFound reason => "Not found: " ++ reason
  | .unauthorized reason => "Unauthorized: " ++ reason
  | .forbidden reason => "Forbidden: " ++ reason
  | .conflict reason => "Conflict: " ++ reason
  | .methodNotAllowed reason => "Method not allowed: " ++ reason
  | .internal reason => "Internal server error: " ++ reason
  | .badGateway reason => "Bad Gateway: " ++ reason
  | .serviceUnavailable reason => "Service Unavailable: " ++ reason
  | .configuration reason => "Configuration error: " ++ reason

/-- The text for the caller; internal causes stay in the log. -/
def message : ApiError → String
  | .validation faults => "Validation error: " ++ faultList faults
  | .badRequest reason | .notFound reason | .unauthorized reason | .forbidden reason
  | .conflict reason | .methodNotAllowed reason => reason
  | .internal _ => "Internal server error"
  | .badGateway reason => "Bad Gateway: " ++ reason
  | .serviceUnavailable reason => "Service unavailable: " ++ reason
  | .configuration _ => "Configuration error"

end ApiError

/-- A rejected username reads like a wrong password. -/
def GatewayError.toApi : GatewayError → ApiError
  | .invalidFormat reason => .badRequest reason
  | .invalidUsername | .invalidCredentials => .unauthorized "Invalid username or password"
  | .serviceUnavailable reason => .serviceUnavailable reason
  | .tokenExpired => .unauthorized "Token expired, please log in again"
  | .tokenInvalid => .unauthorized "Invalid token"
  | .notAuthorized reason => .forbidden reason
  | .badGateway reason => .badGateway reason
  | .notFound what => .notFound what
  | .conflict what => .conflict what
  | .internal reason => .internal reason

def reasonPhrases : List (Nat × String) := [
  (100, "Continue"), (101, "Switching Protocols"), (102, "Processing"),
  (103, "Early Hints"),
  (200, "OK"), (201, "Created"), (202, "Accepted"), (203, "Non Authoritative Information"),
  (204, "No Content"), (205, "Reset Content"), (206, "Partial Content"), (207, "Multi-Status"),
  (208, "Already Reported"), (226, "IM Used"),
  (300, "Multiple Choices"), (301, "Moved Permanently"), (302, "Found"), (303, "See Other"),
  (304, "Not Modified"), (305, "Use Proxy"), (307, "Temporary Redirect"),
  (308, "Permanent Redirect"),
  (400, "Bad Request"), (401, "Unauthorized"), (402, "Payment Required"), (403, "Forbidden"),
  (404, "Not Found"), (405, "Method Not Allowed"), (406, "Not Acceptable"),
  (407, "Proxy Authentication Required"), (408, "Request Timeout"), (409, "Conflict"),
  (410, "Gone"), (411, "Length Required"), (412, "Precondition Failed"),
  (413, "Payload Too Large"), (414, "URI Too Long"), (415, "Unsupported Media Type"),
  (416, "Range Not Satisfiable"), (417, "Expectation Failed"), (418, "I'm a teapot"),
  (421, "Misdirected Request"), (422, "Unprocessable Entity"), (423, "Locked"),
  (424, "Failed Dependency"), (425, "Too Early"), (426, "Upgrade Required"),
  (428, "Precondition Required"),
  (429, "Too Many Requests"), (431, "Request Header Fields Too Large"),
  (451, "Unavailable For Legal Reasons"),
  (500, "Internal Server Error"), (501, "Not Implemented"), (502, "Bad Gateway"),
  (503, "Service Unavailable"), (504, "Gateway Timeout"), (505, "HTTP Version Not Supported"),
  (506, "Variant Also Negotiates"), (507, "Insufficient Storage"), (508, "Loop Detected"),
  (510, "Not Extended"), (511, "Network Authentication Required")]

/-- The body of an error answer, but for the instant it is written at. -/
structure ErrorBody where
  status : Nat
  error : String
  message : String
  path : String
  deriving DecidableEq, Repr

namespace ErrorBody

def ofStatus (status : Nat) (message : String) : ErrorBody where
  status := status
  error := (reasonPhrases.lookup status).getD "Unknown Error"
  message := message
  path := ""

def withPath (body : ErrorBody) (path : String) : ErrorBody := { body with path := path }

def ofError (e : ApiError) : ErrorBody := ofStatus e.status e.message

/-- The members of the body; the first tells when it was written. -/
def toJson (timestamp : String) (body : ErrorBody) : Json :=
  .object [("timestamp", .string timestamp), ("status", .nat body.status),
    ("error", .string body.error), ("message", .string body.message),
    ("path", .string body.path)]

end ErrorBody

end AccessGateway
