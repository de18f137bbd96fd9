import AccessGateway.Json.Basic

/-!
# The description of the interface

What the gateway tells about its own interface: the operations with their answers, the names of
the bodies they take and give, and how callers authenticate.
-/

namespace AccessGateway

structure DocumentedOperation where
  id : String
  method : String
  path : String
  tag : String
  /-- Whether a token is needed. -/
  secured : Bool
  /-- The status codes of the answers with what they mean. -/
  answers : List (Nat × String)
  deriving DecidableEq, Repr

namespace DocumentedOperation

def answersJson (answers : List (Nat × String)) : Json :=
  .object (answers.map fun (status, meaning) =>
    (toString status, .object [("description", .string meaning)]))

def toJson (operation : DocumentedOperation) : Json :=
  .object ([("tags", .texts [operation.tag]), ("operationId", .string operation.id),
    ("responses", answersJson operation.answers)] ++
    if operation.secured then
      [("security", .array [.object [("bearer_auth", .array [])]])]
    else [])

end DocumentedOperation

namespace InterfaceDocument

def operations : List DocumentedOperation := [
  { id := "health_check", method := "get", path := "/health", tag := "Observability"
    secured := false, answers := [(200, "Service is healthy")] },
  { id := "login", method := "post", path := "/login", tag := "Authentication"
    secured := false
    answers := [(200, "Login successful"), (401, "Invalid username or password"),
      (422, "Validation error"), (503, "Directory unavailable")] },
  { id := "current_user", method := "get", path := "/user", tag := "Authentication"
    secured := true
    answers := [(200, "Authenticated principal"), (401, "Missing, invalid or expired token")] },
  { id := "check_access", method := "get", path := "/apps/\x7bapp_name\x7d/access"
    tag := "Applications", secured := true
    answers := [(200, "Caller is authorized"), (400, "Malformed group name"),
      (403, "Caller is not authorized"), (503, "Authorization backend unavailable")] },
  { id := "list_secrets", method := "get", path := "/apps/\x7bapp_name\x7d/secrets"
    tag := "Applications", secured := true
    answers := [(200, "Short secret names"), (403, "Caller is not authorized")] },
  { id := "get_secret", method := "get", path := "/apps/\x7bapp_name\x7d/secrets/\x7bsecret\x7d"
    tag := "Applications", secured := true
    answers := [(200, "Secret metadata"), (404, "No such secret")] },
  { id := "create_secret", method := "post"
    path := "/apps/\x7bapp_name\x7d/secrets/\x7bsecret\x7d"
    tag := "Applications", secured := true
    answers := [(201, "Secret created"), (400, "Malformed name or content"),
      (409, "Secret already exists")] },
  { id := "delete_secret", method := "delete"
    path := "/apps/\x7bapp_name\x7d/secrets/\x7bsecret\x7d"
    tag := "Applications", secured := true
    answers := [(204, "Secret deleted"), (404, "No such secret")] },
  { id := "list_clients", method := "get", path := "/apps/\x7bapp_name\x7d/clients"
    tag := "Applications", secured := true
    answers := [(200, "Clients of the group"), (403, "Caller is not authorized")] },
  { id := "create_client", method := "post"
    path := "/apps/\x7bapp_name\x7d/clients/\x7bclient\x7d"
    tag := "Applications", secured := true
    answers := [(201, "Client created"), (409, "Client already exists")] },
  { id := "delete_client", method := "delete"
    path := "/apps/\x7bapp_name\x7d/clients/\x7bclient\x7d"
    tag := "Applications", secured := true
    answers := [(204, "Client deleted"), (404, "No such client")] }]

def schemas : List String :=
  ["LoginRequest", "UserResponse", "AccessResponse", "CreateSecretRequest", "SecretResponse",
    "CreateClientRequest", "ClientResponse", "IssuedToken"]

def tags : List (String × String) := [
  ("Authentication", "Directory login and gateway tokens"),
  ("Applications", "Secrets and clients of application groups"),
  ("Observability", "Service health and monitoring")]

def version : String := "1.0.0"

/-- How callers authenticate. -/
def bearerScheme : Json :=
  .object [("type", .string "http"), ("scheme", .string "bearer"), ("bearerFormat", .string "JWT")]

def paths : Json :=
  .object (operations.foldl (fun members operation =>
    let methods := ((Json.find? members operation.path).bind Json.members?).getD []
    Json.setMember members operation.path
      (.object (methods ++ [(operation.method, operation.toJson)]))) [])

def toJson : Json :=
  .object [
    ("openapi", .string "3.0.3"),
    ("info", .object [("title", .string "Access gateway"), ("version", .string version)]),
    ("paths", paths),
    ("components", .object [
      ("schemas", .object (schemas.map fun name =>
        (name, .object [("type", .string "object")]))),
      ("securitySchemes", .object [("bearer_auth", bearerScheme)])]),
    ("tags", .array (tags.map fun (name, description) =>
      .object [("name", .string name), ("description", .string description)]))]

end InterfaceDocument

end AccessGateway
