import AccessGateway.Http.Client
import AccessGateway.Settings.Basic
import AccessGateway.Store.Program
import AccessGateway.Text.Pem

/-!
# The store behind its network interface

Every question is one request.  Names stand in the path as one coded segment.  A group that is
there already was ensured; any other answer without success, an answer that cannot be read and
the lack of an answer are failures.
-/

namespace AccessGateway

structure RemoteStore where
  /-- The URL of the store without slashes at its end. -/
  baseUrl : String
  deriving DecidableEq, Repr

namespace RemoteStore

def url (store : RemoteStore) (path : String) : String :=
  store.baseUrl ++ "/automation/v2" ++ path

/-- The path of what is below a collection. -/
def itemPath (collection name : String) : String :=
  "/" ++ collection ++ "/" ++ Text.Percent.encode name

def plan (store : RemoteStore) : StoreOperation → RequestPlan
  | .ensureGroup group description =>
    { method := "POST", url := store.url "/groups" : RequestPlan }.withJson
      (.object [("name", .string group), ("description", .string description)])
  | .listSecrets group =>
    { method := "GET", url := store.url (itemPath "groups" group ++ "/secrets") }
  | .listClients group =>
    { method := "GET", url := store.url (itemPath "groups" group ++ "/clients") }
  | .getSecret name => { method := "GET", url := store.url (itemPath "secrets" name) }
  | .createSecret secret =>
    { method := "POST", url := store.url "/secrets" : RequestPlan }.withJson secret.toJson
  | .createClient client =>
    { method := "POST", url := store.url "/clients" : RequestPlan }.withJson client.toJson
  | .deleteSecret name => { method := "DELETE", url := store.url (itemPath "secrets" name) }
  | .deleteClient name => { method := "DELETE", url := store.url (itemPath "clients" name) }

def statusError (subject : String) (status : Nat) (detail : String) : StoreError :=
  if status = 404 then .notFound subject
  else if status = 409 then .conflict subject
  else .status status detail

def unreadable : StoreError := .invalidResponse SendError.undecodable.message

def decodeBody {α : Type} (decoder : Json.Decoder α) (body : Option (List UInt8)) :
    Except StoreError α :=
  match body with
  | none => .error unreadable
  | some bytes =>
    match Json.decodeBytes decoder bytes with
    | .ok a => .ok a
    | .error _ => .error unreadable

def readBody : (operation : StoreOperation) → Option (List UInt8) →
    Except StoreError operation.Answer
  | .listSecrets _, body => decodeBody (Json.Decoder.list SecretDetail.decoder) body
  | .listClients _, body => decodeBody (Json.Decoder.list ClientDetail.decoder) body
  | .getSecret _, body => decodeBody SecretDetail.decoder body
  | .ensureGroup .., _ | .createSecret _, _ | .createClient _, _ | .deleteSecret _, _
  | .deleteClient _, _ => .ok ()

/-- Reads a reply to a question.  The detail is what the body of a failure says. -/
def read (operation : StoreOperation) (detail : String) :
    FinalReply → Except StoreError operation.Answer
  | .error e => .error (.unavailable e.message)
  | .ok (status, body) =>
    if isSuccess status then readBody operation body
    else
      match operation with
      | .ensureGroup group _ =>
        if status = 409 then .ok () else .error (statusError group status detail)
      | other => .error (statusError other.subject status detail)

def answerOver {σ : Type} (store : RemoteStore) (line : Line σ) : StoreAnswers σ :=
  fun state operation =>
    match line state (store.plan operation) with
    | (reply, detail, state) => (read operation detail reply, state)

def answer (store : RemoteStore) : StoreAnswers Network := store.answerOver Network.line

abbrev FileError := String

abbrev Files := String → Except FileError String

/-- Whether a file holds a certificate and a private key. -/
def isIdentity (text : String) : Bool :=
  match Text.Pem.sections? text with
  | none => false
  | some sections =>
    sections.all (fun s => s.isCertificate || s.isPrivateKey) &&
      sections.any (·.isCertificate) && sections.any (·.isPrivateKey)

def isTrustList (text : String) : Bool :=
  match Text.Pem.sections? text with
  | none => false
  | some sections => sections.all fun s => !s.isCertificate || Text.Pem.isSequence s.bytes

def checkFile (files : Files) (path : Option String) (what : String) (accepts : String → Bool) :
    Except String Unit :=
  match path with
  | none => .ok ()
  | some path =>
    match files path with
    | .error e => .error ("failed to read " ++ what ++ " " ++ path ++ ": " ++ e)
    | .ok text =>
      if accepts text then .ok () else .error (SendError.unplanned none).message

def ofSettings (settings : StoreSettings) (files : Files) : Except String RemoteStore := do
  checkFile files settings.clientIdentityPath "client identity" isIdentity
  checkFile files settings.caCertificatePath "CA certificate" isTrustList
  return ⟨Text.dropTrailing '/' settings.url⟩

end RemoteStore

end AccessGateway
