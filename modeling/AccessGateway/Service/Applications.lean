import AccessGateway.Http.Message
import AccessGateway.Names.SecretName
import AccessGateway.Principal
import AccessGateway.Service.Form
import AccessGateway.Store.Program
import AccessGateway.Text.Base64

/-!
# Applications

What an authorized caller may do with a group.  Every request becomes a program that uses the
secrets store, and every name in it is the qualified name of the group or the unique name of a
secret or client in it.  Creating ensures the group first, and of a secret the details are asked
for afterwards.
-/

namespace AccessGateway

/-- A request about a group; secrets and clients are named by their short names. -/
inductive ApplicationRequest where
  /-- Whether the caller is authorized at all. -/
  | access
  | listSecrets
  | getSecret (short : String)
  | createSecret (short : String) (form : SecretForm)
  | deleteSecret (short : String)
  | listClients
  | createClient (short : String) (form : ClientForm)
  | deleteClient (short : String)
  deriving DecidableEq, Repr

def SecretDetail.toAnswer (short : String) (d : SecretDetail) : Json :=
  let seconds (name : String) (value : Option Int) : List (String × Json) :=
    match value with
    | some i => [(name, .integer i)]
    | none => []
  .object ([("name", .string short), ("uniqueName", .string d.name)] ++
    Json.memberOf? "description" d.description ++ Json.memberOf? "checksum" d.checksum ++
    Json.memberOf? "createdBy" d.createdBy ++
    seconds "createdAtSeconds" d.createdAtSeconds ++ seconds "expiry" d.expiry)

def clientAnswer (short uniqueName : String) (description : Option String) : Json :=
  .object ([("name", .string short), ("uniqueName", .string uniqueName)] ++
    Json.memberOf? "description" description)

namespace ApplicationRequest

/-- The description of a group that the gateway creates. -/
def groupDescription (group : Group) : String := "Secrets of " ++ group.canonicalPath

/-- The short name of a secret in a listing; a name that is not unique across groups has none. -/
def shortName? (detail : SecretDetail) : Option String :=
  match SecretName.ofUniqueName detail.name with
  | .ok name => some name.short
  | .error _ => none

/-- The short names in a listing, in ascending order. -/
def shortNames (details : List SecretDetail) : List String :=
  (details.filterMap shortName?).mergeSort fun a b => decide (a ≤ b)

/-- What follows the last `@` of a client's name, or the whole name. -/
def clientShortName (name : String) : String :=
  match Text.rsplitOnce? '@' name with
  | some (_, short) => short
  | none => name

def listedClient (detail : ClientDetail) : Json :=
  clientAnswer (clientShortName detail.name) detail.name detail.description

def isContent (content : String) : Bool :=
  (Text.Base64.decode? Text.Base64.standard content).isSome

def newSecret (principal : Principal) (name : SecretName) (form : SecretForm) : NewSecret where
  name := name.uniqueName
  content := form.content
  description := form.description
  groups := [name.group.qualifiedName]
  metadata := [("owner", principal.username)]

def newClient (name : SecretName) (form : ClientForm) : NewClient where
  name := name.uniqueName
  description := form.description
  groups := [name.group.qualifiedName]

/-- A program about a name in a group, if the short name is one. -/
def named (group : Group) (short : String)
    (next : SecretName → StoreProgram (Except GatewayError Response)) :
    StoreProgram (Except GatewayError Response) :=
  match SecretName.ofShort short group with
  | .ok name => next name
  | .error e => .done (.error (.ofName e))

open StoreProgram in
/-- What a request about a group does for a principal. -/
def program (principal : Principal) (group : Group) :
    ApplicationRequest → StoreProgram (Except GatewayError Response)
  | .access =>
    .done (.ok (.ofJson 200 (.object [("authorized", .bool true),
      ("group", .string group.canonicalPath), ("user", .string principal.username)])))
  | .listSecrets =>
    demandOr (.listSecrets group.qualifiedName) [] fun details =>
      .done (.ok (.ofJson 200 (.texts (shortNames details))))
  | .getSecret short =>
    named group short fun name =>
      demand (.getSecret name.uniqueName) fun detail =>
        .done (.ok (.ofJson 200 (detail.toAnswer name.short)))
  | .createSecret short form =>
    named group short fun name =>
      if !isContent form.content then
        .done (.error (.invalidFormat "Secret content must be base64 encoded"))
      else
        demand (.ensureGroup group.qualifiedName (groupDescription group)) fun _ =>
          demand (.createSecret (newSecret principal name form)) fun _ =>
            demand (.getSecret name.uniqueName) fun detail =>
              .done (.ok (.ofJson 201 (detail.toAnswer name.short)))
  | .deleteSecret short =>
    named group short fun name =>
      demand (.deleteSecret name.uniqueName) fun _ => .done (.ok .noContent)
  | .listClients =>
    demandOr (.listClients group.qualifiedName) [] fun details =>
      .done (.ok (.ofJson 200 (.array (details.map listedClient))))
  | .createClient short form =>
    named group short fun name =>
      demand (.ensureGroup group.qualifiedName (groupDescription group)) fun _ =>
        demand (.createClient (newClient name form)) fun _ =>
          .done (.ok (.ofJson 201 (clientAnswer name.short name.uniqueName form.description)))
  | .deleteClient short =>
    named group short fun name =>
      demand (.deleteClient name.uniqueName) fun _ => .done (.ok .noContent)

end ApplicationRequest

end AccessGateway
