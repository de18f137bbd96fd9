import AccessGateway.Error
import AccessGateway.Json.Decode
import AccessGateway.NameMap

/-!
# What is asked of the secrets store

The store keeps groups, and secrets and clients that belong to groups.  An operation is one
question to it, with an answer of a type of its own.
-/

namespace AccessGateway

/-- What the store tells about a secret; its content is never told. -/
structure SecretDetail where
  name : String
  description : Option String := none
  checksum : Option String := none
  createdBy : Option String := none
  createdAtSeconds : Option Int := none
  expiry : Option Int := none
  deriving DecidableEq, Repr

structure ClientDetail where
  name : String
  description : Option String := none
  createdBy : Option String := none
  deriving DecidableEq, Repr

structure NewSecret where
  name : String
  /-- The content in base64. -/
  content : String
  description : Option String
  groups : List String
  metadata : NameMap String
  deriving DecidableEq, Repr

structure NewClient where
  name : String
  description : Option String
  groups : List String
  deriving DecidableEq, Repr

namespace SecretDetail

/-- The seconds, or null when there are none. -/
def ofSeconds? : Option Int → Json
  | some i => .integer i
  | none => .null

def toJson (d : SecretDetail) : Json :=
  .object [("name", .string d.name), ("description", .ofText? d.description),
    ("checksum", .ofText? d.checksum), ("createdBy", .ofText? d.createdBy),
    ("createdAtSeconds", ofSeconds? d.createdAtSeconds), ("expiry", ofSeconds? d.expiry)]

open Json in
def decoder : Decoder SecretDetail :=
  (SecretDetail.mk <$> .required "name" Decoder.string
    <*> .omissible "description" Decoder.string <*> .omissible "checksum" Decoder.string
    <*> .omissible "createdBy" Decoder.string
    <*> .omissible "createdAtSeconds" Decoder.signed64
    <*> .omissible "expiry" Decoder.signed64 : Shape SecretDetail).decoder

end SecretDetail

namespace ClientDetail

def toJson (d : ClientDetail) : Json :=
  .object [("name", .string d.name), ("description", .ofText? d.description),
    ("createdBy", .ofText? d.createdBy)]

open Json in
def decoder : Decoder ClientDetail :=
  (ClientDetail.mk <$> .required "name" Decoder.string
    <*> .omissible "description" Decoder.string
    <*> .omissible "createdBy" Decoder.string : Shape ClientDetail).decoder

end ClientDetail

def Json.memberOf? (name : String) (value : Option String) : List (String × Json) :=
  match value with
  | some text => [(name, .string text)]
  | none => []

namespace NewSecret

def toJson (s : NewSecret) : Json :=
  .object ([("name", .string s.name), ("content", .string s.content)] ++
    Json.memberOf? "description" s.description ++ [("groups", .texts s.groups)] ++
    if s.metadata.isEmpty then []
    else [("metadata", .object (s.metadata.map fun (k, v) => (k, .string v)))])

end NewSecret

namespace NewClient

def toJson (c : NewClient) : Json :=
  .object ([("name", .string c.name)] ++ Json.memberOf? "description" c.description ++
    [("groups", .texts c.groups)])

end NewClient

inductive StoreOperation where
  /-- Creates a group unless it is there. -/
  | ensureGroup (group description : String)
  | listSecrets (group : String)
  | listClients (group : String)
  | getSecret (name : String)
  | createSecret (secret : NewSecret)
  | createClient (client : NewClient)
  | deleteSecret (name : String)
  | deleteClient (name : String)
  deriving DecidableEq, Repr

namespace StoreOperation

/-- The type of the answers to a question. -/
def Answer : StoreOperation → Type
  | .listSecrets _ => List SecretDetail
  | .listClients _ => List ClientDetail
  | .getSecret _ => SecretDetail
  | _ => Unit

def subject : StoreOperation → String
  | .ensureGroup group _ | .listSecrets group | .listClients group => group
  | .getSecret name | .deleteSecret name | .deleteClient name => name
  | .createSecret secret => secret.name
  | .createClient client => client.name

end StoreOperation

end AccessGateway
