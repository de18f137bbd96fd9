import AccessGateway.Authorization.Owner
import AccessGateway.Authorization.Teams
import AccessGateway.Http.Client
import AccessGateway.Json.Kept
import AccessGateway.Principal

/-!
# Deciding on a group

A client asks the owner of a group whether a principal may manage its secrets.  Teams decide by
membership in an admin team.  The managed service is sent the group and the user and lists its
decisions; a tenant answers with one decision for a user and the three parts of a project.  Only
an explicit permission in a well-formed answer permits, and only a failure to get an answer is an
error.
-/

namespace AccessGateway

inductive GroupClient where
  | teams (adminTeam : String)
  | managedService (endpoint : TenantEndpoint) (tokenHeader : String)
  | tenant (endpoint : TenantEndpoint)
  deriving DecidableEq, Repr

namespace ManagedService

/-- A decision of the managed service on a user. -/
structure Verdict where
  user : String
  authorized : Bool
  deriving DecidableEq, Repr

open Json

def verdict : Decoder Verdict :=
  (Verdict.mk <$> .required "user" Decoder.string
    <*> .defaulted "authorized" Decoder.bool false : Shape Verdict).decoder

/-- A list of decisions, alone or as the member `credential` of an object. -/
def verdicts : Decoder (List Verdict)
  | .object members =>
    (.required "credential" (Decoder.list verdict) : Shape (List Verdict)).decoder
      (.object members)
  | other => Decoder.list verdict other

def permits (list : List Verdict) (username : String) : Bool :=
  list.any fun v => v.authorized && Text.Ascii.equalIgnoringCase v.user username

def bodyPermits (username : String) (body : List UInt8) : Bool :=
  match Json.parseKept? body with
  | none => false
  | some document =>
    match verdicts (Draft.ofJson document) with
    | .ok list => permits list username
    | .error _ => false

def question (group : Group) (username : String) : Json :=
  .object [("namespace", .string group.name),
    ("credential", .array [.object [("user", .string username)]])]

def plan (endpoint : TenantEndpoint) (tokenHeader : String) (group : Group)
    (username : String) : RequestPlan :=
  RequestPlan.withJson
    { method := "POST"
      url := endpoint.url
      headers := (RequestPlan.field? tokenHeader endpoint.token).map fun field => [field] }
    (question group username)

end ManagedService

namespace Tenant

/-- The three parts of a project's name, between underscores or slashes and none of them blank. -/
def segments? (name : String) : Option (String × String × String) :=
  match Text.split '_' (Text.replaceChar '/' '_' name) with
  | [org, project, env] =>
    if [org, project, env].any Text.isBlankText then none else some (org, project, env)
  | _ => none

/-- The error of a group whose name does not have these parts. -/
def nameError (group : Group) : GatewayError :=
  .notAuthorized ("'" ++ group.name ++ "' is not a valid org/project/env group name")

/-- The URL of a question: the user and the parts of the project as segments of the path. -/
def questionUrl (endpoint : TenantEndpoint) (username : String)
    (segments : String × String × String) : String :=
  Text.dropTrailing '/' endpoint.url ++ "/" ++ Text.Percent.encode username ++ "/" ++
    Text.Percent.encode segments.1 ++ "/" ++ Text.Percent.encode segments.2.1 ++ "/" ++
    Text.Percent.encode segments.2.2

def plan (endpoint : TenantEndpoint) (username : String)
    (segments : String × String × String) : RequestPlan where
  method := "GET"
  url := questionUrl endpoint username segments
  headers := (RequestPlan.bearer? endpoint.token).map fun field => [field]

open Json in
def verdict : Decoder Bool := (.defaulted "authorized" Decoder.bool false : Shape Bool).decoder

def bodyPermits (body : List UInt8) : Bool :=
  match Json.Draft.parseBytes body with
  | (draft, []) =>
    match verdict draft with
    | .ok authorized => authorized
    | .error _ => false
  | _ => false

end Tenant

namespace FinalReply

/-- The decision after a reply: a status other than success denies, and the body is not read. -/
def decide (owner : String) (permits : List UInt8 → Bool) : FinalReply → Except GatewayError Bool
  | .error e => .error (unavailable e)
  | .ok (status, body) =>
    if !isSuccess status then .ok false
    else
      match body with
      | none => .error (unavailable .undecodable)
      | some bytes => .ok (permits bytes)
where
  unavailable (e : SendError) : GatewayError := .serviceUnavailable (owner ++ ": " ++ e.message)

end FinalReply

def askOwner (plan : RequestPlan) (owner : String) (permits : List UInt8 → Bool)
    (network : Network) : Except GatewayError Bool × Network :=
  let answered := plan.send network
  ((FinalReply.ofAnswer answered.1).decide owner permits, answered.2)

theorem map_askOwner (plan : RequestPlan) (owner : String) (permits : List UInt8 → Bool)
    (network : Network) (teams : TeamRepository) :
    (askOwner plan owner permits network).map id (teams, ·) =
      ((FinalReply.ofAnswer (plan.send network).1).decide owner permits, teams,
        (plan.send network).2) :=
  rfl

namespace GroupClient

def missing (system : String) (domain : Domain) : GatewayError :=
  .serviceUnavailable
    ("no " ++ system ++ " authorization endpoint configured for domain " ++ domain.token)

def ofOwner (settings : AuthorizationSettings) (group : Group) :
    GroupOwner → Except GatewayError GroupClient
  | .teams => .ok (.teams settings.adminTeam)
  | .managedService =>
    match settings.managedService.lookup group.domain with
    | some endpoint => .ok (.managedService endpoint settings.managedTokenHeader)
    | none => .error (missing "managed service" group.domain)
  | .tenant =>
    match settings.delegatedTenant.lookup group.domain with
    | some endpoint => .ok (.tenant endpoint)
    | none => .error (missing "delegated tenant" group.domain)

/-- Whether a principal may manage the secrets of a group.  A group without parts has no teams to
be looked up. -/
def authorize (client : GroupClient) (teams : TeamRepository) (network : Network) (group : Group)
    (principal : Principal) : Except GatewayError Bool × TeamRepository × Network :=
  match client with
  | .teams adminTeam =>
    match group.parts with
    | none => (.ok false, teams, network)
    | some parts =>
      let (found, teams) := teams.lookup ⟨principal.username, parts.org, parts.assembly⟩
      (found.map fun list => Team.permit list adminTeam parts.assembly, teams, network)
  | .managedService endpoint tokenHeader =>
    (askOwner (ManagedService.plan endpoint tokenHeader group principal.username)
      "managed service" (ManagedService.bodyPermits principal.username) network).map id (teams, ·)
  | .tenant endpoint =>
    match Tenant.segments? group.name with
    | none => (.error (Tenant.nameError group), teams, network)
    | some segments =>
      (askOwner (Tenant.plan endpoint principal.username segments) "delegated tenant"
        Tenant.bodyPermits network).map id (teams, ·)

end GroupClient

end AccessGateway
