import AccessGateway.Error
import AccessGateway.Json.Decode
import AccessGateway.Settings.Basic
import AccessGateway.Text.Lowercase

/-!
# Teams

Users are members of teams, each for one assembly of one organisation.  A team manages secrets if it
may both design and transition.

A repository is asked for the teams of a user, and need not have an answer; which one it has may
depend on the questions before.  Without a database memberships are kept in a table.  There
usernames are compared without regard to case, organisations and assemblies exactly.
-/

namespace AccessGateway

structure Team where
  name : String
  description : Option String
  mayDesign : Bool
  mayTransition : Bool
  mayOperate : Bool
  deriving DecidableEq, Repr

namespace Team

def managesSecrets (team : Team) : Bool := team.mayDesign && team.mayTransition

/-- Whether some of the teams of a user may manage the secrets of an assembly: an admin team of all
assemblies, or of this one. -/
def permit (teams : List Team) (adminTeam assembly : String) : Bool :=
  teams.any fun team =>
    (team.name == adminTeam || team.name == adminTeam ++ "-" ++ assembly) && team.managesSecrets

def toJson (team : Team) : Json :=
  .object [("name", .string team.name), ("description", .ofText? team.description),
    ("design_enabled", .bool team.mayDesign), ("transition_enabled", .bool team.mayTransition),
    ("operations_enabled", .bool team.mayOperate)]

open Json in
def decoder : Decoder Team :=
  (Team.mk <$> .required "name" Decoder.string <*> .omissible "description" Decoder.string
    <*> .required "design_enabled" Decoder.bool <*> .required "transition_enabled" Decoder.bool
    <*> .required "operations_enabled" Decoder.bool : Shape Team).decoder

end Team

structure Membership where
  username : String
  org : String
  assembly : String
  team : Team
  deriving DecidableEq, Repr

/-- All memberships, in the order in which they were added. -/
abbrev TeamTable := List Membership

namespace TeamTable

def add (table : TeamTable) (membership : Membership) : TeamTable := table ++ [membership]

def teamsOf (table : TeamTable) (username org assembly : String) : List Team :=
  (table.filter fun m =>
    Text.lowercase m.username == Text.lowercase username && m.org == org &&
      m.assembly == assembly).map (·.team)

end TeamTable

/-- What a repository is asked for: the teams of a user for an assembly of an organisation. -/
structure TeamQuestion where
  username : String
  org : String
  assembly : String
  deriving DecidableEq, Repr

/-- Where the teams of users can be looked up. -/
structure TeamRepository where
  /-- The teams, or why they are not known, after some questions. -/
  answer : List TeamQuestion → TeamQuestion → Except String (List Team)
  asked : List TeamQuestion := []

namespace TeamRepository

/-- The repository of a table, which answers every question. -/
def ofTable (table : TeamTable) : TeamRepository where
  answer := fun _ question =>
    .ok (table.teamsOf question.username question.org question.assembly)

def lookup (repository : TeamRepository) (question : TeamQuestion) :
    Except GatewayError (List Team) × TeamRepository :=
  ((repository.answer repository.asked question).mapError fun reason =>
      .serviceUnavailable ("team database: " ++ reason),
    { repository with asked := repository.asked ++ [question] })

/-- The repository for given settings: a database, if one is set and can be connected to, or an
empty table. -/
def ofSettings (settings : TeamSettings)
    (connect : TeamSettings → String → Except String TeamRepository) :
    Except String TeamRepository :=
  match settings.databaseUrl with
  | some url => connect settings url
  | none => .ok (ofTable [])

end TeamRepository

end AccessGateway
