import AccessGateway.Authorization.Client
import AccessGateway.Cache.Basic
import AccessGateway.Tally

/-!
# Authorization

The dispatcher asks the owner of a group and counts the decisions.  Clients are kept in a cache
under the qualified names of their groups.
-/

namespace AccessGateway

inductive DecisionOutcome where
  | allowed
  | denied
  | error
  deriving DecidableEq, Repr

namespace DecisionOutcome

def label : DecisionOutcome → String
  | .allowed => "allowed"
  | .denied => "denied"
  | .error => "error"

def ofResult : Except GatewayError Bool → DecisionOutcome
  | .ok true => .allowed
  | .ok false => .denied
  | .error _ => .error

end DecisionOutcome

structure Dispatcher where
  settings : AuthorizationSettings
  clients : Cache String GroupClient
  decisions : Tally (GroupOwner × DecisionOutcome) := []

namespace Dispatcher

def ofSettings (settings : AuthorizationSettings) : Dispatcher where
  settings := settings
  clients := .ofCapacity settings.clientCacheCapacity none

/-- Whether a principal may manage the secrets of a group; an error if nobody decided. -/
def authorize (dispatcher : Dispatcher) (teams : TeamRepository) (network : Network)
    (group : Group) (principal : Principal) :
    Except GatewayError Bool × Dispatcher × TeamRepository × Network :=
  let owner := group.owner dispatcher.settings
  match dispatcher.clients.getOrInsert group.qualifiedName
      (GroupClient.ofOwner dispatcher.settings group owner) with
  | (⟨_, .error e⟩, clients) => (.error e, { dispatcher with clients := clients }, teams, network)
  | (⟨_, .ok client⟩, clients) =>
    let (result, teams, network) := client.authorize teams network group principal
    (result,
      { dispatcher with
        clients := clients
        decisions := dispatcher.decisions.add (owner, .ofResult result) },
      teams, network)

def denial (group : Group) (principal : Principal) : GatewayError :=
  .notAuthorized (principal.shownAs ++ " is not authorized to manage secrets of " ++
    group.canonicalPath)

def ensureAuthorized (dispatcher : Dispatcher) (teams : TeamRepository) (network : Network)
    (group : Group) (principal : Principal) :
    Except GatewayError Unit × Dispatcher × TeamRepository × Network :=
  match dispatcher.authorize teams network group principal with
  | (.error e, after) => (.error e, after)
  | (.ok true, after) => (.ok (), after)
  | (.ok false, after) => (.error (denial group principal), after)

end Dispatcher

end AccessGateway
