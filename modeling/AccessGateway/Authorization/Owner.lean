import AccessGateway.Names.Group
import AccessGateway.Settings.Basic

/-!
# Who decides on a group

Every group is owned by exactly one kind of system.  The beginning of the organisation marks
groups of the managed service, whatever their domain; the beginning of the domain marks groups of
a tenant; all others are decided by team memberships.
-/

namespace AccessGateway

inductive GroupOwner where
  | teams
  | managedService
  | tenant
  deriving DecidableEq, Repr

namespace GroupOwner

def label : GroupOwner → String
  | .teams => "local"
  | .managedService => "managed_service"
  | .tenant => "delegated_tenant"

end GroupOwner

def Group.ownerUnder (group : Group) (managedOrgPrefix delegatedDomainPrefix : String) :
    GroupOwner :=
  if (group.parts.map (·.org)).any (Text.startsWith managedOrgPrefix) then .managedService
  else if Text.startsWith delegatedDomainPrefix group.domain.token then .tenant
  else .teams

def Group.owner (group : Group) (settings : AuthorizationSettings) : GroupOwner :=
  group.ownerUnder settings.managedOrgPrefix settings.delegatedDomainPrefix

end AccessGateway
