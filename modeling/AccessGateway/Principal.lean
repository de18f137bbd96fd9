import AccessGateway.Json.Basic
import AccessGateway.Names.Domain

/-!
# Principals

An authenticated caller: a username in a domain, the roles granted at login, and the name the
directory has for the user, if any.
-/

namespace AccessGateway

structure Principal where
  username : String
  displayName : Option String
  domain : Domain
  roles : List String
  deriving DecidableEq, Repr

namespace Principal

def shownAs (principal : Principal) : String :=
  principal.displayName.getD principal.username

end Principal

end AccessGateway
