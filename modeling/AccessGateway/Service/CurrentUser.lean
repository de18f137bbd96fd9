import AccessGateway.Http.Message
import AccessGateway.Principal

/-!
# The current user

What a caller is told about itself.
-/

namespace AccessGateway

/-- The principal as it is shown to itself; without another name the username is shown. -/
def Principal.profile (principal : Principal) : Json :=
  .object [("username", .string principal.username), ("displayName", .string principal.shownAs),
    ("domain", .string principal.domain.token), ("roles", .texts principal.roles)]

/-- The answer to a caller; that none is known to be there is an error of the gateway itself. -/
def currentUser : Option Principal → Response
  | some principal => .ofJson 200 principal.profile
  | none => .ofError (.internal "Principal missing from request extensions")

end AccessGateway
