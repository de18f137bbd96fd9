import AccessGateway.Error

/-!
# Directories

What the gateway asks of a directory: the names of the entries that match a filter below a base,
and whether a password is the one of a name.  A connector answers from a state of its own, which
every question may change.
-/

namespace AccessGateway

/-- Whether a directory took a password. -/
inductive BindOutcome where
  | accepted
  | rejected
  deriving DecidableEq, Repr

/-- How a directory with states of type `σ` answers. -/
structure Connector (σ : Type) where
  search : σ → (base filter : String) → Except DirectoryError (List String) × σ
  bind : σ → (name password : String) → Except DirectoryError BindOutcome × σ

end AccessGateway
