import AccessGateway.Cache.Basic
import AccessGateway.Directory.Connector
import AccessGateway.Directory.DistinguishedName
import AccessGateway.Directory.Filter
import AccessGateway.Principal
import AccessGateway.Settings.Basic
import AccessGateway.Tally

/-!
# Logging in

A login resolves the username to the name of one directory entry and binds as that entry.  Names
found by a search of exactly one hit are cached; passwords are never.  An unknown user, several
users of one username and a wrong password have the same answer, and an outage has another one.
-/

namespace AccessGateway

/-- How a login ended, as it is counted. -/
inductive LoginOutcome where
  | rejectedInput
  | invalidCredentials
  | unavailable
  | success
  deriving DecidableEq, Repr

namespace LoginOutcome

def label : LoginOutcome → String
  | .rejectedInput => "rejected_input"
  | .invalidCredentials => "invalid_credentials"
  | .unavailable => "unavailable"
  | .success => "success"

def ofResult : Except GatewayError Principal → LoginOutcome
  | .ok _ => .success
  | .error .invalidUsername => .rejectedInput
  | .error .invalidCredentials => .invalidCredentials
  | .error _ => .unavailable

end LoginOutcome

structure Authenticator where
  baseDn : String
  filterTemplate : String
  defaultRole : String
  /-- The names of the entries found by searches. -/
  names : Cache String String
  logins : Tally LoginOutcome := []

namespace Authenticator

def withCache (settings : DirectorySettings) (capacity timeToLive : Nat) : Authenticator where
  baseDn := settings.baseDn
  filterTemplate := settings.filterTemplate
  defaultRole := settings.defaultRole
  names := .ofCapacity capacity (some timeToLive)

def ofSettings (settings : DirectorySettings) : Authenticator :=
  withCache settings settings.cacheCapacity settings.cacheTtl

def isUsernameChar (c : Char) : Bool :=
  Text.Ascii.isLetterOrDigit c || c = '.' || c = '_' || c = '-'

def isUsername (s : String) : Bool := !s.isEmpty && s.toList.all isUsernameChar

def cacheKey (auth : Authenticator) (username : String) : String :=
  username ++ "|" ++ auth.baseDn ++ "|sub"

def filterFor (auth : Authenticator) (username : String) : String :=
  SearchFilter.fill auth.filterTemplate username

variable {σ : Type}

/-- The name of the only entry of a username, from the cache or the directory. -/
def resolve (auth : Authenticator) (connector : Connector σ) (directory : σ)
    (username : String) :
    Except DirectoryError (Option String) × Authenticator × σ :=
  let key := auth.cacheKey username
  match auth.names.get key with
  | (some name, names) => (.ok (some name), { auth with names := names }, directory)
  | (none, names) =>
    match connector.search directory auth.baseDn (auth.filterFor username) with
    | (.error e, directory) => (.error e, { auth with names := names }, directory)
    | (.ok [name], directory) =>
      (.ok (some name), { auth with names := names.insert key name }, directory)
    | (.ok _, directory) => (.ok none, { auth with names := names }, directory)

def principalOf (auth : Authenticator) (username name : String) (domain : Domain) : Principal where
  username := username
  displayName := DistinguishedName.commonName name
  domain := domain
  roles := [auth.defaultRole]

/-- Decides a login, without counting it. -/
def decide (auth : Authenticator) (connector : Connector σ) (directory : σ)
    (username password : String) (domain : Domain) :
    Except GatewayError Principal × Authenticator × σ :=
  if !isUsername username then (.error .invalidUsername, auth, directory)
  else if password.isEmpty then (.error .invalidCredentials, auth, directory)
  else
    match auth.resolve connector directory username with
    | (.error e, auth, directory) => (.error e.toGateway, auth, directory)
    | (.ok none, auth, directory) => (.error .invalidCredentials, auth, directory)
    | (.ok (some name), auth, directory) =>
      match connector.bind directory name password with
      | (.error e, directory) => (.error e.toGateway, auth, directory)
      | (.ok .rejected, directory) => (.error .invalidCredentials, auth, directory)
      | (.ok .accepted, directory) =>
        (.ok (auth.principalOf username name domain), auth, directory)

/-- Logs a user in, and counts the outcome. -/
def authenticate (auth : Authenticator) (connector : Connector σ) (directory : σ)
    (username password : String) (domain : Domain) :
    Except GatewayError Principal × Authenticator × σ :=
  match auth.decide connector directory username password domain with
  | (result, auth, directory) =>
    (result, { auth with logins := auth.logins.add (.ofResult result) }, directory)

end Authenticator

end AccessGateway
