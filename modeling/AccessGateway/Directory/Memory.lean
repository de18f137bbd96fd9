import AccessGateway.Directory.Connector
import AccessGateway.Text.Split

/-!
# A directory in memory

A table of users with a count of the questions asked.  A search finds the users whose name stands
in the filter as the value of a comparison.  The directory can be made to fail.
-/

namespace AccessGateway

structure DirectoryUser where
  username : String
  name : String
  password : String
  deriving DecidableEq, Repr

structure MemoryDirectory where
  /-- At most one user of a username. -/
  users : List DirectoryUser := []
  /-- The failure of every question, while there is one. -/
  failure : Option DirectoryError := none
  searches : Nat := 0
  binds : Nat := 0
  deriving DecidableEq, Repr

namespace MemoryDirectory

def addUser (directory : MemoryDirectory) (user : DirectoryUser) : MemoryDirectory :=
  { directory with
    users := (directory.users.filter fun other => other.username ≠ user.username) ++ [user] }

def matchesFilter (filter username : String) : Bool :=
  Text.contains ('=' :: username.toList ++ [')']) filter.toList

def found (directory : MemoryDirectory) (filter : String) : List String :=
  (directory.users.filter fun user => matchesFilter filter user.username).map (·.name)

def accepts (directory : MemoryDirectory) (name password : String) : Bool :=
  directory.users.any fun user => user.name == name && user.password == password

def connector : Connector MemoryDirectory where
  search directory _ filter :=
    let after := { directory with searches := directory.searches + 1 }
    match directory.failure with
    | some e => (.error e, after)
    | none => (.ok (directory.found filter), after)
  bind directory name password :=
    let after := { directory with binds := directory.binds + 1 }
    match directory.failure with
    | some e => (.error e, after)
    | none => (.ok (if directory.accepts name password then .accepted else .rejected), after)

section

variable {directory : MemoryDirectory} {e : DirectoryError}

theorem search_of_failure (h : directory.failure = some e) (base filter : String) :
    connector.search directory base filter =
      (.error e, { directory with searches := directory.searches + 1 }) := by
  simp [connector, h]

theorem search_of_running (h : directory.failure = none) (base filter : String) :
    connector.search directory base filter =
      (.ok (directory.found filter), { directory with searches := directory.searches + 1 }) := by
  simp [connector, h]

theorem bind_of_failure (h : directory.failure = some e) (name password : String) :
    connector.bind directory name password =
      (.error e, { directory with binds := directory.binds + 1 }) := by
  simp [connector, h]

theorem bind_of_running (h : directory.failure = none) (name password : String) :
    connector.bind directory name password =
      (.ok (if directory.accepts name password then .accepted else .rejected),
        { directory with binds := directory.binds + 1 }) := by
  simp [connector, h]

end

end MemoryDirectory

end AccessGateway
