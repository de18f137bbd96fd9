import AccessGateway.Directory.Pool
import AccessGateway.Url.Parser

/-!
# A directory server

One call after another is run against a server through the pool of connections.  The server is a
function that tells what happens next, given all it was asked before.
-/

namespace AccessGateway

/-- What a server is asked. -/
inductive ServerDemand where
  | connect
  | bind (connection : Nat) (name password : String)
  | search (connection : Nat) (base filter : String)
  deriving DecidableEq, Repr

/-- What happens on a demand, given the earlier ones. -/
abbrev DirectoryServer := List ServerDemand → ServerDemand → CallEvent

structure RemoteDirectory where
  pool : DirectoryPool
  server : DirectoryServer
  asked : List ServerDemand := []

namespace RemoteDirectory

def urlFault? (url : String) : Option String :=
  match Url.parse url with
  | .error e => some ("url parse error: " ++ e.message)
  | .ok parsed =>
    if parsed.scheme = "ldap" ∨ parsed.scheme = "ldaps" then none
    else some ("unknown LDAP URL scheme: " ++ parsed.scheme)

/-- A server behind a network that lets no connection through. -/
def unreachableServer (url reason : String) : DirectoryServer := fun _ _ =>
  .connectFailed ((urlFault? url).getD ("I/O error: " ++ reason))

def ofSettings (settings : DirectorySettings) (server : DirectoryServer) : RemoteDirectory where
  pool := .ofSettings settings
  server := server

def demand? (pool : DirectoryPool) (call : DirectoryCall) : Option ServerDemand :=
  match call.phase with
  | .connecting => some .connect
  | .admitting c | .restoring c _ => some (.bind c.number pool.serviceName pool.servicePassword)
  | .working c =>
    match call.request with
    | .search base filter => some (.search c.number base filter)
    | .bind name password => some (.bind c.number name password)
  | .waiting | .finished _ => none

/-- Lets the next thing happen to a call. -/
def advance? (directory : RemoteDirectory) (n : Nat) : Option RemoteDirectory :=
  match directory.pool.calls[n]? with
  | none => none
  | some call =>
    match demand? directory.pool call with
    | none => (directory.pool.step? n .granted).map fun pool => { directory with pool := pool }
    | some demand =>
      (directory.pool.step? n (directory.server directory.asked demand)).map fun pool =>
        { directory with pool := pool, asked := directory.asked ++ [demand] }

/-- Runs a call to its end; it passes through a bounded number of phases. -/
def finish (n : Nat) : (fuel : Nat) → RemoteDirectory → RemoteDirectory
  | 0, directory => directory
  | fuel + 1, directory =>
    match directory.advance? n with
    | none => directory
    | some later => finish n fuel later

/-- The number of phases a call can pass through. -/
def phaseCount : Nat := 5

def result? (directory : RemoteDirectory) (n : Nat) :
    Option (Except DirectoryError DirectoryAnswer) :=
  match directory.pool.calls[n]? with
  | some { phase := .finished result, .. } => some result
  | _ => none

def perform (directory : RemoteDirectory) (request : DirectoryRequest) :
    Except DirectoryError DirectoryAnswer × RemoteDirectory :=
  let n := directory.pool.calls.length
  let after := finish n phaseCount { directory with pool := directory.pool.arrive request }
  ((after.result? n).getD (.error (.protocol "the call has not ended")), after)

def connector : Connector RemoteDirectory where
  search directory base filter :=
    match directory.perform (.search base filter) with
    | (.ok (.names found), after) => (.ok found, after)
    | (.ok (.bound _), after) => (.ok [], after)
    | (.error e, after) => (.error e, after)
  bind directory name password :=
    match directory.perform (.bind name password) with
    | (.ok (.bound outcome), after) => (.ok outcome, after)
    | (.ok (.names _), after) => (.ok .rejected, after)
    | (.error e, after) => (.error e, after)

end RemoteDirectory

end AccessGateway
