import AccessGateway.Directory.Connector
import AccessGateway.Directory.ResultCode
import AccessGateway.Settings.Basic

/-!
# A pool of directory connections

Searches and binds run on pooled connections, of which there is a bounded number.  A call waits
for a permit, takes an idle connection or opens one, and every new connection first binds as the
service account.  After a user's bind the connection binds as the service account again.  Only a
connection on which everything went well goes back to the pool.

Calls may be in progress at the same time: the pool is a transition system whose events are what
happens to one of the calls.
-/

namespace AccessGateway

inductive DirectoryRequest where
  | search (base filter : String)
  | bind (name password : String)
  deriving DecidableEq, Repr

inductive DirectoryAnswer where
  | names (found : List String)
  | bound (outcome : BindOutcome)
  deriving DecidableEq, Repr

/-- A bind the server has answered. -/
structure CompletedBind where
  name : String
  password : String
  code : Nat
  deriving DecidableEq, Repr

structure DirectoryConnection where
  number : Nat
  /-- The binds the server has answered on it, the last one first. -/
  binds : List CompletedBind := []
  deriving DecidableEq, Repr

/-- How far a call has come. -/
inductive CallPhase where
  /-- For a permit. -/
  | waiting
  | connecting
  /-- A new connection binds as the service account. -/
  | admitting (connection : DirectoryConnection)
  | working (connection : DirectoryConnection)
  /-- After a user's bind the connection binds as the service account again. -/
  | restoring (connection : DirectoryConnection) (outcome : BindOutcome)
  | finished (result : Except DirectoryError DirectoryAnswer)

structure DirectoryCall where
  request : DirectoryRequest
  phase : CallPhase := .waiting

inductive CallEvent where
  | granted
  | waitedTooLong
  | connected
  | connectFailed (reason : String)
  /-- The server answers with a code, a text and the names of the entries found. -/
  | replied (code : Nat) (text : String) (names : List String)
  /-- The connection is gone. -/
  | broken (reason : String)
  /-- The operation fails on a connection that is not gone. -/
  | refused (reason : String)
  /-- The server does not answer in time. -/
  | silent
  deriving DecidableEq, Repr

/-- A call arrives, or something happens to one of the calls. -/
inductive PoolEvent where
  | arrival (request : DirectoryRequest)
  | happens (n : Nat) (event : CallEvent)
  deriving DecidableEq, Repr

structure DirectoryPool where
  serviceName : String
  servicePassword : String
  /-- How many calls may hold a permit at once. -/
  limit : Nat
  /-- How many permits are free. -/
  permits : Nat
  idle : List DirectoryConnection := []
  /-- The calls so far; the position of a call is its number. -/
  calls : List DirectoryCall := []
  /-- The number of connections that were opened. -/
  opened : Nat := 0

namespace CallPhase

def connection? : CallPhase → Option DirectoryConnection
  | .admitting c | .working c | .restoring c _ => some c
  | .waiting | .connecting | .finished _ => none

def holdsPermit : CallPhase → Bool
  | .connecting | .admitting _ | .working _ | .restoring .. => true
  | .waiting | .finished _ => false

def isRunning : CallPhase → Bool
  | .finished _ => false
  | _ => true

end CallPhase

namespace DirectoryConnection

def record (connection : DirectoryConnection) (name password : String) (code : Nat) :
    DirectoryConnection :=
  { connection with binds := ⟨name, password, code⟩ :: connection.binds }

end DirectoryConnection

namespace DirectoryPool

/-- The pool for given settings; there is room for one connection at least. -/
def ofSettings (settings : DirectorySettings) : DirectoryPool where
  serviceName := settings.bindDn
  servicePassword := settings.bindPassword
  limit := max settings.poolSize 1
  permits := max settings.poolSize 1

def setPhase (calls : List DirectoryCall) (n : Nat) (call : DirectoryCall) (phase : CallPhase) :
    List DirectoryCall :=
  calls.set n { call with phase := phase }

def move (pool : DirectoryPool) (n : Nat) (call : DirectoryCall) (phase : CallPhase) :
    DirectoryPool :=
  { pool with calls := setPhase pool.calls n call phase }

/-- Ends a call that holds a permit; its connection goes back to the pool if it is given. -/
def finish (pool : DirectoryPool) (n : Nat) (call : DirectoryCall)
    (returned : Option DirectoryConnection) (result : Except DirectoryError DirectoryAnswer) :
    DirectoryPool :=
  { pool with
    permits := pool.permits + 1
    idle := returned.toList ++ pool.idle
    calls := setPhase pool.calls n call (.finished result) }

/-- The service account was refused. -/
def serviceRefused (code : Nat) (text : String) : DirectoryError :=
  .protocol ("service account bind failed with rc=" ++ toString code ++ " (" ++ text ++ ")")

/-- The user's bind failed for another reason than the password. -/
def bindFailed (code : Nat) (text : String) : DirectoryError :=
  .protocol ("user bind failed with rc=" ++ toString code ++ " (" ++ text ++ ")")

/-- The failure behind an event that is no answer, during an operation. -/
def failure? (operation : String) : CallEvent → Option DirectoryError
  | .broken reason => some (.unavailable reason)
  | .refused reason => some (.protocol reason)
  | .silent => some (.timeout operation)
  | _ => none

def operationName : DirectoryRequest → String
  | .search .. => "search"
  | .bind .. => "user bind"

/-- The pool after the server has answered the request of a call. -/
def answered (pool : DirectoryPool) (n : Nat) (call : DirectoryCall)
    (connection : DirectoryConnection) (code : Nat) (text : String) (names : List String) :
    DirectoryPool :=
  match call.request with
  | .search .. =>
    if code = ResultCode.success then
      pool.finish n call (some connection) (.ok (.names names))
    else
      pool.finish n call none
        (.error (.protocol ("LDAP operation result: " ++ ResultCode.describe code text)))
  | .bind name password =>
    let after := connection.record name password code
    if code = ResultCode.success then pool.move n call (.restoring after .accepted)
    else if code = ResultCode.invalidCredentials then
      pool.move n call (.restoring after .rejected)
    else pool.finish n call none (.error (bindFailed code text))

/-- The pool after something has happened to a call; nothing if it cannot happen. -/
def step? (pool : DirectoryPool) (n : Nat) (event : CallEvent) : Option DirectoryPool :=
  match pool.calls[n]? with
  | none => none
  | some call =>
    match call.phase, event with
    | .waiting, .granted =>
      if pool.permits = 0 then none
      else
        let taken := { pool with permits := pool.permits - 1 }
        match pool.idle with
        | [] => some (taken.move n call .connecting)
        | connection :: rest =>
          some ({ taken with idle := rest }.move n call (.working connection))
    | .waiting, .waitedTooLong =>
      some (pool.move n call
        (.finished (.error (.timeout "waiting for a pooled connection"))))
    | .connecting, .connected =>
      let connection : DirectoryConnection := { number := pool.opened + 1 }
      some ({ pool with opened := pool.opened + 1 }.move n call (.admitting connection))
    | .connecting, .connectFailed reason =>
      some (pool.finish n call none (.error (.unavailable reason)))
    | .admitting connection, .replied code text _ =>
      let after := connection.record pool.serviceName pool.servicePassword code
      if code = ResultCode.success then some (pool.move n call (.working after))
      else some (pool.finish n call none (.error (serviceRefused code text)))
    | .working connection, .replied code text names =>
      some (pool.answered n call connection code text names)
    | .restoring connection outcome, .replied code text _ =>
      let after := connection.record pool.serviceName pool.servicePassword code
      if code = ResultCode.success then
        some (pool.finish n call (some after) (.ok (.bound outcome)))
      else some (pool.finish n call none (.error (serviceRefused code text)))
    | .admitting _, other | .restoring .., other =>
      (failure? "service bind" other).map fun e => pool.finish n call none (.error e)
    | .working _, other =>
      (failure? (operationName call.request) other).map fun e =>
        pool.finish n call none (.error e)
    | _, _ => none

def arrive (pool : DirectoryPool) (request : DirectoryRequest) : DirectoryPool :=
  { pool with calls := pool.calls ++ [{ request := request }] }

/-- The pool after an event; nothing if it cannot happen. -/
def after? (pool : DirectoryPool) : PoolEvent → Option DirectoryPool
  | .arrival request => some (pool.arrive request)
  | .happens n event => pool.step? n event

def run? (pool : DirectoryPool) : List PoolEvent → Option DirectoryPool
  | [] => some pool
  | event :: events =>
    match pool.after? event with
    | none => none
    | some after => after.run? events

end DirectoryPool

end AccessGateway
