import AccessGateway.Error
import AccessGateway.Http.Client
import AccessGateway.Http.Message
import AccessGateway.Http.TraceContext
import AccessGateway.Proxy.HeaderFilter
import AccessGateway.Tally

/-!
# Relaying requests

A forwarder relays requests to one target: the path and query of the request are appended to the
target's URL.  A body that is too long or breaks off is refused, and every failure of the hop is one
error.  An answer that redirects is relayed like any other.  Answers are counted by status.
-/

namespace AccessGateway

structure Forwarder where
  /-- The URL of the target without slashes at its end. -/
  target : String
  filter : HeaderFilter
  maxBodyBytes : Nat
  deriving DecidableEq, Repr

structure RelayedAnswer where
  status : Nat
  headers : Headers
  body : List UInt8
  deriving DecidableEq, Repr

/-- What is relayed of a request. -/
structure RelayedRequest where
  method : String
  query : Option String
  headers : Headers
  body : RequestBody
  deriving DecidableEq, Repr

namespace Forwarder

/-- The forwarder for given settings, and the header that carries the gateway's token. -/
def ofSettings (settings : ProxySettings) (tokenHeader : String) : Except String Forwarder :=
  match HeaderFilter.ofNames tokenHeader settings.stripHeaders with
  | .error e => .error e
  | .ok filter => .ok ⟨Text.dropTrailing '/' settings.target, filter, settings.maxBodyBytes⟩

def targetUrl (forwarder : Forwarder) (path : String) (query : Option String) : String :=
  let plain := forwarder.target ++ "/" ++ Text.dropLeading '/' path
  match query with
  | some q => if q.isEmpty then plain else plain ++ "?" ++ q
  | none => plain

/-- The request that is sent to the target with a body, as part of a trace. -/
def plan (forwarder : Forwarder) (request : RelayedRequest) (body : List UInt8) (path : String)
    (trace : TraceContext := .untraced) : RequestPlan where
  method := request.method
  url := forwarder.targetUrl path request.query
  headers := some (trace.inject (forwarder.filter.request request.headers))
  body := body
  replacing := true
  redirects := .none

def hopError (stage : String) (e : SendError) : GatewayError :=
  .badGateway (stage ++ " failed: " ++ e.message)

def bodyError (reason : String) : GatewayError :=
  .invalidFormat ("request body could not be read: " ++ reason)

def forward (forwarder : Forwarder) (network : Network) (served : Tally Nat)
    (request : RelayedRequest) (path : String) (trace : TraceContext := .untraced) :
    Except GatewayError RelayedAnswer × Network × Tally Nat :=
  match request.body.read forwarder.maxBodyBytes with
  | .error reason => (.error (bodyError reason), network, served)
  | .ok body =>
    match (forwarder.plan request body path trace).send network with
    | (.error e, network) => (.error (hopError "upstream request" e), network, served)
    | (.ok (_, _, none), network) =>
      (.error (hopError "upstream response" .undecodable), network, served)
    | (.ok (status, headers, some body), network) =>
      (.ok ⟨status, forwarder.filter.response headers, body⟩, network, served.add status)

end Forwarder

end AccessGateway
