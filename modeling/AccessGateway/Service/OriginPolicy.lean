import AccessGateway.Http.Message
import AccessGateway.Settings.Basic

/-!
# Requests of pages from elsewhere

Browsers tell from which origin a page is that makes a request.  The policy lists the origins
whose pages may read answers, and the gateway answers every `OPTIONS` request on its own, with
what such pages may send.
-/

namespace AccessGateway

structure OriginPolicy where
  origins : List String
  /-- The header that carries the gateway's token. -/
  tokenHeader : String
  deriving DecidableEq, Repr

namespace OriginPolicy

/-- The policy for given origins; an origin that cannot be the value of a header is passed over,
and a wildcard is none. -/
def ofOrigins? (origins : List String) (tokenHeader : String) : Option OriginPolicy :=
  let sendable := origins.filter Headers.isValue
  if sendable.contains "*" then none else some ⟨sendable, tokenHeader⟩

def methods : String := "GET,POST,PUT,PATCH,DELETE,OPTIONS"

def sendableHeaders (policy : OriginPolicy) : String :=
  "authorization,content-type," ++ policy.tokenHeader ++ ",x-request-id"

/-- What an answer depends on besides the request line. -/
def varyField : String × String :=
  ("vary", "origin, access-control-request-method, access-control-request-headers")

/-- The field that lets the page of a request read the answer. -/
def originField? (policy : OriginPolicy) (request : Headers) : Option (String × String) :=
  match request.first? "origin" with
  | none => none
  | some origin =>
    if policy.origins.contains origin then some ("access-control-allow-origin", origin) else none

/-- The answer to an `OPTIONS` request, with the methods of the path where they are known. -/
def preflight (policy : OriginPolicy) (request : Headers) (allowed : Option String) :
    Response where
  status := 200
  headers := (policy.originField? request).toList ++
    [varyField, ("access-control-allow-methods", methods),
      ("access-control-allow-headers", policy.sendableHeaders)] ++
    (allowed.map ("allow", ·)).toList

/-- The answer to any other request as pages get it. -/
def release (policy : OriginPolicy) (request : Headers) (response : Response) : Response :=
  let released := match policy.originField? request with
    | some (name, value) => response.withHeader name value
    | none => response
  { released with headers := released.headers ++ [varyField] }

end OriginPolicy

end AccessGateway
