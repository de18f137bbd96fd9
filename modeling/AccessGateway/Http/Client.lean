import AccessGateway.Http.Headers
import AccessGateway.Json.Printer
import AccessGateway.Text.Base64
import AccessGateway.Url.Parser

/-!
# Requests to other systems

A request is planned with a URL as text, handed to a client, and carried to another system.  A plan
that cannot be turned into a request is not handed on, and a request whose URL cannot stand on the
wire is not carried.  A client may follow replies that redirect it, up to a number of times.  User
name and password in a URL become a header field, and neither texts of errors nor requests show
them.
-/

namespace AccessGateway

structure OutboundRequest where
  method : String
  url : Url
  headers : Headers
  body : List UInt8
  deriving DecidableEq, Repr

inductive Delivery where
  /-- An answer; without a body if it breaks off. -/
  | reply (status : Nat) (headers : Headers) (body : Option (List UInt8))
  /-- There is no answer. -/
  | failed
  deriving DecidableEq, Repr

inductive SendError where
  /-- The plan is not a request; the URL is known if it can be read. -/
  | unplanned (url : Option Url)
  /-- The URL cannot stand on the wire. -/
  | uncarried (url : Url)
  | undelivered (url : Url)
  /-- The reply redirects once more, after as many redirects as are followed. -/
  | redirected (url : Url)
  /-- The answer broke off, or is not of the wanted form. -/
  | undecodable
  deriving DecidableEq, Repr

namespace SendError

def message : SendError → String
  | .unplanned none => "builder error"
  | .unplanned (some url) | .uncarried url => "builder error for url (" ++ url.toText ++ ")"
  | .undelivered url => "error sending request for url (" ++ url.toText ++ ")"
  | .redirected url => "error following redirect for url (" ++ url.toText ++ ")"
  | .undecodable => "error decoding response body"

end SendError

/-- Which replies a client takes for the answer. -/
inductive RedirectPolicy where
  /-- Every reply. -/
  | none
  /-- Every reply that does not redirect; so many others are followed. -/
  | limited (most : Nat)
  deriving DecidableEq, Repr

/-- The other systems: what comes back for a request may depend on the requests before it.  To which
request a reply leads on is up to the client. -/
structure Network where
  deliver : List OutboundRequest → OutboundRequest → Delivery
  /-- The request that a reply of a status with some fields redirects to, if it does. -/
  follow : OutboundRequest → Nat → Headers → Option OutboundRequest := fun _ _ _ => none
  /-- The requests that were handed to clients. -/
  sent : List OutboundRequest := []
  /-- The requests that went out to other systems. -/
  carried : List OutboundRequest := []

/-- The longest URL that can stand on the wire. -/
def Url.maxCarriedBytes : Nat := 65534

/-- Whether a URL can stand on the wire: not every host can. -/
def Url.isCarriable (url : Url) : Bool :=
  let excluded := ['"', '\x60', '\x7b', '\x7d']
  Text.Utf8.size url.toText ≤ maxCarriedBytes &&
    url.authority.all fun authority =>
      authority.host.toText.toList.all fun c => !excluded.contains c

/-- A status, the fields and the body of an answer. -/
abbrev Answer := Nat × Headers × Option (List UInt8)

namespace Network

def unreachable : Network where
  deliver := fun _ _ => .failed

def hand (network : Network) (request : OutboundRequest) : Network :=
  { network with sent := network.sent ++ [request] }

def carry (network : Network) (request : OutboundRequest) : Except SendError Answer × Network :=
  if !request.url.isCarriable then (.error (.uncarried request.url), network)
  else
    let after := { network with carried := network.carried ++ [request] }
    match network.deliver network.carried request with
    | .failed => (.error (.undelivered request.url), after)
    | .reply status headers body => (.ok (status, headers, body), after)

/-- Carries a request and those to which its replies lead on, so many at most. -/
def carryOn (network : Network) (request : OutboundRequest) (most : Nat) :
    Except SendError Answer × Network :=
  match network.carry request with
  | (.error e, after) => (.error e, after)
  | (.ok (status, headers, body), after) =>
    match network.follow request status headers with
    | none => (.ok (status, headers, body), after)
    | some next =>
      match most with
      | 0 => (.error (.redirected request.url), after)
      | most + 1 => after.carryOn next most

theorem sent_carry (network : Network) (request : OutboundRequest) :
    (network.carry request).2.sent = network.sent := by
  unfold carry
  split
  · rfl
  · dsimp only
    split <;> rfl

theorem carried_carry (network : Network) (request : OutboundRequest) :
    (network.carry request).2.carried =
      network.carried ++ ((some request).filter (·.url.isCarriable)).toList := by
  unfold carry
  cases hcarriable : request.url.isCarriable with
  | false => simp [hcarriable]
  | true =>
      simp only [Bool.not_true, Bool.false_eq_true, if_false, Option.filter_some, hcarriable,
        if_true, Option.toList_some]
      split <;> rfl

theorem sent_carryOn (network : Network) (request : OutboundRequest) (most : Nat) :
    (network.carryOn request most).2.sent = network.sent := by
  fun_induction carryOn network request most with
  | case1 most network request e after hcarried
  | case2 most network request status headers body after hcarried
  | case3 network request status headers body after hcarried =>
      simpa [hcarried] using network.sent_carry request
  | case4 network request status headers body after hcarried next hnext most ih =>
      simpa [ih, hcarried] using network.sent_carry request

def carryUnder (network : Network) (request : OutboundRequest) :
    RedirectPolicy → Except SendError Answer × Network
  | .none => network.carry request
  | .limited most => network.carryOn request most

theorem sent_carryUnder (network : Network) (request : OutboundRequest)
    (policy : RedirectPolicy) : (network.carryUnder request policy).2.sent = network.sent := by
  cases policy with
  | none => exact network.sent_carry request
  | limited most => exact network.sent_carryOn request most

end Network

/-- A request before its URL is read. -/
structure RequestPlan where
  method : String
  url : String
  /-- The fields that are set; none at all if one of them cannot be sent. -/
  headers : Option Headers := some []
  body : List UInt8 := []
  /-- The fields take the place of those of the same name that the URL gives. -/
  replacing : Bool := false
  redirects : RedirectPolicy := .limited 10

namespace RequestPlan

def field? (name value : String) : Option (String × String) :=
  match Headers.name? name with
  | some lower => if Headers.isValue value then some (lower, value) else none
  | none => none

def bearer? (token : String) : Option (String × String) :=
  if Headers.isValue token then some ("authorization", "Bearer " ++ token) else none

/-- The field for user name and password in coded form. -/
def basic? (userInfo : String) : Option (String × String) :=
  let (user, password) := (Text.splitOnce? ':' userInfo).getD (userInfo, "")
  match Text.Percent.decode? user, Text.Percent.decode? password with
  | some user, some password =>
    some ("authorization", "Basic " ++
      Text.Base64.encode Text.Base64.standard (Text.Utf8.encode (user ++ ":" ++ password)))
  | _, _ => none

/-- The field that the user name and password of a URL become. -/
def urlFields (url : Url) : Headers :=
  match url.authority with
  | some authority =>
    if authority.userInfo.isEmpty then [] else (basic? authority.userInfo).toList
  | none => []

/-- The fields of a plan together with those that its URL gives. -/
def joined (replacing : Bool) (given headers : Headers) : Headers :=
  if replacing then (given.filter fun field => (headers.first? field.1).isNone) ++ headers
  else given ++ headers

/-- The fields, by which any kind of answer is accepted unless they say otherwise. -/
def withAccept (headers : Headers) : Headers :=
  if (headers.first? "accept").isSome then headers else headers ++ [("accept", "*/*")]

def withJson (plan : RequestPlan) (body : Json) : RequestPlan :=
  { plan with
    headers := plan.headers.map fun headers =>
      if (headers.first? "content-type").isSome then headers
      else headers ++ [("content-type", "application/json")]
    body := Text.Utf8.encode body.print }

def prepare (plan : RequestPlan) : Except SendError OutboundRequest :=
  match Url.parse plan.url with
  | .error _ => .error (.unplanned none)
  | .ok url =>
    if !url.hasHost then .error (.unplanned (some url))
    else
      match plan.headers with
      | none => .error (.unplanned none)
      | some headers =>
        let bare := url.withoutUserInfo
        if url.scheme ≠ "http" ∧ url.scheme ≠ "https" then .error (.unplanned (some bare))
        else
          let headers := withAccept (joined plan.replacing (urlFields url) headers)
          .ok ⟨plan.method, bare, headers, plan.body⟩

def send (plan : RequestPlan) (network : Network) : Except SendError Answer × Network :=
  match plan.prepare with
  | .error e => (.error e, network)
  | .ok request => (network.hand request).carryUnder request plan.redirects

/-- Of a plan nothing is handed on but its request. -/
theorem sent_send (plan : RequestPlan) (network : Network) :
    (plan.send network).2.sent = network.sent ++ plan.prepare.toOption.toList := by
  unfold send
  cases plan.prepare with
  | error e => simp [Except.toOption]
  | ok request => exact (network.hand request).sent_carryUnder request plan.redirects

end RequestPlan

/-- What a request comes to: no answer, or a status and the bytes of a body.  The body is missing if
it breaks off. -/
abbrev FinalReply := Except SendError (Nat × Option (List UInt8))

namespace FinalReply

def ofAnswer (answer : Except SendError Answer) : FinalReply :=
  answer.map fun (status, _, body) => (status, body)

/-- The text that an answer holds, as far as it is one. -/
def detail : Except SendError Answer → String
  | .ok (_, _, some bytes) => Text.Utf8.lossy bytes
  | _ => ""

end FinalReply

/-- A way to send requests from states of type `σ`: what comes back, with the text that it holds,
and the state afterwards. -/
abbrev Line (σ : Type) := σ → RequestPlan → FinalReply × String × σ

def Network.line : Line Network := fun network plan =>
  match plan.send network with
  | (answer, after) => (.ofAnswer answer, FinalReply.detail answer, after)

def isSuccess (status : Nat) : Bool := 200 ≤ status && status < 300

end AccessGateway
