import AccessGateway.Url.Host

/-!
# URLs

An absolute URL in normal form: scheme, authority, path, query and fragment.  The path of a URL
with an authority is a list of segments, none of which is a dot segment.
-/

namespace AccessGateway

/-- Who and where: the part after the double slash. -/
structure Authority where
  /-- User name and password in coded form; empty when there are none. -/
  userInfo : String
  host : Host
  /-- The port, unless it is the usual one of the scheme. -/
  port : Option Nat
  deriving DecidableEq, Repr

inductive UrlPath where
  /-- The text of a URL that does not name a hierarchy. -/
  | plain (text : String)
  | segments (parts : List String)
  deriving DecidableEq, Repr

structure Url where
  scheme : String
  authority : Option Authority
  path : UrlPath
  query : Option String
  fragment : Option String
  deriving DecidableEq, Repr

namespace Url

/-- The schemes that name network hosts, with their usual ports. -/
def networkSchemes : List (String × Nat) :=
  [("http", 80), ("https", 443), ("ws", 80), ("wss", 443), ("ftp", 21)]

def defaultPort (scheme : String) : Option Nat := networkSchemes.lookup scheme

/-- Whether backslashes count as slashes and hosts are network names. -/
def isSpecial (scheme : String) : Bool := (defaultPort scheme).isSome || scheme == "file"

/-- The path as text: every segment after a slash. -/
def pathText (url : Url) : String :=
  match url.path with
  | .plain text => text
  | .segments parts =>
    let text := String.join (parts.map ("/" ++ ·))
    if url.authority.isNone && parts.length > 1 && parts.head? == some "" then "/." ++ text
    else text

def authorityText (authority : Authority) : String :=
  (if authority.userInfo.isEmpty then "" else authority.userInfo ++ "@") ++
    authority.host.toText ++
    match authority.port with
    | some port => ":" ++ toString port
    | none => ""

/-- A part with a mark in front of it, if there is one. -/
def marked (mark : String) (part : Option String) : String :=
  match part with
  | some text => mark ++ text
  | none => ""

def toText (url : Url) : String :=
  url.scheme ++ ":" ++
    (match url.authority with
    | some authority => "//" ++ authorityText authority
    | none => "") ++
    url.pathText ++ marked "?" url.query ++ marked "#" url.fragment

def withoutUserInfo (url : Url) : Url :=
  { url with authority := url.authority.map fun a => { a with userInfo := "" } }

def hasHost (url : Url) : Bool :=
  match url.authority with
  | some authority => authority.host != .domain ""
  | none => false

end Url

end AccessGateway
