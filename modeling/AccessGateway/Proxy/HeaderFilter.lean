import AccessGateway.Http.Headers
import AccessGateway.Settings.Basic
import AccessGateway.Text.Blank
import AccessGateway.Text.Split

/-!
# Which header fields are passed on

Fields that belong to one connection are not relayed in either direction: a fixed list and those
named by the values of `Connection`.  Neither are the field with the gateway's token and those
that the settings strip, nor the length of the body; requests also lose `Host`.
-/

namespace AccessGateway

namespace HopByHop

/-- The names that always belong to one connection. -/
def names : List String :=
  ["connection", "keep-alive", "proxy-authenticate", "proxy-authorization", "te", "trailer",
    "trailers", "transfer-encoding", "upgrade"]

/-- The names a value of `Connection` lists. -/
def listedIn (value : String) : List String :=
  if Headers.isVisible value then
    ((Text.split ',' value).map fun item => Text.Ascii.lower (Text.trim item)).filter
      fun name => !name.isEmpty
  else []

/-- The names all values of `Connection` list. -/
def listed (headers : Headers) : List String :=
  (headers.values "connection").flatMap listedIn

def drop (headers : Headers) : Headers :=
  let hidden := names ++ listed headers
  headers.filter fun field => !hidden.contains field.1

end HopByHop

structure HeaderFilter where
  stripped : List String
  deriving DecidableEq, Repr

namespace HeaderFilter

/-- The error of a text that cannot name a header field. -/
def nameError (name : String) : String :=
  "invalid header name '" ++ name ++ "': invalid HTTP header name"

/-- A configured name; blanks around it do not count. -/
def stripName (name : String) : Except String String :=
  match Headers.name? (Text.trim name) with
  | some lower => .ok lower
  | none => .error (nameError name)

def ofNames (tokenHeader : String) (stripHeaders : List String) : Except String HeaderFilter :=
  ((tokenHeader :: stripHeaders).mapM stripName).map HeaderFilter.mk

def without (headers : Headers) (names : List String) : Headers :=
  headers.filter fun field => !names.contains field.1

def request (filter : HeaderFilter) (headers : Headers) : Headers :=
  without (HopByHop.drop headers) ("host" :: "content-length" :: filter.stripped)

def response (filter : HeaderFilter) (headers : Headers) : Headers :=
  without (HopByHop.drop headers) ("content-length" :: filter.stripped)

end HeaderFilter

end AccessGateway
