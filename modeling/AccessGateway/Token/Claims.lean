import AccessGateway.Error
import AccessGateway.Json.Decode
import AccessGateway.Json.Printer
import AccessGateway.Principal

/-!
# Claims

What a token says about its holder: subject, issuer, the seconds of issue and expiry, and when
known the roles joined by commas, the domain and the name the directory had at login.  A
principal can be read back from claims; claims without a domain take a default one.
-/

namespace AccessGateway

structure Claims where
  sub : String
  iss : String
  iat : Int
  exp : Int
  roles : Option String
  domain : Option String
  cn : Option String
  deriving DecidableEq, Repr

namespace Claims

/-- The non-empty parts between the commas of a text, without surrounding blanks. -/
def splitRoles (joined : String) : List String :=
  ((Text.split ',' joined).map Text.trim).filter fun role => !role.isEmpty

def roleList (claims : Claims) : List String :=
  match claims.roles with
  | some joined => splitRoles joined
  | none => []

def toPrincipal (claims : Claims) (default : Domain) : Except NameError Principal :=
  match claims.domain with
  | none => .ok ⟨claims.sub, claims.cn, default, claims.roleList⟩
  | some token =>
    match Domain.parse token with
    | .ok domain => .ok ⟨claims.sub, claims.cn, domain, claims.roleList⟩
    | .error e => .error e

def optionalMember (name : String) (value : Option String) : List (String × Json) :=
  match value with
  | some text => [(name, .string text)]
  | none => []

/-- The claims as an object; missing ones are left out. -/
def toJson (claims : Claims) : Json :=
  .object ([("sub", .string claims.sub), ("iss", .string claims.iss),
    ("iat", .integer claims.iat), ("exp", .integer claims.exp)] ++
    optionalMember "roles" claims.roles ++ optionalMember "domain" claims.domain ++
    optionalMember "cn" claims.cn)

open Json in
def shape : Shape Claims :=
  Claims.mk <$> .required "sub" Decoder.string <*> .required "iss" Decoder.string
    <*> .required "iat" Decoder.signed64 <*> .required "exp" Decoder.signed64
    <*> .omissible "roles" Decoder.string <*> .omissible "domain" Decoder.string
    <*> .omissible "cn" Decoder.string

def decoder : Json.Decoder Claims := shape.decoder

end Claims

end AccessGateway
