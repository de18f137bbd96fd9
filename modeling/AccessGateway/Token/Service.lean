import AccessGateway.Calendar
import AccessGateway.Crypto.Hmac
import AccessGateway.Text.Base64
import AccessGateway.Text.Quoted
import AccessGateway.Text.Utf8
import AccessGateway.Token.Claims
import AccessGateway.Token.Header

/-!
# Issuing and validating tokens

A token is three parts joined by dots: header, claims and signature, each in the URL alphabet of
base64.  The signature authenticates the first two under the key of the service.  Nothing is
stored: a token is valid while its signature checks out and the clock has not reached its expiry.
Validation reads header, algorithm, signature, claims and issuer before it looks at the clock.
-/

namespace AccessGateway

/-- An order of the claims that a token must have.  They are looked for one by one, and nothing
fixes the order, which may be another one at every validation. -/
structure ClaimOrder where
  names : List String
  perm : names.Perm ["exp", "sub", "iss"]

namespace ClaimOrder

instance : Inhabited ClaimOrder := ⟨⟨_, .refl _⟩⟩

/-- The first of some claims to be looked for. -/
def firstOf (order : ClaimOrder) (claims : List String) : String :=
  (order.names.find? claims.contains).getD ""

end ClaimOrder

/-- Why a text is not a token of a service, whatever the clock says. -/
inductive TokenFault where
  /-- There are fewer than three parts. -/
  | parts
  | base64
  | json
  | algorithm
  | signature
  /-- Some of the claims that a token must have are not there. -/
  | missingClaims (names : List String)
  | issuer
  | audience
  deriving DecidableEq, Repr

namespace TokenFault

/-- Of several missing claims only the first one is named. -/
def message (order : ClaimOrder) : TokenFault → String
  | .parts => "InvalidToken"
  | .base64 => "Base64 error"
  | .json => "JSON error"
  | .algorithm => "InvalidAlgorithm"
  | .signature => "InvalidSignature"
  | .missingClaims names => "Missing required claim: " ++ order.firstOf names
  | .issuer => "InvalidIssuer"
  | .audience => "InvalidAudience"

end TokenFault

inductive TokenError where
  | expired
  | invalid (reason : String)
  | signing (reason : String)
  /-- Roles travel joined by commas: none may be empty, hold a comma or end in blanks. -/
  | unsupportedRole (role : String)
  deriving DecidableEq, Repr

namespace TokenError

def message : TokenError → String
  | .expired => "token expired"
  | .invalid reason => "invalid token: " ++ reason
  | .signing reason => "failed to sign token: " ++ reason
  | .unsupportedRole role =>
    "role name " ++ Text.quoted role ++ " cannot be carried in a token"

def toGateway : TokenError → GatewayError
  | .expired => .tokenExpired
  | .invalid _ => .tokenInvalid
  | .signing reason => .internal reason
  | .unsupportedRole role => .internal ("unsupported role name " ++ Text.quoted role)

end TokenError

structure TokenSettings where
  signingKey : String
  issuer : String
  expirySeconds : Int
  /-- The header that carries tokens. -/
  header : String
  /-- The word before a token in that header. -/
  tokenType : String
  deriving DecidableEq, Repr

structure IssuedToken where
  accessToken : String
  tokenType : String
  expiresInSeconds : Int
  deriving DecidableEq, Repr

namespace IssuedToken

def toJson (token : IssuedToken) : Json :=
  .object [("accessToken", .string token.accessToken), ("tokenType", .string token.tokenType),
    ("expiresInSec", .integer token.expiresInSeconds)]

end IssuedToken

inductive IssueFailure where
  | refused (e : TokenError)
  /-- The expiry lies beyond the calendar, and the computation breaks off. -/
  | beyondCalendar
  deriving DecidableEq, Repr

structure TokenService where
  key : List UInt8
  issuer : String
  expirySeconds : Int
  tokenType : String
  deriving DecidableEq, Repr

namespace TokenService

/-- The service for given settings; the key must not be empty. -/
def ofSettings (settings : TokenSettings) : Except String TokenService :=
  if settings.signingKey.isEmpty then .error "JWT signing key must not be empty"
  else
    .ok {
      key := Text.Utf8.encode settings.signingKey
      issuer := settings.issuer
      expirySeconds := settings.expirySeconds
      tokenType := settings.tokenType }

/-- Whether a role survives the joining by commas. -/
def canCarry (role : String) : Bool :=
  !role.isEmpty && !role.toList.contains ',' && Text.trim role == role

def headerText : String := "\x7b\"typ\":\"JWT\",\"alg\":\"HS512\"\x7d"

def encodePart (s : String) : String :=
  Text.Base64.encode Text.Base64.urlSafe (Text.Utf8.encode s)

def signature (service : TokenService) (message : String) : String :=
  Text.Base64.encode Text.Base64.urlSafe
    (Crypto.Hmac.sign service.key (Text.Utf8.encode message))

def sign (service : TokenService) (claims : Claims) : String :=
  let message := encodePart headerText ++ "." ++ encodePart claims.toJson.print
  message ++ "." ++ service.signature message

/-- The claims for a principal at an instant, with the second of expiry. -/
def claimsFor (service : TokenService) (now : Instant) (expiry : Instant)
    (principal : Principal) : Claims where
  sub := principal.username
  iss := service.issuer
  iat := Calendar.seconds now
  exp := Calendar.seconds expiry
  roles := if principal.roles.isEmpty then none else some (",".intercalate principal.roles)
  domain := some principal.domain.token
  cn := principal.displayName

def issue (service : TokenService) (now : Instant) (principal : Principal) :
    Except IssueFailure IssuedToken :=
  match principal.roles.find? fun role => !canCarry role with
  | some role => .error (.refused (.unsupportedRole role))
  | none =>
    match Calendar.add? now (service.expirySeconds * 1000) with
    | none => .error .beyondCalendar
    | some expiry =>
      .ok ⟨service.sign (service.claimsFor now expiry principal), service.tokenType,
        service.expirySeconds⟩

def decodePart {α : Type} (decoder : Json.Decoder α) (part : String) : Except TokenFault α :=
  match Text.Base64.decode? Text.Base64.urlSafe part with
  | none => .error .base64
  | some bytes =>
    match Json.decodeBytes decoder bytes with
    | .ok a => .ok a
    | .error _ => .error .json

/-- A value that may stand in the place of a time without making the claims unreadable. -/
def passesAsTime : Json.Draft → Bool
  | .array (_ :: _) | .object (_ :: _) | .string none => false
  | _ => true

/-- An audience: a text or a list of texts. -/
def isAudience : Json.Draft → Bool
  | .string (some _) => true
  | .array items => items.all fun
    | .string (some _) => true
    | _ => false
  | _ => false

/-- The rules for registered claims, on claims that could be read. -/
def checkRegistered (issuer : String) (claims : Claims) : Json.Draft → Except TokenFault Unit
  | .object members =>
    let named (name : String) := (members.filter (·.1 == some name)).map Prod.snd
    let audience := named "aud"
    if (named "nbf").length > 1 || audience.length > 1 then .error .json
    else if !(named "nbf").all passesAsTime then .error .json
    else if claims.exp < 0 then .error (.missingClaims ["exp"])
    else if claims.iss ≠ issuer then .error .issuer
    else if audience.any isAudience then .error .audience
    else .ok ()
  -- the places of expiry, subject and issuer hold the subject and the two times
  | .array items =>
    if items.length = 5 then .error (.missingClaims ["exp", "sub", "iss"]) else .error .json
  | _ => .error .json

/-- Reads the claims of a token and checks everything but its expiry. -/
def readClaims (service : TokenService) (token : String) : Except TokenFault Claims :=
  match Text.rsplitOnce? '.' token with
  | none => .error .parts
  | some (message, signature) =>
    match Text.rsplitOnce? '.' message with
    | none => .error .parts
    | some (header, payload) =>
      match decodePart Token.headerDecoder header with
      | .error fault => .error fault
      | .ok algorithm =>
        if algorithm ≠ .hs512 then .error .algorithm
        else if signature ≠ service.signature message then .error .signature
        else
          match decodePart (fun draft => (Claims.decoder draft).map (draft, ·)) payload with
          | .error fault => .error fault
          | .ok (draft, claims) =>
            match checkRegistered service.issuer claims draft with
            | .error fault => .error fault
            | .ok () => .ok claims

def validate (service : TokenService) (now : Instant) (token : String)
    (order : ClaimOrder := default) : Except TokenError Claims :=
  match service.readClaims token with
  | .error fault => .error (.invalid (fault.message order))
  | .ok claims => if claims.exp ≤ Calendar.seconds now then .error .expired else .ok claims

end TokenService

/-- The token in the value of a header: blanks, the given word, blanks, the token.  The word must
be set off from the token by a blank unless it is empty or ends in one. -/
def extractToken (value : String) (word : String) : Option String :=
  match Text.dropPrefix? word.toList (Text.dropBlank value.toList) with
  | none => none
  | some rest =>
    let wordEndsBlank := match word.toList.getLast? with
      | some c => Text.isBlank c
      | none => true
    let restStartsBlank := match rest with
      | c :: _ => Text.isBlank c
      | [] => true
    if !wordEndsBlank && !restStartsBlank then none
    else
      let token := Text.trimChars rest
      if token.isEmpty then none else some (String.ofList token)

end AccessGateway
