import AccessGateway.Url.Basic

/-!
# Reading URLs

Reading brings a URL to its normal form: blanks around it and tabs and line ends in it are
dropped, schemes and hosts are lower case, characters that may not stand in a part are
percent-coded, and dot segments are resolved, also where their dots are coded.  In the schemes
that name network hosts a backslash counts as a slash.
-/

namespace AccessGateway.Url

/-! ## Characters kept in each part -/

def isControl (b : UInt8) : Bool := b < 0x20 || b ≥ 0x7F

def isOneOf (chars : String) (b : UInt8) : Bool := chars.toList.contains (Char.ofNat b.toNat)

def keepInFragment (b : UInt8) : Bool := !isControl b && !isOneOf " \"<>\x60" b

def keepInQuery (special : Bool) (b : UInt8) : Bool :=
  !isControl b && !isOneOf " \"#<>" b && !(special && b == 0x27)

def keepInPath (b : UInt8) : Bool := keepInFragment b && !isOneOf "#?\x7b\x7d" b

def keepInUserInfo (b : UInt8) : Bool := keepInPath b && !isOneOf "/:;=@[\\]^|" b

/-! ## Path -/

/-- A segment that stands for the place it is in. -/
def isSingleDot (segment : String) : Bool :=
  let s := Text.Ascii.lower segment
  s == "." || s == "%2e"

/-- A segment that stands for the place above. -/
def isDoubleDot (segment : String) : Bool :=
  let s := Text.Ascii.lower segment
  s == ".." || s == ".%2e" || s == "%2e." || s == "%2e%2e"

/-- A segment that double dots do not lead out of, in any scheme. -/
def isDriveLetter (segment : String) : Bool :=
  match segment.toList with
  | [letter, mark] => letter.isAlpha && (mark = ':' || mark = '|')
  | _ => false

/-- Where a double dot leads; the last segment comes first. -/
def above : List String → List String
  | [] => []
  | segment :: before => if isDriveLetter segment then segment :: before else before

/-- Resolves dot segments; what is before comes last segment first.  A dot segment at the end
leaves an empty one. -/
def resolveAfter (before : List String) : List String → List String
  | [] => before.reverse
  | [last] =>
    if isDoubleDot last then ("" :: above before).reverse
    else if isSingleDot last then ("" :: before).reverse
    else (last :: before).reverse
  | segment :: rest =>
    if isDoubleDot segment then resolveAfter (above before) rest
    else if isSingleDot segment then resolveAfter before rest
    else resolveAfter (segment :: before) rest

/-- The segments of a path without dot segments. -/
def resolveDots (segments : List String) : List String := resolveAfter [] segments

/-- Cuts a path at its slashes; it has at least one segment. -/
def cutSegments (special : Bool) (chars : List Char) : List (List Char) :=
  Text.pieces '/' (if special then chars.map fun c => if c = '\\' then '/' else c else chars)

def encodeSegment (chars : List Char) : String :=
  Text.Percent.encodeWith keepInPath (String.ofList chars)

def parsePath (special : Bool) (chars : List Char) : List String :=
  match chars with
  | [] => if special then [""] else []
  | c :: rest =>
    let body := if c = '/' ∨ (special ∧ c = '\\') then rest else chars
    resolveDots ((cutSegments special body).map encodeSegment)

/-! ## Authority -/

/-- Cuts at the last `@`. -/
def cutUserInfo (chars : List Char) : List Char × List Char :=
  match Text.cutLast? '@' chars with
  | some (before, after) => (before, after)
  | none => ([], chars)

/-- User name and password in coded form; a colon is kept only before a password. -/
def encodeUserInfo (chars : List Char) : String :=
  let encode (part : List Char) := Text.Percent.encodeWith keepInUserInfo (String.ofList part)
  match Text.cutFirst? ':' chars with
  | some (user, []) => encode user
  | some (user, password) => encode user ++ ":" ++ encode password
  | none => encode chars

/-- Cuts at the first colon outside brackets. -/
def cutPort (inBrackets : Bool) : List Char → List Char × Option (List Char)
  | [] => ([], none)
  | ':' :: rest =>
    if inBrackets then
      let (host, port) := cutPort inBrackets rest
      (':' :: host, port)
    else ([], some rest)
  | c :: rest =>
    let (host, port) := cutPort (if c = '[' then true else if c = ']' then false else inBrackets)
      rest
    (c :: host, port)

/-- The port behind the colon, unless it is the usual one. -/
def parsePort (scheme : String) : Option (List Char) → Except UrlError (Option Nat)
  | none | some [] => .ok none
  | some digits =>
    if !digits.all Char.isDigit then .error .badPort
    else
      let n := digits.foldl (fun total c => total * 10 + (c.toNat - 48)) 0
      if n > 65535 then .error .badPort
      else if defaultPort scheme = some n then .ok none
      else .ok (some n)

/-- Reads user name, host and port. -/
def parseAuthority (scheme : String) (chars : List Char) : Except UrlError Authority :=
  let (user, rest) := cutUserInfo chars
  let (hostChars, portChars) := cutPort false rest
  let host :=
    if isSpecial scheme then Host.parseSpecial hostChars else Host.parseOther hostChars
  match host with
  | .error e => .error e
  | .ok host =>
    if host = .domain "" ∧ (portChars.isSome ∨ !user.isEmpty) then .error .emptyHost
    else
      match parsePort scheme portChars with
      | .error e => .error e
      | .ok port => .ok ⟨encodeUserInfo user, host, port⟩

/-! ## The whole -/

def isControlOrSpace (c : Char) : Bool := c.toNat ≤ 0x20

def cleaned (s : String) : List Char :=
  let inner := s.toList.dropWhile isControlOrSpace
  ((inner.reverse.dropWhile isControlOrSpace).reverse).filter fun c =>
    !(c = '\t' || c = '\n' || c = '\r')

/-- Cuts off the scheme, in lower case. -/
def cutScheme? (chars : List Char) : Option (String × List Char) :=
  match chars with
  | [] => none
  | first :: _ =>
    if !first.isAlpha then none
    else
      match Text.cutFirst? ':' chars with
      | none => none
      | some (name, rest) =>
        if name.all fun c => c.isAlphanum || c = '+' || c = '-' || c = '.' then
          some (Text.Ascii.lower (String.ofList name), rest)
        else none

/-- Cuts a text before the first character of a kind. -/
def cutBefore (stop : Char → Bool) (chars : List Char) : List Char × List Char :=
  (chars.takeWhile (!stop ·), chars.dropWhile (!stop ·))

def parseTail (special : Bool) (chars : List Char) : Option String × Option String :=
  let (front, fragment) := cutBefore (· = '#') chars
  let query := match front with
    | '?' :: rest =>
      some (Text.Percent.encodeWith (keepInQuery special) (String.ofList rest))
    | _ => none
  let fragment := match fragment with
    | '#' :: rest => some (Text.Percent.encodeWith keepInFragment (String.ofList rest))
    | _ => none
  (query, fragment)

def parseWithAuthority (scheme : String) (chars : List Char) : Except UrlError Url :=
  let special := isSpecial scheme
  let (authorityChars, rest) :=
    cutBefore (fun c => c = '/' || c = '?' || c = '#' || (special && c = '\\')) chars
  match parseAuthority scheme authorityChars with
  | .error e => .error e
  | .ok authority =>
    let (pathChars, tail) := cutBefore (fun c => c = '?' || c = '#') rest
    let (query, fragment) := parseTail special tail
    .ok ⟨scheme, some authority, .segments (parsePath special pathChars), query, fragment⟩

/-- Reads what follows the colon of a scheme without authority. -/
def parseWithoutAuthority (scheme : String) (chars : List Char) : Url :=
  let (pathChars, tail) := cutBefore (fun c => c = '?' || c = '#') chars
  let (query, fragment) := parseTail false tail
  let path := match pathChars with
    | '/' :: _ => .segments (parsePath false pathChars)
    | _ =>
      .plain (Text.Percent.encodeWith (fun b => !isControl b) (String.ofList pathChars))
  ⟨scheme, none, path, query, fragment⟩

/-- Reads the name of a file: a host is allowed, and the local one is left out. -/
def parseFile (chars : List Char) : Except UrlError Url :=
  let slashes := chars.map fun c => if c = '\\' then '/' else c
  let (hostChars, rest) := match slashes with
    | '/' :: '/' :: rest => cutBefore (fun c => c = '/' || c = '?' || c = '#') rest
    | _ => ([], chars)
  let host := if hostChars.isEmpty then .ok (.domain "") else Host.parseSpecial hostChars
  match host with
  | .error e => .error e
  | .ok host =>
    let host := if host = .domain "localhost" then .domain "" else host
    let (pathChars, tail) := cutBefore (fun c => c = '?' || c = '#') rest
    let (query, fragment) := parseTail true tail
    .ok ⟨"file", some ⟨"", host, none⟩, .segments (parsePath true pathChars), query, fragment⟩

def parse (s : String) : Except UrlError Url :=
  match cutScheme? (cleaned s) with
  | none => .error .relative
  | some (scheme, rest) =>
    if scheme == "file" then parseFile rest
    else if isSpecial scheme then
      parseWithAuthority scheme (rest.dropWhile fun c => c = '/' || c = '\\')
    else
      match rest with
      | '/' :: '/' :: rest => parseWithAuthority scheme rest
      | _ => .ok (parseWithoutAuthority scheme rest)

end AccessGateway.Url
