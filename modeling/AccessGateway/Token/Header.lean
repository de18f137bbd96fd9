import AccessGateway.Json.Decode
import AccessGateway.Json.Kept

/-!
# Token headers

The header of a token names the algorithm of its signature; its other members are read but do
not matter, as long as they have the types they are registered with.
-/

namespace AccessGateway.Token

open Json

inductive Algorithm where
  | hs256 | hs384 | hs512
  | es256 | es384
  | rs256 | rs384 | rs512
  | ps256 | ps384 | ps512
  | edDsa
  deriving DecidableEq, Repr

namespace Algorithm

def ofName? : String → Option Algorithm
  | "HS256" => some .hs256
  | "HS384" => some .hs384
  | "HS512" => some .hs512
  | "ES256" => some .es256
  | "ES384" => some .es384
  | "RS256" => some .rs256
  | "RS384" => some .rs384
  | "RS512" => some .rs512
  | "PS256" => some .ps256
  | "PS384" => some .ps384
  | "PS512" => some .ps512
  | "EdDSA" => some .edDsa
  | _ => none

end Algorithm

def oneOf (names : List String) : Decoder Unit :=
  Decoder.choice fun name => if name ∈ names then some () else none

/-- The algorithms a key may be for: those of signatures, and some that encrypt. -/
def keyAlgorithm : Decoder Unit
  -- a key is kept before it is read, and then an empty object passes for null
  | .object [(some name, .object [])] => keyAlgorithm.named (.string (some name))
  | other => keyAlgorithm.named other
where
  named : Decoder Unit :=
    Decoder.choice fun name =>
      if name ∈ ["RSA1_5", "RSA-OAEP", "RSA-OAEP-256"] then some ()
      else (Algorithm.ofName? name).map fun _ => ()

def keyShape : Shape Unit :=
  let text (name : String) : Shape (Option String) := .optional name Decoder.string
  let texts (name : String) : Shape (Option (List String)) :=
    .optional name (Decoder.list Decoder.string)
  (fun _ _ _ _ _ _ _ _ => ()) <$> text "use" <*> texts "key_ops"
    <*> .optional "alg" keyAlgorithm <*> text "kid" <*> text "x5u" <*> texts "x5c"
    <*> text "x5t" <*> text "x5t#S256"

/-- What a key of each kind consists of. -/
def materialShapes : List (Shape Unit) :=
  let kind (name : String) : Shape Unit := .required "kty" (oneOf [name])
  let curve : Shape Unit := .required "crv" (oneOf ["P-256", "P-384", "P-521", "Ed25519"])
  let text (name : String) : Shape String := .required name Decoder.string
  [(fun _ _ _ _ => ()) <$> kind "EC" <*> curve <*> text "x" <*> text "y",
    (fun _ _ _ => ()) <$> kind "RSA" <*> text "n" <*> text "e",
    (fun _ _ => ()) <$> kind "oct" <*> text "k",
    (fun _ _ _ => ()) <$> kind "OKP" <*> curve <*> text "x"]

/-- A public key: an object that says things of the key beside its material, of the first kind
that fits.  It is read twice, so every part of it must be such that it can be kept. -/
def keyDecoder : Decoder Unit
  | .object members =>
    let key := Draft.object members
    if !(key.toJson?.any (isKeepable (maxDepth - 1))) then .error .malformed
    else
      match keyShape.decoder key with
      | .ok () =>
        if materialShapes.any fun shape => (shape.decoder key).isOk then .ok ()
        else .error .mismatch
      | .error e => .error e
  | other => Decoder.refuse other

/-- The fields of a header in their order; only the algorithm is kept. -/
def headerShape : Shape Algorithm :=
  let text (name : String) : Shape (Option String) := .optional name Decoder.string
  (fun _ algorithm _ _ _ _ _ _ _ _ => algorithm) <$> text "typ"
    <*> .required "alg" (Decoder.choice Algorithm.ofName?) <*> text "cty" <*> text "jku"
    <*> .optional "jwk" keyDecoder <*> text "kid" <*> text "x5u"
    <*> .optional "x5c" (Decoder.list Decoder.string) <*> text "x5t" <*> text "x5t#S256"

def headerDecoder : Decoder Algorithm := headerShape.decoder

end AccessGateway.Token
