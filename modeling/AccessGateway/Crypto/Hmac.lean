import AccessGateway.Crypto.Sha512

/-!
# Keyed hashing

HMAC over SHA-512: the key is brought to the length of a block and enters the hash twice, once
with the message and once with the result.
-/

namespace AccessGateway.Crypto.Hmac

def blockSize : Nat := 128

/-- The key in the length of a block: hashed if it is longer, filled up with zeros. -/
def blockKey (key : List UInt8) : List UInt8 :=
  let short := if key.length > blockSize then Sha512.hash key else key
  short ++ List.replicate (blockSize - short.length) 0

/-- The 64 bytes that authenticate a message under a key. -/
def sign (key message : List UInt8) : List UInt8 :=
  let block := blockKey key
  let inner := Sha512.hash (block.map (· ^^^ 0x36) ++ message)
  Sha512.hash (block.map (· ^^^ 0x5C) ++ inner)

end AccessGateway.Crypto.Hmac
