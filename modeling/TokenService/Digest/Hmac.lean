import TokenService.Digest.Sha256

/-!
# Keyed digests

The code that proves knowledge of a secret: a digest of a digest, each with the secret's key block
mixed in front. Two secrets with one key block are the same key.
-/

set_option autoImplicit false
set_option relaxedAutoImplicit false

namespace TokenService.Digest.Hmac

/-- The number of bytes in a key block. -/
def blockSize : Nat := 64

/-- The key block of a secret: a secret too long for a block is digested first, and zeros fill the
rest of the block. -/
def keyBlock (secret : Bytes) : Bytes :=
  let key := if blockSize < secret.length then (Sha256.digest secret).toList else secret
  key ++ List.replicate (blockSize - key.length) 0

/-- The code of a message under a key block. -/
def codeOfBlock (block message : Bytes) : Vector UInt8 32 :=
  let inner := Sha256.digest (block.map (· ^^^ 0x36) ++ message)
  Sha256.digest (block.map (· ^^^ 0x5C) ++ inner.toList)

/-- The code of a message under a secret. -/
def code (secret message : Bytes) : Vector UInt8 32 :=
  codeOfBlock (keyBlock secret) message

end TokenService.Digest.Hmac
