/-
Digests and keyed digests.

Signatures are made over a digest of 256, 384 or 512 bits.  A shared key signs by
hashing the message twice, each time behind the key in a different disguise (HMAC).
-/
import SessionAuth.Crypto.Sha2

namespace SessionAuth.Crypto

/-- The digests in use. -/
inductive Digest
  | sha256
  | sha384
  | sha512
  deriving DecidableEq, Repr

namespace Digest

/-- The number of bits of a digest. -/
def bits : Digest → Nat
  | sha256 => 256
  | sha384 => 384
  | sha512 => 512

/-- The number of bytes of a digest. -/
def size (d : Digest) : Nat := d.bits / 8

/-- The number of bytes that are hashed at a time. -/
def blockSize : Digest → Nat
  | sha256 => 64
  | sha384 | sha512 => 128

/-- The digest of a message. -/
def hash : Digest → Bytes → Bytes
  | sha256 => Crypto.sha256
  | sha384 => Crypto.sha384
  | sha512 => Crypto.sha512

end Digest

/-- A key filled up to a block; a key longer than a block is hashed first. -/
def blockKey (d : Digest) (key : Bytes) : Bytes :=
  let key := if key.length > d.blockSize then d.hash key else key
  key ++ List.replicate (d.blockSize - key.length) 0

/-- The keyed digest of a message. -/
def hmac (d : Digest) (key message : Bytes) : Bytes :=
  let key := blockKey d key
  let inner := d.hash (key.map (· ^^^ 0x36) ++ message)
  d.hash (key.map (· ^^^ 0x5c) ++ inner)

end SessionAuth.Crypto
