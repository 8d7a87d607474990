/-
Signatures by powers modulo a product of two primes.

A message is hashed and the digest filled up to the size of the modulus.  Taking the
private power of that block signs it; taking the public power of a signature must give
a block that belongs to the message.  There are two ways to fill up a block: a fixed
one (PKCS #1) and one with a random salt (PSS), in which a mask spreads over the block.
-/
import SessionAuth.Crypto.Digest
import SessionAuth.Crypto.Modular

namespace SessionAuth.Crypto.Rsa

open SessionAuth.Crypto.Modular (bitLength byteLength power)

/-! ### Keys -/

/-- A key that checks signatures. -/
structure PublicKey where
  modulus : Nat
  exponent : Nat
  deriving DecidableEq, Repr

/-- A key that makes signatures: the primes, and what is derived from them. -/
structure PrivateKey extends PublicKey where
  prime1 : Nat
  prime2 : Nat
  exponent1 : Nat
  exponent2 : Nat
  /-- The inverse of the second prime modulo the first. -/
  coefficient : Nat
  deriving DecidableEq, Repr

/-- The number of bytes of a block and of a signature. -/
def PublicKey.size (k : PublicKey) : Nat := byteLength k.modulus

/-- The block that a signature stands for. -/
def PublicKey.open? (k : PublicKey) (signature : Bytes) : Option Bytes :=
  let s := Bytes.toNat signature
  if signature.length = k.size ∧ s < k.modulus then
    some (Bytes.ofNat k.size (power k.modulus s k.exponent))
  else none

/--
The signature of a block, computed modulo each prime.  It is checked with the public
exponent before it is given out, so that no wrong result betrays a prime.
-/
def PrivateKey.sign? (k : PrivateKey) (block : Bytes) : Option Bytes :=
  let m := Bytes.toNat block
  let s1 := power k.prime1 m k.exponent1
  let s2 := power k.prime2 m k.exponent2
  let h := k.coefficient * Modular.sub k.prime1 s1 s2 % k.prime1
  let s := s2 + h * k.prime2
  if power k.modulus s k.exponent = m then some (Bytes.ofNat k.size s) else none

/-! ### The fixed block -/

/-- What stands before a digest and tells which one it is. -/
def digestInfo (d : Digest) : Bytes :=
  let n := UInt8.ofNat d.size
  let number : UInt8 := match d with
    | .sha256 => 1
    | .sha384 => 2
    | .sha512 => 3
  [0x30, 0x11 + n, 0x30, 0x0d, 0x06, 0x09, 0x60, 0x86, 0x48, 0x01, 0x65, 0x03, 0x04, 0x02,
    number, 0x05, 0x00, 0x04, n]

/-- The fixed block of a message. -/
def fixedBlock (d : Digest) (size : Nat) (message : Bytes) : Bytes :=
  let info := digestInfo d ++ d.hash message
  [0x00, 0x01] ++ List.replicate (size - info.length - 3) 0xff ++ [0x00] ++ info

/-- The fixed signature of a message. -/
def PrivateKey.signFixed? (k : PrivateKey) (d : Digest) (message : Bytes) : Option Bytes :=
  k.sign? (fixedBlock d k.size message)

/-- The signature is the fixed one of the message. -/
def PublicKey.checkFixed (k : PublicKey) (d : Digest) (message signature : Bytes) : Bool :=
  k.open? signature == some (fixedBlock d k.size message)

/-! ### The salted block -/

/-- A mask of `size` bytes that depends on a seed. -/
def mask (d : Digest) (seed : Bytes) (size : Nat) : Bytes :=
  ((List.range (size / d.size + 1)).flatMap fun i => d.hash (seed ++ Bytes.ofNat 4 i)).take size

/-- Clears all but the last `bits` bits of the first byte. -/
def keepBits (bits : Nat) : Bytes → Bytes
  | [] => []
  | b :: rest => UInt8.ofNat (b.toNat % (1 <<< bits)) :: rest

/-- The digest of a salted message. -/
def saltedDigest (d : Digest) (message salt : Bytes) : Bytes :=
  d.hash (List.replicate 8 0 ++ d.hash message ++ salt)

/-- How the bits of a salted block are laid out. -/
structure Layout where
  /-- The number of bytes of the block. -/
  size : Nat
  /-- The number of bits in its first byte. -/
  topBits : Nat

/-- A salted block has one bit less than the modulus. -/
def Layout.of (k : PublicKey) : Layout :=
  let bits := bitLength k.modulus - 1
  ⟨(bits + 7) / 8, bits - 8 * ((bits + 7) / 8 - 1)⟩

/-- The salted block of a message; the salt is as long as the digest. -/
def saltedBlock (d : Digest) (layout : Layout) (message salt : Bytes) : Bytes :=
  let h := saltedDigest d message salt
  let data := List.replicate (layout.size - 2 * d.size - 2) 0 ++ [0x01] ++ salt
  let masked := Bytes.xor data (mask d h data.length)
  keepBits layout.topBits masked ++ h ++ [0xbc]

/-- The block is a salted one of the message. -/
def isSaltedBlock (d : Digest) (layout : Layout) (message block : Bytes) : Bool :=
  let masked := block.take (layout.size - d.size - 1)
  let h := (block.drop masked.length).take d.size
  let data := keepBits layout.topBits (Bytes.xor masked (mask d h masked.length))
  let fill := layout.size - 2 * d.size - 2
  let salt := data.drop (fill + 1)
  block.length = layout.size ∧ 2 * d.size + 2 ≤ layout.size ∧ block.getLast? = some 0xbc
    ∧ keepBits layout.topBits masked = masked
    ∧ data.take (fill + 1) = List.replicate fill 0 ++ [0x01]
    ∧ saltedDigest d message salt = h

/-- The salted signature of a message. -/
def PrivateKey.signSalted? (k : PrivateKey) (d : Digest) (salt message : Bytes) : Option Bytes :=
  k.sign? (saltedBlock d (Layout.of k.toPublicKey) message salt)

/-- The signature is a salted one of the message. -/
def PublicKey.checkSalted (k : PublicKey) (d : Digest) (message signature : Bytes) : Bool :=
  let layout := Layout.of k
  match k.open? signature with
  | none => false
  | some block =>
    -- A block that is a byte shorter than the modulus has a zero byte before it.
    let lead := block.take (k.size - layout.size)
    lead.all (· == 0) && isSaltedBlock d layout message (block.drop lead.length)

end SessionAuth.Crypto.Rsa
