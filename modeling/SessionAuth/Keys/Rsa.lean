/-
Reading RSA keys.

A private key lists its numbers with much redundancy.  They are checked against each
other before the key signs anything: sizes, parity, and that they belong together.
-/
import SessionAuth.Crypto.Rsa
import SessionAuth.Keys.Der
import SessionAuth.Keys.Fault
import SessionAuth.Limit

namespace SessionAuth.Keys.Rsa

open Crypto.Modular (bitLength byteLength)

/-- Half the number of bits of the modulus, rounded up. -/
def halfBits (modulus : Nat) : Nat := (bitLength modulus + 1) / 2

/-- Refuses the key unless a condition holds. -/
def require (condition : Bool) (fault : RsaFault) : Except RsaFault Unit :=
  if condition then .ok () else .error fault

/-! ### Public keys -/

/-- An odd number that takes from four to 128 words of 64 bits. -/
def checkModulus (n : Nat) : Except RsaFault Unit := do
  require (n ≠ 0) .invalidEncoding
  require (bitLength n ≤ 8192) .tooLarge
  require (192 < bitLength n) .unexpected
  require (n % 2 = 1) .invalidComponent

/-- An exponent of at least `least`, with few enough bits, that is odd. -/
def checkExponent (least e : Nat) : Except RsaFault Unit := do
  require (byteLength e ≤ 5) .tooLarge
  require (e ≠ 0) .invalidEncoding
  require (least ≤ e) .tooSmall
  require (e < limit33) .tooLarge
  require (e % 2 = 1) .invalidComponent

/-- A public key whose modulus has from 2048 to `most` bits. -/
def checkPublic (most least : Nat) (k : Crypto.Rsa.PublicKey) : Except RsaFault Unit := do
  checkModulus k.modulus
  require (2048 ≤ 8 * k.size) .tooSmall
  require (bitLength k.modulus ≤ most) .tooLarge
  checkExponent least k.exponent

/-- The two numbers of a public key. -/
def publicNumbers : Der.Reader Crypto.Rsa.PublicKey := fun bytes => do
  let (n, rest) ← Der.natural bytes
  let (e, rest) ← Der.natural rest
  return (⟨n, e⟩, rest)

/-- The public key of an encoding. -/
def readPublic? (bytes : Bytes) : Option Crypto.Rsa.PublicKey := do
  let k ← Der.all (Der.nested Der.sequenceTag publicNumbers) bytes
  match checkPublic 8192 3 k with
  | .ok _ => return k
  | .error _ => none

/-! ### Private keys -/

/-- The numbers of a private key in order. -/
def numbers : Nat → Der.Reader (List Nat)
  | 0, rest => some ([], rest)
  | count + 1, bytes => do
    let (n, rest) ← Der.natural bytes
    let (more, rest) ← numbers count rest
    return (n :: more, rest)

/-- A prime, which must have half the bits of the modulus. -/
def checkPrime (half p : Nat) : Except RsaFault Unit := do
  checkModulus p
  require (bitLength p = half) .inconsistentComponents
  require (half % 512 = 0) .unevenPrimes

/-- The exponent that undoes the public one, which must be longer than a prime. -/
def checkExponentPrivate (modulus d : Nat) : Except RsaFault Unit := do
  require (checkModulus d).isOk .invalidComponent
  require (halfBits modulus < bitLength d ∧ d < modulus) .inconsistentComponents

/-- The number by which the results modulo the two primes are combined. -/
def checkCoefficient (k : Crypto.Rsa.PrivateKey) : Except RsaFault Unit := do
  require (k.coefficient < k.prime1) .invalidComponent
  require (k.coefficient * k.prime2 % k.prime1 = 1) .inconsistentComponents

/-- The exponent to be used modulo a prime. -/
def checkPrimeExponent (p e : Nat) : Except RsaFault Unit :=
  require (0 < e ∧ e < p ∧ e % 2 = 1) .inconsistentComponents

/-- Checks that the numbers belong together; `d` is the exponent that undoes the public one. -/
def checkPrivate (d : Nat) (k : Crypto.Rsa.PrivateKey) : Except RsaFault Unit := do
  checkPublic 4096 65537 k.toPublicKey
  let half := halfBits k.modulus
  checkPrime half k.prime1
  checkPrime half k.prime2
  require (k.prime1 * k.prime2 % k.modulus = 0) .inconsistentComponents
  checkExponentPrivate k.modulus d
  checkCoefficient k
  checkPrimeExponent k.prime1 k.exponent1
  checkPrimeExponent k.prime2 k.exponent2

/-- The private key of the body of an encoding, and what is left of the body. -/
def privateBody (body : Bytes) : Except RsaFault (Crypto.Rsa.PrivateKey × Bytes) :=
  match Der.small body with
  | none => .error .invalidEncoding
  | some (version, rest) => do
    require (version = 0) .versionNotSupported
    match numbers 8 rest with
    | some ([n, e, d, p, q, e1, e2, coefficient], rest) =>
      let k : Crypto.Rsa.PrivateKey := ⟨⟨n, e⟩, p, q, e1, e2, coefficient⟩
      checkPrivate d k
      return (k, rest)
    | _ => .error .invalidEncoding

/-- The private key of an encoding. -/
def readPrivate (bytes : Bytes) : Except RsaFault Crypto.Rsa.PrivateKey :=
  match Der.value Der.sequenceTag bytes with
  | none => .error .invalidEncoding
  | some (body, behind) => do
    let (k, left) ← privateBody body
    require (left.isEmpty && behind.isEmpty) .invalidEncoding
    return k

end SessionAuth.Keys.Rsa
