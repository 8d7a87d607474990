/-
Reading private keys of curves.

The container (PKCS #8) names the algorithm and holds the key in a byte string; a
container of the second version holds the public key too, which must be the right one.
-/
import SessionAuth.Crypto.Edwards
import SessionAuth.Crypto.Weierstrass
import SessionAuth.Keys.Der

namespace SessionAuth.Keys.Pkcs8

open Crypto.Weierstrass (Curve)

/-- What a container holds: the private key and, in the second version, the public key. -/
structure Content where
  secret : Bytes
  publicKey : Option Bytes

/-- Passes over a value with a given tag, if there is one. -/
def skip (tag : UInt8) (bytes : Bytes) : Option Bytes :=
  if bytes.head? = some tag then (Der.value tag bytes).map (·.2) else some bytes

/-- The public key behind a private one, as a bit string with a tag around it. -/
def publicPart : Der.Reader Bytes :=
  Der.nested Der.context1Tag (Der.wholeBits Der.bitStringTag)

/-- The public key of a container: its bits may also have the tag in place of their own. -/
def containedPublicPart : Der.Reader Bytes := fun bytes =>
  if bytes.head? = some Der.context1Tag then publicPart bytes
  else Der.wholeBits Der.implicit1Tag bytes

/-- A container for one algorithm, in a version up to `latest`. -/
def container (algorithm : Bytes) (latest : Nat) : Der.Reader Content := fun bytes => do
  let (version, rest) ← Der.small bytes
  let (named, rest) ← Der.value Der.sequenceTag rest
  if version ≤ latest ∧ named = algorithm then
    let (secret, rest) ← Der.value Der.octetStringTag rest
    let rest ← skip Der.context0Tag rest
    if version = 0 then return (⟨secret, none⟩, rest)
    else
      let (key, rest) ← containedPublicPart rest
      return (⟨secret, some key⟩, rest)
  else none

/-- The content of a whole encoding. -/
def content? (algorithm : Bytes) (latest : Nat) (bytes : Bytes) : Option Content :=
  Der.all (Der.nested Der.sequenceTag (container algorithm latest)) bytes

/-! ### Curves with a separate curve name -/

/-- The id of a curve. -/
def curveId (c : Curve) : Bytes :=
  if c.size = 32 then [0x06, 0x08, 0x2a, 0x86, 0x48, 0xce, 0x3d, 0x03, 0x01, 0x07]
  else [0x06, 0x05, 0x2b, 0x81, 0x04, 0x00, 0x22]

/-- The algorithm of a container for a curve. -/
def curveAlgorithm (c : Curve) : Bytes :=
  [0x06, 0x07, 0x2a, 0x86, 0x48, 0xce, 0x3d, 0x02, 0x01] ++ curveId c

/-- The secret and the public key; the name of the curve may stand between them. -/
def curveBody (c : Curve) : Der.Reader (Bytes × Bytes) := fun bytes => do
  let (version, rest) ← Der.small bytes
  let (secret, rest) ← Der.value Der.octetStringTag rest
  let rest ←
    if rest.head? = some Der.context0Tag then do
      let (named, rest) ← Der.value Der.context0Tag rest
      if named = curveId c then some rest else none
    else some rest
  let (key, rest) ← publicPart rest
  if version = 1 then return ((secret, key), rest) else none

/-- The secret number of a private key for a curve; the public key with it must be right. -/
def curveSecret? (c : Curve) (bytes : Bytes) : Option Nat := do
  let content ← content? (curveAlgorithm c) 0 bytes
  let (secret, key) ← Der.all (Der.nested Der.sequenceTag (curveBody c)) content.secret
  let d := Bytes.toNat secret
  if secret.length = c.size ∧ c.isScalar d ∧ c.publicKey? d = some key then return d else none

/-! ### The curve that needs no name -/

/-- The algorithm of a container for Ed25519. -/
def edwardsAlgorithm : Bytes := [0x06, 0x03, 0x2b, 0x65, 0x70]

/-- The seed of a private key; a public key with it must be right. -/
def edwardsSeed? (bytes : Bytes) : Option Bytes := do
  let content ← content? edwardsAlgorithm 1 bytes
  let seed ← Der.all (Der.value Der.octetStringTag) content.secret
  if seed.length = 32 ∧ content.publicKey.all (· == Crypto.Edwards.publicKey seed) then
    return seed
  else none

end SessionAuth.Keys.Pkcs8
