/-
Signatures on the curves P-256 and P-384.

The curves are given by `y² = x³ - 3x + b` over a prime field.  Points are kept in
three coordinates, so that adding them takes no division: `(x, y, z)` stands for the
point `(x / z², y / z³)`, and `z = 0` for the point at infinity.
-/
import SessionAuth.Crypto.Digest
import SessionAuth.Crypto.Modular

namespace SessionAuth.Crypto.Weierstrass

/-- A curve with its base point, and the digest that goes with it. -/
structure Curve where
  digest : Digest
  /-- The number of bytes of a coordinate. -/
  size : Nat
  /-- The prime of the field. -/
  prime : Nat
  coefficient : Nat
  /-- The number of multiples of the base point. -/
  order : Nat
  baseX : Nat
  baseY : Nat

/-- The curve of 256 bits. -/
def p256 : Curve where
  digest := .sha256
  size := 32
  prime := 0xffffffff00000001000000000000000000000000ffffffffffffffffffffffff
  coefficient := 0x5ac635d8aa3a93e7b3ebbd55769886bc651d06b0cc53b0f63bce3c3e27d2604b
  order := 0xffffffff00000000ffffffffffffffffbce6faada7179e84f3b9cac2fc632551
  baseX := 0x6b17d1f2e12c4247f8bce6e563a440f277037d812deb33a0f4a13945d898c296
  baseY := 0x4fe342e2fe1a7f9b8ee7eb4a7c0f9e162bce33576b315ececbb6406837bf51f5

/-- The curve of 384 bits. -/
def p384 : Curve where
  digest := .sha384
  size := 48
  prime := 0xfffffffffffffffffffffffffffffffffffffffffffffffffffffffffffffffeffffffff0000000000000000ffffffff
  coefficient := 0xb3312fa7e23ee7e4988e056be3f82d19181d9c6efe8141120314088f5013875ac656398d8a2ed19d2a85c8edd3ec2aef
  order := 0xffffffffffffffffffffffffffffffffffffffffffffffffc7634d81f4372ddf581a0db248b0a77aecec196accc52973
  baseX := 0xaa87ca22be8b05378eb1c71ef320ad746e1d3b628ba79b9859f741e082542a385502f25dbf55296c3a545e3872760ab7
  baseY := 0x3617de4a96262c6f5d9e98bf9292dc29f8f41dbd289a147ce9da3113b5f0b8c00a60b1ce1d7e819d7a431d7c90ea0e5f

/-! ### Points -/

/-- A point in three coordinates. -/
structure Point where
  x : Nat
  y : Nat
  z : Nat
  deriving DecidableEq, Repr

namespace Curve

variable (c : Curve)

/-- The point at infinity. -/
def infinity : Point := ⟨1, 1, 0⟩

/-- The base point. -/
def base : Point := ⟨c.baseX, c.baseY, 1⟩

/-- The numbers are the coordinates of a point. -/
def contains (x y : Nat) : Bool :=
  x < c.prime && y < c.prime
    && y * y % c.prime == (x * x * x + (c.prime - 3) * x + c.coefficient) % c.prime

/-- The sum of a point and itself. -/
def double (a : Point) : Point :=
  let p := c.prime
  let delta := a.z * a.z % p
  let gamma := a.y * a.y % p
  let beta := a.x * gamma % p
  let alpha := 3 * Modular.sub p a.x delta * (a.x + delta) % p
  let x := Modular.sub p (alpha * alpha) (8 * beta)
  let z := 2 * a.y * a.z % p
  let y := Modular.sub p (alpha * Modular.sub p (4 * beta) x) (8 * gamma * gamma)
  ⟨x, y, z⟩

/-- The sum of two points. -/
def add (a b : Point) : Point :=
  if a.z = 0 then b
  else if b.z = 0 then a
  else
    let p := c.prime
    let za := a.z * a.z % p
    let zb := b.z * b.z % p
    let ua := a.x * zb % p
    let sa := a.y * zb * b.z % p
    let h := Modular.sub p (b.x * za) ua
    let r := Modular.sub p (b.y * za * a.z) sa
    if h = 0 then
      if r = 0 then c.double a else infinity
    else
      let h2 := h * h % p
      let h3 := h2 * h % p
      let v := ua * h2 % p
      let x := Modular.sub p (r * r) (h3 + 2 * v)
      ⟨x, Modular.sub p (r * Modular.sub p v x) (sa * h3), a.z * b.z * h % p⟩

/-- A multiple of a point. -/
def multiply (k : Nat) (a : Point) : Point :=
  if k = 0 then infinity
  else
    let even := c.double (multiply (k / 2) a)
    if k % 2 = 1 then c.add even a else even
termination_by k

/-- The two coordinates of a point that is not at infinity. -/
def affine? (a : Point) : Option (Nat × Nat) :=
  if a.z = 0 then none
  else
    let i := Modular.inverse c.prime a.z
    let i2 := i * i % c.prime
    some (a.x * i2 % c.prime, a.y * i2 * i % c.prime)

/-! ### Keys and signatures -/

/-- The encoding of a point: a mark and both coordinates. -/
def encode (x y : Nat) : Bytes := 0x04 :: (Bytes.ofNat c.size x ++ Bytes.ofNat c.size y)

/-- The point of an encoding. -/
def decode? (bytes : Bytes) : Option Point :=
  match bytes with
  | 0x04 :: rest =>
    let x := Bytes.toNat (rest.take c.size)
    let y := Bytes.toNat (rest.drop c.size)
    if rest.length = 2 * c.size ∧ c.contains x y then some ⟨x, y, 1⟩ else none
  | _ => none

/-- A number that can serve as a secret. -/
def isScalar (k : Nat) : Bool := 0 < k && k < c.order

/-- The encoded public key of a secret. -/
def publicKey? (secret : Nat) : Option Bytes :=
  (c.affine? (c.multiply secret c.base)).map fun (x, y) => c.encode x y

/-- The number that a message is signed as. -/
def messageNumber (message : Bytes) : Nat := Bytes.toNat (c.digest.hash message) % c.order

/-- The signature of a message, made with the secret and a random number. -/
def sign (secret random : Nat) (message : Bytes) : Bytes :=
  let n := c.order
  let k := 1 + random % (n - 1)
  let r := ((c.affine? (c.multiply k c.base)).map fun point => point.1 % n).getD 0
  let s := Modular.inverse n k * (c.messageNumber message + r * secret) % n
  Bytes.ofNat c.size r ++ Bytes.ofNat c.size s

/-- The signature belongs to the message and the public key. -/
def check (publicKey message signature : Bytes) : Bool :=
  match c.decode? publicKey with
  | none => false
  | some key =>
    let n := c.order
    let r := Bytes.toNat (signature.take c.size)
    let s := Bytes.toNat (signature.drop c.size)
    if signature.length = 2 * c.size ∧ c.isScalar r ∧ c.isScalar s then
      let w := Modular.inverse n s
      let sum := c.add (c.multiply (c.messageNumber message * w % n) c.base)
        (c.multiply (r * w % n) key)
      match c.affine? sum with
      | none => false
      | some (x, _) => x % n == r
    else false

end Curve

end SessionAuth.Crypto.Weierstrass
