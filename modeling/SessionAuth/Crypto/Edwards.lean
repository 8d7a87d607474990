/-
Signatures on the curve Ed25519.

The curve is `-x² + y² = 1 + d x² y²` modulo `2²⁵⁵ - 19`.  Points are kept in four
coordinates: `(x, y, z, t)` stands for the point `(x / z, y / z)`, and `t` is their
product times `z`.  Signing is deterministic; encodings are little endian.
-/
import SessionAuth.Crypto.Digest
import SessionAuth.Crypto.Modular

namespace SessionAuth.Crypto.Edwards

open SessionAuth.Crypto.Modular (power)

/-- The prime of the field. -/
def prime : Nat := (1 <<< 255) - 19

/-- The number of multiples of the base point. -/
def order : Nat := (1 <<< 252) + 27742317777372353535851937790883648493

/-- The constant of the curve: `-121665 / 121666`. -/
def curveConstant : Nat :=
  37095705934669439343138083508754565189542113879843219016388785533085940283555

/-- A square root of -1. -/
def rootOfMinusOne : Nat := power prime 2 ((prime - 1) / 4)

/-! ### Points -/

/-- A point in four coordinates. -/
structure Point where
  x : Nat
  y : Nat
  z : Nat
  t : Nat
  deriving DecidableEq, Repr

/-- The neutral point. -/
def zero : Point := ⟨0, 1, 1, 0⟩

/-- The sum of two points. -/
def add (a b : Point) : Point :=
  let p := prime
  let m := Modular.sub p a.y a.x * Modular.sub p b.y b.x % p
  let n := (a.y + a.x) * (b.y + b.x) % p
  let c := 2 * curveConstant * a.t * b.t % p
  let d := 2 * a.z * b.z % p
  let e := Modular.sub p n m
  let f := Modular.sub p d c
  let g := d + c
  let h := n + m
  ⟨e * f % p, g * h % p, f * g % p, e * h % p⟩

/-- The point on the other side. -/
def neg (a : Point) : Point := ⟨Modular.sub prime 0 a.x, a.y, a.z, Modular.sub prime 0 a.t⟩

/-- A multiple of a point. -/
def multiply (k : Nat) (a : Point) : Point :=
  if k = 0 then zero
  else
    let half := multiply (k / 2) a
    let even := add half half
    if k % 2 = 1 then add even a else even
termination_by k

/-- The encoding of a point: the second coordinate, and the parity of the first on top. -/
def encode (a : Point) : Bytes :=
  let i := Modular.inverse prime a.z
  let x := a.x * i % prime
  let y := a.y * i % prime
  Bytes.ofNatLittle 32 (y + (x % 2) <<< 255)

/-- A square root of a quotient, when there is one. -/
def rootOfQuotient? (u v : Nat) : Option Nat :=
  let p := prime
  let v3 := v * v * v % p
  let x := u * v3 * power p (u * v3 * v3 * v % p) ((p - 5) / 8) % p
  let square := v * x * x % p
  if square = u % p then some x
  else if square = Modular.sub p 0 u then some (x * rootOfMinusOne % p)
  else none

/-- The point with a second coordinate whose first coordinate has a given parity. -/
def lift? (y parity : Nat) : Option Point :=
  let y := y % prime
  let square := y * y % prime
  (rootOfQuotient? (Modular.sub prime square 1) ((curveConstant * square + 1) % prime)).map
    fun x =>
      let x := if x % 2 = parity then x else Modular.sub prime 0 x
      ⟨x, y, 1, x * y % prime⟩

/-- The point of an encoding. -/
def decode? (bytes : Bytes) : Option Point :=
  let n := Bytes.toNatLittle bytes
  if bytes.length = 32 then lift? (n % (1 <<< 255)) (n >>> 255) else none

/-- The base point. -/
def base : Point := (lift? (4 * Modular.inverse prime 5) 0).getD zero

/-! ### Keys and signatures -/

/-- A hash as a number of a multiple. -/
def hashNumber (message : Bytes) : Nat := Bytes.toNatLittle (Digest.sha512.hash message) % order

/-- The secret number of a seed: half of its hash, with a few bits fixed. -/
def secretNumber (seed : Bytes) : Nat :=
  let n := Bytes.toNatLittle ((Digest.sha512.hash seed).take 32)
  n % (1 <<< 254) / 8 * 8 + (1 <<< 254)

/-- The public key of a seed. -/
def publicKey (seed : Bytes) : Bytes := encode (multiply (secretNumber seed) base)

/-- The signature of a message. -/
def sign (seed message : Bytes) : Bytes :=
  let key := publicKey seed
  let r := hashNumber ((Digest.sha512.hash seed).drop 32 ++ message)
  let point := encode (multiply r base)
  let s := (r + hashNumber (point ++ key ++ message) * secretNumber seed) % order
  point ++ Bytes.ofNatLittle 32 s

/-- The signature belongs to the message and the public key. -/
def check (publicKey message signature : Bytes) : Bool :=
  match decode? publicKey with
  | none => false
  | some key =>
    let point := signature.take 32
    let s := Bytes.toNatLittle (signature.drop 32)
    signature.length == 64 && s < order
      && encode (add (multiply s base)
          (multiply (hashNumber (point ++ publicKey ++ message)) (neg key))) == point

end SessionAuth.Crypto.Edwards
