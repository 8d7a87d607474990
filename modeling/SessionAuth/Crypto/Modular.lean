/-
Arithmetic modulo a number.

Signatures with public keys are made of powers, differences and inverses modulo a
large number.  Powers are taken by squaring, and an inverse modulo a prime is a power
too.
-/
namespace SessionAuth.Crypto.Modular

/-- A power modulo `m`, by squaring. -/
def power (m base exponent : Nat) : Nat :=
  if exponent = 0 then 1 % m
  else
    let half := power m (base * base % m) (exponent / 2)
    if exponent % 2 = 1 then base * half % m else half
termination_by exponent

/-- The difference modulo `m`. -/
def sub (m a b : Nat) : Nat := (a % m + (m - b % m)) % m

/-- The inverse of a number modulo a prime `p`; zero has none and is given as zero. -/
def inverse (p a : Nat) : Nat := power p a (p - 2)

/-- The number of bits of a number. -/
def bitLength (n : Nat) : Nat := if n = 0 then 0 else n.log2 + 1

/-- The number of bytes of a number. -/
def byteLength (n : Nat) : Nat := (bitLength n + 7) / 8

end SessionAuth.Crypto.Modular
