/-
Randomness from a seed.

Whoever carries out a program needs random bits for it.  This source makes them by
hashing a seed with a counter, so a run can be repeated from its seed.
-/
import SessionAuth.Crypto.Sha2

namespace SessionAuth

/-- A seed and how many hashes have been taken from it. -/
structure Entropy where
  seed : Bytes
  taken : Nat := 0

namespace Entropy

/-- The hash with a given number. -/
def block (e : Entropy) (n : Nat) : Bytes := Crypto.sha256 (e.seed ++ Bytes.ofNat 8 n)

/-- The next bytes. -/
def bytes (e : Entropy) (count : Nat) : Bytes × Entropy :=
  let blocks := (count + 31) / 32
  let made := (List.range blocks).flatMap fun i => e.block (e.taken + i)
  (made.take count, { e with taken := e.taken + blocks })

/-- The next bits, as a number. -/
def bits (e : Entropy) (count : Nat) : BitVec count × Entropy :=
  let (made, e) := e.bytes ((count + 7) / 8)
  (BitVec.ofNat count (Bytes.toNat made), e)

end Entropy

end SessionAuth
