/-
The SHA-2 family of hash functions.

All members do the same with words of 32 or of 64 bits: the message is padded to whole
blocks of sixteen words, each block is spread over the rounds, and eight words of state
are mixed once per round.  The members differ in the rotations, in the constants, and
in how much of the final state they give out.

The constants are binary digits of roots of primes; those of the 32 bit functions are
the upper halves of the 64 bit ones, so there is one table.
-/
import SessionAuth.Bytes.Basic

namespace SessionAuth.Crypto

namespace Sha2

/-! ### Constants -/

/-- The first 64 bits of the fractional parts of the cube roots of the first eighty primes. -/
def cubeRoots : List UInt64 := [
  0x428a2f98d728ae22, 0x7137449123ef65cd, 0xb5c0fbcfec4d3b2f,
  0xe9b5dba58189dbbc, 0x3956c25bf348b538, 0x59f111f1b605d019,
  0x923f82a4af194f9b, 0xab1c5ed5da6d8118, 0xd807aa98a3030242,
  0x12835b0145706fbe, 0x243185be4ee4b28c, 0x550c7dc3d5ffb4e2,
  0x72be5d74f27b896f, 0x80deb1fe3b1696b1, 0x9bdc06a725c71235,
  0xc19bf174cf692694, 0xe49b69c19ef14ad2, 0xefbe4786384f25e3,
  0x0fc19dc68b8cd5b5, 0x240ca1cc77ac9c65, 0x2de92c6f592b0275,
  0x4a7484aa6ea6e483, 0x5cb0a9dcbd41fbd4, 0x76f988da831153b5,
  0x983e5152ee66dfab, 0xa831c66d2db43210, 0xb00327c898fb213f,
  0xbf597fc7beef0ee4, 0xc6e00bf33da88fc2, 0xd5a79147930aa725,
  0x06ca6351e003826f, 0x142929670a0e6e70, 0x27b70a8546d22ffc,
  0x2e1b21385c26c926, 0x4d2c6dfc5ac42aed, 0x53380d139d95b3df,
  0x650a73548baf63de, 0x766a0abb3c77b2a8, 0x81c2c92e47edaee6,
  0x92722c851482353b, 0xa2bfe8a14cf10364, 0xa81a664bbc423001,
  0xc24b8b70d0f89791, 0xc76c51a30654be30, 0xd192e819d6ef5218,
  0xd69906245565a910, 0xf40e35855771202a, 0x106aa07032bbd1b8,
  0x19a4c116b8d2d0c8, 0x1e376c085141ab53, 0x2748774cdf8eeb99,
  0x34b0bcb5e19b48a8, 0x391c0cb3c5c95a63, 0x4ed8aa4ae3418acb,
  0x5b9cca4f7763e373, 0x682e6ff3d6b2b8a3, 0x748f82ee5defb2fc,
  0x78a5636f43172f60, 0x84c87814a1f0ab72, 0x8cc702081a6439ec,
  0x90befffa23631e28, 0xa4506cebde82bde9, 0xbef9a3f7b2c67915,
  0xc67178f2e372532b, 0xca273eceea26619c, 0xd186b8c721c0c207,
  0xeada7dd6cde0eb1e, 0xf57d4f7fee6ed178, 0x06f067aa72176fba,
  0x0a637dc5a2c898a6, 0x113f9804bef90dae, 0x1b710b35131c471b,
  0x28db77f523047d84, 0x32caab7b40c72493, 0x3c9ebe0a15c9bebc,
  0x431d67c49c100d4c, 0x4cc5d4becb3e42b6, 0x597f299cfc657e2a,
  0x5fcb6fab3ad6faec, 0x6c44198c4a475817]

/-- The first 64 bits of the fractional parts of the square roots of the first sixteen primes. -/
def squareRoots : List UInt64 := [
  0x6a09e667f3bcc908, 0xbb67ae8584caa73b, 0x3c6ef372fe94f82b,
  0xa54ff53a5f1d36f1, 0x510e527fade682d1, 0x9b05688c2b3e6c1f,
  0x1f83d9abfb41bd6b, 0x5be0cd19137e2179, 0xcbbb9d5dc1059ed8,
  0x629a292a367cd507, 0x9159015a3070dd17, 0x152fecd8f70e5939,
  0x67332667ffc00b31, 0x8eb44a8768581511, 0xdb0c2e0d64f98fa7,
  0x47b5481dbefa4fa4]

/-- The upper half of a word. -/
def upper (w : UInt64) : UInt32 := (w >>> 32).toUInt32

/-! ### What the members share -/

/-- What distinguishes one width from the other. -/
structure Width (w : Type) where
  /-- The number of bytes in a word. -/
  wordBytes : Nat
  ofNat : Nat → w
  toNat : w → Nat
  constants : List w
  /-- The mixing of the first and of the fifth word of the state. -/
  mixA : w → w
  mixE : w → w
  /-- The mixing of the second and of the fifteenth word of a schedule. -/
  spreadOld : w → w
  spreadNew : w → w

/-- The eight words of the state. -/
structure State (w : Type) where
  a : w
  b : w
  c : w
  d : w
  e : w
  f : w
  g : w
  h : w

/-- The words of a state in order. -/
def State.words (s : State w) : List w := [s.a, s.b, s.c, s.d, s.e, s.f, s.g, s.h]

section

variable {w : Type} [Inhabited w] [Add w] [XorOp w] [AndOp w] [Complement w]

/-- The state of eight words. -/
def State.ofWords (ws : List w) : State w :=
  let at_ (i : Nat) := ws.getD i default
  ⟨at_ 0, at_ 1, at_ 2, at_ 3, at_ 4, at_ 5, at_ 6, at_ 7⟩

/-- Word by word addition. -/
def State.add (s t : State w) : State w :=
  ⟨s.a + t.a, s.b + t.b, s.c + t.c, s.d + t.d, s.e + t.e, s.f + t.f, s.g + t.g, s.h + t.h⟩

/-- One round with a constant and a word of the schedule. -/
@[specialize] def round (p : Width w) (k x : w) (s : State w) : State w :=
  let choice := (s.e &&& s.f) ^^^ (~~~s.e &&& s.g)
  let majority := (s.a &&& s.b) ^^^ (s.a &&& s.c) ^^^ (s.b &&& s.c)
  let t := s.h + p.mixE s.e + choice + k + x
  ⟨t + p.mixA s.a + majority, s.a, s.b, s.c, s.d + t, s.e, s.f, s.g⟩

/--
All rounds.  The window holds the next sixteen words of the schedule; every round takes
one from its front and adds one behind.
-/
@[specialize] def rounds (p : Width w) : List w → List w → State w → State w
  | [], _, s => s
  | k :: ks, window, s =>
    let at_ (i : Nat) := window.getD i default
    let next := p.spreadNew (at_ 14) + at_ 9 + p.spreadOld (at_ 1) + at_ 0
    rounds p ks (window.drop 1 ++ [next]) (round p k (at_ 0) s)

/-- Takes one block into the state. -/
@[specialize] def compress (p : Width w) (s : State w) (block : Bytes) : State w :=
  let words := (Bytes.blocks p.wordBytes block).map fun b => p.ofNat (Bytes.toNat b)
  s.add (rounds p p.constants words s)

/-- The bytes in a block. -/
def Width.blockBytes (p : Width w) : Nat := 16 * p.wordBytes

/--
The message with a one bit, zeros and its length in bits behind it, which fills up the
last block.
-/
def pad (p : Width w) (message : Bytes) : Bytes :=
  let tail := 2 * p.wordBytes
  let used := (message.length + 1 + tail) % p.blockBytes
  let zeros := (p.blockBytes - used) % p.blockBytes
  message ++ [0x80] ++ List.replicate zeros 0 ++ Bytes.ofNat tail (8 * message.length)

/-- The state after all blocks of a message, as bytes. -/
@[specialize] def digest (p : Width w) (initial : List w) (message : Bytes) : Bytes :=
  let final := (Bytes.blocks p.blockBytes (pad p message)).foldl (compress p)
    (State.ofWords initial)
  final.words.flatMap fun x => Bytes.ofNat p.wordBytes (p.toNat x)

end

/-! ### The two widths -/

/-- Rotation to the right. -/
@[inline] def rotate32 (x : UInt32) (n : UInt32) : UInt32 := (x >>> n) ||| (x <<< (32 - n))

/-- Rotation to the right. -/
@[inline] def rotate64 (x : UInt64) (n : UInt64) : UInt64 := (x >>> n) ||| (x <<< (64 - n))

/-- Words of 32 bits and 64 rounds. -/
def width32 : Width UInt32 where
  wordBytes := 4
  ofNat := UInt32.ofNat
  toNat := UInt32.toNat
  constants := (cubeRoots.take 64).map upper
  mixA x := rotate32 x 2 ^^^ rotate32 x 13 ^^^ rotate32 x 22
  mixE x := rotate32 x 6 ^^^ rotate32 x 11 ^^^ rotate32 x 25
  spreadOld x := rotate32 x 7 ^^^ rotate32 x 18 ^^^ (x >>> 3)
  spreadNew x := rotate32 x 17 ^^^ rotate32 x 19 ^^^ (x >>> 10)

/-- Words of 64 bits and 80 rounds. -/
def width64 : Width UInt64 where
  wordBytes := 8
  ofNat := UInt64.ofNat
  toNat := UInt64.toNat
  constants := cubeRoots
  mixA x := rotate64 x 28 ^^^ rotate64 x 34 ^^^ rotate64 x 39
  mixE x := rotate64 x 14 ^^^ rotate64 x 18 ^^^ rotate64 x 41
  spreadOld x := rotate64 x 1 ^^^ rotate64 x 8 ^^^ (x >>> 7)
  spreadNew x := rotate64 x 19 ^^^ rotate64 x 61 ^^^ (x >>> 6)

end Sha2

/-! ### The members in use -/

/-- The hash with 256 bits. -/
def sha256 (message : Bytes) : Bytes :=
  Sha2.digest Sha2.width32 ((Sha2.squareRoots.take 8).map Sha2.upper) message

/-- The hash with 384 bits: the longer one from another start, cut short. -/
def sha384 (message : Bytes) : Bytes :=
  (Sha2.digest Sha2.width64 (Sha2.squareRoots.drop 8) message).take 48

/-- The hash with 512 bits. -/
def sha512 (message : Bytes) : Bytes :=
  Sha2.digest Sha2.width64 (Sha2.squareRoots.take 8) message

end SessionAuth.Crypto
