/-
The hash function BLAKE2b, without a key.

The output length is a parameter of the hash and not a cut of a longer one.  The
message is taken in blocks of 128 bytes; the last one is filled up with zeros and
marked, and the number of bytes so far goes into every block.
-/
import SessionAuth.Crypto.Sha2
import SessionAuth.Crypto.Sixteen

namespace SessionAuth.Crypto.Blake2b

/-- The starting words, shared with the SHA-2 family. -/
def initial : List UInt64 := Sha2.squareRoots.take 8

/-- Which words of a block the rounds take, two for each of the eight mixings. -/
def schedule : List (List Nat) := [
  [0, 1, 2, 3, 4, 5, 6, 7, 8, 9, 10, 11, 12, 13, 14, 15],
  [14, 10, 4, 8, 9, 15, 13, 6, 1, 12, 0, 2, 11, 7, 5, 3],
  [11, 8, 12, 0, 5, 2, 15, 13, 10, 14, 3, 6, 7, 1, 9, 4],
  [7, 9, 3, 1, 13, 12, 11, 14, 2, 6, 5, 10, 4, 0, 15, 8],
  [9, 0, 5, 7, 2, 4, 10, 15, 14, 1, 11, 12, 6, 8, 3, 13],
  [2, 12, 6, 10, 0, 11, 8, 3, 4, 13, 7, 5, 15, 14, 1, 9],
  [12, 5, 1, 15, 14, 13, 4, 10, 0, 7, 6, 3, 9, 2, 8, 11],
  [13, 11, 7, 14, 12, 1, 3, 9, 5, 0, 15, 4, 8, 6, 2, 10],
  [6, 15, 14, 9, 11, 3, 0, 8, 12, 2, 13, 7, 1, 4, 10, 5],
  [10, 2, 8, 4, 7, 6, 1, 5, 15, 11, 9, 14, 3, 12, 13, 0],
  [0, 1, 2, 3, 4, 5, 6, 7, 8, 9, 10, 11, 12, 13, 14, 15],
  [14, 10, 4, 8, 9, 15, 13, 6, 1, 12, 0, 2, 11, 7, 5, 3]]

/-- The mixing of four words with two words of the message. -/
@[inline] def quarter (x y : UInt64) (q : Quad) : Quad :=
  let a := q.a + q.b + x
  let d := Sixteen.rotate (q.d ^^^ a) 32
  let c := q.c + d
  let b := Sixteen.rotate (q.b ^^^ c) 24
  let a := a + b + y
  let d := Sixteen.rotate (d ^^^ a) 16
  let c := c + d
  let b := Sixteen.rotate (b ^^^ c) 63
  ⟨a, b, c, d⟩

/-- One round with the words of the message in the order of the round. -/
def round (words : List UInt64) (v : Sixteen) : Sixteen :=
  v.mix fun i q => quarter (words.getD (2 * i) 0) (words.getD (2 * i + 1) 0) q

/-- The eight words between two blocks. -/
abbrev Chain := List UInt64

/-- Takes in one block; `count` is the number of bytes up to its end. -/
def compress (h : Chain) (block : Bytes) (count : Nat) (last : Bool) : Chain :=
  let words := (Bytes.blocks 8 block).map fun b => UInt64.ofNat (Bytes.toNatLittle b)
  let at_ (i : Nat) := initial.getD i 0
  let mark : UInt64 := if last then 0xffffffffffffffff else 0
  let v := Sixteen.ofList (h ++ [at_ 0, at_ 1, at_ 2, at_ 3, at_ 4 ^^^ UInt64.ofNat count,
    at_ 5 ^^^ UInt64.ofNat (count >>> 64), at_ 6 ^^^ mark, at_ 7])
  let v := schedule.foldl (fun v order => round (order.map fun i => words.getD i 0) v) v
  let mixed := v.toList
  List.zipWith (· ^^^ ·) h (List.zipWith (· ^^^ ·) (mixed.take 8) (mixed.drop 8))

/-- Takes in all blocks; `count` bytes have been taken before. -/
def absorb : Chain → Nat → List Bytes → Chain
  | h, count, [] => compress h (List.replicate 128 0) count true
  | h, count, [block] =>
    compress h (block ++ List.replicate (128 - block.length) 0) (count + block.length) true
  | h, count, block :: more => absorb (compress h block (count + 128) false) (count + 128) more

/-- The hash of a message with a number of bytes, at most 64. -/
def hash (size : Nat) (message : Bytes) : Bytes :=
  let start := match initial with
    | first :: others => (first ^^^ 0x01010000 ^^^ UInt64.ofNat size) :: others
    | [] => []
  let final := absorb start 0 (Bytes.blocks 128 message)
  (final.flatMap fun w => Bytes.ofNatLittle 8 w.toNat).take size

end SessionAuth.Crypto.Blake2b
