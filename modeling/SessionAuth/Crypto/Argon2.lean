/-
The password hash Argon2.

A password is hashed by filling a memory with blocks of 1024 bytes, several times over.
Every new block mixes the one before it with one from an earlier place; the place
depends on the data, on its position only, or on one after the other, which is what
the three kinds differ in.  The memory is cut into lanes and every lane into four
slices, so that a slice never refers to the same slice of another lane.
-/
import SessionAuth.Crypto.Blake2b
import SessionAuth.Limit

namespace SessionAuth.Crypto.Argon2

/-! ### Parameters -/

/-- How the place of the earlier block is chosen. -/
inductive Kind
  | byData
  | byPosition
  | mixed
  deriving DecidableEq, Repr

/-- The number of a kind. -/
def Kind.number : Kind → Nat
  | byData => 0
  | byPosition => 1
  | mixed => 2

/-- The two versions; the older one overwrites blocks instead of mixing them in. -/
inductive Version
  | v16
  | v19
  deriving DecidableEq, Repr

/-- The number of a version. -/
def Version.number : Version → Nat
  | v16 => 16
  | v19 => 19

/-- What a hash costs, and how long it is. -/
structure Cost where
  /-- The memory in units of 1024 bytes. -/
  memory : Nat
  /-- How many times the memory is filled. -/
  passes : Nat
  lanes : Nat
  tagBytes : Nat
  deriving DecidableEq, Repr

namespace Cost

/-- The cost is one that can be paid. -/
def isValid (c : Cost) : Bool :=
  8 ≤ c.memory && 8 * c.lanes ≤ c.memory && c.memory < limit32
    && 1 ≤ c.passes && c.passes < limit32
    && 1 ≤ c.lanes && c.lanes < limit24
    && 4 ≤ c.tagBytes && c.tagBytes < limit32

/-- The number of blocks in a slice of a lane. -/
def segment (c : Cost) : Nat := c.memory / (4 * c.lanes)

/-- The number of blocks in a lane. -/
def laneLength (c : Cost) : Nat := 4 * c.segment

/-- The number of blocks that are filled. -/
def blockCount (c : Cost) : Nat := c.lanes * c.laneLength

end Cost

/-! ### Blocks -/

/-- A block: eight rows of sixteen words. -/
structure Block where
  r0 : Sixteen
  r1 : Sixteen
  r2 : Sixteen
  r3 : Sixteen
  r4 : Sixteen
  r5 : Sixteen
  r6 : Sixteen
  r7 : Sixteen
  deriving Inhabited

namespace Block

/-- A block of zeros. -/
def zero : Block :=
  ⟨.zero, .zero, .zero, .zero, .zero, .zero, .zero, .zero⟩

/-- The rows as a list. -/
def rows (b : Block) : List Sixteen := [b.r0, b.r1, b.r2, b.r3, b.r4, b.r5, b.r6, b.r7]

/-- The words as a list. -/
def words (b : Block) : List UInt64 := b.rows.flatMap Sixteen.toList

/-- The first 128 words of a list; missing ones are zero. -/
def ofWords (ws : List UInt64) : Block :=
  let row (i : Nat) := Sixteen.ofList (ws.drop (16 * i))
  ⟨row 0, row 1, row 2, row 3, row 4, row 5, row 6, row 7⟩

/-- The block that 1024 bytes write, every word from its least significant byte on. -/
def ofBytes (bytes : Bytes) : Block :=
  ofWords ((Bytes.blocks 8 bytes).map fun b => UInt64.ofNat (Bytes.toNatLittle b))

/-- The bytes of a block. -/
def toBytes (b : Block) : Bytes := b.words.flatMap fun w => Bytes.ofNatLittle 8 w.toNat

/-- Word by word exclusive or. -/
def xor (b c : Block) : Block :=
  ⟨b.r0.xor c.r0, b.r1.xor c.r1, b.r2.xor c.r2, b.r3.xor c.r3, b.r4.xor c.r4, b.r5.xor c.r5,
    b.r6.xor c.r6, b.r7.xor c.r7⟩

/-- The columns, each two words wide, as rows. -/
def transpose (b : Block) : Block :=
  ⟨
    ⟨b.r0.w0, b.r0.w1, b.r1.w0, b.r1.w1, b.r2.w0, b.r2.w1, b.r3.w0, b.r3.w1, b.r4.w0, b.r4.w1,
      b.r5.w0, b.r5.w1, b.r6.w0, b.r6.w1, b.r7.w0, b.r7.w1⟩,
    ⟨b.r0.w2, b.r0.w3, b.r1.w2, b.r1.w3, b.r2.w2, b.r2.w3, b.r3.w2, b.r3.w3, b.r4.w2, b.r4.w3,
      b.r5.w2, b.r5.w3, b.r6.w2, b.r6.w3, b.r7.w2, b.r7.w3⟩,
    ⟨b.r0.w4, b.r0.w5, b.r1.w4, b.r1.w5, b.r2.w4, b.r2.w5, b.r3.w4, b.r3.w5, b.r4.w4, b.r4.w5,
      b.r5.w4, b.r5.w5, b.r6.w4, b.r6.w5, b.r7.w4, b.r7.w5⟩,
    ⟨b.r0.w6, b.r0.w7, b.r1.w6, b.r1.w7, b.r2.w6, b.r2.w7, b.r3.w6, b.r3.w7, b.r4.w6, b.r4.w7,
      b.r5.w6, b.r5.w7, b.r6.w6, b.r6.w7, b.r7.w6, b.r7.w7⟩,
    ⟨b.r0.w8, b.r0.w9, b.r1.w8, b.r1.w9, b.r2.w8, b.r2.w9, b.r3.w8, b.r3.w9, b.r4.w8, b.r4.w9,
      b.r5.w8, b.r5.w9, b.r6.w8, b.r6.w9, b.r7.w8, b.r7.w9⟩,
    ⟨b.r0.w10, b.r0.w11, b.r1.w10, b.r1.w11, b.r2.w10, b.r2.w11, b.r3.w10, b.r3.w11, b.r4.w10,
      b.r4.w11, b.r5.w10, b.r5.w11, b.r6.w10, b.r6.w11, b.r7.w10, b.r7.w11⟩,
    ⟨b.r0.w12, b.r0.w13, b.r1.w12, b.r1.w13, b.r2.w12, b.r2.w13, b.r3.w12, b.r3.w13, b.r4.w12,
      b.r4.w13, b.r5.w12, b.r5.w13, b.r6.w12, b.r6.w13, b.r7.w12, b.r7.w13⟩,
    ⟨b.r0.w14, b.r0.w15, b.r1.w14, b.r1.w15, b.r2.w14, b.r2.w15, b.r3.w14, b.r3.w15, b.r4.w14,
      b.r4.w15, b.r5.w14, b.r5.w15, b.r6.w14, b.r6.w15, b.r7.w14, b.r7.w15⟩⟩

/-- A sum that also multiplies the lower halves. -/
@[inline] def addMul (x y : UInt64) : UInt64 :=
  x + y + 2 * ((x &&& 0xffffffff) * (y &&& 0xffffffff))

/-- The mixing of four words. -/
@[inline] def quarter (q : Quad) : Quad :=
  let a := addMul q.a q.b
  let d := Sixteen.rotate (q.d ^^^ a) 32
  let c := addMul q.c d
  let b := Sixteen.rotate (q.b ^^^ c) 24
  let a := addMul a b
  let d := Sixteen.rotate (d ^^^ a) 16
  let c := addMul c d
  let b := Sixteen.rotate (b ^^^ c) 63
  ⟨a, b, c, d⟩

/-- The mixing of a row. -/
def mixRow (s : Sixteen) : Sixteen := s.mix fun _ q => quarter q

/-- The mixing of every row. -/
def mixRows (b : Block) : Block :=
  ⟨mixRow b.r0, mixRow b.r1, mixRow b.r2, mixRow b.r3, mixRow b.r4, mixRow b.r5, mixRow b.r6,
    mixRow b.r7⟩

/-- Mixes two blocks: their sum, mixed by rows and by columns, is added to itself. -/
def compress (b c : Block) : Block :=
  let sum := b.xor c
  (sum.mixRows.transpose.mixRows.transpose).xor sum

end Block

/-! ### Hashes around the memory -/

/-- A number as four bytes. -/
def word32 (n : Nat) : Bytes := Bytes.ofNatLittle 4 n

/-- A byte string with its length in front. -/
def counted (bytes : Bytes) : Bytes := word32 bytes.length ++ bytes

/-- Hashes chained until `size` bytes remain, of which half of each hash is given out. -/
def longHash (size : Nat) (link : Bytes) : Bytes :=
  if size ≤ 64 then Blake2b.hash size link
  else
    let next := Blake2b.hash 64 link
    next.take 32 ++ longHash (size - 32) next
termination_by size

/-- A hash of any length. -/
def variableHash (size : Nat) (message : Bytes) : Bytes := longHash size (word32 size ++ message)

/-- What is hashed besides the password. -/
structure Input where
  kind : Kind
  version : Version
  cost : Cost
  salt : Bytes
  associated : Bytes := []

/-- The hash of all inputs, from which the memory starts. -/
def Input.start (i : Input) (password : Bytes) : Bytes :=
  Blake2b.hash 64 (word32 i.cost.lanes ++ word32 i.cost.tagBytes ++ word32 i.cost.memory
    ++ word32 i.cost.passes ++ word32 i.version.number ++ word32 i.kind.number
    ++ counted password ++ counted i.salt ++ counted [] ++ counted i.associated)

/-! ### Filling the memory -/

/-- The blocks of all lanes, one lane after the other. -/
abbrev Memory := Array Block

/-- The place at which a segment is filled. -/
structure Position where
  pass : Nat
  slice : Nat
  lane : Nat

/-- The block at a place of a lane. -/
def blockAt (c : Cost) (m : Memory) (lane index : Nat) : Block :=
  m.getD (lane * c.laneLength + index) .zero

/-- The blocks of pseudo-random words for a segment whose places depend on the position. -/
def addressBlock (i : Input) (p : Position) (counter : Nat) : Block :=
  let seed := Block.ofWords ([p.pass, p.lane, p.slice, i.cost.blockCount, i.cost.passes,
    i.kind.number, counter].map UInt64.ofNat)
  Block.compress .zero (Block.compress .zero seed)

/-- The places of this segment depend on the position only. -/
def Input.byPosition (i : Input) (p : Position) : Bool :=
  match i.kind with
  | .byData => false
  | .byPosition => true
  | .mixed => p.pass == 0 && p.slice < 2

/-- How many blocks may be referred to from a place of a segment. -/
def window (c : Cost) (p : Position) (sameLane : Bool) (index : Nat) : Nat :=
  let finished := if p.pass = 0 then p.slice * c.segment else 3 * c.segment
  if sameLane then finished + index - 1
  else if index = 0 then finished - 1
  else finished

/--
The lane and place of the block to refer to, chosen by a pseudo-random word: the lower
half prefers recent blocks, the upper half chooses the lane.
-/
def reference (c : Cost) (p : Position) (index : Nat) (word : UInt64) : Nat × Nat :=
  let low := (word &&& 0xffffffff)
  let lane := if p.pass = 0 ∧ p.slice = 0 then p.lane else (word >>> 32).toNat % c.lanes
  let size := window c p (lane == p.lane) index
  let skewed := (low * low) >>> 32
  let back := ((UInt64.ofNat size * skewed) >>> 32).toNat
  let first := if p.pass = 0 then 0 else (p.slice + 1) * c.segment
  (lane, (first + (size - 1 - back)) % c.laneLength)

/-- Fills one block. -/
def fillBlock (i : Input) (p : Position) (addresses : Array UInt64) (index : Nat) (m : Memory) :
    Memory :=
  let c := i.cost
  let place := p.slice * c.segment + index
  let previous := blockAt c m p.lane ((place + c.laneLength - 1) % c.laneLength)
  let word := match addresses[index]? with
    | some w => w
    | none => previous.r0.w0
  let (lane, at_) := reference c p index word
  let new := Block.compress previous (blockAt c m lane at_)
  let new :=
    if p.pass > 0 ∧ i.version = .v19 then new.xor (blockAt c m p.lane place) else new
  m.setIfInBounds (p.lane * c.laneLength + place) new

/-- Fills the blocks of a segment from `index` on. -/
def fillBlocks (i : Input) (p : Position) (addresses : Array UInt64) :
    Nat → Nat → Memory → Memory
  | 0, _, m => m
  | count + 1, index, m =>
    fillBlocks i p addresses count (index + 1) (fillBlock i p addresses index m)

/-- Fills one segment; the first two blocks of a lane are there from the start. -/
def fillSegment (i : Input) (m : Memory) (p : Position) : Memory :=
  let size := i.cost.segment
  let addresses :=
    if i.byPosition p then
      ((List.range ((size + 127) / 128)).flatMap fun k => (addressBlock i p (k + 1)).words).toArray
    else #[]
  let first := if p.pass = 0 ∧ p.slice = 0 then 2 else 0
  fillBlocks i p addresses (size - first) first m

/-- The segments in the order in which they are filled. -/
def segments (c : Cost) : List Position :=
  (List.range c.passes).flatMap fun pass =>
    (List.range 4).flatMap fun slice => (List.range c.lanes).map fun lane => ⟨pass, slice, lane⟩

/-- The memory with the first two blocks of every lane. -/
def firstBlocks (i : Input) (password : Bytes) : Memory :=
  let start := i.start password
  let make (lane column : Nat) : Block :=
    .ofBytes (variableHash 1024 (start ++ word32 column ++ word32 lane))
  (List.range i.cost.lanes).foldl
    (fun m lane =>
      let at_ := lane * i.cost.laneLength
      (m.setIfInBounds at_ (make lane 0)).setIfInBounds (at_ + 1) (make lane 1))
    (Array.replicate i.cost.blockCount .zero)

/-- The hash of a password. -/
def hash (i : Input) (password : Bytes) : Bytes :=
  let m := (segments i.cost).foldl (fillSegment i) (firstBlocks i password)
  let last := (List.range i.cost.lanes).foldl
    (fun b lane => Block.xor b (blockAt i.cost m lane (i.cost.laneLength - 1))) Block.zero
  variableHash i.cost.tagBytes last.toBytes

end SessionAuth.Crypto.Argon2
