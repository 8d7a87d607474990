/-
The structure of a key.

Keys are nested lists of tagged values.  Before a key is used its structure is read
leniently, to learn what kind of key it is and where its material stands: tags and
lengths may be written in any way, and values with unknown tags are passed over.
-/
import SessionAuth.Bytes.Basic

namespace SessionAuth.Keys

/-- A tagged value, as far as its kind matters. -/
inductive Asn1
  | sequence (items : List Asn1)
  | bitString (bytes : Bytes)
  | octetString (bytes : Bytes)
  | objectId (arcs : List Nat)
  | other

namespace Asn1

/-! ### Tags and lengths -/

/-- A number in groups of seven bits; the last group has its top bit clear. -/
def base128 (n : Nat) : Bytes → Option (Nat × Bytes)
  | [] => none
  | b :: rest =>
    let n := 128 * n + b.toNat % 128
    if b.toNat < 128 then some (n, rest) else base128 n rest

/-- The tag of a value, and whether it is of the universal class and constructed. -/
structure Tag where
  number : Nat
  isUniversal : Bool
  isConstructed : Bool

/-- The tag at the front. -/
def tag : Bytes → Option (Tag × Bytes)
  | [] => none
  | b :: rest =>
    let make (number : Nat) : Tag :=
      ⟨number, b.toNat < 64, b.toNat / 32 % 2 = 1⟩
    if b.toNat % 32 = 31 then (base128 0 rest).map fun (number, rest) => (make number, rest)
    else some (make (b.toNat % 32), rest)

/-- The length at the front: one byte, or the number of bytes that give it. -/
def length : Bytes → Option (Nat × Bytes)
  | [] => none
  | b :: rest =>
    if b.toNat < 128 then some (b.toNat, rest)
    else
      let count := b.toNat - 128
      if count ≤ 8 ∧ count ≤ rest.length then
        some (Bytes.toNat (rest.take count), rest.drop count)
      else none

/-! ### Values -/

/-- The arcs of an object id behind the first byte. -/
def arcs : Nat → Bytes → Option (List Nat)
  | _, [] => some []
  | 0, _ => none
  | fuel + 1, bytes => do
    let (arc, rest) ← base128 0 bytes
    return arc :: (← arcs fuel rest)

/-- The object id of a value: its first byte holds two arcs. -/
def objectId? : Bytes → Option (List Nat)
  | [] => none
  | first :: rest => do
    let n := first.toNat
    let head := if n < 40 then [0, n] else if n < 80 then [1, n - 40] else [2, n - 80]
    return head ++ (← arcs rest.length rest)

/-- The characters of a printable string. -/
def isPrintable (b : UInt8) : Bool :=
  let c := Char.ofNat b.toNat
  c.isAlphanum || c ∈ [' ', '\'', '(', ')', '+', ',', '-', '.', '/', ':', '=', '?']

/-- The value of the decimal digits at the front of a text, of which there must be `count`. -/
def decimal? (count : Nat) (text : Bytes) : Option (Nat × Bytes) :=
  let ds := text.take count
  if ds.length = count ∧ ds.all isDigit then
    some (ds.foldl (fun n b => 10 * n + (b.toNat - 48)) 0, text.drop count)
  else none
where
  /-- A byte that is a decimal digit. -/
  isDigit (b : UInt8) : Bool := 0x30 ≤ b && b ≤ 0x39

/-- The number of days of a month. -/
def daysIn (year month : Nat) : Nat :=
  if month = 2 then
    if year % 4 = 0 ∧ (year % 100 ≠ 0 ∨ year % 400 = 0) then 29 else 28
  else if month ∈ [4, 6, 9, 11] then 30 else 31

/-- What follows a year, a month, a day and a time of day that go together. -/
def afterMoment? (year : Nat) (text : Bytes) : Option Bytes := do
  let (month, text) ← decimal? 2 text
  let (day, text) ← decimal? 2 text
  let (hour, text) ← decimal? 2 text
  let (minute, text) ← decimal? 2 text
  let (second, text) ← decimal? 2 text
  if 1 ≤ month ∧ month ≤ 12 ∧ 1 ≤ day ∧ day ≤ daysIn year month ∧ hour < 24 ∧ minute < 60
      ∧ second < 60 then
    return text
  else none

/-- The letter that ends a moment in universal time. -/
def zulu : Bytes := [0x5a]

/-- A moment with a year of two digits: one of the hundred years from 1950 on. -/
def isShortMoment (text : Bytes) : Bool :=
  match decimal? 2 text with
  | some (yy, rest) =>
    afterMoment? (if yy < 50 then 2000 + yy else 1900 + yy) rest == some zulu
  | none => false

/--
A moment in full form.  Without a point the fraction of the second begins behind the
fourteenth byte; zeros before the last byte fill the text up to nine places.
-/
def withFraction (text : Bytes) : Bytes :=
  let text := if text.contains 0x2e then text else text.take 14 ++ 0x2e :: text.drop 14
  text.dropLast ++ List.replicate (25 - text.length) 0x30 ++ text.drop (text.length - 1)

/-- A moment with a year of four digits, which may have a sign, and a fraction of a second. -/
def isLongMoment (text : Bytes) : Bool :=
  let full := withFraction text
  let unsigned :=
    match full with
    | sign :: rest => if sign = 0x2b ∨ sign = 0x2d then rest else full
    | [] => []
  let fraction? := do
    let (year, rest) ← decimal? 4 unsigned
    afterMoment? year rest
  match fraction? with
  | some (point :: first :: rest) =>
    15 ≤ text.length && point == 0x2e && decimal?.isDigit first
      && rest.dropWhile decimal?.isDigit == zulu
  | _ => false

/-- A value that holds no others. -/
def primitive (number : Nat) (body : Bytes) : Option Asn1 :=
  match number with
  | 0x01 => if body.length = 1 then some other else none
  | 0x03 =>
    match body with
    | [] => some (bitString [])
    | unused :: bits => if unused.toNat ≤ 8 * bits.length then some (bitString bits) else none
  | 0x04 => some (octetString body)
  | 0x06 => (objectId? body).map objectId
  | 0x0c | 0x14 | 0x1c | 0x1e => (Bytes.toText? body).map fun _ => other
  | 0x13 => if body.all isPrintable then some other else none
  | 0x17 => if isShortMoment body then some other else none
  | 0x18 => if isLongMoment body then some other else none
  | _ => some other

/-- All values of a byte string, of which there must be at least one. -/
def parseAll : Nat → Bytes → Option (List Asn1)
  | 0, _ => none
  | fuel + 1, bytes => do
    let (tag, rest) ← tag bytes
    let (size, rest) ← length rest
    if size ≤ rest.length then
      let body := rest.take size
      let value ←
        if !tag.isUniversal then pure other
        else if tag.number = 0x10 then (parseAll fuel body).map sequence
        else if tag.number = 0x11 then (parseAll fuel body).map fun _ => other
        else primitive tag.number body
      match rest.drop size with
      | [] => return [value]
      | more => return value :: (← parseAll fuel more)
    else none

/-- The values that a key consists of. -/
def parse? (bytes : Bytes) : Option (List Asn1) := parseAll (bytes.length + 1) bytes

/-! ### Looking inside -/

mutual

/-- The first value in a sequence, at any depth, for which the test gives a result. -/
def findIn? {α : Type} (test : Asn1 → Option α) : List Asn1 → Option α
  | [] => none
  | item :: more =>
    match find? test item with
    | some a => some a
    | none => findIn? test more

/-- The result of the test on a value, or on the first value inside. -/
def find? {α : Type} (test : Asn1 → Option α) : Asn1 → Option α
  | sequence items => findIn? test items
  | item => test item

end

end Asn1

end SessionAuth.Keys
