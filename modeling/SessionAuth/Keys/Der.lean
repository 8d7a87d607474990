/-
Strictly encoded values.

Key material is taken from its encoding only if the encoding is the one and only form:
tags in one byte, lengths in the shortest form and below 65536, numbers without a sign
and without superfluous zeros.
-/
import SessionAuth.Bytes.Basic

namespace SessionAuth.Keys.Der

/-- A reader takes a value off the front of the bytes, or fails. -/
abbrev Reader (α : Type) := Bytes → Option (α × Bytes)

/-- The tags in use. -/
def integerTag : UInt8 := 0x02
def bitStringTag : UInt8 := 0x03
def octetStringTag : UInt8 := 0x04
def sequenceTag : UInt8 := 0x30
def context0Tag : UInt8 := 0xa0
def context1Tag : UInt8 := 0xa1
def implicit1Tag : UInt8 := 0x81

/-- The length at the front. -/
def length : Reader Nat
  | [] => none
  | b :: rest =>
    if b < 0x80 then some (b.toNat, rest)
    else if b = 0x81 then
      match rest with
      | n :: rest => if n ≥ 0x80 then some (n.toNat, rest) else none
      | [] => none
    else if b = 0x82 then
      match rest with
      | h :: l :: rest =>
        let n := 256 * h.toNat + l.toNat
        if n ≥ 256 then some (n, rest) else none
      | _ => none
    else none

/-- The body of a value with a given tag. -/
def value (tag : UInt8) : Reader Bytes
  | [] => none
  | b :: rest => do
    let (n, rest) ← length rest
    if b = tag ∧ n ≤ rest.length then return (rest.take n, rest.drop n) else none

/-- A number that is not negative. -/
def natural : Reader Nat := fun bytes => do
  let (body, rest) ← value integerTag bytes
  match body with
  | [] => none
  | [b] => if b < 0x80 then return (b.toNat, rest) else none
  | a :: b :: _ =>
    if a < 0x80 ∧ (a ≠ 0 ∨ b ≥ 0x80) then return (Bytes.toNat body, rest) else none

/-- A number that fits one byte. -/
def small : Reader Nat := fun bytes => do
  let (n, rest) ← natural bytes
  if n < 256 then return (n, rest) else none

/-- The bytes of a bit string, under the given tag, without unused bits. -/
def wholeBits (tag : UInt8) : Reader Bytes := fun bytes => do
  let (body, rest) ← value tag bytes
  match body with
  | 0 :: bits => return (bits, rest)
  | _ => none

/-- A value that must fill the bytes. -/
def all (reader : Reader α) (bytes : Bytes) : Option α :=
  match reader bytes with
  | some (a, []) => some a
  | _ => none

/-- A value that must fill the body of another. -/
def nested (tag : UInt8) (reader : Reader α) : Reader α := fun bytes => do
  let (body, rest) ← value tag bytes
  return (← all reader body, rest)

end SessionAuth.Keys.Der
