/-
User ids.

A user is known by 128 bits.  Inside the service they are written as 32 hexadecimal
digits; people write them with hyphens, in braces or as a name, in any letter case,
and all of these are read.
-/
import SessionAuth.Bytes.Basic
import SessionAuth.Text.Cut

namespace SessionAuth

/-- The identity of a user. -/
structure UserId where
  bits : BitVec 128
  deriving DecidableEq, Repr, Inhabited

namespace UserId

/-! ### Writing -/

/-- The 32 digits of an id. -/
def digits (id : UserId) : List Char := Bytes.toHexChars (Bytes.ofNat 16 id.bits.toNat)

/-- The id as 32 digits in lower case. -/
def toHex (id : UserId) : String := String.ofList id.digits

/-- The id in five groups of 8, 4, 4, 4 and 12 digits, joined by hyphens. -/
def toHyphenated (id : UserId) : String :=
  let ds := id.digits
  String.ofList (List.intercalate ['-']
    [ds.take 8, (ds.drop 8).take 4, (ds.drop 12).take 4, (ds.drop 16).take 4, ds.drop 20])

/-- The id as it shows in diagnostics. -/
def describe (id : UserId) : String := "Id(" ++ id.toHyphenated ++ ")"

/-- The version that the bits announce: the thirteenth digit. -/
def version (id : UserId) : Nat := (id.bits.toNat >>> 76) % 16

/-! ### Reading -/

/-- The id of exactly 32 digits. -/
def ofDigits? (text : List Char) : Option UserId :=
  if text.length = 32 then
    (Bytes.ofHexChars? text).map fun bytes => ⟨BitVec.ofNat 128 (Bytes.toNat bytes)⟩
  else none

/-- The id in five groups joined by hyphens. -/
def ofHyphenated? (text : List Char) : Option UserId :=
  if text.length = 36 ∧ [8, 13, 18, 23].all (fun i => text[i]? == some '-') then
    ofDigits? (text.filter (· != '-'))
  else none

/-- The prefix of an id written as a name. -/
def urnPrefix : List Char := ['u', 'r', 'n', ':', 'u', 'u', 'i', 'd', ':']

/-- The id of a text in any of the four forms; nothing may stand around it. -/
def parse? (text : String) : Option UserId :=
  let cs := text.toList
  match cs.length with
  | 32 => ofDigits? cs
  | 36 => ofHyphenated? cs
  | 38 => if cs.head? = some '\x7b' ∧ cs.getLast? = some '\x7d' then
      ofHyphenated? (cs.drop 1).dropLast else none
  | 45 => if Text.sameLetters (cs.take 9) urnPrefix then ofHyphenated? (cs.drop 9) else none
  | _ => none

/-! ### Drawing -/

/-- The random id made of 128 random bits: version 4, and the variant that goes with it. -/
def ofRandom (bits : BitVec 128) : UserId :=
  let kept : BitVec 128 := bits &&& 0xffffffffffff0fff3fffffffffffffff#128
  ⟨kept ||| 0x00000000000040008000000000000000#128⟩

end UserId

end SessionAuth
