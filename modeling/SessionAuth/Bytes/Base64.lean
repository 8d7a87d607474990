/-
Base64.

Three bytes are written as four characters of six bits each.  Two variants are in
use: keys in the settings and in key files are in the standard alphabet and padded to
a multiple of four characters, the parts of a token are in the alphabet that is safe
in addresses and carry no padding.  Reading accepts only what writing produces: the
padding must be exact and the bits that belong to no byte must be zero.
-/
import SessionAuth.Bytes.Basic

namespace SessionAuth.Base64

/-- The two characters that variants disagree on, and whether they pad. -/
structure Variant where
  char62 : Char
  char63 : Char
  padded : Bool
  deriving DecidableEq, Repr

/-- The variant of settings and key files. -/
def standard : Variant := ⟨'+', '/', true⟩

/-- The variant of tokens. -/
def urlSafe : Variant := ⟨'-', '_', false⟩

/-! ### Six bits -/

/-- The character for a number below 64. -/
def digit (v : Variant) (n : Nat) : Char :=
  if n < 26 then Char.ofNat ('A'.toNat + n)
  else if n < 52 then Char.ofNat ('a'.toNat + (n - 26))
  else if n < 62 then Char.ofNat ('0'.toNat + (n - 52))
  else if n = 62 then v.char62
  else v.char63

/-- The number that a character stands for. -/
def value? (v : Variant) (c : Char) : Option Nat :=
  if 'A' ≤ c ∧ c ≤ 'Z' then some (c.toNat - 'A'.toNat)
  else if 'a' ≤ c ∧ c ≤ 'z' then some (c.toNat - 'a'.toNat + 26)
  else if '0' ≤ c ∧ c ≤ '9' then some (c.toNat - '0'.toNat + 52)
  else if c = v.char62 then some 62
  else if c = v.char63 then some 63
  else none

/-! ### Writing -/

/-- The padding after a last group of `used` characters. -/
def padding (v : Variant) (used : Nat) : List Char :=
  if v.padded then List.replicate (4 - used) '=' else []

/-- The characters of a byte string. -/
def encodeChars (v : Variant) : Bytes → List Char
  | a :: b :: c :: rest =>
    digit v (a.toNat / 4) :: digit v (a.toNat % 4 * 16 + b.toNat / 16) ::
      digit v (b.toNat % 16 * 4 + c.toNat / 64) :: digit v (c.toNat % 64) :: encodeChars v rest
  | [a, b] =>
    [digit v (a.toNat / 4), digit v (a.toNat % 4 * 16 + b.toNat / 16),
      digit v (b.toNat % 16 * 4)] ++ padding v 3
  | [a] => [digit v (a.toNat / 4), digit v (a.toNat % 4 * 16)] ++ padding v 2
  | [] => []

/-- The text of a byte string. -/
def encode (v : Variant) (bytes : Bytes) : String := String.ofList (encodeChars v bytes)

/-! ### Reading -/

/-- One byte from a last group of two characters, whose four spare bits must be zero. -/
def lastOne? (v : Variant) (w x : Char) : Option Bytes :=
  match value? v w, value? v x with
  | some a, some b => if b % 16 = 0 then some [UInt8.ofNat (a * 4 + b / 16)] else none
  | _, _ => none

/-- Two bytes from a last group of three characters, whose two spare bits must be zero. -/
def lastTwo? (v : Variant) (w x y : Char) : Option Bytes :=
  match value? v w, value? v x, value? v y with
  | some a, some b, some c =>
    if c % 4 = 0 then some [UInt8.ofNat (a * 4 + b / 16), UInt8.ofNat (b % 16 * 16 + c / 4)]
    else none
  | _, _, _ => none

/-- Three bytes from four characters. -/
def group? (v : Variant) (w x y z : Char) : Option Bytes :=
  match value? v w, value? v x, value? v y, value? v z with
  | some a, some b, some c, some d =>
    some [UInt8.ofNat (a * 4 + b / 16), UInt8.ofNat (b % 16 * 16 + c / 4),
      UInt8.ofNat (c % 4 * 64 + d)]
  | _, _, _, _ => none

/-- The bytes of a text of base64 characters. -/
def decodeChars? (v : Variant) : List Char → Option Bytes
  | [] => some []
  | [_] => none
  | [w, x] => if v.padded then none else lastOne? v w x
  | [w, x, y] => if v.padded then none else lastTwo? v w x y
  | w :: x :: y :: z :: rest =>
    if v.padded && rest.isEmpty && z == '=' then
      if y == '=' then lastOne? v w x else lastTwo? v w x y
    else
      match group? v w x y z, decodeChars? v rest with
      | some bytes, some more => some (bytes ++ more)
      | _, _ => none

/-- The bytes that a text gives in base64. -/
def decode? (v : Variant) (text : String) : Option Bytes := decodeChars? v text.toList

end SessionAuth.Base64
