/-
Percent-encoded bytes.

In addresses a byte may be written as a percent sign and two hexadecimal digits.  A
percent sign that no two digits follow stands for itself.
-/
import SessionAuth.Bytes.Basic
import SessionAuth.Text.Ranges

namespace SessionAuth.Bytes

/-- The value of a hexadecimal digit given by its byte. -/
def hexValue? (b : UInt8) : Option Nat := Text.hexDigit? (Char.ofNat b.toNat)

/-- The byte that two hexadecimal digits give. -/
def hexByte? (high low : UInt8) : Option UInt8 := do
  return UInt8.ofNat (16 * (← hexValue? high) + (← hexValue? low))

/-- The bytes that an encoded text stands for. -/
def percentDecode : Bytes → Bytes
  | a :: b :: c :: rest =>
    match (if a = 0x25 then hexByte? b c else none) with
    | some byte => byte :: percentDecode rest
    | none => a :: percentDecode (b :: c :: rest)
  | short => short

end SessionAuth.Bytes
