/-
Reading the digits of a user id.

Ids go into tokens and into the keys of the cache as 32 digits.  The digits are read back
as the same id; so no two users share a list, and a token names the user it was made for.
-/
import SessionAuth.UserId
import Mathlib.Algebra.Ring.Nat

namespace SessionAuth

namespace Bytes

/-! ### Digits -/

theorem hexDigit?_hexDigit {n : Nat} (h : n < 16) : Text.hexDigit? (hexDigit n) = some n := by
  have hall : ∀ k < 16, Text.hexDigit? (hexDigit k) = some k := by decide
  exact hall n h

theorem ofHexChars?_toHexChars (bytes : Bytes) : ofHexChars? (toHexChars bytes) = some bytes := by
  induction bytes with
  | nil => rfl
  | cons b rest ih =>
    have hb := b.toNat_lt
    have hwhole : UInt8.ofNat (16 * (b.toNat / 16) + b.toNat % 16) = b := by
      rw [Nat.div_add_mod]
      exact UInt8.ofNat_toNat
    have hchars : toHexChars (b :: rest) =
        hexDigit (b.toNat / 16) :: hexDigit (b.toNat % 16) :: toHexChars rest := rfl
    rw [hchars, ofHexChars?, hexDigit?_hexDigit (by omega), hexDigit?_hexDigit (by omega), ih]
    simp only [hwhole]

theorem length_toHexChars (bytes : Bytes) : (toHexChars bytes).length = 2 * bytes.length := by
  induction bytes with
  | nil => rfl
  | cons b rest ih =>
    show (toHexChars rest).length + 2 = _
    rw [ih, List.length_cons]
    omega

/-! ### Numbers -/

theorem toNat_append_singleton (bytes : Bytes) (b : UInt8) :
    toNat (bytes ++ [b]) = 256 * toNat bytes + b.toNat := by
  simp [toNat]

/-- The bytes of a number give the number, as far as they reach. -/
theorem toNat_ofNat (count n : Nat) : toNat (ofNat count n) = n % 256 ^ count := by
  induction count generalizing n with
  | zero => simp [ofNat, toNat, Nat.mod_one]
  | succ count ih =>
    have hlast : (UInt8.ofNat (n % 256)).toNat = n % 256 := by
      rw [UInt8.toNat_ofNat']
      exact Nat.mod_eq_of_lt (Nat.mod_lt _ (by decide))
    rw [ofNat, toNat_append_singleton, ih, hlast, Nat.pow_succ, Nat.mul_comm (256 ^ count),
      Nat.mod_mul]
    omega

end Bytes

namespace UserId

theorem length_digits (id : UserId) : id.digits.length = 32 := by
  rw [digits, Bytes.length_toHexChars, Bytes.length_ofNat]

theorem ofDigits?_digits (id : UserId) : ofDigits? id.digits = some id := by
  have hbits : id.bits.toNat % 256 ^ 16 = id.bits.toNat := Nat.mod_eq_of_lt id.bits.isLt
  unfold ofDigits?
  rw [if_pos id.length_digits, digits, Bytes.ofHexChars?_toHexChars, Option.map_some,
    Bytes.toNat_ofNat, hbits, BitVec.ofNat_toNat, BitVec.setWidth_eq]

/-- The digits of an id are read as the id. -/
theorem parse?_toHex (id : UserId) : parse? id.toHex = some id := by
  have hchars : id.toHex.toList = id.digits := String.toList_ofList
  unfold parse?
  simp only [hchars, length_digits]
  exact ofDigits?_digits id

/-- Two users have different digits. -/
theorem toHex_inj {a b : UserId} (h : a.toHex = b.toHex) : a = b := by
  have hparse := parse?_toHex a
  rw [h, parse?_toHex] at hparse
  exact (Option.some.inj hparse).symm

end UserId

end SessionAuth
