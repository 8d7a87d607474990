/-
Byte strings.

Keys, digests, signatures, headers and bodies are byte strings.  They are plain lists
of bytes, so that the laws of lists apply to them; this file adds the passage from and
to text, numbers written in bytes, hexadecimal, and a comparison whose running time
does not depend on where two strings differ.
-/
import SessionAuth.Text.Ranges

namespace SessionAuth

/-- A byte string. -/
abbrev Bytes := List UInt8

namespace Bytes

/-! ### Text -/

/-- The UTF-8 form of a text. -/
def ofText (text : String) : Bytes := text.toUTF8.data.toList

/-- The text whose UTF-8 form the bytes are, when there is one. -/
def toText? (bytes : Bytes) : Option String := String.fromUTF8? ⟨bytes.toArray⟩

/-! ### Hexadecimal -/

/-- The digit of a number below sixteen, in lower case. -/
def hexDigit (n : Nat) : Char :=
  if n < 10 then Char.ofNat ('0'.toNat + n) else Char.ofNat ('a'.toNat + (n - 10))

/-- Two digits for every byte, in lower case. -/
def toHexChars (bytes : Bytes) : List Char :=
  bytes.flatMap fun b => [hexDigit (b.toNat / 16), hexDigit (b.toNat % 16)]

/-- The bytes in hexadecimal. -/
def toHex (bytes : Bytes) : String := String.ofList (toHexChars bytes)

/-- The bytes of a text of hexadecimal digits, two to a byte. -/
def ofHexChars? : List Char → Option Bytes
  | [] => some []
  | [_] => none
  | a :: b :: rest =>
    match Text.hexDigit? a, Text.hexDigit? b, ofHexChars? rest with
    | some high, some low, some bytes => some (UInt8.ofNat (16 * high + low) :: bytes)
    | _, _, _ => none

/-- The bytes that a text gives in hexadecimal. -/
def ofHex? (text : String) : Option Bytes := ofHexChars? text.toList

/-! ### Numbers -/

/-- The number that the bytes write, most significant byte first. -/
def toNat (bytes : Bytes) : Nat := bytes.foldl (fun n b => 256 * n + b.toNat) 0

/-- The last `count` bytes of a number, most significant first. -/
def ofNat : Nat → Nat → Bytes
  | 0, _ => []
  | count + 1, n => ofNat count (n / 256) ++ [UInt8.ofNat (n % 256)]

/-- The last `count` bytes of a number, least significant first. -/
def ofNatLittle : Nat → Nat → Bytes
  | 0, _ => []
  | count + 1, n => UInt8.ofNat (n % 256) :: ofNatLittle count (n / 256)

/-- The number that the bytes write, least significant byte first. -/
def toNatLittle : Bytes → Nat
  | [] => 0
  | b :: rest => b.toNat + 256 * toNatLittle rest

@[simp] theorem length_ofNat (count n : Nat) : (ofNat count n).length = count := by
  induction count generalizing n with
  | zero => rfl
  | succ count ih => simp [ofNat, ih]

@[simp] theorem length_ofNatLittle (count n : Nat) : (ofNatLittle count n).length = count := by
  induction count generalizing n with
  | zero => rfl
  | succ count ih => simp [ofNatLittle, ih]

/-! ### Blocks -/

/-- The consecutive blocks of `size` bytes; the last one may be shorter. -/
def blocks (size : Nat) (bytes : Bytes) : List Bytes :=
  if size = 0 ∨ bytes.length = 0 then []
  else bytes.take size :: blocks size (bytes.drop size)
termination_by bytes.length
decreasing_by simp only [List.length_drop]; omega

/-- Byte by byte exclusive or; the longer string is cut to the shorter. -/
def xor (a b : Bytes) : Bytes := List.zipWith (· ^^^ ·) a b

/-! ### Comparison -/

/--
Equality that looks at every byte: the differences of all pairs are gathered before
the result is known.  Only the lengths may end it early.
-/
def sameAs (a b : Bytes) : Bool :=
  a.length == b.length && (List.zipWith (· ^^^ ·) a b).foldl (· ||| ·) 0 == 0

/-- The difference of two bytes is zero for equal bytes only. -/
theorem xor_eq_zero_iff {a b : UInt8} : a ^^^ b = 0 ↔ a = b := by
  constructor
  · intro h
    have : (a ^^^ b) ^^^ b = 0 ^^^ b := by rw [h]
    simpa [UInt8.xor_assoc] using this
  · rintro rfl
    simp

/-- Gathered differences are zero when there was nothing before and every difference is zero. -/
theorem foldl_or_eq_zero_iff (ds : List UInt8) (start : UInt8) :
    ds.foldl (· ||| ·) start = 0 ↔ start = 0 ∧ ∀ d ∈ ds, d = 0 := by
  induction ds generalizing start with
  | nil => simp
  | cons d ds ih =>
    rw [List.foldl_cons, ih]
    simp [UInt8.or_eq_zero_iff, and_assoc]

/-- The comparison decides equality. -/
theorem sameAs_iff {a b : Bytes} : sameAs a b = true ↔ a = b := by
  simp only [sameAs, Bool.and_eq_true, beq_iff_eq, foldl_or_eq_zero_iff, true_and]
  induction a generalizing b with
  | nil => cases b <;> simp
  | cons x xs ih =>
    cases b with
    | nil => simp
    | cons y ys =>
      have := ih (b := ys)
      simp only [List.length_cons, Nat.add_right_cancel_iff, List.zipWith_cons_cons,
        List.mem_cons, forall_eq_or_imp, xor_eq_zero_iff, List.cons.injEq, ← this]
      constructor
      · rintro ⟨hlen, hxy, hrest⟩
        exact ⟨hxy, hlen, hrest⟩
      · rintro ⟨hxy, hlen, hrest⟩
        exact ⟨hlen, hxy, hrest⟩

end Bytes

end SessionAuth
