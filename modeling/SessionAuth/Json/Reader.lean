/-
Reading JSON.

Requests and tokens are read in one pass over their bytes, so the first thing that is
wrong decides what is reported: the text is malformed, or it is well formed so far and
a value does not fit what is wanted there.  A reader that stops also says where, since
one of its users goes on from that place.

Values that nobody asked for are only checked for their form: how deep they nest,
which characters their strings hold and how large their numbers are does not matter.
-/
import SessionAuth.Bytes.Basic
import SessionAuth.Limit

namespace SessionAuth.Json

/-! ### Readers -/

/-- Why reading stopped: the text is no JSON, or a value is not the one wanted. -/
inductive Fault
  | malformed
  | unfit
  deriving DecidableEq, Repr

/-- Why reading stopped, and the bytes that are left. -/
structure Stop where
  fault : Fault
  rest : Bytes
  deriving DecidableEq, Repr

/-- A reader takes a value off the front of the bytes. -/
abbrev Reader := StateT Bytes (Except Stop)

namespace Reader

/-- Stops here. -/
def stop (fault : Fault) : Reader α := fun bytes => .error ⟨fault, bytes⟩

/-- The bytes that are left. -/
def rest : Reader Bytes := get

/-- The result of a reader, or the reason why it stopped. -/
def run? (reader : Reader α) (bytes : Bytes) : Except Fault α :=
  match reader bytes with
  | .ok (value, _) => .ok value
  | .error s => .error s.fault

/-- Goes on where a reader stopped, without its value. -/
def attempt (reader : Reader α) : Reader (Option α) := fun bytes =>
  match reader bytes with
  | .ok (value, rest) => .ok (some value, rest)
  | .error s => .ok (none, s.rest)

/--
Runs the closing reader after a body even if the body stopped.  The body's reason to
stop counts before that of the closing.
-/
def closing (finish : Reader Unit) (body : Reader α) : Reader α := fun bytes =>
  match body bytes with
  | .ok (value, rest) =>
    match finish rest with
    | .ok (_, rest) => .ok (value, rest)
    | .error s => .error s
  | .error s =>
    match finish s.rest with
    | .ok (_, rest) => .error ⟨s.fault, rest⟩
    | .error t => .error ⟨s.fault, t.rest⟩

end Reader

open Reader

/-! ### Bytes and words -/

/-- The byte of an ASCII character. -/
def code (c : Char) : UInt8 := UInt8.ofNat c.toNat

/-- The bytes that may stand between values. -/
def isSpace (b : UInt8) : Bool :=
  b == 0x20 || b == 0x0a || b == 0x09 || b == 0x0d

/-- The first byte that is no space, left in place; nothing at the end. -/
def peek? : Reader (Option UInt8) := fun bytes =>
  let rest := bytes.dropWhile isSpace
  .ok (rest.head?, rest)

/-- The first byte that is no space, left in place. -/
def peek : Reader UInt8 := do
  match ← peek? with
  | some b => return b
  | none => stop .malformed

/-- Drops one byte. -/
def drop : Reader Unit := fun bytes => .ok ((), bytes.tail)

/-- Takes the bytes of a word that must stand here. -/
def word : List Char → Reader Unit
  | [] => pure ()
  | c :: more => do
    match ← rest with
    | b :: after =>
      set after
      if b = code c then word more else stop .malformed
    | [] => stop .malformed

/-- Takes a byte that must come next, spaces left out of account. -/
def expect (c : Char) : Reader Unit := do
  if (← peek) = code c then drop else stop .malformed

/-! ### Strings -/

/-- Four hexadecimal digits. -/
def hex4 : Reader Nat := do
  match ← rest with
  | a :: b :: c :: d :: after =>
    let digit (b : UInt8) := Text.hexDigit? (Char.ofNat b.toNat)
    match digit a, digit b, digit c, digit d with
    | some a, some b, some c, some d =>
      set after
      return ((a * 16 + b) * 16 + c) * 16 + d
    | _, _, _, _ => stop .malformed
  | _ => stop .malformed

/-- The bytes of a character given by its code point. -/
def utf8 (n : Nat) : Bytes := Bytes.ofText (String.singleton (Char.ofNat n))

/-- The first byte, dropped, must be this one; otherwise it is dropped all the same. -/
def exactly (c : Char) : Reader Unit := do
  match ← rest with
  | b :: after =>
    set after
    if b = code c then pure () else stop .malformed
  | [] => stop .malformed

/--
A code point after `\u`.  The first half of a surrogate pair must be followed by its
second half, and a second half must not come first.
-/
def unicodeEscape : Reader Bytes := do
  let n ← hex4
  if 0xdc00 ≤ n ∧ n ≤ 0xdfff then stop .malformed
  else if n < 0xd800 ∨ 0xdbff < n then return utf8 n
  else
    exactly '\\'
    exactly 'u'
    let m ← hex4
    if m < 0xdc00 ∨ 0xdfff < m then stop .malformed
    else return utf8 ((n - 0xd800) * 0x400 + (m - 0xdc00) + 0x10000)

/-- The byte that a letter after a backslash stands for. -/
def letterEscape? (b : UInt8) : Option UInt8 :=
  if b = code '"' ∨ b = code '\\' ∨ b = code '/' then some b
  else if b = code 'b' then some 0x08
  else if b = code 'f' then some 0x0c
  else if b = code 'n' then some 0x0a
  else if b = code 'r' then some 0x0d
  else if b = code 't' then some 0x09
  else none

/-- What stands after a backslash. -/
def escapeSequence : Reader Bytes := do
  match ← rest with
  | [] => stop .malformed
  | b :: after =>
    set after
    if b = code 'u' then unicodeEscape
    else
      match letterEscape? b with
      | some c => return [c]
      | none => stop .malformed

/-- The bytes of a string up to its closing quote; `done` holds the earlier ones, reversed. -/
def stringBytes : Nat → Bytes → Reader Bytes
  | 0, _ => stop .malformed
  | fuel + 1, done => do
    match ← rest with
    | [] => stop .malformed
    | b :: after =>
      set after
      if b = code '"' then return done.reverse
      else if b = code '\\' then
        let bytes ← escapeSequence
        stringBytes fuel (bytes.reverse ++ done)
      else if b < 0x20 then stop .malformed
      else stringBytes fuel (b :: done)

/-- The rest of a string whose opening quote has been taken. -/
def stringBody : Reader String := do
  let bytes ← stringBytes ((← rest).length + 1) []
  match Bytes.toText? bytes with
  | some text => return text
  | none => stop .malformed

/-- The rest of a string that nobody asked for. -/
def skipString : Nat → Reader Unit
  | 0 => stop .malformed
  | fuel + 1 => do
    match ← rest with
    | [] => stop .malformed
    | b :: after =>
      set after
      if b = code '"' then return ()
      else if b = code '\\' then
        match after with
        | [] => stop .malformed
        | e :: after =>
          set after
          if e = code 'u' then
            let _ ← hex4
            skipString fuel
          else if (letterEscape? e).isSome then skipString fuel
          else stop .malformed
      else if b < 0x20 then stop .malformed
      else skipString fuel

/-! ### Numbers -/

/-- A number as read: a whole number that fits 64 bits, or any other. -/
inductive Number
  | whole (n : Int)
  | other
  deriving DecidableEq, Repr

/-- The byte is a decimal digit. -/
def isDigit (b : UInt8) : Bool := code '0' ≤ b && b ≤ code '9'

/-- The value of a digit. -/
def digitValue (b : UInt8) : Nat := b.toNat - 48

/-- Takes the digits at the front. -/
def digits : Reader Bytes := fun bytes =>
  .ok (bytes.takeWhile isDigit, bytes.dropWhile isDigit)

/--
A number of at most 53 significant bits next to `n`; of two that are equally near, the
one with an even last bit.
-/
def nearest53 (n : Nat) : Nat :=
  let extra := n.log2 + 1 - 53
  let unit := 1 <<< extra
  let low := n % unit
  let down := n / unit
  let up := if 2 * low > unit ∨ (2 * low = unit ∧ down % 2 = 1) then down + 1 else down
  up * unit

/-- The first number that rounds beyond the range of floating point. -/
def firstInfinite : Nat := (1 <<< 1024) - (1 <<< 970)

/-- The product of the number and the power of ten is beyond the range of floating point. -/
def isInfinite (significand exponent : Nat) : Bool :=
  significand != 0 &&
    (exponent > 308 || nearest53 significand * nearest53 (Nat.pow 10 exponent) ≥ firstInfinite)

/-- The end of a number with a point or an exponent: its size must be within range. -/
def finishOther (significand : Nat) (exponent : Int) : Reader Number :=
  if 0 ≤ exponent ∧ isInfinite significand exponent.toNat then stop .malformed
  else return .other

/--
The digits of an exponent beyond the first.  Past 31 bits a positive exponent stops
the reader right behind the digit, unless there is nothing to scale.
-/
def exponentDigits (zero negative : Bool) : Nat → Nat → Reader (Option Nat)
  | 0, _ => stop .malformed
  | fuel + 1, exponent => do
    match ← rest with
    | b :: after =>
      if isDigit b then
        set after
        let next := 10 * exponent + digitValue b
        if next ≥ limit31 then
          if !zero && !negative then stop .malformed
          else
            let _ ← digits
            return none
        else exponentDigits zero negative fuel next
      else return some exponent
    | [] => return some exponent

/-- An exponent, from its letter on. -/
def exponentPart (significand : Nat) (start : Int) : Reader Number := do
  drop
  let negative ← do
    match ← rest with
    | b :: _ =>
      if b = code '+' then
        drop
        pure false
      else if b = code '-' then
        drop
        pure true
      else pure false
    | [] => pure false
  match ← rest with
  | b :: after =>
    set after
    if isDigit b then
      match ← exponentDigits (significand == 0) negative ((← rest).length + 1) (digitValue b) with
      | none => return .other
      | some e => finishOther significand (if negative then start - e else start + e)
    else stop .malformed
  | [] => stop .malformed

/-- What may follow the digits of a number that is not whole: an exponent or its end. -/
def afterDigits (significand : Nat) (exponent : Int) : Reader Number := do
  match ← rest with
  | b :: _ =>
    if b = code 'e' ∨ b = code 'E' then exponentPart significand exponent
    else finishOther significand exponent
  | [] => finishOther significand exponent

/-- Adds digits to a number as long as it fits 64 bits; says how many were added. -/
def accumulate (significand : Nat) (ds : Bytes) : Nat × Nat :=
  ds.foldl
    (fun (state : (Nat × Nat) × Bool) d =>
      let next := 10 * state.1.1 + digitValue d
      if state.2 || next ≥ limit64 then (state.1, true) else ((next, state.1.2 + 1), false))
    ((significand, 0), false) |>.1

/-- The digits after a point, from the point on. -/
def decimalPart (significand : Nat) (exponent : Int) : Reader Number := do
  drop
  let ds ← digits
  if ds.isEmpty then stop .malformed
  else
    let (significand, used) := accumulate significand ds
    afterDigits significand (exponent - used)

/-- A number without its sign. -/
def unsignedNumber (negative : Bool) : Reader Number := do
  let ds ← digits
  match ds with
  | [] => stop .malformed
  | first :: more =>
    if first = code '0' ∧ more ≠ [] then stop .malformed
    else
      let (significand, used) := accumulate 0 ds
      let skipped : Int := ds.length - used
      match ← rest with
      | b :: _ =>
        if b = code '.' then decimalPart significand skipped
        else if b = code 'e' ∨ b = code 'E' then exponentPart significand skipped
        else finish significand skipped
      | [] => finish significand skipped
where
  /-- A number that ends after its first digits. -/
  finish (significand : Nat) (skipped : Int) : Reader Number :=
    if skipped ≠ 0 then finishOther significand skipped
    else if !negative then return .whole significand
    else if 0 < significand ∧ significand ≤ limit63 then return .whole (-significand)
    else return .other

/-- A number. -/
def number : Reader Number := do
  if (← peek) = code '-' then
    drop
    unsignedNumber true
  else unsignedNumber false

/-- A number that nobody asked for. -/
def skipNumber : Reader Unit := do
  if (← peek) = code '-' then drop
  match ← digits with
  | [] => stop .malformed
  | first :: more =>
    if first = code '0' ∧ more ≠ [] then stop .malformed
    if (← rest).head? = some (code '.') then
      drop
      if (← digits).isEmpty then stop .malformed
    if (← rest).head? = some (code 'e') ∨ (← rest).head? = some (code 'E') then
      drop
      if (← rest).head? = some (code '+') ∨ (← rest).head? = some (code '-') then drop
      if (← digits).isEmpty then stop .malformed

/-! ### Values that nobody asked for -/

/-- An open bracket. -/
inductive Bracket
  | list
  | object
  deriving DecidableEq, Repr

/-- The key of a member that nobody asked for, and the colon behind it. -/
def skipKey : Reader Unit := do
  expect '"'
  skipString ((← rest).length + 1)
  expect ':'

/-- A value that opens no bracket. -/
def skipScalar : Reader Unit := do
  let b ← peek
  if b = code '"' then
    drop
    skipString ((← rest).length + 1)
  else if b = code 'n' then word ['n', 'u', 'l', 'l']
  else if b = code 't' then word ['t', 'r', 'u', 'e']
  else if b = code 'f' then word ['f', 'a', 'l', 's', 'e']
  else if b = code '-' ∨ isDigit b then skipNumber
  else stop .malformed

mutual

/-- Skips a value; `nest` holds the brackets that are open around it, innermost first. -/
def skipFrom : Nat → List Bracket → Reader Unit
  | 0, _ => stop .malformed
  | fuel + 1, nest => do
    let b ← peek
    if b = code '[' then
      drop
      if (← peek) = code ']' then
        drop
        skipAfter fuel nest
      else skipFrom fuel (.list :: nest)
    else if b = code '\x7b' then
      drop
      if (← peek) = code '\x7d' then
        drop
        skipAfter fuel nest
      else
        skipKey
        skipFrom fuel (.object :: nest)
    else
      skipScalar
      skipAfter fuel nest

/-- Skips what follows a value inside the open brackets. -/
def skipAfter : Nat → List Bracket → Reader Unit
  | _, [] => pure ()
  | 0, _ => stop .malformed
  | fuel + 1, bracket :: nest => do
    let b ← peek
    if b = code ',' then
      drop
      if bracket = .object then skipKey
      skipFrom fuel (bracket :: nest)
    else if b = code ']' ∧ bracket = .list ∨ b = code '\x7d' ∧ bracket = .object then
      drop
      skipAfter fuel nest
    else stop .malformed

end

/-- Skips one value, whatever it is. -/
def skipValue : Reader Unit := do
  skipFrom (2 * (← rest).length + 2) []

/-! ### Wanted values -/

/--
Stops at a value of the wrong kind.  A scalar is read first, and what is wrong inside
it counts before its being the wrong one.
-/
def wrongKind : Reader α := do
  let b ← peek
  if b = code '"' then
    drop
    let _ ← stringBody
  else if b = code 'n' then word ['n', 'u', 'l', 'l']
  else if b = code 't' then word ['t', 'r', 'u', 'e']
  else if b = code 'f' then word ['f', 'a', 'l', 's', 'e']
  else if b = code '-' ∨ isDigit b then
    let _ ← number
  else if !(b = code '[' ∨ b = code '\x7b') then stop .malformed
  stop .unfit

/-- A string. -/
def text : Reader String := do
  if (← peek) = code '"' then
    drop
    stringBody
  else wrongKind

/-- A truth value. -/
def flag : Reader Bool := do
  let b ← peek
  if b = code 't' then
    word ['t', 'r', 'u', 'e']
    return true
  else if b = code 'f' then
    word ['f', 'a', 'l', 's', 'e']
    return false
  else wrongKind

/-- A whole number that fits 64 bits with a sign. -/
def integer : Reader Int := do
  let b ← peek
  if b = code '-' ∨ isDigit b then
    match ← number with
    | .whole n => if -limit63 ≤ n ∧ n < limit63 then return n else stop .unfit
    | .other => stop .unfit
  else wrongKind

/-- A value, or null in its place. -/
def nullable (value : Reader α) : Reader (Option α) := do
  if (← peek) = code 'n' then
    word ['n', 'u', 'l', 'l']
    return none
  else return some (← value)

/--
One of several names: a string, or an object with the name as its only key and null as
the value.
-/
def choice (ofName? : String → Option α) : Reader α := do
  let named : Reader α := do
    match ofName? (← text) with
    | some a => return a
    | none => stop .unfit
  let b ← peek
  if b = code '"' then named
  else if b = code '\x7b' then
    drop
    let a ← named
    expect ':'
    if (← peek) = code 'n' then word ['n', 'u', 'l', 'l'] else wrongKind
    expect '\x7d'
    return a
  else stop .malformed

/-! ### Lists and records -/

/-- The end of a list.  A comma in its place is dropped, but it is no end. -/
def endList : Reader Unit := do
  let b ← peek
  if b = code ']' then drop
  else if b = code ',' then
    drop
    let _ ← peek?
    stop .malformed
  else stop .malformed

/-- The end of an object. -/
def endObject : Reader Unit := expect '\x7d'

/-- Another element follows; its comma is taken, the end is left in place. -/
def hasElement (first : Bool) : Reader Bool := do
  let b ← peek
  if b = code ']' then return false
  else if first then return true
  else if b = code ',' then
    drop
    if (← peek) = code ']' then stop .malformed else return true
  else stop .malformed

/-- Another member follows; its comma is taken, the end is left in place. -/
def hasMember (first : Bool) : Reader Bool := do
  let b ← peek
  if b = code '\x7d' then return false
  else if first then
    if b = code '"' then return true else stop .malformed
  else if b = code ',' then
    drop
    if (← peek) = code '"' then return true else stop .malformed
  else stop .malformed

/-- The elements of a list up to its end. -/
def elements (value : Reader α) : Nat → Bool → Reader (List α)
  | 0, _ => stop .malformed
  | fuel + 1, first => do
    if ← hasElement first then
      let a ← value
      let more ← elements value fuel false
      return a :: more
    else return []

/-- A list. -/
def list (value : Reader α) : Reader (List α) := do
  if (← peek) = code '[' then
    drop
    closing endList (do elements value ((← rest).length + 1) true)
  else wrongKind

/--
One field of a record that is being read into a draft: how to tell that it has been
read, how to read it, and whether a list of the fields may end before it.
-/
structure Field (σ : Type) where
  name : String
  isRead : σ → Bool
  read : σ → Reader σ
  omissible : Bool := false

/-- The members of an object.  A field must not come twice; other members are skipped. -/
def members (fields : List (Field σ)) : Nat → Bool → σ → Reader σ
  | 0, _, _ => stop .malformed
  | fuel + 1, first, draft => do
    if ← hasMember first then
      drop
      let key ← stringBody
      match fields.find? fun f => f.name == key with
      | some f =>
        if f.isRead draft then stop .unfit
        else
          expect ':'
          let draft ← f.read draft
          members fields fuel false draft
      | none =>
        expect ':'
        skipValue
        members fields fuel false draft
    else return draft

/-- The fields of a record written as a list, in order. -/
def fieldsInOrder : List (Field σ) → Bool → σ → Reader σ
  | [], _, draft => return draft
  | f :: more, first, draft => do
    if ← hasElement first then
      let draft ← f.read draft
      fieldsInOrder more false draft
    else if f.omissible then fieldsInOrder more first draft
    else stop .unfit

/--
A record, written as an object or as a list of its fields; `finish` turns the draft
into the record unless a field is missing.
-/
def record (fields : List (Field σ)) (blank : σ) (finish : σ → Option α) : Reader α := do
  let b ← peek
  let complete (draft : σ) : Reader α :=
    match finish draft with
    | some a => return a
    | none => stop .unfit
  if b = code '[' then
    drop
    closing endList (do complete (← fieldsInOrder fields true blank))
  else if b = code '\x7b' then
    drop
    closing endObject (do complete (← members fields ((← rest).length + 1) true blank))
  else wrongKind

/-- A value with nothing but spaces behind it. -/
def whole (value : Reader α) : Reader α := do
  let a ← value
  match ← peek? with
  | none => return a
  | some _ => stop .malformed

end SessionAuth.Json
