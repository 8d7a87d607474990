/-
Socket addresses.

The server binds to an address of either protocol version and a port.  An address of
version 4 is four numbers without leading zeros; one of version 6 is eight groups of
hexadecimal digits in brackets, where one run of zero groups may be left out and the
last two groups may be written like an address of version 4.
-/
import SessionAuth.Text.Ranges

namespace SessionAuth

/-- Where a server listens. -/
inductive SocketAddress
  | v4 (octets : List Nat) (port : Nat)
  | v6 (groups : List Nat) (scope : Nat) (port : Nat)
  deriving DecidableEq, Repr

namespace SocketAddress

/-! ### Reading -/

/-- A reader takes a value off the front of a text, or fails. -/
abbrev Reader (α : Type) := List Char → Option (α × List Char)

/-- The value of a digit in a base of at most sixteen. -/
def digit? (base : Nat) (c : Char) : Option Nat :=
  (Text.hexDigit? c).filter (· < base)

/-- The leading digits of a text and what follows them. -/
def digits (base : Nat) : List Char → List Nat × List Char
  | [] => ([], [])
  | c :: rest =>
    match digit? base c with
    | some d => let (more, after) := digits base rest; (d :: more, after)
    | none => ([], c :: rest)

/-- A number of at most `limit` in at most `width` digits. -/
def number (base : Nat) (width : Option Nat) (zeroPrefix : Bool) (limit : Nat) : Reader Nat :=
  fun text =>
    let (ds, rest) := digits base text
    let value := ds.foldl (fun n d => base * n + d) 0
    let fits := match width with
      | some w => ds.length ≤ w
      | none => true
    if ds.isEmpty || !fits then none
    else if !zeroPrefix && ds.head? == some 0 && ds.length > 1 then none
    else if value ≤ limit then some (value, rest)
    else none

/-- Takes one given character. -/
def expect (c : Char) : Reader Unit
  | d :: rest => if d = c then some ((), rest) else none
  | [] => none

/-- Four numbers below 256 with points between them. -/
def octets : Reader (List Nat) := fun text => do
  let part := number 10 (some 3) false 255
  let (a, text) ← part text
  let (_, text) ← expect '.' text
  let (b, text) ← part text
  let (_, text) ← expect '.' text
  let (c, text) ← part text
  let (_, text) ← expect '.' text
  let (d, text) ← part text
  return ([a, b, c, d], text)

/-- A value that has a colon before it unless it is the first of its row. -/
def separated (index : Nat) (value : Reader α) : Reader α := fun text =>
  if index = 0 then value text
  else do
    let (_, text) ← expect ':' text
    value text

/--
As many groups as can be read, at most `room` of them, and whether the last two came
from numbers with points.
-/
def groups (index : Nat) : Nat → List Char → List Nat × Bool × List Char
  | 0, text => ([], false, text)
  | room + 1, text =>
    let pointed := if 0 < room then separated index octets text else none
    match pointed with
    | some ([a, b, c, d], rest) => ([256 * a + b, 256 * c + d], true, rest)
    | _ =>
      match separated index (number 16 (some 4) true 0xffff) text with
      | none => ([], false, text)
      | some (g, rest) =>
        let (more, dotted, after) := groups (index + 1) room rest
        (g :: more, dotted, after)

/-- The eight groups of an address of version 6. -/
def eightGroups : Reader (List Nat) := fun text =>
  let (head, dotted, text) := groups 0 8 text
  if head.length = 8 then some (head, text)
  else if dotted then none
  else do
    let (_, text) ← expect ':' text
    let (_, text) ← expect ':' text
    let (tail, _, text) := groups 0 (7 - head.length) text
    return (head ++ List.replicate (8 - head.length - tail.length) 0 ++ tail, text)

/-- The port at the end of an address. -/
def portOf : Reader Nat := number 10 none true 0xffff

/-- An address of version 4 with its port. -/
def readV4 : Reader SocketAddress := fun text => do
  let (os, text) ← octets text
  let (_, text) ← expect ':' text
  let (port, text) ← portOf text
  return (v4 os port, text)

/-- An address of version 6 in brackets, with an optional scope, and its port. -/
def readV6 : Reader SocketAddress := fun text => do
  let (_, text) ← expect '[' text
  let (gs, text) ← eightGroups text
  let zone := do
    let (_, text) ← expect '%' text
    number 10 none true 0xffffffff text
  let (scope, text) := zone.getD (0, text)
  let (_, text) ← expect ']' text
  let (_, text) ← expect ':' text
  let (port, text) ← portOf text
  return (v6 gs scope port, text)

/-- The address that a whole text gives. -/
def parse? (text : String) : Option SocketAddress :=
  match readV4 text.toList <|> readV6 text.toList with
  | some (address, []) => some address
  | _ => none

/-! ### Writing -/

/-- Numbers with points between them. -/
def octetsText (os : List Nat) : String := String.intercalate "." (os.map toString)

/-- The length of the run of zeros at the front. -/
def zeroRun : List Nat → Nat
  | 0 :: rest => zeroRun rest + 1
  | _ => 0

/-- Start and length of the first longest run of zeros, looking from position `i` on. -/
def longestZeros (i : Nat) : List Nat → Nat × Nat
  | [] => (i, 0)
  | g :: rest =>
    let here := zeroRun (g :: rest)
    let later := longestZeros (i + 1) rest
    if here ≥ later.2 then (i, here) else later

/-- Groups in hexadecimal with colons between them. -/
def groupsText (gs : List Nat) : String :=
  String.intercalate ":" (gs.map fun g => String.ofList (Nat.toDigits 16 g))

/-- Eight groups, the first longest run of at least two zeros left out. -/
def eightGroupsText (gs : List Nat) : String :=
  match gs with
  | [0, 0, 0, 0, 0, 0xffff, ab, cd] =>
    "::ffff:" ++ octetsText [ab / 256, ab % 256, cd / 256, cd % 256]
  | _ =>
    let (start, count) := longestZeros 0 gs
    if count > 1 then groupsText (gs.take start) ++ "::" ++ groupsText (gs.drop (start + count))
    else groupsText gs

/-- The address as a text. -/
def text : SocketAddress → String
  | v4 os port => octetsText os ++ ":" ++ toString port
  | v6 gs 0 port => "[" ++ eightGroupsText gs ++ "]:" ++ toString port
  | v6 gs scope port => "[" ++ eightGroupsText gs ++ "%" ++ toString scope ++ "]:" ++ toString port

end SocketAddress

end SessionAuth
