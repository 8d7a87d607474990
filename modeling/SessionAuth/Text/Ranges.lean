/-
Character properties as tables.

A property of characters is stored as the sorted ranges of code points that have it.
The tables are written as text: hexadecimal numbers separated by blanks, where each
range is given by its distance from the end of the range before it and by how many
further code points it covers.
-/
namespace SessionAuth.Text

/-- The value of one hexadecimal digit, in either case. -/
def hexDigit? (c : Char) : Option Nat :=
  if '0' ≤ c ∧ c ≤ '9' then some (c.toNat - '0'.toNat)
  else if 'a' ≤ c ∧ c ≤ 'f' then some (c.toNat - 'a'.toNat + 10)
  else if 'A' ≤ c ∧ c ≤ 'F' then some (c.toNat - 'A'.toNat + 10)
  else none

/-- The hexadecimal numbers of a text, any other character ending a number. -/
def hexNumbers (text : String) : List Nat :=
  let read (state : List Nat × Option Nat) (c : Char) : List Nat × Option Nat :=
    match hexDigit? c, state with
    | some d, (done, none) => (done, some d)
    | some d, (done, some n) => (done, some (16 * n + d))
    | none, (done, some n) => (n :: done, none)
    | none, (done, none) => (done, none)
  match text.toList.foldl read ([], none) with
  | (done, some n) => (n :: done).reverse
  | (done, none) => done.reverse

/-- The numbers of a table, three to a row. -/
def triples : List Nat → List (Nat × Nat × Nat)
  | a :: b :: c :: rest => (a, b, c) :: triples rest
  | _ => []

/-- A stretch of code points, both ends included. -/
structure Range where
  first : Nat
  last : Nat
  deriving DecidableEq, Repr

namespace Range

/-- The ranges that a table of gaps and lengths describes, starting from `origin`. -/
def ofGaps (origin : Nat) : List Nat → List Range
  | gap :: more :: rest => ⟨origin + gap, origin + gap + more⟩ :: ofGaps (origin + gap + more) rest
  | _ => []

/-- Membership in a sorted list of ranges; the search stops at the first range beyond `n`. -/
def contains (n : Nat) : List Range → Bool
  | [] => false
  | r :: rest =>
    if n < r.first then false
    else if n ≤ r.last then true
    else contains n rest

end Range

end SessionAuth.Text
