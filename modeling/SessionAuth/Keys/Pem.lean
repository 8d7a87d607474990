/-
Key files.

A key file holds a labelled block of base64 between a line that begins it and a line
that ends it, whatever stands before and behind.  Header lines may stand before the
data, with an empty line between them; white space in the data does not count.
-/
import SessionAuth.Bytes.Base64
import SessionAuth.Text.Blank

namespace SessionAuth.Keys

/-- The labelled content of a key file. -/
structure Pem where
  label : String
  content : Bytes
  deriving DecidableEq, Repr

namespace Pem

/--
Looks for a mark by comparing byte after byte; after a mismatch the comparison starts
over with the next byte.  `seen` is the text before, reversed.  Gives the text before
the mark and the text behind it.
-/
def findMark (mark : Bytes) : Bytes → Bytes → Bytes → Option (Bytes × Bytes)
  | [], seen, rest => some ((seen.drop mark.length).reverse, rest)
  | _ :: _, _, [] => none
  | m :: more, seen, b :: rest =>
    if b = m then findMark mark more (b :: seen) rest
    else findMark mark mark (b :: seen) rest

/-- The text before a mark and the text behind it. -/
def cut? (mark : String) (text : Bytes) : Option (Bytes × Bytes) :=
  findMark (Bytes.ofText mark) (Bytes.ofText mark) [] text

/-- A byte that may stand between the lines of a key file. -/
def isGap (b : UInt8) : Bool := b == 0x20 || b == 0x09 || b == 0x0a || b == 0x0d

/-- The lines of a text; a carriage return before the end of a line belongs to the end. -/
def lines (text : String) : List (List Char) :=
  let parts := Text.splitAt '\n' text.toList
  let parts := if parts.getLast? = some [] then parts.dropLast else parts
  parts.map fun line => if line.getLast? = some '\r' then line.dropLast else line

/-- Headers and data of a block; without an empty line there are no headers. -/
def split (body : Bytes) : Bytes × Bytes :=
  match cut? "\n\n" body with
  | some parts => parts
  | none => (cut? "\r\n\r\n" body).getD ([], body)

/-- The key file that a text gives. -/
def parse? (text : Bytes) : Option Pem := do
  let (_, text) ← cut? "-----BEGIN " text
  let (first, text) ← cut? "-----" text
  let (body, text) ← cut? "-----END " (text.dropWhile isGap)
  let (last, _) ← cut? "-----" text
  let label ← Bytes.toText? first
  let closing ← Bytes.toText? last
  let (headers, data) := split body
  let headers ← Bytes.toText? headers
  let data ← Bytes.toText? data
  if label = "" ∨ label ≠ closing then none
  else if (lines headers).any fun line => ':' ∉ line then none
  else
    let content ← Base64.decodeChars? Base64.standard
      (data.toList.filter fun c => !Text.isBlank c)
    return ⟨label, content⟩

end Pem

end SessionAuth.Keys
