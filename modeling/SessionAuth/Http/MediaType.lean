/-
Media types.

A body is read as JSON only if its header says that it is JSON.  The header must be well
formed as a whole, parameters included, although only the type and the subtype matter.
-/
import SessionAuth.Bytes.Basic
import SessionAuth.Text.Cut

namespace SessionAuth.Http

/-- A media type; the suffix is what stands behind the last plus sign of the subtype. -/
structure MediaType where
  type : List Char
  subtype : List Char
  suffix : Option (List Char)
  deriving DecidableEq, Repr

namespace MediaType

/-- A character of a name. -/
def isNameChar (c : Char) : Bool :=
  c.isAlphanum || c ∈ ['!', '#', '$', '%', '&', '\'', '*', '+', '-', '.', '^', '_', '\x60', '|', '~']

/-! ### Parameters -/

/-- Where the reader of the parameters stands. -/
inductive Place
  /-- Before a name; blanks may come first. -/
  | start
  | name
  /-- Behind the equals sign. -/
  | valueStart
  | value
  /-- Inside quotes; the flag says that they hold something. -/
  | quoted (filled : Bool)
  | afterQuotes
  deriving DecidableEq, Repr

/-- The place behind one more character. -/
def Place.next (c : Char) : Place → Option Place
  | start => if c = ' ' then some start else if isNameChar c then some name else none
  | name => if c = '=' then some valueStart else if isNameChar c then some name else none
  | valueStart =>
    if c = '"' then some (quoted false) else if isNameChar c then some value else none
  | value => if c = ';' then some start else if isNameChar c then some value else none
  | quoted filled =>
    if c = '"' ∧ filled then some afterQuotes
    else if ' ' ≤ c ∧ c ≠ '\x7f' then some (quoted true)
    else none
  | afterQuotes => if c = ';' then some start else if c = ' ' then some afterQuotes else none

/-- The parameters may end here. -/
def Place.isEnd : Place → Bool
  | start | valueStart | value | afterQuotes => true
  | name | quoted _ => false

/-- The text behind the first semicolon is a list of parameters. -/
def areParameters (text : List Char) : Bool :=
  (text.foldlM (fun (place : Place) c => place.next c) .start).any Place.isEnd

/-! ### Reading -/

/-- The type of a subtype in full: a plus sign at its front does not begin a suffix. -/
def ofParts (type full : List Char) : MediaType :=
  match Text.cutAtLast? '+' (full.drop 1) with
  | some (before, suffix) => ⟨type, full.take 1 ++ before, some suffix⟩
  | none => ⟨type, full, none⟩

/-- The media type of a text. -/
def parse? (text : List Char) : Option MediaType :=
  let type := text.takeWhile isNameChar
  match text.drop type.length with
  | '/' :: rest =>
    let full := rest.takeWhile isNameChar
    if type.isEmpty then none
    else
      match rest.drop full.length with
      | [] => some (ofParts type full)
      | ';' :: parameters =>
        if !full.isEmpty && areParameters parameters then some (ofParts type full) else none
      | _ => none
  | _ => none

/-- The media type is JSON, or one of the kinds of JSON. -/
def isJson (m : MediaType) : Bool :=
  let json := ['j', 's', 'o', 'n']
  Text.sameLetters m.type "application".toList
    && (Text.sameLetters m.subtype json || m.suffix.any (Text.sameLetters json))

end MediaType

end SessionAuth.Http
