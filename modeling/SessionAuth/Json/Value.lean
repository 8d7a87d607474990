/-
JSON values of any kind.

Some members may hold values of several kinds, and what they hold can only be judged
once it has been read.  Such a value is kept as a tree.  Here, unlike in values that
nobody asked for, every string must be proper text, every number must be within range,
and the brackets must not nest too deep.
-/
import SessionAuth.Json.Reader

namespace SessionAuth.Json

open Reader

/-- A value; the members of an object are in the order of the text, repeated ones too. -/
inductive Value
  | null
  | flag (value : Bool)
  | number (value : Number)
  | text (value : String)
  | list (items : List Value)
  | object (members : List (String × Value))

namespace Value

/-! ### Reading -/

/-- The members of an object up to its end, whatever their values. -/
def members (value : Reader Value) : Nat → Bool → Reader (List (String × Value))
  | 0, _ => stop .malformed
  | fuel + 1, first => do
    if ← hasMember first then
      drop
      let key ← stringBody
      expect ':'
      let v ← value
      let more ← members value fuel false
      return (key, v) :: more
    else return []

/-- How many brackets may be open at a time in a whole text. -/
def depthLimit : Nat := 127

/-- A value of any kind with fewer than `depth` brackets inside each other. -/
def reader : Nat → Reader Value
  | 0 => stop .malformed
  | depth + 1 => do
    let b ← peek
    if b = code '[' then
      if depth = 0 then stop .malformed
      else
        drop
        closing endList do
          return list (← elements (reader depth) ((← rest).length + 1) true)
    else if b = code '\x7b' then
      if depth = 0 then stop .malformed
      else
        drop
        closing endObject do
          return object (← members (reader depth) ((← rest).length + 1) true)
    else if b = code '"' then
      drop
      return text (← stringBody)
    else if b = code '-' ∨ isDigit b then
      return number (← Json.number)
    else if b = code 'n' then
      word ['n', 'u', 'l', 'l']
      return null
    else if b = code 't' then
      word ['t', 'r', 'u', 'e']
      return flag true
    else if b = code 'f' then
      word ['f', 'a', 'l', 's', 'e']
      return flag false
    else stop .malformed

/-! ### Looking at values -/

/-- The value is null. -/
def isNull : Value → Bool
  | null => true
  | _ => false

/-- The value is a text. -/
def isText : Value → Bool
  | text _ => true
  | _ => false

/-- The value is a list of texts. -/
def isTexts : Value → Bool
  | list items => items.all isText
  | _ => false

/-- The value is an object without members. -/
def isEmptyObject : Value → Bool
  | object [] => true
  | _ => false

/--
The name that a value gives: a text, or the key of an object with a single member, if
that member holds nothing more.
-/
def name? (isNothing : Value → Bool) : Value → Option String
  | text name => some name
  | object [(name, value)] => if isNothing value then some name else none
  | _ => none

end Value

end SessionAuth.Json
