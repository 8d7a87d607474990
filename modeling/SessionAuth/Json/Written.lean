/-
Written JSON.

Bodies and token parts are written without blanks.  Strings escape the quote, the
backslash and the control characters, five of which have a letter of their own; every
other character stands as it is.
-/
import SessionAuth.Bytes.Basic

namespace SessionAuth.Json

/-- How one character is written inside a string. -/
def escape (c : Char) : List Char :=
  match c with
  | '"' => ['\\', '"']
  | '\\' => ['\\', '\\']
  | '\x08' => ['\\', 'b']
  | '\x0c' => ['\\', 'f']
  | '\n' => ['\\', 'n']
  | '\r' => ['\\', 'r']
  | '\t' => ['\\', 't']
  | c =>
    if c.toNat < 0x20 then
      ['\\', 'u', '0', '0', Bytes.hexDigit (c.toNat / 16), Bytes.hexDigit (c.toNat % 16)]
    else [c]

/-- A string value. -/
def string (text : String) : String :=
  String.ofList ('"' :: text.toList.flatMap escape ++ ['"'])

/-- A string value, or the null value. -/
def optional : Option String → String
  | some text => string text
  | none => "null"

/-- A truth value. -/
def bool : Bool → String
  | true => "true"
  | false => "false"

/-- An object whose values are already written, in the order given. -/
def object (members : List (String × String)) : String :=
  "\x7b" ++ String.intercalate "," (members.map fun m => string m.1 ++ ":" ++ m.2) ++ "\x7d"

end SessionAuth.Json
