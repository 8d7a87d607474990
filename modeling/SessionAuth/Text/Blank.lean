/-
White space.

A character is blank when it carries the `White_Space` property; the settings and
the base64 reader take such characters off both ends of what they are given.
-/
import SessionAuth.Text.Cut

namespace SessionAuth.Text

/-- The characters with the `White_Space` property. -/
def isBlank (c : Char) : Bool :=
  let n := c.toNat
  (0x09 ≤ n && n ≤ 0x0d) || n == 0x20 || n == 0x85 || n == 0xa0 || n == 0x1680 ||
    (0x2000 ≤ n && n ≤ 0x200a) || n == 0x2028 || n == 0x2029 || n == 0x202f ||
    n == 0x205f || n == 0x3000

/-- The text without the blanks at either end. -/
def trimBlanks (text : String) : String :=
  String.ofList (trim isBlank text.toList)

end SessionAuth.Text
