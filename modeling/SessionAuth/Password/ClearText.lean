/-
Clear text passwords.

A password is normalised as soon as it comes in, so that the same characters typed in
different ways are the same password.  It never shows in diagnostics.
-/
import SessionAuth.Bytes.Basic
import SessionAuth.Text.Compatibility
import SessionAuth.Text.Quoted

namespace SessionAuth.Password

/-- A password as it is hashed. -/
structure ClearText where
  normalized : String
  deriving DecidableEq

namespace ClearText

/-- The password that was typed. -/
def ofTyped (typed : String) : ClearText := ⟨Text.Compatibility.normalize typed⟩

/-- The bytes to be hashed: the password, with the pepper behind it when there is one. -/
def peppered (p : ClearText) (pepper : Option Bytes) : Bytes :=
  Bytes.ofText p.normalized ++ pepper.getD []

/-- What shows of a password. -/
def describe (_ : ClearText) : String :=
  "ClearTextPassword(" ++ Text.Quoted.write "[REDACTED]" ++ ")"

end ClearText

end SessionAuth.Password
