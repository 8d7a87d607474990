/-
Users.

A user has an id, a login and a stored password hash.  Logins are compared in lower
case.
-/
import SessionAuth.UserId
import SessionAuth.Text.Casing
import SessionAuth.Text.Quoted
import SessionAuth.Text.Record

namespace SessionAuth

/-- A user as stored; the moments of creation and of the last change are in microseconds. -/
structure User where
  id : UserId
  login : String
  passwordHash : String
  createdMicros : Int := 0
  updatedMicros : Int := 0
  deriving DecidableEq, Repr

namespace User

/-- The user has this login, letter case left out of account. -/
def hasLogin (u : User) (login : String) : Bool :=
  Text.Casing.lower u.login == Text.Casing.lower login

/-- The user as it shows in diagnostics, without the hash. -/
def describe (u : User) : String :=
  Text.Record.complete "User" [
    ("user_id", u.id.describe),
    ("login", Text.Quoted.write u.login),
    ("password_hash", Text.Quoted.write "[HASH]")]

end User

end SessionAuth
