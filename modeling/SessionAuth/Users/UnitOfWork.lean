/-
Units of work.

Users are looked up inside a unit of work, which stands for one transaction of the
store.  A unit is begun, asked, and then committed, rolled back or abandoned; a unit
that is abandoned with its transaction open rolls it back.
-/
import SessionAuth.Error
import SessionAuth.User

namespace SessionAuth.Users

/-- A command to a unit of work. -/
inductive Command
  /-- A unit without a transaction takes the place of the unit. -/
  | fresh
  /-- A unit whose transaction is open takes the place of the unit. -/
  | begin
  /-- Opens the transaction of the unit; nothing happens when it is open. -/
  | create
  /-- The user with a login, letter case left out of account. -/
  | findByLogin (login : String)
  /-- The user with an id. -/
  | findById (id : UserId)
  /-- Ends the unit and keeps what was done. -/
  | commit
  /-- Ends the unit and undoes what was done. -/
  | rollback
  /-- Abandons the unit. -/
  | abandon
  deriving DecidableEq, Repr

namespace Command

/-- What a command replies when it succeeds. -/
def Reply : Command → Type
  | findByLogin _ => Option User
  | findById _ => Option User
  | _ => Unit

/-- The reply to a command, or why it failed. -/
abbrev Outcome (c : Command) : Type := Except AuthError c.Reply

end Command

/-- The error of a look-up in a unit without an open transaction. -/
def notStarted : AuthError := .internal "Transaction not started"

/-- How many transactions were begun, committed and rolled back. -/
structure Counters where
  begun : Nat := 0
  committed : Nat := 0
  rolledBack : Nat := 0
  deriving DecidableEq, Repr

/-- The live units by number; each says whether its transaction is open. -/
abbrev Units := List (Nat × Bool)

namespace Units

/-- Whether the transaction of a unit is open; nothing when there is no such unit. -/
def isOpen? (us : Units) (n : Nat) : Option Bool := us.lookup n

/-- The unit exists and its transaction is open. -/
def isOpen (us : Units) (n : Nat) : Bool := (us.isOpen? n).getD false

/-- The units without one of them. -/
def erase (us : Units) (n : Nat) : Units := us.filter fun u => u.1 != n

/-- The units with one of them replaced or added. -/
def put (us : Units) (n : Nat) (isOpen : Bool) : Units := (n, isOpen) :: us.erase n

/-- How many units have their transaction open. -/
def openCount (us : Units) : Nat := us.countP fun u => u.2

end Units

end SessionAuth.Users
