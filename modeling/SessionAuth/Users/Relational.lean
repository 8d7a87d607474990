/-
Users in a relational database.

A unit of work sends statements to the database.  The database can be told to refuse
kinds of statements, which then do nothing, and writes every statement down.  A
transaction that is still open when its unit ends is rolled back: so is one whose
commit failed, and one whose rollback failed.
-/
import SessionAuth.Table
import SessionAuth.Users.UnitOfWork

namespace SessionAuth.Users

/-- A statement with its parameters. -/
structure Statement where
  sql : String
  parameters : List String := []
  deriving DecidableEq, Repr

/-- The kinds of statement that can be refused. -/
inductive StatementKind
  | begin
  | select
  | commit
  | rollback
  deriving DecidableEq, Repr

namespace Statement

/-- The columns that a look-up asks for. -/
def selectUsers : String := "SELECT id, login, password, created_at, updated_at FROM users WHERE "

def begin : Statement := { sql := "BEGIN" }

def commit : Statement := { sql := "COMMIT" }

def rollback : Statement := { sql := "ROLLBACK" }

/-- Looks a user up by login. -/
def byLogin (login : String) : Statement :=
  { sql := selectUsers ++ "lower(login) = lower($1)", parameters := [login] }

/-- Looks a user up by id. -/
def byId (id : UserId) : Statement :=
  { sql := selectUsers ++ "id = $1", parameters := [id.toHyphenated] }

end Statement

/-- A database with a table of users, and the units that are open on it. -/
structure Relational where
  users : List User := []
  /-- The statements that are refused, with the text of the refusal. -/
  faults : Table StatementKind String := .empty
  units : Units := []
  counters : Counters := {}
  /-- The statements received, oldest first. -/
  received : List Statement := []

namespace Relational

/-- Adds a user at the end of the table. -/
def insert (d : Relational) (u : User) : Relational := { d with users := d.users ++ [u] }

/-- Takes out every user with an id. -/
def remove (d : Relational) (id : UserId) : Relational :=
  { d with users := d.users.filter fun u => u.id != id }

/-- Receives a statement; it succeeds unless its kind is refused. -/
def send (kind : StatementKind) (statement : Statement) (d : Relational) :
    Except AuthError Unit × Relational :=
  let d := { d with received := d.received ++ [statement] }
  match d.faults.get? kind with
  | some text => (.error (.database (.reported text)), d)
  | none => (.ok (), d)

/-- Begins a transaction. -/
def sendBegin (d : Relational) : Except AuthError Unit × Relational :=
  match d.send .begin .begin with
  | (.ok (), d) =>
    (.ok (), { d with counters := { d.counters with begun := d.counters.begun + 1 } })
  | (.error e, d) => (.error e, d)

/-- Rolls a transaction back. -/
def sendRollback (d : Relational) : Except AuthError Unit × Relational :=
  match d.send .rollback .rollback with
  | (.ok (), d) =>
    (.ok (), { d with counters := { d.counters with rolledBack := d.counters.rolledBack + 1 } })
  | (.error e, d) => (.error e, d)

/-- Commits a transaction. -/
def sendCommit (d : Relational) : Except AuthError Unit × Relational :=
  match d.send .commit .commit with
  | (.ok (), d) =>
    (.ok (), { d with counters := { d.counters with committed := d.counters.committed + 1 } })
  | (.error e, d) => (.error e, d)

/-- Ends a unit; an open transaction is rolled back, with whatever success. -/
def abandon (n : Nat) (d : Relational) : Relational :=
  let d := if d.units.isOpen n then d.sendRollback.2 else d
  { d with units := d.units.erase n }

/--
Ends a unit by a statement when its transaction is open.  When the statement fails the
transaction is rolled back, and the failure is reported.
-/
def finish (n : Nat) (statement : Relational → Except AuthError Unit × Relational)
    (d : Relational) : Except AuthError Unit × Relational :=
  if d.units.isOpen n then
    match statement d with
    | (.ok (), d) => (.ok (), { d with units := d.units.erase n })
    | (.error e, d) => (.error e, d.abandon n)
  else (.ok (), { d with units := d.units.erase n })

/-- The first user that a look-up finds. -/
def select (statement : Statement) (wanted : User → Bool) (n : Nat) (d : Relational) :
    Except AuthError (Option User) × Relational :=
  if d.units.isOpen n then
    match d.send .select statement with
    | (.ok (), d) => (.ok (d.users.find? wanted), d)
    | (.error e, d) => (.error e, d)
  else (.error notStarted, d)

/-- Carries out a command on the unit with number `n`. -/
def perform (n : Nat) : (c : Command) → Relational → c.Outcome × Relational
  | .fresh, d =>
    let d := d.abandon n
    (.ok (), { d with units := d.units.put n false })
  | .begin, d =>
    match d.sendBegin with
    | (.ok (), d) =>
      let d := d.abandon n
      (.ok (), { d with units := d.units.put n true })
    | (.error e, d) => (.error e, d)
  | .create, d =>
    if d.units.isOpen n then (.ok (), d)
    else
      match d.sendBegin with
      | (.ok (), d) => (.ok (), { d with units := d.units.put n true })
      | (.error e, d) => (.error e, d)
  | .findByLogin login, d => d.select (.byLogin login) (·.hasLogin login) n
  | .findById id, d => d.select (.byId id) (·.id == id) n
  | .commit, d => d.finish n sendCommit
  | .rollback, d => d.finish n sendRollback
  | .abandon, d => (.ok (), d.abandon n)

end Relational

end SessionAuth.Users
