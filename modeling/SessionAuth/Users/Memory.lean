/-
A table of users in memory.

Look-ups see the table as it is at that moment; of several users that match, the one
inserted first is found.  The store counts how transactions begin and end.
-/
import SessionAuth.Users.UnitOfWork

namespace SessionAuth.Users

/-- The users in order of insertion, the live units and the counters. -/
structure Memory where
  users : List User := []
  units : Units := []
  counters : Counters := {}

namespace Memory

/-- Adds a user at the end. -/
def insert (m : Memory) (u : User) : Memory := { m with users := m.users ++ [u] }

/-- Takes out every user with an id. -/
def remove (m : Memory) (id : UserId) : Memory :=
  { m with users := m.users.filter fun u => u.id != id }

/-- One more transaction rolled back. -/
def countRollback (m : Memory) : Memory :=
  { m with counters := { m.counters with rolledBack := m.counters.rolledBack + 1 } }

/-- One more transaction committed. -/
def countCommit (m : Memory) : Memory :=
  { m with counters := { m.counters with committed := m.counters.committed + 1 } }

/-- One more transaction begun. -/
def countBegin (m : Memory) : Memory :=
  { m with counters := { m.counters with begun := m.counters.begun + 1 } }

/-- Ends a unit; an open transaction counts as rolled back. -/
def abandon (n : Nat) (m : Memory) : Memory :=
  let m := if m.units.isOpen n then m.countRollback else m
  { m with units := m.units.erase n }

/-- Ends a unit; an open transaction counts as committed. -/
def commit (n : Nat) (m : Memory) : Memory :=
  let m := if m.units.isOpen n then m.countCommit else m
  { m with units := m.units.erase n }

/-- Puts a unit in the place of the one with its number, which is abandoned. -/
def replace (n : Nat) (isOpen : Bool) (m : Memory) : Memory :=
  let m := m.abandon n
  { m with units := m.units.put n isOpen }

/-- Carries out a command on the unit with number `n`. -/
def perform (n : Nat) : (c : Command) → Memory → c.Outcome × Memory
  | .fresh, m => (.ok (), m.replace n false)
  | .begin, m => (.ok (), m.countBegin.replace n true)
  | .create, m =>
    if m.units.isOpen n then (.ok (), m)
    else (.ok (), { m.countBegin with units := m.units.put n true })
  | .findByLogin login, m =>
    if m.units.isOpen n then (.ok (m.users.find? (·.hasLogin login)), m)
    else (.error notStarted, m)
  | .findById id, m =>
    if m.units.isOpen n then (.ok (m.users.find? (·.id == id)), m)
    else (.error notStarted, m)
  | .commit, m => (.ok (), m.commit n)
  | .rollback, m => (.ok (), m.abandon n)
  | .abandon, m => (.ok (), m.abandon n)

end Memory

end SessionAuth.Users
