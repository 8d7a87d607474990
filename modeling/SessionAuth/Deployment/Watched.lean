/-
Watched deployments.

To see how the service behaves when a collaborator fails, a deployment is wrapped: every
command to a collaborator is written down, and chosen kinds of command fail without
having any effect.  A unit of work that fails to commit or to roll back is abandoned.
-/
import SessionAuth.Deployment.World

namespace SessionAuth

/-- The kinds of command to a collaborator. -/
inductive Collaboration
  | get | push | remove | delete
  | begin | find | commit | rollback | abandon
  deriving DecidableEq, Repr

namespace Collaboration

/-- The kind of a command to the cache. -/
def ofCache : Cache.Command → Collaboration
  | .get _ => get
  | .push _ _ _ => push
  | .remove _ _ => remove
  | .delete _ => delete

/-- The kind of a command to a unit of work. -/
def ofUsers : Users.Command → Collaboration
  | .fresh | .begin | .create => begin
  | .findByLogin _ | .findById _ => find
  | .commit => commit
  | .rollback => rollback
  | .abandon => abandon

end Collaboration

/-- A command to the cache as it is written down. -/
def Cache.Command.line : Cache.Command → String
  | get key => "get " ++ key
  | push key value ttl => "push " ++ key ++ " " ++ value ++ " ttl=" ++ (ttl.map toString).getD "-"
  | remove key value => "remove " ++ key ++ " " ++ value
  | delete key => "delete " ++ key

/-- A command to a unit of work as it is written down. -/
def Users.Command.line : Users.Command → String
  | fresh => "unit"
  | begin => "begin"
  | create => "create"
  | findByLogin login => "find_login " ++ login
  | findById id => "find_id " ++ id.toHex
  | commit => "commit"
  | rollback => "rollback"
  | abandon => "drop"

/-- A store that is watched. -/
structure Watched (σ : Type) where
  inner : σ
  /-- The kinds of command that fail. -/
  failing : List Collaboration := []
  /-- Removals from a list take place but are reported as if they had not. -/
  losesRemovals : Bool := false
  /-- The commands, oldest first. -/
  calls : List String := []

/-- The failure of a cache that was told to fail. -/
def injectedCacheFault : AuthError := .cache (.known "injected cache fault" .io none)

/-- The failure of a store of users that was told to fail. -/
def injectedDatabaseFault : AuthError := .database (.invalidData "injected db fault")

namespace Watched

/-- Writes a command down. -/
def note {σ : Type} (line : String) (w : Watched σ) : Watched σ :=
  { w with calls := w.calls ++ [line] }

/-- The reply to a command; a removal may be reported as lost. -/
def reported (lost : Bool) : (c : Cache.Command) → c.Outcome → c.Outcome
  | .remove _ _, .ok removed => .ok (!lost && removed)
  | _, outcome => outcome

/-- Carries out a command to the cache, or fails. -/
def cache {σ : Type} (b : Backend σ) (now : Instant) (c : Cache.Command) (w : Watched σ) :
    c.Outcome × Watched σ :=
  let w := w.note c.line
  if .ofCache c ∈ w.failing then (.error injectedCacheFault, w)
  else
    let (outcome, inner) := b.cache now c w.inner
    (reported w.losesRemovals c outcome, { w with inner := inner })

/-- Carries out a command to a unit of work, or fails; a unit that cannot end is abandoned. -/
def users {σ : Type} (b : Backend σ) (unit : Nat) (c : Users.Command) (w : Watched σ) :
    c.Outcome × Watched σ :=
  let w := w.note c.line
  if .ofUsers c ∈ w.failing then
    let ends := c = .commit ∨ c = .rollback
    let inner := if ends then (b.users unit .abandon w.inner).2 else w.inner
    (.error injectedDatabaseFault, { w with inner := inner })
  else
    let (outcome, inner) := b.users unit c w.inner
    (outcome, { w with inner := inner })

/-- Changes the inner state. -/
def modify {σ : Type} (f : σ → σ) (w : Watched σ) : Watched σ := { w with inner := f w.inner }

end Watched

/-- A deployment whose collaborators are watched. -/
def Deployment.watched {σ : Type} (d : Deployment σ) : Deployment (Watched σ) where
  cache := Watched.cache d.toBackend
  users := Watched.users d.toBackend
  insertUser u := Watched.modify (d.insertUser u)
  removeUser id := Watched.modify (d.removeUser id)
  counters w := d.counters w.inner
  list now key w := d.list now key w.inner

end SessionAuth
