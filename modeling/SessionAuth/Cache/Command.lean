/-
What the service asks of the cache.

The cache keeps lists of texts, newest first.  A list may have a time to live, which
belongs to the whole list and is set anew by a push that gives one.
-/
import SessionAuth.Error

namespace SessionAuth.Cache

/-- A command to the cache. -/
inductive Command
  /-- The whole list; a list that is not there reads as empty. -/
  | get (key : String)
  /-- Puts a value in front and, when one is given, sets the time to live in seconds. -/
  | push (key value : String) (ttl : Option Nat)
  /-- Takes out every copy of a value; says whether there was one. -/
  | remove (key value : String)
  /-- Drops the list. -/
  | delete (key : String)
  deriving DecidableEq, Repr

namespace Command

/-- What a command replies when it succeeds. -/
def Reply : Command → Type
  | get _ => List String
  | push _ _ _ => Unit
  | remove _ _ => Bool
  | delete _ => Unit

/-- The reply to a command, or why it failed. -/
abbrev Outcome (c : Command) : Type := Except AuthError c.Reply

/-- The key that a command is about. -/
def key : Command → String
  | get key => key
  | push key _ _ => key
  | remove key _ => key
  | delete key => key

end Command

end SessionAuth.Cache
