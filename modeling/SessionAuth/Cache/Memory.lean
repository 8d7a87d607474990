/-
A cache in memory.

Lists are kept in a table together with the instant at which they expire.  An expired
list reads as absent; it is dropped when something is next pushed to it or taken out.
An empty list disappears.
-/
import SessionAuth.Cache.Command
import SessionAuth.Table
import SessionAuth.Time

namespace SessionAuth.Cache

/-- A stored list and the instant at which it expires, if it does. -/
structure Held where
  values : List String
  expires : Option Instant
  deriving DecidableEq, Repr

namespace Held

/-- The list still counts at this instant: it expires later, or never. -/
def isLive (now : Instant) (h : Held) : Bool :=
  match h.expires with
  | none => true
  | some at_ => now.nanos < at_.nanos

/-- The seconds that are left, rounded up; none for a list that never expires. -/
def ttl (now : Instant) (h : Held) : Option Nat :=
  h.expires.map fun at_ =>
    ((at_.nanos - now.nanos).toNat + (nanosPerSecond - 1)) / nanosPerSecond

end Held

/-- The instant a number of seconds later. -/
def after (now : Instant) (seconds : Nat) : Instant := ⟨now.nanos + seconds * nanosPerSecond⟩

/-- The lists of a cache in memory. -/
structure Memory where
  lists : Table String Held := .empty

namespace Memory

/-- The list at a key that has not expired. -/
def live? (m : Memory) (now : Instant) (key : String) : Option Held :=
  (m.lists.get? key).filter (Held.isLive now)

/-- The values at a key; none for a list that is absent or has expired. -/
def values (m : Memory) (now : Instant) (key : String) : List String :=
  ((m.live? now key).map Held.values).getD []

/-- The seconds that a live list has left, if it expires. -/
def ttl (m : Memory) (now : Instant) (key : String) : Option Nat :=
  (m.live? now key).bind (Held.ttl now)

/-- Puts a value in front of a list. -/
def push (m : Memory) (now : Instant) (key value : String) (ttl : Option Nat) : Memory :=
  let held := (m.live? now key).getD ⟨[], none⟩
  let expires := match ttl with
    | some seconds => some (after now seconds)
    | none => held.expires
  ⟨m.lists.insert key ⟨value :: held.values, expires⟩⟩

/-- Takes every copy of a value out of a list and says whether there was one. -/
def remove (m : Memory) (now : Instant) (key value : String) : Bool × Memory :=
  match m.live? now key with
  | none => (false, ⟨m.lists.erase key⟩)
  | some held =>
    let kept := held.values.filter (· != value)
    let lists :=
      if kept.isEmpty then m.lists.erase key else m.lists.insert key ⟨kept, held.expires⟩
    (kept.length < held.values.length, ⟨lists⟩)

/-- Carries out a command; the memory never fails. -/
def perform (now : Instant) : (c : Command) → Memory → c.Outcome × Memory
  | .get key, m => (.ok (m.values now key), m)
  | .push key value ttl, m => (.ok (), m.push now key value ttl)
  | .remove key value, m =>
    let (removed, m) := m.remove now key value
    (.ok removed, m)
  | .delete key, m => (.ok (), ⟨m.lists.erase key⟩)

end Memory

end SessionAuth.Cache
