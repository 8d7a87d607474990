/-
The registry of sessions.

The sessions of a user are a list in the cache, newest first, under a key of the user's
own.  A list is read, looked through and then changed by separate commands, so another
call may come in between.  Two things drop all sessions of a user at once: registering
one more than allowed, and presenting a token that is not in the list although others
are, since such a token was stolen or used before.
-/
import SessionAuth.Service.Effect
import SessionAuth.Session.Entry

namespace SessionAuth.Session

/-- The registry: how many sessions a user may have. -/
structure Registry where
  maxSessions : Nat
  deriving DecidableEq, Repr

namespace Registry

/-- The key of a user's list. -/
def key (user : UserId) : String := "auth:" ++ user.toHex

/-- The first stored text that holds this fingerprint and this token. -/
def find? (fingerprint token : String) (entries : List String) : Option String :=
  entries.find? fun raw => (Entry.parse? raw).any (·.isFor fingerprint token)

/-- The first stored text that holds this token. -/
def findToken? (token : String) (entries : List String) : Option String :=
  entries.find? fun raw => (Entry.parse? raw).any (·.matchesToken token)

/--
Adds a session for a number of seconds, which become the time to live of the whole list.
When the user has as many sessions as allowed, or more, they are all dropped first.
-/
def register (r : Registry) (user : UserId) (fingerprint token : String) (ttl : Nat) :
    Call Unit := do
  let entries ← Call.readList (key user)
  if r.maxSessions ≤ entries.length then
    Call.log (.sessionCapReached user entries.length)
    Call.dropList (key user)
  Call.pushTo (key user) (Entry.encode ⟨fingerprint, token⟩) ttl
  Call.log (.sessionRegistered user)

/--
Takes out the session with this fingerprint and this token and says whether it did.  If
it could not although the user has sessions, all of them are dropped.
-/
def consume (user : UserId) (fingerprint token : String) : Call Bool := do
  let entries ← Call.readList (key user)
  if entries.isEmpty then return false
  match find? fingerprint token entries with
  | some raw =>
    if ← Call.removeFrom (key user) raw then return true
    Call.log (.consumedConcurrently user)
  | none => Call.log (.unknownRefreshToken user)
  Call.dropList (key user)
  return false

/-- Takes out the session with this token, whatever its fingerprint. -/
def revoke (user : UserId) (token : String) : Call Bool := do
  let entries ← Call.readList (key user)
  match findToken? token entries with
  | some raw => Call.removeFrom (key user) raw
  | none => return false

/-- The number of sessions of a user. -/
def count (user : UserId) : Call Nat := do
  let entries ← Call.readList (key user)
  return entries.length

end Registry

end SessionAuth.Session
