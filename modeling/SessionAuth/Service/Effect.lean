/-
What the service asks of its surroundings.

Every operation of the service is a program over one set of effects: commands to the
cache, commands to the unit of work, the time of day, random bits, and the log.  A call
is such a program that may end in an error.
-/
import SessionAuth.Cache.Command
import SessionAuth.Log
import SessionAuth.Program
import SessionAuth.Time
import SessionAuth.Users.UnitOfWork

namespace SessionAuth

/-- One request to the surroundings. -/
inductive Effect
  | cache (command : Cache.Command)
  | users (command : Users.Command)
  | clock
  | random (bits : Nat)
  | log (event : Event)
  deriving DecidableEq, Repr

/-- The reply to a request. -/
def Effect.Reply : Effect → Type
  | cache command => command.Outcome
  | users command => command.Outcome
  | clock => Instant
  | random bits => BitVec bits
  | log _ => Unit

/-- A program of the service. -/
abbrev Action := Program Effect Effect.Reply

/-- A program of the service that may fail. -/
abbrev Call := ExceptT AuthError Action

/-- Asks for one thing. -/
def Action.ask (e : Effect) : Action e.Reply := Program.perform e

/-- Reports an event. -/
def Action.log (event : Event) : Action Unit := Action.ask (.log event)

namespace Call

/-- Asks the cache. -/
def cache (command : Cache.Command) : Call command.Reply :=
  ExceptT.mk (Action.ask (.cache command))

/-- Asks the unit of work. -/
def users (command : Users.Command) : Call command.Reply :=
  ExceptT.mk (Action.ask (.users command))

/-- The whole list at a key. -/
def readList (key : String) : Call (List String) := cache (.get key)

/-- Puts a value in front of the list at a key, which then lives for some seconds. -/
def pushTo (key value : String) (ttl : Nat) : Call Unit := cache (.push key value (some ttl))

/-- Takes every copy of a value out of the list at a key; says whether there was one. -/
def removeFrom (key value : String) : Call Bool := cache (.remove key value)

/-- Drops the list at a key. -/
def dropList (key : String) : Call Unit := cache (.delete key)

/-- The user with a login. -/
def userByLogin (login : String) : Call (Option User) := users (.findByLogin login)

/-- The user with an id. -/
def userById (id : UserId) : Call (Option User) := users (.findById id)

/-- The time of day. -/
def clock : Call Instant := ExceptT.lift (Action.ask .clock)

/-- Random bits. -/
def random (bits : Nat) : Call (BitVec bits) :=
  ExceptT.lift (Action.ask (.random bits))

/-- Reports an event. -/
def log (event : Event) : Call Unit := ExceptT.lift (Action.log event)

/-- A result that is known without asking anything. -/
def ofExcept (result : Except AuthError α) : Call α := ExceptT.mk (pure result)

end Call

end SessionAuth
