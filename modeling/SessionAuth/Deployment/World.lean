/-
Carrying out programs of the service.

A backend says how the cache and the store of users carry out their commands.  The rest
of the surroundings is the same for every backend: a clock, a source of randomness and
a log.  Together they are the world in which programs run.
-/
import SessionAuth.Entropy
import SessionAuth.Cache.Remote
import SessionAuth.Service.Effect
import SessionAuth.Users.Memory
import SessionAuth.Users.Relational

namespace SessionAuth

/-- How a cache and a store of users with state `σ` carry out commands. -/
structure Backend (σ : Type) where
  cache : Instant → (c : Cache.Command) → σ → c.Outcome × σ
  /-- The number is that of the unit of work. -/
  users : Nat → (c : Users.Command) → σ → c.Outcome × σ

/-- The surroundings of a program. -/
structure World (σ : Type) where
  store : σ
  now : Instant
  entropy : Entropy
  /-- The events reported, oldest first. -/
  events : List Event := []

namespace Backend

/-- Carries out one request in the unit of work with number `unit`. -/
def handle {σ : Type} (b : Backend σ) (unit : Nat) : (e : Effect) → World σ → e.Reply × World σ
  | .cache c, w =>
    let (outcome, store) := b.cache w.now c w.store
    (outcome, { w with store := store })
  | .users c, w =>
    let (outcome, store) := b.users unit c w.store
    (outcome, { w with store := store })
  | .clock, w => (w.now, w)
  | .random count, w =>
    let (bits, entropy) := w.entropy.bits count
    (bits, { w with entropy := entropy })
  | .log event, w => ((), { w with events := w.events ++ [event] })

/-- Runs a program. -/
def run {σ : Type} (b : Backend σ) (action : Action α) (w : World σ) : α × World σ :=
  Program.run (b.handle 0) action w

/-- Runs a call. -/
def runCall {σ : Type} (b : Backend σ) (call : Call α) (w : World σ) :
    Except AuthError α × World σ :=
  b.run call.run w

end Backend

/-! ### Backends -/

/-- A backend with a table of users that can be changed, and with views of its state. -/
structure Deployment (σ : Type) extends Backend σ where
  insertUser : User → σ → σ
  removeUser : UserId → σ → σ
  counters : σ → Users.Counters
  /-- The values of the list at a key and the seconds that it has left. -/
  list : Instant → String → σ → List String × Option Nat

namespace Deployment

/-- Everything in memory. -/
def inMemory : Deployment (Cache.Memory × Users.Memory) where
  cache now c s :=
    let (outcome, m) := s.1.perform now c
    (outcome, m, s.2)
  users unit c s :=
    let (outcome, m) := s.2.perform unit c
    (outcome, s.1, m)
  insertUser u s := (s.1, s.2.insert u)
  removeUser id s := (s.1, s.2.remove id)
  counters s := s.2.counters
  list now key s := (s.1.values now key, s.1.ttl now key)

/-- A list server and a relational database. -/
def remote : Deployment (Cache.ListServer × Users.Relational) where
  cache now c s :=
    let (outcome, server) := Cache.Remote.perform now c s.1
    (outcome, server, s.2)
  users unit c s :=
    let (outcome, database) := s.2.perform unit c
    (outcome, s.1, database)
  insertUser u s := (s.1, s.2.insert u)
  removeUser id s := (s.1, s.2.remove id)
  counters s := s.2.counters
  list now key s := (s.1.values now key, s.1.ttl now key)

end Deployment

end SessionAuth
