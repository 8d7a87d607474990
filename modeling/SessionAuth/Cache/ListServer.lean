/-
A server that keeps lists.

A shared cache is a server that understands a handful of commands on lists with times
to live.  Between `MULTI` and `EXEC` commands are queued; at `EXEC` they run one after
the other, each even if another one fails.  Empty lists disappear together with their
time to live, and a time to live that is not positive drops the key at once.

A server can be told to refuse some commands, which then change nothing.  It writes
down every command that reaches it.
-/
import SessionAuth.Cache.Memory

namespace SessionAuth.Cache

/-- A command as it is sent to the server. -/
inductive Request
  | lrange (key : String)
  | lpush (key value : String)
  | expire (key : String) (seconds : Int)
  | lrem (key value : String)
  | del (key : String)
  | multi
  | exec
  | ping
  deriving DecidableEq, Repr

namespace Request

/-- The name of a command. -/
def name : Request → String
  | lrange _ => "LRANGE"
  | lpush _ _ => "LPUSH"
  | expire _ _ => "EXPIRE"
  | lrem _ _ => "LREM"
  | del _ => "DEL"
  | multi => "MULTI"
  | exec => "EXEC"
  | ping => "PING"

/-- The words that are sent. -/
def words : Request → List String
  | lrange key => ["LRANGE", key, "0", "-1"]
  | lpush key value => ["LPUSH", key, value]
  | expire key seconds => ["EXPIRE", key, toString seconds]
  | lrem key value => ["LREM", key, "0", value]
  | del key => ["DEL", key]
  | r => [r.name]

end Request

/-- What a server sends back for one command. -/
inductive Answer
  | status (text : String)
  | count (n : Nat)
  | values (items : List String)
  | refused (line : String)
  deriving DecidableEq, Repr

/-- What a server sends back: an answer, or the answers to the queued commands. -/
inductive Response
  | single (answer : Answer)
  | queued (answers : List Answer)
  deriving DecidableEq, Repr

/-- What is stored at a key. -/
inductive Content
  | list (values : List String)
  | text
  deriving DecidableEq, Repr

/-- The content of a key and the instant at which it expires, if it does. -/
structure Stored where
  content : Content
  expires : Option Instant
  deriving DecidableEq, Repr

/-- The longest time to live, in seconds, that can be counted in milliseconds by 63 bits. -/
def longestTtl : Nat := (limit63 - 1) / 1000

/-- The state of a server. -/
structure ListServer where
  keys : Table String Stored := .empty
  /-- The commands that are refused, with the line of the refusal. -/
  faults : Table String String := .empty
  /-- The commands queued since `MULTI`, newest first; nothing outside of it. -/
  queue : Option (List Request) := none
  /-- The commands received, oldest first. -/
  received : List (List String) := []

namespace ListServer

/-- The refusal of a list command on a key that holds no list. -/
def wrongType : Answer :=
  .refused "WRONGTYPE Operation against a key holding the wrong kind of value"

/-- What is stored at a key that has not expired. -/
def live? (s : ListServer) (now : Instant) (key : String) : Option Stored :=
  (s.keys.get? key).filter fun stored => (Held.mk [] stored.expires).isLive now

/-- The server with other content at a key. -/
def store (s : ListServer) (key : String) (stored : Option Stored) : ListServer :=
  { s with keys := s.keys.put key stored }

/-- The values of the list at a key; none when there is no list. -/
def values (s : ListServer) (now : Instant) (key : String) : List String :=
  match s.live? now key with
  | some ⟨.list values, _⟩ => values
  | _ => []

/-- The seconds that a key has left, rounded up, if it expires. -/
def ttl (s : ListServer) (now : Instant) (key : String) : Option Nat :=
  (s.live? now key).bind fun stored => (Held.mk [] stored.expires).ttl now

/-- Carries out one command outside of the queue. -/
def execute (now : Instant) (r : Request) (s : ListServer) : Answer × ListServer :=
  match s.faults.get? r.name with
  | some line => (.refused line, s)
  | none =>
    match r with
    | .lrange key =>
      match s.live? now key with
      | none => (.values [], s)
      | some ⟨.list values, _⟩ => (.values values, s)
      | some ⟨.text, _⟩ => (wrongType, s)
    | .lpush key value =>
      match s.live? now key with
      | none => (.count 1, s.store key (some ⟨.list [value], none⟩))
      | some ⟨.list values, expires⟩ =>
        (.count (values.length + 1), s.store key (some ⟨.list (value :: values), expires⟩))
      | some ⟨.text, _⟩ => (wrongType, s)
    | .expire key seconds =>
      if seconds > longestTtl then
        (.refused "ERR invalid expire time in 'expire' command", s)
      else
        match s.live? now key with
        | none => (.count 0, s)
        | some stored =>
          if seconds ≤ 0 then (.count 1, s.store key none)
          else (.count 1, s.store key (some { stored with expires := some (after now seconds.toNat) }))
    | .lrem key value =>
      match s.live? now key with
      | none => (.count 0, s)
      | some ⟨.list values, expires⟩ =>
        let kept := values.filter (· != value)
        (.count (values.length - kept.length),
          s.store key (if kept.isEmpty then none else some ⟨.list kept, expires⟩))
      | some ⟨.text, _⟩ => (wrongType, s)
    | .del key =>
      match s.live? now key with
      | none => (.count 0, s.store key none)
      | some _ => (.count 1, s.store key none)
    | .ping => (.status "PONG", s)
    | .multi => (.status "OK", s)
    | .exec => (.refused "ERR EXEC without MULTI", s)

/-- Carries out queued commands, oldest first. -/
def executeAll (now : Instant) : List Request → ListServer → List Answer × ListServer
  | [], s => ([], s)
  | r :: more, s =>
    let (answer, s) := s.execute now r
    let (answers, s) := executeAll now more s
    (answer :: answers, s)

/-- Receives one command. -/
def receive (now : Instant) (r : Request) (s : ListServer) : Response × ListServer :=
  let s := { s with received := s.received ++ [r.words] }
  match r, s.queue with
  | .multi, none =>
    match s.faults.get? r.name with
    | some line => (.single (.refused line), s)
    | none => (.single (.status "OK"), { s with queue := some [] })
  | .exec, some queue =>
    let s := { s with queue := none }
    match s.faults.get? r.name with
    | some line => (.single (.refused line), s)
    | none =>
      let (answers, s) := executeAll now queue.reverse s
      (.queued answers, s)
  | r, some queue => (.single (.status "QUEUED"), { s with queue := some (r :: queue) })
  | r, none =>
    let (answer, s) := s.execute now r
    (.single answer, s)

end ListServer

end SessionAuth.Cache
