/-
The cache on a list server.

Every command of the cache becomes one command of the server, but for a push: its two
steps go out together between `MULTI` and `EXEC`.  A refusal by the server is read as
a fault: the code at its head decides the kind.
-/
import SessionAuth.Cache.ListServer
import SessionAuth.Text.Cut

namespace SessionAuth.Cache.Remote

/-! ### Reading refusals -/

/-- The fault that a refusal of the server stands for. -/
def faultOf (line : String) : CacheFault :=
  let (code, detail) : String × Option String :=
    match Text.cutAt? [' '] line.toList with
    | some (code, detail) => (String.ofList code, some (String.ofList detail))
    | none => (line, none)
  match CacheFaultKind.ofCode? code with
  | some kind => .known "An error was signalled by the server" kind detail
  | none => .coded code (detail.getD "Unknown extension error encountered")

/-- The fault of a queue that was not carried out. -/
def queueFault : CacheFault :=
  .known "Invalid response when parsing multi response" .response none

/-- The fault of an answer of the wrong kind. -/
def answerFault : CacheFault :=
  .known "Response was of incompatible type" .response none

/-- An answer that may not be a refusal. -/
def accepted : Answer → Except AuthError Unit
  | .refused line => .error (.cache (faultOf line))
  | _ => .ok ()

/-- The items of an answer. -/
def itemsOf : Response → Except AuthError (List String)
  | .single (.values items) => .ok items
  | .single (.refused line) => .error (.cache (faultOf line))
  | _ => .error (.cache answerFault)

/-- The count of an answer. -/
def countOf : Response → Except AuthError Nat
  | .single (.count n) => .ok n
  | .single (.refused line) => .error (.cache (faultOf line))
  | _ => .error (.cache answerFault)

/-- The answers to queued commands: the first refusal among them is the fault. -/
def queueOf : Response → Except AuthError Unit
  | .queued answers => answers.forM accepted
  | .single _ => .error (.cache queueFault)

/-! ### Commands -/

/-- Sends commands one after the other; the response to the last one counts. -/
def send (now : Instant) : List Request → Response → ListServer → Response × ListServer
  | [], last, s => (last, s)
  | r :: more, _, s =>
    let (response, s) := s.receive now r
    send now more response s

/-- The commands of a push. -/
def pushRequests (key value : String) (ttl : Option Nat) : List Request :=
  [.multi, .lpush key value] ++ (ttl.map fun seconds => Request.expire key seconds).toList
    ++ [.exec]

/-- Carries out a command of the cache on the server. -/
def perform (now : Instant) : (c : Command) → ListServer → c.Outcome × ListServer
  | .get key, s =>
    let (response, s) := s.receive now (.lrange key)
    (itemsOf response, s)
  | .push key value ttl, s =>
    if ttl.getD 0 ≥ limit63 then (.error (.internal "TTL out of range"), s)
    else
      let (response, s) := send now (pushRequests key value ttl) (.queued []) s
      (queueOf response, s)
  | .remove key value, s =>
    let (response, s) := s.receive now (.lrem key value)
    ((countOf response).map fun n => decide (0 < n), s)
  | .delete key, s =>
    let (response, s) := s.receive now (.del key)
    ((countOf response).map fun _ => (), s)

/-- Asks the server whether it is there. -/
def ping (now : Instant) (s : ListServer) : Except AuthError Unit × ListServer :=
  let (response, s) := s.receive now .ping
  let outcome := match response with
    | .single answer => accepted answer
    | .queued _ => .error (.cache answerFault)
  (outcome, s)

end SessionAuth.Cache.Remote
