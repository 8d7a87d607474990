/-
What can go wrong.

A failed operation is one of ten kinds of error.  Five of them tell the client that it
is not, or no longer, let in; one that its request is malformed; the remaining four
are failures of the server, whose cause goes to the log and never to the client.

What the client does see is a problem document: a status, a fixed title, a detail and
at times a hint what to do next.
-/
import SessionAuth.Json.Written

namespace SessionAuth

/-! ### Faults of the collaborators -/

/-- The kinds of fault that a cache client tells apart. -/
inductive CacheFaultKind
  | io | response | aborted | busyLoading | noScript | moved | ask | tryAgain | clusterDown
  | crossSlot | masterDown | readOnly | notBusy | noSubscription | invalidClientConfig
  deriving DecidableEq, Repr

namespace CacheFaultKind

/-- The name of a kind as it shows in messages. -/
def name : CacheFaultKind → String
  | io => "IoError"
  | response => "ResponseError"
  | aborted => "ExecAbortError"
  | busyLoading => "BusyLoadingError"
  | noScript => "NoScriptError"
  | moved => "Moved"
  | ask => "Ask"
  | tryAgain => "TryAgain"
  | clusterDown => "ClusterDown"
  | crossSlot => "CrossSlot"
  | masterDown => "MasterDown"
  | readOnly => "ReadOnly"
  | notBusy => "NotBusy"
  | noSubscription => "NoSub"
  | invalidClientConfig => "InvalidClientConfig"

/-- The kind that a server announces by a code at the head of its error reply. -/
def ofCode? : String → Option CacheFaultKind
  | "ERR" => some response
  | "EXECABORT" => some aborted
  | "LOADING" => some busyLoading
  | "NOSCRIPT" => some noScript
  | "MOVED" => some moved
  | "ASK" => some ask
  | "TRYAGAIN" => some tryAgain
  | "CLUSTERDOWN" => some clusterDown
  | "CROSSSLOT" => some crossSlot
  | "MASTERDOWN" => some masterDown
  | "READONLY" => some readOnly
  | "NOTBUSY" => some notBusy
  | "NOSUB" => some noSubscription
  | _ => none

end CacheFaultKind

/-- A fault of the cache: of a known kind, or with a code of the server's own. -/
inductive CacheFault
  | known (description : String) (kind : CacheFaultKind) (detail : Option String)
  | coded (code detail : String)
  deriving DecidableEq, Repr

/-- The message of a cache fault. -/
def CacheFault.message : CacheFault → String
  | known description kind none => description ++ "- " ++ kind.name
  | known description kind (some detail) => description ++ " - " ++ kind.name ++ ": " ++ detail
  | coded code detail => code ++ ": " ++ detail

/-- A fault of the database: data that makes no sense, or an error that the server reported. -/
inductive DatabaseFault
  | invalidData (detail : String)
  | reported (detail : String)
  deriving DecidableEq, Repr

/-- The message of a database fault. -/
def DatabaseFault.message : DatabaseFault → String
  | invalidData detail => "encountered unexpected or invalid data: " ++ detail
  | reported detail => "error returned from database: " ++ detail

/-! ### Problems shown to clients -/

/-- The class of a failure; each has one status. -/
inductive ErrorKind
  | badRequest | unauthorized | internalServerError
  deriving DecidableEq, Repr

namespace ErrorKind

/-- The status of a response that reports the failure. -/
def status : ErrorKind → Nat
  | badRequest => 400
  | unauthorized => 401
  | internalServerError => 500

/-- The title of the problem document. -/
def title : ErrorKind → String
  | badRequest => "Bad Request"
  | unauthorized => "Unauthorized"
  | internalServerError => "Internal Server Error"

/-- The kind as a constant in upper case. -/
def constantName : ErrorKind → String
  | badRequest => "BAD_REQUEST"
  | unauthorized => "UNAUTHORIZED"
  | internalServerError => "INTERNAL_SERVER_ERROR"

/-- The failure is the server's own. -/
def isServerError (kind : ErrorKind) : Bool := 500 ≤ kind.status

end ErrorKind

/-- What a client is told about a failure; the cause stays on the server. -/
structure Problem where
  kind : ErrorKind
  detail : String
  action : Option String
  cause : Option String
  deriving DecidableEq, Repr

namespace Problem

/-- The problem in one line. -/
def summary (p : Problem) : String := p.kind.title ++ ": " ++ p.detail

/-- The problem document; it does not depend on the cause. -/
def document (p : Problem) : String :=
  Json.object [
    ("action", Json.optional p.action),
    ("detail", Json.string p.detail),
    ("status", toString p.kind.status),
    ("title", Json.string p.kind.title),
    ("type", Json.string ("https://httpstatuses.io/" ++ toString p.kind.status))]

end Problem

/-! ### Errors of the service -/

/-- Why an operation failed. -/
inductive AuthError
  | invalidCredentials
  | tokenInvalid
  | unauthorized
  | sessionRevoked
  | unknownToken
  | invalidFingerprint
  | configuration (detail : String)
  | database (fault : DatabaseFault)
  | cache (fault : CacheFault)
  | internal (detail : String)
  deriving DecidableEq, Repr

namespace AuthError

/-- The message of an error. -/
def message : AuthError → String
  | invalidCredentials => "Incorrect login or password"
  | tokenInvalid => "Token is invalid or expired"
  | unauthorized => "Unauthorized"
  | sessionRevoked => "Current token is not valid anymore"
  | unknownToken => "Invalid token"
  | invalidFingerprint => "Fingerprint must not contain \"::\""
  | configuration detail => "Configuration error: " ++ detail
  | database fault => "Database error: " ++ fault.message
  | cache fault => "Cache error: " ++ fault.message
  | internal detail => "Internal error: " ++ detail

/-- The class of an error. -/
def kind : AuthError → ErrorKind
  | invalidCredentials | tokenInvalid | unauthorized | sessionRevoked | unknownToken =>
    .unauthorized
  | invalidFingerprint => .badRequest
  | configuration _ | database _ | cache _ | internal _ => .internalServerError

/-- The failure is the server's own. -/
def isServerError (e : AuthError) : Bool := e.kind.isServerError

/-- The cause that stays on the server. -/
def cause : AuthError → String
  | database fault => fault.message
  | cache fault => fault.message
  | e => e.message

/-- What the client is told: the message, or for a server error that there was one. -/
def problem (e : AuthError) : Problem :=
  if e.isServerError then
    { kind := e.kind, detail := "Internal server error", action := none, cause := some e.cause }
  else
    { kind := e.kind, detail := e.message
      action := if e = sessionRevoked then some "Sign in again" else none
      cause := none }

end AuthError

end SessionAuth
