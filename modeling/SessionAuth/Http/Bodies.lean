/-
The bodies of requests and responses.

What a client sends is read strictly: every field must be there, once, and be of the
right kind.  How a body shows in diagnostics leaves the password out.
-/
import SessionAuth.Json.Reader
import SessionAuth.Json.Written
import SessionAuth.Text.Quoted
import SessionAuth.Text.Record

namespace SessionAuth.Http

/-! ### Logging in -/

/-- What a client sends to log in. -/
structure LoginBody where
  login : String
  password : String
  fingerprint : String
  deriving DecidableEq, Repr

namespace LoginBody

/-- A login body that is being read. -/
structure Draft where
  login : Option String := none
  password : Option String := none
  fingerprint : Option String := none

def fields : List (Json.Field Draft) := [
  { name := "login", isRead := (·.login.isSome)
    read := fun d => return { d with login := some (← Json.text) } },
  { name := "password", isRead := (·.password.isSome)
    read := fun d => return { d with password := some (← Json.text) } },
  { name := "fingerprint", isRead := (·.fingerprint.isSome)
    read := fun d => return { d with fingerprint := some (← Json.text) } }]

/-- Reads a login body. -/
def ofJson? (json : Bytes) : Except Json.Fault LoginBody :=
  (Json.whole (Json.record fields {} fun d => do
    return ⟨← d.login, ← d.password, ← d.fingerprint⟩)).run? json

/-- The body as it shows in diagnostics, without the password. -/
def describe (b : LoginBody) : String :=
  Text.Record.complete "LoginRequest" [
    ("login", Text.Quoted.write b.login),
    ("password", Text.Quoted.write "[REDACTED]"),
    ("fingerprint", Text.Quoted.write b.fingerprint)]

end LoginBody

/-! ### Bodies with one field -/

/-- Reads a record with one field. -/
def single (name : String) (value : Json.Reader α) (json : Bytes) : Except Json.Fault α :=
  let fields : List (Json.Field (Option α)) :=
    [{ name := name, isRead := (·.isSome), read := fun _ => return some (← value) }]
  (Json.whole (Json.record fields none id)).run? json

/-- What a client sends to rotate its token. -/
structure FingerprintBody where
  fingerprint : String
  deriving DecidableEq, Repr

namespace FingerprintBody

/-- Reads a fingerprint body. -/
def ofJson? (json : Bytes) : Except Json.Fault FingerprintBody :=
  (single "fingerprint" Json.text json).map FingerprintBody.mk

def describe (b : FingerprintBody) : String :=
  Text.Record.complete "FingerprintRequest" [("fingerprint", Text.Quoted.write b.fingerprint)]

end FingerprintBody

/-- What a client gets after logging in: the access token. -/
structure TokenBody where
  token : String
  deriving DecidableEq, Repr

namespace TokenBody

/-- Reads a token body. -/
def ofJson? (json : Bytes) : Except Json.Fault TokenBody :=
  (single "token" Json.text json).map TokenBody.mk

def toJson (b : TokenBody) : String := Json.object [("token", Json.string b.token)]

def describe (b : TokenBody) : String :=
  Text.Record.complete "TokenResponse" [("token", Text.Quoted.write b.token)]

end TokenBody

/-- Whether something was done. -/
structure StatusBody where
  success : Bool
  deriving DecidableEq, Repr

namespace StatusBody

/-- Reads a status body. -/
def ofJson? (json : Bytes) : Except Json.Fault StatusBody :=
  (single "success" Json.flag json).map StatusBody.mk

def toJson (b : StatusBody) : String := Json.object [("success", Json.bool b.success)]

def describe (b : StatusBody) : String :=
  Text.Record.complete "StatusResponse" [("success", Json.bool b.success)]

end StatusBody

/-- Whether the service is up. -/
structure HealthBody where
  ok : Bool
  deriving DecidableEq, Repr

namespace HealthBody

/-- Reads a health body. -/
def ofJson? (json : Bytes) : Except Json.Fault HealthBody :=
  (single "ok" Json.flag json).map HealthBody.mk

def toJson (b : HealthBody) : String := Json.object [("ok", Json.bool b.ok)]

def describe (b : HealthBody) : String :=
  Text.Record.complete "HealthcheckResponse" [("ok", Json.bool b.ok)]

end HealthBody

end SessionAuth.Http
