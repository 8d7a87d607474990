/-
The log.

Every event has a level, a message and named fields.  The events are the ones that the
service reports; what they say about a user is the id and nothing else.  A session that is
opened is reported with the instant at which it expires.
-/
import SessionAuth.Calendar
import SessionAuth.Error
import SessionAuth.UserId

namespace SessionAuth

/-- How much an event matters. -/
inductive Level
  | debug | info | warn | error
  deriving DecidableEq, Repr

/-- The level in capitals. -/
def Level.name : Level → String
  | debug => "DEBUG"
  | info => "INFO"
  | warn => "WARN"
  | error => "ERROR"

/-- What is reported. -/
inductive Event
  | loggedIn (user : UserId) (expiresAt : Instant)
  | refreshed (user : UserId) (expiresAt : Instant)
  | loggedOut (user : UserId)
  | sessionRegistered (user : UserId)
  | sessionCapReached (user : UserId) (sessions : Nat)
  | consumedConcurrently (user : UserId)
  | unknownRefreshToken (user : UserId)
  | tokenRejected
  | tokenTypeMissing
  | rollbackFailed (cause : AuthError)
  | secretMissing
  | responded (cause : AuthError)
  deriving DecidableEq, Repr

namespace Event

/-- The level, message and fields with which an error response is reported. -/
def ofError : AuthError → Level × String × List (String × String)
  | .database fault => (.error, "Auth database error", [("error", fault.message)])
  | .cache fault => (.error, "Auth cache error", [("error", fault.message)])
  | .configuration detail => (.error, "Auth configuration error", [("message", detail)])
  | .internal detail => (.error, "Auth internal error", [("message", detail)])
  | .invalidCredentials => (.warn, "Invalid login attempt", [])
  | .sessionRevoked => (.warn, "Refresh token replay detected", [])
  | e => (.debug, "Auth error", [("error", e.message)])

/-- The field that names a user. -/
def userField (user : UserId) : String × String := ("user_id", user.toHyphenated)

/-- The field that tells when a session expires. -/
def expiryField (expiresAt : Instant) : String × String := ("expires_at", expiresAt.text)

/-- The level, message and fields of an event. -/
def parts : Event → Level × String × List (String × String)
  | loggedIn user expiresAt =>
    (.info, "User logged in", [userField user, expiryField expiresAt])
  | refreshed user expiresAt =>
    (.info, "Session refreshed", [userField user, expiryField expiresAt])
  | loggedOut user => (.info, "User logged out", [userField user])
  | sessionRegistered user => (.debug, "Session registered", [userField user])
  | sessionCapReached user sessions =>
    (.warn, "Session cap reached, revoking all sessions",
      [userField user, ("sessions", toString sessions)])
  | consumedConcurrently user =>
    (.warn, "Refresh token consumed concurrently", [userField user])
  | unknownRefreshToken user =>
    (.warn, "Unknown refresh token for fingerprint", [userField user])
  | tokenRejected => (.debug, "Token rejected", [])
  | tokenTypeMissing => (.warn, "Token type not given, using access token lifetime", [])
  | rollbackFailed cause => (.warn, "Rollback failed", [("error", cause.message)])
  | secretMissing => (.warn, "CIPHER_SECRET_KEY not set, using a random HS256 secret", [])
  | responded cause => ofError cause

/--
The event as one line, for comparing runs that begin at different times: the time at which a
session expires is left out.
-/
def line (e : Event) : String :=
  let fields := e.parts.2.2.filter (·.1 != "expires_at")
  String.intercalate " "
    (e.parts.1.name :: e.parts.2.1 :: fields.map fun field => field.1 ++ "=" ++ field.2)

end Event

end SessionAuth
