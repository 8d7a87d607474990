/-
The authentication service.

Logging in opens a session and hands out two tokens: a short-lived one for access and a
long-lived one for refreshing.  Refreshing uses a token up and hands out new ones,
logging out uses it up for good, and an access token names its user.  Every operation
runs inside one unit of work on the users; only the cache is written.
-/
import SessionAuth.Password.ClearText
import SessionAuth.Service.Tokens
import SessionAuth.Session.Registry

namespace SessionAuth

/-- The service: how it makes tokens, keeps sessions and verifies passwords. -/
structure Service where
  codec : Token.Codec
  registry : Session.Registry
  /-- Whether a stored hash and a password belong together. -/
  verify : String → Password.ClearText → Bool

/-- A new pair of tokens. -/
structure IssuedTokens where
  access : String
  refresh : String
  /-- When the refresh token expires, and how many seconds that is from now. -/
  expiresAt : Instant
  maxAge : Nat
  deriving DecidableEq, Repr

namespace Call

/-- Ends the unit of work after the work: it commits a result and rolls back after an error. -/
def finish : Except AuthError α → Call α
  | .ok value => do
    users .commit
    return value
  | .error e => do
    match ← ExceptT.lift (users .rollback).run with
    | .ok _ => pure ()
    | .error cause => log (.rollbackFailed cause)
    throw e

/-- Does work inside a unit of work. -/
def inUnit (work : Call α) : Call α := do
  users .begin
  finish (← ExceptT.lift work.run)

end Call

namespace Service

/-! ### Steps -/

/-- The user of a token, which must be of the expected kind. -/
def resolve (s : Service) (token : String) (expected : Token.Kind) : Call User := do
  let payload ← s.codec.decode token
  let id ← Call.ofExcept payload.user
  match ← Call.userById id with
  | some user => if payload.isOf expected then return user else throw .unauthorized
  | none => throw .unauthorized

/-- Makes a pair of tokens and registers the session. -/
def issue (s : Service) (user : UserId) (fingerprint : Session.Fingerprint) :
    Call IssuedTokens := do
  let (expiresAt, refresh) ← s.codec.encode user.toHex .refresh
  let (_, access) ← s.codec.encode user.toHex .access
  let now ← Call.clock
  let maxAge := now.secondsUntil expiresAt
  s.registry.register user fingerprint.text refresh maxAge
  return { access := access, refresh := refresh, expiresAt := expiresAt, maxAge := maxAge }

/-- The user with this login and this password. -/
def credentials (s : Service) (login : String) (password : Password.ClearText) : Call User := do
  match ← Call.userByLogin login with
  | some user =>
    if s.verify user.passwordHash password then return user else throw .invalidCredentials
  | none => throw .invalidCredentials

/-! ### Operations -/

/-- Opens a session for a user who knows the password. -/
def login (s : Service) (login : String) (password : Password.ClearText)
    (fingerprint : Session.Fingerprint) : Call IssuedTokens :=
  Call.inUnit do
    let user ← s.credentials login password
    let tokens ← s.issue user.id fingerprint
    Call.log (.loggedIn user.id tokens.expiresAt)
    return tokens

/-- Uses up a refresh token that belongs to a fingerprint, and opens a new session. -/
def refresh (s : Service) (fingerprint : Session.Fingerprint) (token : String) :
    Call IssuedTokens :=
  Call.inUnit do
    let user ← s.resolve token .refresh
    if ← Session.Registry.consume user.id fingerprint.text token then
      let tokens ← s.issue user.id fingerprint
      Call.log (.refreshed user.id tokens.expiresAt)
      return tokens
    else throw .sessionRevoked

/-- Ends the session of a refresh token. -/
def logout (s : Service) (token : String) : Call Unit :=
  Call.inUnit do
    let user ← s.resolve token .refresh
    if ← Session.Registry.revoke user.id token then Call.log (.loggedOut user.id)
    else throw .unknownToken

/-- The user behind a token of the expected kind. -/
def authenticate (s : Service) (token : String) (expected : Token.Kind) : Call User :=
  Call.inUnit (s.resolve token expected)

end Service

end SessionAuth
