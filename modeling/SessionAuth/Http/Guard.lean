/-
The guard of protected routes.

A protected route is reached only with an access token in the `Authorization` header.
Whatever is wrong with the token, the client is told the same; only a failure of the
server shows as one.
-/
import SessionAuth.Http.Message
import SessionAuth.Service
import SessionAuth.Text.Blank

namespace SessionAuth.Http

/-- Who a request comes from. -/
structure Identity where
  user : UserId
  login : String
  deriving DecidableEq, Repr

/-- The token of a text such as `Bearer abc`; the scheme may be in any letter case. -/
def bearerToken? (value : List Char) : Option String :=
  match Text.cutAt? [' '] (Text.trim Text.isBlank value) with
  | none => none
  | some (scheme, rest) =>
    let token := Text.trim Text.isBlank rest
    if Text.sameLetters scheme "bearer".toList ∧ token ≠ [] then some (String.ofList token)
    else none

/-- The token that a request presents. -/
def Request.bearer? (r : Request) : Option String := (r.text? "authorization").bind bearerToken?

/-- The response to a failed call, which is reported in the log. -/
def respondError (e : AuthError) : Action Response := do
  Action.log (.responded e)
  return .problem e.problem

/-- The response of a call. -/
def respond (call : Call Response) : Action Response := do
  match ← call.run with
  | .ok response => return response
  | .error e => respondError e

namespace Guard

/-- What the client learns of a failed authentication. -/
def visible (e : AuthError) : AuthError := if e.isServerError then e else .unauthorized

/-- Who a request comes from, by its access token. -/
def identify (s : Service) (r : Request) : Call Identity :=
  match r.bearer? with
  | none => throw .unauthorized
  | some token => do
    match ← ExceptT.lift (s.authenticate token .access).run with
    | .ok user => return ⟨user.id, user.login⟩
    | .error e => throw (visible e)

/-- Lets a request through to a handler together with who it comes from. -/
def protect (s : Service) (inner : Identity → Request → Action Response) (r : Request) :
    Action Response := do
  match ← (identify s r).run with
  | .ok identity => inner identity r
  | .error e => respondError e

end Guard

end SessionAuth.Http
