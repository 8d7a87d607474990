/-
The routes of the service.

Logging in, refreshing and logging out are requests with the method `POST`; the refresh
token travels in a cookie, the access token in the body of a response.  A protected
route shows who a request comes from; the same route without the guard never knows.
-/
import SessionAuth.Http.Bodies
import SessionAuth.Http.Guard
import SessionAuth.Http.MediaType

namespace SessionAuth.Http

/-- The service and the cookie that carries its refresh tokens. -/
structure Api where
  service : Service
  cookie : Cookie

/-! ### Bodies in JSON -/

/-- Why a body was refused before the request was looked at any further. -/
inductive BodyFault
  | notJson
  | tooLong
  /-- It could not be read, and the reader has something to say of it. -/
  | faulty (fault : Json.Fault) (remark : String)
  deriving DecidableEq, Repr

/-- The response to a refused body. -/
def BodyFault.response : BodyFault → Response
  | notJson => .plain 415 "Expected request with \x60Content-Type: application/json\x60"
  | tooLong => .plain 413 "Failed to buffer the request body: length limit exceeded"
  | faulty .malformed remark =>
    .plain 400 ("Failed to parse the request body as JSON: " ++ remark)
  | faulty .unfit remark =>
    .plain 422 ("Failed to deserialize the JSON body into the target type: " ++ remark)

/-- The longest body that is read, in bytes: two mebibytes. -/
def longestBody : Nat := 2097152

/-- The request says that its body is JSON. -/
def Request.hasJson (r : Request) : Bool :=
  ((r.text? "content-type").bind MediaType.parse?).any MediaType.isJson

/-- The body of a request.  Its kind is looked at first, then its length, then what it says. -/
def Request.jsonBody (r : Request) (read : Bytes → Except Json.Fault α) : Except BodyFault α :=
  if r.hasJson then
    if r.body.length ≤ longestBody then
      match read r.body with
      | .ok body => .ok body
      | .error fault => .error (.faulty fault r.remark)
    else .error .tooLong
  else .error .notJson

/-- Goes on with the body of a request. -/
def withBody (r : Request) (read : Bytes → Except Json.Fault α) (next : α → Call Response) :
    Action Response :=
  match r.jsonBody read with
  | .ok body => respond (next body)
  | .error fault => return fault.response

/-! ### Methods -/

/-- A handler for the method `POST` only. -/
def onPost (handler : Request → Action Response) (r : Request) : Action Response :=
  if r.method = "POST" then handler r else return .methodNotAllowed "POST"

/-- The methods with which something is looked at, as a header names them. -/
def lookMethods : String := "GET,HEAD"

/-- The request only looks at something. -/
def Request.isLook (r : Request) : Bool := r.method = "GET" ∨ r.method = "HEAD"

/-- A handler for the method `GET`, and for `HEAD` as well. -/
def onGet (handler : Request → Action Response) (r : Request) : Action Response :=
  if r.isLook then handler r else return .methodNotAllowed lookMethods

/--
A protected handler for the methods `GET` and `HEAD`.  The guard comes before the
method, but whatever the response, it names the methods to a request with another one.
-/
def onProtectedGet (s : Service) (handler : Identity → Request → Action Response)
    (r : Request) : Action Response := do
  let response ← Guard.protect s (fun who => onGet (handler who)) r
  return if r.isLook then response else { response with allow := some lookMethods }

namespace Api

/-! ### Handlers -/

/-- A header that carries the cookie, which cannot be written with every cookie name. -/
def header : Option String → Except AuthError String
  | some text => .ok text
  | none => .error (.internal "failed to parse header value")

/-- The response with a new pair of tokens. -/
def tokenResponse (api : Api) (tokens : IssuedTokens) : Except AuthError Response := do
  let cookie ← header (api.cookie.setHeader? tokens.refresh tokens.maxAge)
  return { Response.json 200 (TokenBody.toJson ⟨tokens.access⟩) with setCookie := some cookie }

/-- The refresh token that a request carries; a missing one reads as empty. -/
def refreshToken (api : Api) (r : Request) : String :=
  (Cookie.find? (r.values "cookie") api.cookie.name).getD ""

/-- Logs in with the credentials in the body. -/
def login (api : Api) (r : Request) : Action Response :=
  withBody r LoginBody.ofJson? fun body => do
    let fingerprint ← Call.ofExcept (Session.Fingerprint.ofText body.fingerprint)
    let tokens ← api.service.login body.login (.ofTyped body.password) fingerprint
    Call.ofExcept (api.tokenResponse tokens)

/-- Changes the refresh token in the cookie for a new pair of tokens. -/
def refresh (api : Api) (r : Request) : Action Response :=
  withBody r FingerprintBody.ofJson? fun body => do
    let fingerprint ← Call.ofExcept (Session.Fingerprint.ofText body.fingerprint)
    let tokens ← api.service.refresh fingerprint (api.refreshToken r)
    Call.ofExcept (api.tokenResponse tokens)

/-- Ends the session of the refresh token in the cookie. -/
def logout (api : Api) (r : Request) : Action Response :=
  respond do
    api.service.logout (api.refreshToken r)
    let cookie ← Call.ofExcept (header api.cookie.deleteHeader?)
    return { Response.json 200 (StatusBody.toJson ⟨true⟩) with setCookie := some cookie }

/-- Says that the service is up. -/
def health (_ : Request) : Action Response := return .json 200 (HealthBody.toJson ⟨true⟩)

/-- Shows who a request comes from. -/
def showIdentity (identity : Identity) (_ : Request) : Action Response :=
  return .plain 200 (identity.user.toHex ++ " " ++ identity.login)

/-- The identity of a request that no guard has looked at is never known. -/
def openIdentity (_ : Request) : Action Response := respondError .unauthorized

/-! ### Routes -/

/-- What stands at a path. -/
def route? (api : Api) : String → Option (Request → Action Response)
  | "/v1/auth/login" => some (onPost api.login)
  | "/v1/auth/refresh" => some (onPost api.refresh)
  | "/v1/auth/logout" => some (onPost api.logout)
  | "/v1/healthcheck" => some (onGet health)
  | "/v1/whoami" => some (onProtectedGet api.service showIdentity)
  | "/v1/open" => some (onGet openIdentity)
  | _ => none

/-- The response to a request; `HEAD` gets no body. -/
def handle (api : Api) (r : Request) : Action Response := do
  let response ← match api.route? r.path with
    | some handler => handler r
    | none => pure .notFound
  return if r.method = "HEAD" then response.bodiless else response

end Api

end SessionAuth.Http
