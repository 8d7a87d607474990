/-
Settings.

A deployment is described by environment variables.  A variable that is absent or
blank counts as not set; most have a default.  Numbers, switches, keys and the
algorithm may have blanks around them.  The first variable that is wrong, in a fixed
order, decides the error.
-/
import SessionAuth.Bytes.Base64
import SessionAuth.Config
import SessionAuth.Limit
import SessionAuth.Log
import SessionAuth.SocketAddress

namespace SessionAuth

/-! ### Faults -/

/-- Why a text is no number of the wanted size. -/
inductive NumberFault
  | invalidDigit | tooLarge
  deriving DecidableEq, Repr

/-- The message of a number fault. -/
def NumberFault.message : NumberFault → String
  | invalidDigit => "invalid digit found in string"
  | tooLarge => "number too large to fit in target type"

/-- Why settings are refused. -/
inductive SettingsFault
  | missing (name : String)
  | badNumber (name raw : String) (cause : NumberFault)
  | badSwitch (name raw : String)
  | badAlgorithm (cause : AuthError)
  | notBase64 (name : String)
  | lifetimeNotPositive
  | noSessions
  | badAddress (raw : String)
  deriving DecidableEq, Repr

namespace SettingsFault

/-- The message of a fault. -/
def message : SettingsFault → String
  | missing name => name ++ " must be set"
  | badNumber name raw _ => name ++ " has an invalid value: " ++ raw
  | badSwitch name raw => name ++ " has an invalid value: " ++ raw
  | badAlgorithm cause => cause.message
  | notBase64 name => name ++ " must be base64"
  | lifetimeNotPositive => "token lifetimes must be positive"
  | noSessions => "AUTH_MAX_SESSIONS must be at least 1"
  | badAddress raw => "invalid bind address " ++ raw

/-- The messages of the causes, outermost first. -/
def causes : SettingsFault → List String
  | badNumber _ _ cause => [cause.message]
  | badAddress _ => ["invalid socket address syntax"]
  | _ => []

end SettingsFault

/-! ### Reading values -/

/-- The values of the variables; absent ones have none. -/
abbrev Environment := String → Option String

namespace Environment

/-- The value of a variable that is set to something other than blanks. -/
def get? (env : Environment) (name : String) : Option String :=
  (env name).filter fun value => (Text.trimBlanks value) != ""

/-- One more digit of a number that must stay below `limit`. -/
def addDigit (limit : Nat) (n : Nat) (c : Char) : Except NumberFault Nat :=
  if '0' ≤ c ∧ c ≤ '9' then
    let next := 10 * n + (c.toNat - '0'.toNat)
    if next < limit then .ok next else .error .tooLarge
  else .error .invalidDigit

/-- A number below `limit` in decimal digits, with a plus sign at most. -/
def readNumber (limit : Nat) (text : List Char) : Except NumberFault Nat :=
  match text with
  | '+' :: c :: rest => (c :: rest).foldlM (addDigit limit) 0
  | [] => .error .invalidDigit
  | text => text.foldlM (addDigit limit) 0

/-- A number below `limit`, or the default when the variable is not set. -/
def number (env : Environment) (name : String) (limit default : Nat) :
    Except SettingsFault Nat :=
  match env.get? name with
  | none => .ok default
  | some raw =>
    match readNumber limit (Text.trim Text.isBlank raw.toList) with
    | .ok n => .ok n
    | .error cause => .error (.badNumber name raw cause)

/-- A switch, or the default when the variable is not set. -/
def switch (env : Environment) (name : String) (default : Bool) : Except SettingsFault Bool :=
  match env.get? name with
  | none => .ok default
  | some raw =>
    let word := String.ofList ((Text.trim Text.isBlank raw.toList).map Char.toLower)
    if word ∈ ["1", "true", "yes", "on"] then .ok true
    else if word ∈ ["0", "false", "no", "off"] then .ok false
    else .error (.badSwitch name word)

/-- The bytes that a text with blanks around it gives in base64. -/
def fromBase64? (text : String) : Option Bytes :=
  Base64.decodeChars? Base64.standard (Text.trim Text.isBlank text.toList)

/-- The bytes of a key in base64. -/
def decodeKey (name value : String) : Except SettingsFault Bytes :=
  match fromBase64? value with
  | some bytes => .ok bytes
  | none => .error (.notBase64 name)

/-- The bytes of a key in base64, when the variable is set. -/
def key? (env : Environment) (name : String) : Except SettingsFault (Option Bytes) :=
  match env.get? name with
  | none => .ok none
  | some value => (decodeKey name value).map some

end Environment

/-! ### Settings -/

/-- How a deployment runs. -/
structure Settings where
  databaseUrl : String
  databaseConnections : Nat
  cacheUrl : String
  host : String
  port : Nat
  config : Config
  deriving DecidableEq, Repr

namespace Settings

/-- The address of the cache: given as a whole, or put together from its parts. -/
def loadCacheUrl (env : Environment) : Except SettingsFault String :=
  match env.get? "REDIS_URL" with
  | some url => .ok url
  | none => do
    let host := (env.get? "REDIS_HOST").getD "127.0.0.1"
    let port ← env.number "REDIS_PORT" limit16 6379
    match env.get? "REDIS_PASSWORD" with
    | some password => return "redis://:" ++ password ++ "@" ++ host ++ ":" ++ toString port
    | none => return "redis://" ++ host ++ ":" ++ toString port

/-- The algorithm that signs tokens. -/
def loadAlgorithm (env : Environment) : Except SettingsFault Token.Algorithm :=
  match Token.Algorithm.parse ((env.get? "CIPHER_ALGORITHM").getD "HS256") with
  | .ok algorithm => .ok algorithm
  | .error cause => .error (.badAlgorithm cause)

/--
The algorithm and keys.  Without a secret a development build goes on with a random
one and says so; whatever algorithm and public key are set, they are not used then.
-/
def loadKeys (env : Environment) (development : Bool) (fresh : BitVec 256)
    (algorithm : Token.Algorithm) : Except SettingsFault (Config × List Event) :=
  match env.get? "CIPHER_SECRET_KEY" with
  | some secret => do
    let signing ← Environment.decodeKey "CIPHER_SECRET_KEY" secret
    let verification ← env.key? "CIPHER_PUBLIC_KEY"
    return ({ algorithm := algorithm, signingKey := signing,
              verificationKey := verification.getD [] }, [])
  | none =>
    if development then .ok (Config.withSecret (Bytes.ofNat 32 fresh.toNat), [.secretMissing])
    else .error (.missing "CIPHER_SECRET_KEY")

/-- The configuration of the service and what is to be logged about it. -/
def loadConfig (env : Environment) (development : Bool) (fresh : BitVec 256) :
    Except SettingsFault (Config × List Event) := do
  let algorithm ← loadAlgorithm env
  let access ← env.number "CIPHER_ACCESS_TOKEN_EXPIRE_SECONDS" limit64 900
  let refresh ← env.number "CIPHER_REFRESH_TOKEN_EXPIRE_SECONDS" limit64 2592000
  if access = 0 ∨ refresh = 0 then throw .lifetimeNotPositive
  let maxSessions ← env.number "AUTH_MAX_SESSIONS" limit64 5
  if maxSessions = 0 then throw .noSessions
  let (base, events) ← loadKeys env development fresh algorithm
  let secure ← env.switch "COOKIE_SECURE" true
  let pepper ← env.key? "CIPHER_PASSWORD_PEPPER"
  return ({ base with
    accessLifetime := .ofSeconds access
    refreshLifetime := .ofSeconds refresh
    maxSessions := maxSessions
    cookieSecure := secure
    pepper := pepper }, events)

/--
The settings of an environment.  `development` allows a missing secret, in whose place
the random bits `fresh` are then used.
-/
def load (env : Environment) (development : Bool) (fresh : BitVec 256) :
    Except SettingsFault (Settings × List Event) := do
  let databaseUrl ← match env.get? "DATABASE_URL" with
    | some url => pure url
    | none => throw (.missing "DATABASE_URL")
  let connections ← env.number "DB_MAX_CONNECTIONS" limit32 10
  let cacheUrl ← loadCacheUrl env
  let (config, events) ← loadConfig env development fresh
  let port ← env.number "SERVER_PORT" limit16 8080
  return ({
    databaseUrl := databaseUrl
    databaseConnections := connections
    cacheUrl := cacheUrl
    host := (env.get? "SERVER_HOST").getD "127.0.0.1"
    port := port
    config := config }, events)

/-- Where the server listens. -/
def bindAddress (s : Settings) : Except SettingsFault SocketAddress :=
  let raw := s.host ++ ":" ++ toString s.port
  match SocketAddress.parse? raw with
  | some address => .ok address
  | none => .error (.badAddress raw)

end Settings

end SessionAuth
