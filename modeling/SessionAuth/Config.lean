/-
Configuration of the service.

Which algorithm and keys sign the tokens, how long they live, how many sessions a user
may have, how the cookie is called, and the pepper that is mixed into passwords.
-/
import SessionAuth.Cookie
import SessionAuth.Time
import SessionAuth.Token.Algorithm

namespace SessionAuth

/-- The configuration of the service. -/
structure Config where
  algorithm : Token.Algorithm := .hmac .sha256
  signingKey : Bytes := []
  verificationKey : Bytes := []
  accessLifetime : Lifetime := .ofSeconds 900
  refreshLifetime : Lifetime := .ofSeconds 2592000
  maxSessions : Nat := 5
  cookieName : String := "refresh"
  cookieSecure : Bool := true
  sameSite : SameSite := .lax
  pepper : Option Bytes := none
  deriving DecidableEq, Repr

namespace Config

/-- The default configuration with a random secret, for development. -/
def withSecret (secret : Bytes) : Config := { signingKey := secret }

/-- The cookie that carries the refresh token. -/
def refreshCookie (c : Config) : Cookie :=
  { name := c.cookieName, secure := c.cookieSecure, sameSite := c.sameSite }

/-- The configuration as it shows in diagnostics: no key, and no trace of the pepper. -/
def describe (c : Config) : String :=
  Text.Record.abridged "AuthConfig" [
    ("algorithm", c.algorithm.name),
    ("signing_key", Text.Quoted.write "[REDACTED]"),
    ("access_token_ttl", c.accessLifetime.text),
    ("refresh_token_ttl", c.refreshLifetime.text),
    ("max_sessions", toString c.maxSessions),
    ("refresh_cookie_name", Text.Quoted.write c.cookieName),
    ("cookie_secure", Json.bool c.cookieSecure),
    ("cookie_same_site", c.sameSite.name)]

end Config

end SessionAuth
