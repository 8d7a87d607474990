/-
Making and reading tokens.

A codec has a key that signs, a key that checks, and a lifetime for each kind of token.
Making a token takes the time of day and random bits; reading one takes the time of
day.  A token that fails any check is refused, and nothing tells which check it was.
-/
import SessionAuth.Config
import SessionAuth.Token.Claims
import SessionAuth.Token.Compact
import SessionAuth.Token.Header
import SessionAuth.Token.Payload
import SessionAuth.Token.Signature

namespace SessionAuth.Token

open Keys (KeyFault)

/-- What signs and checks the tokens of the service. -/
structure Codec where
  algorithm : Algorithm
  signingKey : SigningKey
  verificationKey : VerificationKey
  accessLifetime : Lifetime
  refreshLifetime : Lifetime

/-- What may be chosen differently for a single token; the lifetime is in milliseconds. -/
structure Overrides where
  key : Option SigningKey := none
  algorithm : Option Algorithm := none
  lifetime : Option Int := none

namespace Codec

/-! ### From the configuration -/

/-- A key that cannot be loaded is a fault of the configuration. -/
def loaded (algorithm : Algorithm) : Except KeyFault α → Except AuthError α
  | .ok key => .ok key
  | .error fault =>
    .error (.configuration ("invalid " ++ algorithm.name ++ " key: " ++ fault.name))

/-- A lifetime that can be added to an instant. -/
def checkLifetime (d : Lifetime) : Except AuthError Unit :=
  if d.nanos ≤ Lifetime.longest.nanos then .ok ()
  else .error (.configuration "token lifetime out of range")

/-- The codec of a configuration; without a key for checking, the signing key serves. -/
def ofConfig (c : Config) : Except AuthError Codec := do
  if c.signingKey.isEmpty then throw (.configuration "signing key is empty")
  let checking := if c.verificationKey.isEmpty then c.signingKey else c.verificationKey
  let family := c.algorithm.family
  let signingKey ← loaded c.algorithm (SigningKey.load family c.signingKey)
  let verificationKey ← loaded c.algorithm (VerificationKey.load family checking)
  checkLifetime c.accessLifetime
  checkLifetime c.refreshLifetime
  return ⟨c.algorithm, signingKey, verificationKey, c.accessLifetime, c.refreshLifetime⟩

/-- The codec as it shows in diagnostics, without its keys. -/
def describe (c : Codec) : String :=
  Text.Record.abridged "TokenCodec" [
    ("algorithm", c.algorithm.name),
    ("access_ttl", c.accessLifetime.describe),
    ("refresh_ttl", c.refreshLifetime.describe)]

/-! ### Making tokens -/

/-- The whole seconds that a token holds; one without a kind holds like an access token. -/
def lifetimeSeconds (c : Codec) (kind : Option Kind) (o : Overrides) : Int :=
  match o.lifetime, kind with
  | some millis, _ => millis.tdiv 1000
  | none, some .refresh => c.refreshLifetime.seconds
  | none, _ => c.accessLifetime.seconds

/-- The token with a header and a payload, signed as they are. -/
def signText (key : SigningKey) (algorithm : Algorithm) (noise : Noise)
    (header payload : String) : Except AuthError String :=
  let text := Compact.signedText header payload
  match key.sign algorithm noise (Bytes.ofText text) with
  | .ok signature => .ok (Compact.attach text signature)
  | .error fault => .error (.configuration ("token signing failed: " ++ fault.name))

/-- A new token and the instant at which it expires. -/
def mint (c : Codec) (now : Instant) (id : UserId) (noise : Noise) (subject : String)
    (kind : Option Kind) (o : Overrides) : Except AuthError (Instant × String) :=
  let lifetime := c.lifetimeSeconds kind o
  let expires := now.seconds + lifetime
  if lifetime ≤ 0 then .error (.configuration "token lifetime must be positive")
  else if limit63 ≤ expires then .error (.configuration "token lifetime overflows")
  else
    match Instant.ofSeconds? expires with
    | none => .error (.configuration "token expiry out of range")
    | some expiry =>
      let algorithm := o.algorithm.getD c.algorithm
      let header : Header := { algorithm := algorithm }
      let payload : Payload :=
        { subject := subject, kind := kind, issuedAt := now.seconds, expiresAt := expires
          id := some id.toHex }
      (signText (o.key.getD c.signingKey) algorithm noise header.toJson payload.toJson).map
        fun token => (expiry, token)

/-! ### Reading tokens -/

/-- The payload of claims that state no condition against their use at a second. -/
def payloadAt? (second : Int) (claims : Bytes) : Option Payload := do
  let payload ← (Payload.ofJson? claims).toOption
  let conditions ← (Conditions.ofJson? claims).toOption
  if conditions.allow second then return payload else none

/-- The payload of a token that passes every check. -/
def open? (key : VerificationKey) (algorithm : Algorithm) (now : Instant) (token : String) :
    Option Payload := do
  let parts ← Compact.split? token
  let header ← (Header.ofJson? (← readPart? parts.header)).toOption
  if header.algorithm = algorithm
      ∧ key.accepts algorithm (Bytes.ofText (String.ofList parts.message)) parts.signature then
    payloadAt? now.seconds (← readPart? parts.payload)
  else none

end Codec

end SessionAuth.Token
