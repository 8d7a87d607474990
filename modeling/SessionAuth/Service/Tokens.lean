/-
Tokens in the service.

Here the codec gets the time of day and the random bits that it needs, and the log
learns what was refused.
-/
import SessionAuth.Service.Effect
import SessionAuth.Token.Codec

namespace SessionAuth.Token.Codec

/-- A new token and the instant at which it expires, with choices of its own. -/
def encodeWith (c : Codec) (subject : String) (kind : Option Kind) (o : Overrides) :
    Call (Instant × String) := do
  if o.lifetime.isNone && kind.isNone then Call.log .tokenTypeMissing
  let now ← Call.clock
  let id ← Call.random 128
  let noise ← Call.random 512
  Call.ofExcept (c.mint now (.ofRandom id) noise subject kind o)

/-- A new token of a kind. -/
def encode (c : Codec) (subject : String) (kind : Kind) : Call (Instant × String) :=
  c.encodeWith subject (some kind) {}

/-- The payload of a token, checked with a key and an algorithm of choice. -/
def decodeWith (c : Codec) (token : String) (key : Option VerificationKey)
    (algorithm : Option Algorithm) : Call Payload := do
  let now ← Call.clock
  match open? (key.getD c.verificationKey) (algorithm.getD c.algorithm) now token with
  | some payload => return payload
  | none =>
    Call.log .tokenRejected
    throw .tokenInvalid

/-- The payload of a token. -/
def decode (c : Codec) (token : String) : Call Payload := c.decodeWith token none none

end SessionAuth.Token.Codec
