/-
Signatures of tokens.

A signature is made over the text of a token and written in base64 behind it.  Shared
keys sign and check in the same way, by making the signature again; the other families
check with the public half.
-/
import SessionAuth.Bytes.Base64
import SessionAuth.Keys.Pkcs8
import SessionAuth.Keys.Rsa
import SessionAuth.Token.Key

namespace SessionAuth.Token

open Crypto.Weierstrass (Curve p256 p384)
open Keys (KeyFault)

/-- The random bits that making one signature may use up. -/
abbrev Noise := BitVec 512

/-- The first bytes of the random bits. -/
def noiseBytes (noise : Noise) (count : Nat) : Bytes := (Bytes.ofNat 64 noise.toNat).take count

namespace SigningKey

/-- The signature with the numbers of an RSA key. -/
def signRsa (material : Bytes) (make : Crypto.Rsa.PrivateKey → Option Bytes) :
    Except KeyFault Bytes :=
  match Keys.Rsa.readPrivate material with
  | .error fault => .error (.badRsaKey fault)
  | .ok k =>
    match make k with
    | some signature => .ok signature
    | none => .error .signingFailed

/-- The signature with a key for a curve. -/
def signCurve (c : Curve) (material : Bytes) (noise : Noise) (message : Bytes) :
    Except KeyFault Bytes :=
  match Keys.Pkcs8.curveSecret? c material with
  | some secret => .ok (c.sign secret noise.toNat message)
  | none => .error .badCurveKey

/-- The signature of a message; the key must belong to the family of the algorithm. -/
def sign (k : SigningKey) (algorithm : Algorithm) (noise : Noise) (message : Bytes) :
    Except KeyFault Bytes :=
  if k.family ≠ algorithm.family then .error .wrongFamily
  else
    match algorithm with
    | .hmac d => .ok (Crypto.hmac d k.material message)
    | .rsaPkcs1 d => signRsa k.material fun key => key.signFixed? d message
    | .rsaPss d => signRsa k.material fun key => key.signSalted? d (noiseBytes noise d.size) message
    | .es256 => signCurve p256 k.material noise message
    | .es384 => signCurve p384 k.material noise message
    | .edDsa =>
      match Keys.Pkcs8.edwardsSeed? k.material with
      | some seed => .ok (Crypto.Edwards.sign seed message)
      | none => .error .badCurveKey

end SigningKey

namespace VerificationKey

/-- The bytes are a signature of the message. -/
def checks (k : VerificationKey) (algorithm : Algorithm) (message signature : Bytes) : Bool :=
  k.family == algorithm.family &&
    match algorithm with
    | .hmac d => Bytes.sameAs (Crypto.hmac d k.material message) signature
    | .rsaPkcs1 d =>
      (Keys.Rsa.readPublic? k.material).any fun key => key.checkFixed d message signature
    | .rsaPss d =>
      (Keys.Rsa.readPublic? k.material).any fun key => key.checkSalted d message signature
    | .es256 => p256.check k.material message signature
    | .es384 => p384.check k.material message signature
    | .edDsa => Crypto.Edwards.check k.material message signature

/-- The text is a written signature of the message. -/
def accepts (k : VerificationKey) (algorithm : Algorithm) (message : Bytes)
    (signature : List Char) : Bool :=
  (Base64.decodeChars? Base64.urlSafe signature).any (k.checks algorithm message)

end VerificationKey

end SessionAuth.Token
