/-
Keys of tokens.

A shared key is any byte string.  The other keys come as key files; loading one finds
out what kind of key it is and where its material stands, and leaves it to the first
use to look into the material.
-/
import SessionAuth.Keys.Asn1
import SessionAuth.Keys.Fault
import SessionAuth.Keys.Pem
import SessionAuth.Token.Algorithm

namespace SessionAuth.Token

open Keys (Asn1 KeyFault Pem)

/-- A key that signs. -/
structure SigningKey where
  family : Family
  material : Bytes
  deriving DecidableEq, Repr

/-- A key that checks signatures. -/
structure VerificationKey where
  family : Family
  material : Bytes
  deriving DecidableEq, Repr

/-! ### Key files -/

/-- A key file whose kind is known. -/
structure KeyFile where
  family : Family
  isPrivate : Bool
  /-- The key stands inside a container that names its algorithm. -/
  isContained : Bool
  content : Bytes
  values : List Asn1

namespace KeyFile

/-- The family that an object id stands for, if it names a kind of key. -/
def familyOf? (id : List Nat) : Option Family :=
  if id = [1, 2, 840, 10045, 2, 1] then some .ecdsa
  else if id = [1, 2, 840, 113549, 1, 1, 1] then some .rsa
  else if id = [1, 3, 101, 112] then some .edwards
  else none

/-- The family that a value names. -/
def named? : Asn1 → Option Family
  | .objectId id => familyOf? id
  | _ => none

/-- The bytes of a value that holds some. -/
def bytes? : Asn1 → Option Bytes
  | .bitString bytes => some bytes
  | .octetString bytes => some bytes
  | _ => none

/-- The key file of a text. -/
def parse? (text : Bytes) : Option KeyFile := do
  let pem ← Pem.parse? text
  let values ← Asn1.parse? pem.content
  match pem.label with
  | "RSA PRIVATE KEY" => return ⟨.rsa, true, false, pem.content, values⟩
  | "RSA PUBLIC KEY" => return ⟨.rsa, false, false, pem.content, values⟩
  | "PRIVATE KEY" => return ⟨← Asn1.findIn? named? values, true, true, pem.content, values⟩
  | "PUBLIC KEY" | "CERTIFICATE" =>
    return ⟨← Asn1.findIn? named? values, false, true, pem.content, values⟩
  | _ => none

/-- The key inside the container. -/
def inner (f : KeyFile) : Except KeyFault Bytes :=
  match Asn1.findIn? bytes? f.values with
  | some bytes => .ok bytes
  | none => .error .badCurveKey

/-- The key file of a text, which must be of a given family. -/
def ofFamily (family : Family) (text : Bytes) : Except KeyFault KeyFile :=
  match parse? text with
  | some f => if f.family = family then .ok f else .error .unknownForm
  | none => .error .unknownForm

/-- The numbers of an RSA key, private or public. -/
def rsaNumbers (text : Bytes) : Except KeyFault Bytes := do
  let f ← ofFamily .rsa text
  if f.isContained then f.inner else return f.content

/-- The container of a private key for a curve. -/
def privateContainer (family : Family) (text : Bytes) : Except KeyFault Bytes := do
  let f ← ofFamily family text
  if f.isPrivate then return f.content else .error .unknownForm

/-- The encoded point of a public key for a curve. -/
def publicPoint (family : Family) (text : Bytes) : Except KeyFault Bytes := do
  let f ← ofFamily family text
  if f.isPrivate then .error .unknownForm else f.inner

end KeyFile

/-! ### Loading -/

/-- What is kept of a text for signing. -/
def signingMaterial (family : Family) (text : Bytes) : Except KeyFault Bytes :=
  match family with
  | .shared => .ok text
  | .rsa => KeyFile.rsaNumbers text
  | .ecdsa | .edwards => KeyFile.privateContainer family text

/-- What is kept of a text for checking signatures. -/
def verificationMaterial (family : Family) (text : Bytes) : Except KeyFault Bytes :=
  match family with
  | .shared => .ok text
  | .rsa => KeyFile.rsaNumbers text
  | .ecdsa | .edwards => KeyFile.publicPoint family text

/-- The key that a text holds for signing. -/
def SigningKey.load (family : Family) (text : Bytes) : Except KeyFault SigningKey :=
  (signingMaterial family text).map (SigningKey.mk family)

/-- The key that a text holds for checking signatures. -/
def VerificationKey.load (family : Family) (text : Bytes) : Except KeyFault VerificationKey :=
  (verificationMaterial family text).map (VerificationKey.mk family)

/-- Loading a key gives a key of the family that was asked for. -/
theorem SigningKey.family_of_load {family : Family} {text : Bytes} {k : SigningKey}
    (h : SigningKey.load family text = .ok k) : k.family = family := by
  unfold SigningKey.load at h
  cases hm : signingMaterial family text with
  | error fault => simp [hm, Except.map] at h
  | ok material =>
    simp only [hm, Except.map, Except.ok.injEq] at h
    exact h ▸ rfl

/-- The same for a key that checks signatures. -/
theorem VerificationKey.family_of_load {family : Family} {text : Bytes} {k : VerificationKey}
    (h : VerificationKey.load family text = .ok k) : k.family = family := by
  unfold VerificationKey.load at h
  cases hm : verificationMaterial family text with
  | error fault => simp [hm, Except.map] at h
  | ok material =>
    simp only [hm, Except.map, Except.ok.injEq] at h
    exact h ▸ rfl

end SessionAuth.Token
