/-
Keys inside headers.

A header may carry a public key.  Nothing is done with it, since the service uses none
but its own keys, but a header with a malformed key is refused.  A key has a type, the
numbers that a key of this type consists of, and general members that may be missing.
-/
import SessionAuth.Json.Value
import SessionAuth.Token.Algorithm

namespace SessionAuth.Token.EmbeddedKey

open Json (Value)

/-- A member by name, and which values fit it. -/
structure Member where
  name : String
  fits : Value → Bool

/-- The values that an object has for a name. -/
def valuesOf (name : String) (members : List (String × Value)) : List Value :=
  (members.filter (·.1 == name)).map (·.2)

/-- The object has the member exactly once, with a value that fits. -/
def Member.isPresent (m : Member) (members : List (String × Value)) : Bool :=
  match valuesOf m.name members with
  | [value] => m.fits value
  | _ => false

/-- The object has the member at most once, with null or a value that fits. -/
def Member.isPermitted (m : Member) (members : List (String × Value)) : Bool :=
  match valuesOf m.name members with
  | [] => true
  | [value] => value.isNull || m.fits value
  | _ => false

/-! ### General members -/

/-- The names of what a key may be used for. -/
def purposes : List String :=
  Algorithm.all.map Algorithm.name ++ ["RSA1_5", "RSA-OAEP", "RSA-OAEP-256"]

/-- The value names a purpose; behind the name there may be an empty object. -/
def isPurpose (value : Value) : Bool :=
  (value.name? fun v => v.isNull || v.isEmptyObject).any (· ∈ purposes)

/-- The members that a key of any type may have. -/
def generalMembers : List Member := [
  ⟨"use", Value.isText⟩, ⟨"key_ops", Value.isTexts⟩, ⟨"alg", isPurpose⟩,
  ⟨"kid", Value.isText⟩, ⟨"x5u", Value.isText⟩, ⟨"x5c", Value.isTexts⟩,
  ⟨"x5t", Value.isText⟩, ⟨"x5t#S256", Value.isText⟩]

/-! ### Types of keys -/

/-- A member that is one of several names. -/
def oneOf (name : String) (choices : List String) : Member :=
  ⟨name, fun value => (value.name? Value.isNull).any (· ∈ choices)⟩

/-- The member that says of which type a key is. -/
def keyType (type : String) : Member := oneOf "kty" [type]

/-- The member that names the curve of a key. -/
def curve : Member := oneOf "crv" ["P-256", "P-384", "P-521", "Ed25519"]

/-- A number, written as a text that is not looked into. -/
def numeral (name : String) : Member := ⟨name, Value.isText⟩

/-- What a key must have, for each type of key. -/
def types : List (List Member) := [
  [keyType "EC", curve, numeral "x", numeral "y"],
  [keyType "RSA", numeral "n", numeral "e"],
  [keyType "oct", numeral "k"],
  [keyType "OKP", curve, numeral "x"]]

/-! ### Keys -/

/-- The object is a key of some type. -/
def isKey (members : List (String × Value)) : Bool :=
  generalMembers.all (·.isPermitted members)
    && types.any fun required => required.all (·.isPresent members)

/-- Reads a key inside a header, at the depth of its members. -/
def reader : Json.Reader Unit := do
  match ← Value.reader Value.depthLimit with
  | .object members => if isKey members then return () else Json.Reader.stop .unfit
  | _ => Json.Reader.stop .unfit

end SessionAuth.Token.EmbeddedKey
