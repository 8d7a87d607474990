/-
Hashing and verifying passwords.

New hashes are made with fixed costs and a random salt.  A stored hash is verified with
the kind, version and costs it names itself; what cannot be read, or asks for costs
that make no sense, verifies no password.  An application-wide pepper may be mixed in.
-/
import SessionAuth.Password.ClearText
import SessionAuth.Password.Phc
import SessionAuth.Text.Record

namespace SessionAuth.Password

open Crypto (Argon2.Kind Argon2.Version Argon2.Cost Argon2.Input)

/-- Anything that computes the tag of a password. -/
abbrev TagFunction := Argon2.Input → Bytes → Bytes

/-- How passwords are hashed. -/
structure Hasher where
  pepper : Option Bytes := none

namespace Hasher

/-! ### Reading a stored hash -/

/-- The name of a kind in stored hashes. -/
def kindName : Argon2.Kind → String
  | .byData => "argon2d"
  | .byPosition => "argon2i"
  | .mixed => "argon2id"

/-- The kind of a name. -/
def kind? (name : String) : Option Argon2.Kind :=
  [Argon2.Kind.byData, .byPosition, .mixed].find? fun k => kindName k == name

/-- The version of a number; the newest when none is given. -/
def version? : Option Nat → Option Argon2.Version
  | none => some .v19
  | some n => [Argon2.Version.v16, .v19].find? fun v => v.number == n

/-- The costs when a stored hash names none. -/
def defaultCost : Argon2.Cost := { memory := 19456, passes := 2, lanes := 1, tagBytes := 32 }

/-- The costs and associated data with one more parameter. -/
def addParameter (known : Argon2.Cost × Bytes) (parameter : String × String) :
    Option (Argon2.Cost × Bytes) :=
  let (cost, associated) := known
  let value := parameter.2.toList
  let short (limit : Nat) : Option Bytes :=
    (Base64.decodeChars? phcBase64 value).filter fun b => b.length ≤ limit
  match parameter.1 with
  | "m" => (Phc.decimal? value).map fun n => ({ cost with memory := n }, associated)
  | "t" => (Phc.decimal? value).map fun n => ({ cost with passes := n }, associated)
  | "p" => (Phc.decimal? value).map fun n => ({ cost with lanes := n }, associated)
  | "keyid" => (short 8).map fun _ => (cost, associated)
  | "data" => (short 32).map fun b => (cost, b)
  | _ => none

/-- What a stored hash was computed from besides the password, and the tag it holds. -/
def read? (stored : Phc) : Option (Argon2.Input × Bytes) := do
  let salt ← stored.salt
  let tag ← stored.hash
  let kind ← kind? stored.algorithm
  let version ← version? stored.version
  let (cost, associated) ← stored.parameters.foldlM addParameter (defaultCost, [])
  let cost := { cost with tagBytes := tag.length }
  let salt ← Base64.decodeChars? phcBase64 salt.toList
  if cost.isValid ∧ 8 ≤ salt.length then
    return (⟨kind, version, cost, salt, associated⟩, tag)
  else none

/-! ### Verifying -/

/-- The password has the tag of a stored hash, for any tag function. -/
def verifyWith (tag : TagFunction) (h : Hasher) (stored : String) (password : ClearText) : Bool :=
  match (Phc.parse? stored).bind read? with
  | some (input, expected) =>
    Bytes.sameAs (tag input (password.peppered h.pepper)) expected
  | none => false

/-- The password has the tag of a stored hash. -/
def verify (h : Hasher) (stored : String) (password : ClearText) : Bool :=
  verifyWith Crypto.Argon2.hash h stored password

/-! ### Hashing -/

/-- What a new hash is computed from besides the password. -/
def newInput (salt : BitVec 128) : Argon2.Input :=
  { kind := .mixed, version := .v19, cost := defaultCost, salt := Bytes.ofNat 16 salt.toNat }

/-- A new hash with a random salt, for any tag function. -/
def hashWith (tag : TagFunction) (h : Hasher) (salt : BitVec 128) (password : ClearText) :
    String :=
  let input := newInput salt
  Phc.write (kindName input.kind) input.version input.cost input.salt
    (tag input (password.peppered h.pepper))

/-- A new hash with a random salt. -/
def hash (h : Hasher) (salt : BitVec 128) (password : ClearText) : String :=
  hashWith Crypto.Argon2.hash h salt password

/-- The hasher as it shows in diagnostics: no more than whether there is a pepper. -/
def describe (h : Hasher) : String :=
  Text.Record.complete "Argon2Hasher" [("pepper", match h.pepper with
    | none => "None"
    | some _ => "Some(" ++ Text.Quoted.write "[REDACTED]" ++ ")")]

end Hasher

end SessionAuth.Password
