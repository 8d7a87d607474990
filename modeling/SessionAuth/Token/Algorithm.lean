/-
Signature algorithms.

A token names the algorithm it is signed with.  There are twelve, in four families;
a key serves one family only.
-/
import SessionAuth.Crypto.Digest
import SessionAuth.Error
import SessionAuth.Text.Blank

namespace SessionAuth.Token

open Crypto (Digest)

/-- The kind of key that an algorithm needs. -/
inductive Family
  | shared | rsa | ecdsa | edwards
  deriving DecidableEq, Repr

/-- A signature algorithm. -/
inductive Algorithm
  | hmac (digest : Digest)
  | rsaPkcs1 (digest : Digest)
  | rsaPss (digest : Digest)
  | es256
  | es384
  | edDsa
  deriving DecidableEq, Repr

namespace Algorithm

/-- The family of an algorithm. -/
def family : Algorithm → Family
  | hmac _ => .shared
  | rsaPkcs1 _ | rsaPss _ => .rsa
  | es256 | es384 => .ecdsa
  | edDsa => .edwards

/-- The name of an algorithm in tokens and settings. -/
def name : Algorithm → String
  | hmac d => "HS" ++ toString d.bits
  | rsaPkcs1 d => "RS" ++ toString d.bits
  | rsaPss d => "PS" ++ toString d.bits
  | es256 => "ES256"
  | es384 => "ES384"
  | edDsa => "EdDSA"

/-- All algorithms. -/
def all : List Algorithm :=
  [hmac .sha256, hmac .sha384, hmac .sha512, es256, es384, rsaPkcs1 .sha256, rsaPkcs1 .sha384,
    rsaPkcs1 .sha512, rsaPss .sha256, rsaPss .sha384, rsaPss .sha512, edDsa]

/-- The algorithm of a name. -/
def ofName? (name : String) : Option Algorithm := all.find? fun a => a.name == name

/-- The algorithm named by a setting, which may have blanks around it. -/
def parse (text : String) : Except AuthError Algorithm :=
  match ofName? (Text.trimBlanks text) with
  | some a => .ok a
  | none => .error (.configuration ("unsupported algorithm: " ++ text))

/-- No algorithm is missing from the list. -/
theorem mem_all (a : Algorithm) : a ∈ all := by
  cases a <;> (try rename_i d; cases d) <;> decide

end Algorithm

end SessionAuth.Token
