/-
Stored password hashes.

A hash is stored as a text of fields between dollar signs: the kind of the hash, its
version, what it cost, the salt and the hash itself.  The version and the costs may be
left out, and so may everything behind them.  Reading is strict about the characters
and lengths of every field; whether the costs make sense is decided when the hash is
computed again.
-/
import SessionAuth.Bytes.Base64
import SessionAuth.Limit
import SessionAuth.Text.Cut
import SessionAuth.Crypto.Argon2

namespace SessionAuth.Password

/-- Base64 in the standard alphabet without padding, as salts and hashes are written. -/
def phcBase64 : Base64.Variant := ⟨'+', '/', false⟩

/-- A stored hash, field by field. -/
structure Phc where
  algorithm : String
  version : Option Nat
  parameters : List (String × String)
  salt : Option String
  hash : Option Bytes
  deriving DecidableEq, Repr

namespace Phc

/-! ### Fields -/

/-- A character of a name. -/
def isNameChar (c : Char) : Bool :=
  ('a' ≤ c && c ≤ 'z') || ('0' ≤ c && c ≤ '9') || c == '-'

/-- A name of at most 32 characters. -/
def name? (text : List Char) : Option String :=
  if 1 ≤ text.length ∧ text.length ≤ 32 ∧ text.all isNameChar then some (String.ofList text)
  else none

/-- A character of a value. -/
def isValueChar (c : Char) : Bool :=
  ('a' ≤ c && c ≤ 'z') || ('A' ≤ c && c ≤ 'Z') || ('0' ≤ c && c ≤ '9')
    || c == '/' || c == '+' || c == '.' || c == '-'

/-- A value of at most 64 characters. -/
def value? (text : List Char) : Option String :=
  if text.length ≤ 64 ∧ text.all isValueChar then some (String.ofList text) else none

/-- A number below 2³² in decimal digits without leading zeros. -/
def decimal? (text : List Char) : Option Nat :=
  if text.isEmpty || !(text.all fun c => '0' ≤ c && c ≤ '9') then none
  else if text.head? = some '0' ∧ 1 < text.length then none
  else
    let n := text.foldl (fun n c => 10 * n + (c.toNat - '0'.toNat)) 0
    if n < limit32 then some n else none

/-- One parameter: a name, an equals sign and a value. -/
def parameter? (text : List Char) : Option (String × String) :=
  match Text.splitAt '=' text with
  | [name, value] => do return (← name? name, ← value? value)
  | _ => none

/-- Parameters with commas between them, in at most 127 bytes. -/
def parameters? (text : List Char) : Option (List (String × String)) :=
  if (Bytes.ofText (String.ofList text)).length ≤ 127 then
    (Text.splitAt ',' text).mapM parameter?
  else none

/-- A salt of 4 to 64 characters. -/
def salt? (text : List Char) : Option String :=
  if 4 ≤ text.length then value? text else none

/-- A hash of 10 to 64 bytes. -/
def hash? (text : List Char) : Option Bytes :=
  (Base64.decodeChars? phcBase64 text).filter fun b => 10 ≤ b.length ∧ b.length ≤ 64

/-! ### Reading and writing -/

/-- The salt and the hash, when they are there, and nothing behind them. -/
def tail? : List (List Char) → Option (Option String × Option Bytes)
  | [] => some (none, none)
  | [salt] => do return (some (← salt? salt), none)
  | [salt, hash] => do return (some (← salt? salt), some (← hash? hash))
  | _ => none

/-- The parameters, when they are there, and what follows. -/
def afterVersion? (algorithm : String) (version : Option Nat) :
    List (List Char) → Option Phc
  | field :: more =>
    if '=' ∈ field then do
      let parameters ← parameters? field
      let (salt, hash) ← tail? more
      return ⟨algorithm, version, parameters, salt, hash⟩
    else do
      let (salt, hash) ← tail? (field :: more)
      return ⟨algorithm, version, [], salt, hash⟩
  | [] => some ⟨algorithm, version, [], none, none⟩

/-- The stored hash that a text gives. -/
def parse? (text : String) : Option Phc :=
  match Text.splitAt '$' text.toList with
  | [] :: algorithm :: more => do
    let algorithm ← name? algorithm
    match more with
    | ('v' :: '=' :: version) :: rest =>
      if ',' ∈ version then afterVersion? algorithm none more
      else
        let version ← (value? version).bind fun v => decimal? v.toList
        afterVersion? algorithm (some version) rest
    | _ => afterVersion? algorithm none more
  | _ => none

/-- The text of a hash with its version, costs, salt and tag. -/
def write (kind : String) (version : Crypto.Argon2.Version) (cost : Crypto.Argon2.Cost)
    (salt tag : Bytes) : String :=
  "$" ++ kind ++ "$v=" ++ toString version.number
    ++ "$m=" ++ toString cost.memory ++ ",t=" ++ toString cost.passes
    ++ ",p=" ++ toString cost.lanes
    ++ "$" ++ Base64.encode phcBase64 salt ++ "$" ++ Base64.encode phcBase64 tag

end Phc

end SessionAuth.Password
