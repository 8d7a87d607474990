/-
Conditions on the claims of a token.

Besides the payload, the claims of a token may hold conditions: until when it holds,
since when, who issued it and whom it is for.  They are read from the same text in a
second pass, and leniently: a claim of the wrong kind counts as absent, provided that
the reader finds its way past it.  A token that is meant for somebody is refused, since
this service has no name by which it could be meant.
-/
import SessionAuth.Json.Value

namespace SessionAuth.Token

open Json (Reader code peek)
open Json.Reader (attempt closing stop)

/-! ### Conditions -/

/-- The conditions of a token. -/
structure Conditions where
  /-- The second after which the token no longer holds. -/
  expires : Option Nat
  /-- The token is meant for somebody. -/
  hasAudience : Bool
  deriving DecidableEq, Repr

namespace Conditions

/-- The token holds at a second and is meant for nobody in particular. -/
def allow (c : Conditions) (second : Int) : Bool :=
  !c.hasAudience && c.expires.any fun e => second ≤ e

/-- A time in seconds; a value that is no such time counts as absent. -/
def time : Reader (Option Nat) := do
  let b ← peek
  let wrong : Reader (Option Nat) := return none
  let read : Reader (Option Nat) :=
    if b = code '-' ∨ Json.isDigit b then do
      match ← Json.number with
      | .whole n => return if 0 ≤ n then some n.toNat else none
      | .other => return none
    else if b = code '[' then do
      Json.drop
      closing Json.endList wrong
    else if b = code '\x7b' then do
      Json.drop
      closing Json.endObject wrong
    else do
      let _ ← Json.Value.reader 1
      return none
  return (← attempt read).join

/-- A value of any kind; one that cannot be read counts as absent, like null. -/
def value : Reader Json.Value := do
  return (← attempt (Json.Value.reader Json.Value.depthLimit)).getD .null

/-- Conditions that are being read. -/
structure Draft where
  expires : Option (Option Nat) := none
  notBefore : Option (Option Nat) := none
  subject : Option Json.Value := none
  issuer : Option Json.Value := none
  audience : Option Json.Value := none

/-- The claims that state conditions. -/
def fields : List (Json.Field Draft) := [
  { name := "exp", isRead := (·.expires.isSome)
    read := fun d => return { d with expires := some (← time) } },
  { name := "nbf", isRead := (·.notBefore.isSome)
    read := fun d => return { d with notBefore := some (← time) } },
  { name := "sub", isRead := (·.subject.isSome)
    read := fun d => return { d with subject := some (← value) } },
  { name := "iss", isRead := (·.issuer.isSome)
    read := fun d => return { d with issuer := some (← value) } },
  { name := "aud", isRead := (·.audience.isSome)
    read := fun d => return { d with audience := some (← value) } }]

/-- The conditions of a draft. -/
def ofDraft (d : Draft) : Conditions :=
  { expires := d.expires.join, hasAudience := d.audience.any fun v => v.isText || v.isTexts }

/-- Reads the conditions of claims, which must be an object. -/
def reader : Reader Conditions := do
  if (← peek) = code '[' then stop .unfit
  else Json.record fields {} fun d => some (ofDraft d)

/-- The conditions that a text gives in JSON. -/
def ofJson? (json : Bytes) : Except Json.Fault Conditions := (Json.whole reader).run? json

end Conditions

end SessionAuth.Token
