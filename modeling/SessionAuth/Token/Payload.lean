/-
What a token says.

The payload names the user, the kind of token, when it was made and until when it
holds, and carries a random id that makes every token different.
-/
import SessionAuth.Json.Reader
import SessionAuth.Json.Written
import SessionAuth.Error
import SessionAuth.UserId

namespace SessionAuth.Token

/-- The two kinds of token. -/
inductive Kind
  | access
  | refresh
  deriving DecidableEq, Repr

namespace Kind

/-- The name of a kind. -/
def name : Kind → String
  | access => "access"
  | refresh => "refresh"

/-- The kind of a name. -/
def ofName? (name : String) : Option Kind :=
  if name = "access" then some access
  else if name = "refresh" then some refresh
  else none

end Kind

/-- The claims of a token; instants are in seconds. -/
structure Payload where
  subject : String
  kind : Option Kind
  issuedAt : Int
  expiresAt : Int
  id : Option String
  deriving DecidableEq, Repr

namespace Payload

/-- The user that a token speaks of; a subject that is no user id makes it invalid. -/
def user (p : Payload) : Except AuthError UserId :=
  match UserId.parse? p.subject with
  | some id => .ok id
  | none => .error .tokenInvalid

/-- The token is of this kind. -/
def isOf (p : Payload) (kind : Kind) : Bool := p.kind == some kind

/-- The payload as JSON; a kind or id that is missing is left out. -/
def toJson (p : Payload) : String :=
  Json.object <|
    [("sub", Json.string p.subject)]
      ++ (p.kind.map fun k => ("type", Json.string k.name)).toList
      ++ [("iat", toString p.issuedAt), ("exp", toString p.expiresAt)]
      ++ (p.id.map fun id => ("jti", Json.string id)).toList

/-- A payload that is being read: each claim is there once it has been read. -/
structure Draft where
  subject : Option String := none
  kind : Option (Option Kind) := none
  issuedAt : Option Int := none
  expiresAt : Option Int := none
  id : Option (Option String) := none

/-- The claims in the order in which a list gives them. -/
def fields : List (Json.Field Draft) := [
  { name := "sub", isRead := (·.subject.isSome)
    read := fun d => return { d with subject := some (← Json.text) } },
  { name := "type", isRead := (·.kind.isSome), omissible := true
    read := fun d => return { d with kind := some (← Json.nullable (Json.choice Kind.ofName?)) } },
  { name := "iat", isRead := (·.issuedAt.isSome)
    read := fun d => return { d with issuedAt := some (← Json.integer) } },
  { name := "exp", isRead := (·.expiresAt.isSome)
    read := fun d => return { d with expiresAt := some (← Json.integer) } },
  { name := "jti", isRead := (·.id.isSome), omissible := true
    read := fun d => return { d with id := some (← Json.nullable Json.text) } }]

/-- The payload of a draft in which the subject and both instants have been read. -/
def ofDraft? (d : Draft) : Option Payload := do
  return {
    subject := ← d.subject
    kind := d.kind.join
    issuedAt := ← d.issuedAt
    expiresAt := ← d.expiresAt
    id := d.id.join }

/-- Reads a payload. -/
def reader : Json.Reader Payload := Json.whole (Json.record fields {} ofDraft?)

/-- The payload that a text gives in JSON. -/
def ofJson? (json : Bytes) : Except Json.Fault Payload := reader.run? json

end Payload

end SessionAuth.Token
