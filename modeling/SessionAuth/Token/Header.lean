/-
The header of a token.

The header names the algorithm.  Other known members must have the right form, an
embedded key among them, but nothing is done with them.
-/
import SessionAuth.Json.Written
import SessionAuth.Token.EmbeddedKey

namespace SessionAuth.Token

/-- What a header says. -/
structure Header where
  algorithm : Algorithm
  deriving DecidableEq, Repr

namespace Header

/-- The header as JSON. -/
def toJson (h : Header) : String :=
  Json.object [("typ", Json.string "JWT"), ("alg", Json.string h.algorithm.name)]

/-! ### Reading -/

/-- A header that is being read: the algorithm and the names of the members seen. -/
structure Draft where
  algorithm : Option Algorithm := none
  seen : List String := []

/-- A member that is read and not used. -/
def unused (name : String) (value : Json.Reader α) : Json.Field Draft :=
  { name := name, isRead := fun d => d.seen.contains name
    read := fun d => do
      let _ ← Json.nullable value
      return { d with seen := name :: d.seen } }

/-- The members in the order in which a list gives them. -/
def fields : List (Json.Field Draft) := [
  unused "typ" Json.text,
  { name := "alg", isRead := (·.algorithm.isSome)
    read := fun d => return { d with algorithm := some (← Json.choice Algorithm.ofName?) } },
  unused "cty" Json.text,
  unused "jku" Json.text,
  unused "jwk" EmbeddedKey.reader,
  unused "kid" Json.text,
  unused "x5u" Json.text,
  unused "x5c" (Json.list Json.text),
  unused "x5t" Json.text,
  unused "x5t#S256" Json.text]

/-- The header that a text gives in JSON. -/
def ofJson? (json : Bytes) : Except Json.Fault Header :=
  (Json.whole (Json.record fields {} fun d => d.algorithm.map Header.mk)).run? json

end Header

end SessionAuth.Token
