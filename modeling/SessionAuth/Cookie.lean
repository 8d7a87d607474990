/-
Cookies.

The refresh token travels in a cookie.  It is set with attributes that keep scripts
and other sites away from it, and read back from the `Cookie` headers of a request:
the first pair with the right name and a value that is not empty counts, whatever
else the headers hold.
-/
import SessionAuth.Json.Written
import SessionAuth.Text.Blank
import SessionAuth.Text.Quoted
import SessionAuth.Text.Record

namespace SessionAuth

/-- From which sites a cookie is sent along. -/
inductive SameSite
  | strict | lax | none
  deriving DecidableEq, Repr

/-- The attribute value of a policy. -/
def SameSite.name : SameSite → String
  | strict => "Strict"
  | lax => "Lax"
  | none => "None"

/-! ### Header values -/

namespace HeaderValue

/-- A byte that a header value may hold: no control character but the tab. -/
def isAllowed (b : UInt8) : Bool := (b ≥ 32 && b != 127) || b == 9

/-- The header value of a text; nothing when it holds a byte that is not allowed. -/
def ofText? (text : String) : Option String :=
  if (Bytes.ofText text).all isAllowed then some text else none

/-- A byte of a header value that can be read as text: visible ASCII, the blank and the tab. -/
def isReadable (b : UInt8) : Bool := (32 ≤ b && b < 127) || b == 9

/-- The text of a header value whose bytes are all readable. -/
def readable? (value : Bytes) : Option (List Char) :=
  if value.all isReadable then some (value.map fun b => Char.ofNat b.toNat) else none

end HeaderValue

/-! ### Cookies -/

/-- The attributes shared by every cookie of one name. -/
structure Cookie where
  name : String
  secure : Bool := true
  httpOnly : Bool := true
  sameSite : SameSite := .lax
  path : String := "/"
  deriving DecidableEq, Repr

namespace Cookie

/-- The cookie used when no name is chosen. -/
def session : Cookie := { name := "session" }

/-- The text that sets the cookie to a value, for a number of seconds when one is given. -/
def set (c : Cookie) (value : String) (maxAge : Option Nat) : String :=
  c.name ++ "=" ++ value
    ++ (if c.httpOnly then "; HttpOnly" else "")
    ++ (if c.secure then "; Secure" else "")
    ++ "; SameSite=" ++ c.sameSite.name
    ++ "; Path=" ++ c.path
    ++ (match maxAge with
      | some seconds => "; Max-Age=" ++ toString seconds
      | none => "")

/-- The text that makes a client forget the cookie. -/
def delete (c : Cookie) : String := c.set "" (some 0)

/-- The header that sets the cookie; nothing when its text is no header value. -/
def setHeader? (c : Cookie) (value : String) (maxAge : Nat) : Option String :=
  HeaderValue.ofText? (c.set value (some maxAge))

/-- The header that makes a client forget the cookie. -/
def deleteHeader? (c : Cookie) : Option String := HeaderValue.ofText? c.delete

/-- The cookie as it shows in diagnostics. -/
def describe (c : Cookie) : String :=
  Text.Record.complete "CookieConfig" [
    ("name", Text.Quoted.write c.name),
    ("secure", Json.bool c.secure),
    ("http_only", Json.bool c.httpOnly),
    ("same_site", c.sameSite.name),
    ("path", Text.Quoted.write c.path)]

/-! ### Reading -/

/-- The value that one segment of a header gives to a name. -/
def valueIn? (name : List Char) (segment : List Char) : Option (List Char) :=
  match Text.cutAt? ['='] (Text.trim Text.isBlank segment) with
  | some (key, value) => if key = name ∧ value ≠ [] then some value else none
  | none => none

/-- The segments of all readable `Cookie` headers, in order. -/
def segments (headers : List Bytes) : List (List Char) :=
  (headers.filterMap HeaderValue.readable?).flatMap (Text.splitAt ';')

/-- The value of a cookie among the `Cookie` headers of a request. -/
def find? (headers : List Bytes) (name : String) : Option String :=
  ((segments headers).findSome? (valueIn? name.toList)).map String.ofList

end Cookie

end SessionAuth
