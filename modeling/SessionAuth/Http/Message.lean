/-
Requests and responses.

As much of them as the service uses: a request has a method, a target, headers and a
body; a response has a status, a few headers and a text.

A body that cannot be read is answered with the words of the reader, which may quote the
body.  How the reader puts them is not told here.  They depend on the body and on what is
wanted of it, so on the request alone, and they are taken along with it.
-/
import SessionAuth.Cookie
import SessionAuth.Error
import SessionAuth.Text.Cut

namespace SessionAuth.Http

/-- A request; the headers are in the order in which they came. -/
structure Request where
  method : String
  target : String
  headers : List (String × Bytes) := []
  body : Bytes := []
  /-- What the reader of JSON says of the body, in case that it cannot read it. -/
  remark : String := ""
  deriving DecidableEq, Repr

namespace Request

/-- The path of a target, which may begin with the name of the server. -/
def pathOf (target : List Char) : List Char :=
  let plain := target.takeWhile fun c => c ≠ '?' ∧ c ≠ '#'
  if plain.head? = some '/' then plain
  else
    match Text.cutAt? [':', '/', '/'] plain with
    | some (_, rest) => if '/' ∈ rest then rest.dropWhile (· ≠ '/') else ['/']
    | none => plain

/-- The path that a request is for; its query does not matter. -/
def path (r : Request) : String := String.ofList (pathOf r.target.toList)

/-- The values of a header; the name may be in any letter case. -/
def values (r : Request) (name : String) : List Bytes :=
  (r.headers.filter fun h => Text.sameLetters h.1.toList name.toList).map (·.2)

/-- The text of the first value of a header, if that value can be read as text. -/
def text? (r : Request) (name : String) : Option (List Char) :=
  (r.values name).head?.bind HeaderValue.readable?

end Request

/-- A response. -/
structure Response where
  status : Nat
  contentType : Option String := none
  setCookie : Option String := none
  allow : Option String := none
  body : String := ""
  deriving DecidableEq, Repr

namespace Response

/-- The media type of plain text. -/
def plainText : String := "text/plain; charset=utf-8"

/-- A response with a JSON text. -/
def json (status : Nat) (body : String) : Response :=
  { status := status, contentType := some "application/json", body := body }

/-- A response with plain text. -/
def plain (status : Nat) (body : String) : Response :=
  { status := status, contentType := some plainText, body := body }

/-- The response to a request for something that is not there. -/
def notFound : Response := { status := 404 }

/-- The response to a request with a method that is not among the allowed ones. -/
def methodNotAllowed (allow : String) : Response := { status := 405, allow := some allow }

/-- The response that tells of a problem. -/
def problem (p : Problem) : Response := json p.kind.status p.document

/-- The response without its body. -/
def bodiless (r : Response) : Response := { r with body := "" }

end Response

end SessionAuth.Http
