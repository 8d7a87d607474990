/-
The form in which a token travels.

A token is three texts in base64 with dots between them: header, payload and signature.
The signature is made over everything before the last dot.
-/
import SessionAuth.Bytes.Base64
import SessionAuth.Text.Cut

namespace SessionAuth.Token

/-- One part of a token. -/
def writePart (text : String) : String := Base64.encode Base64.urlSafe (Bytes.ofText text)

/-- The bytes of one part. -/
def readPart? (part : List Char) : Option Bytes := Base64.decodeChars? Base64.urlSafe part

/-- A token taken apart; nothing has been decoded yet. -/
structure Compact where
  header : List Char
  payload : List Char
  signature : List Char
  deriving DecidableEq, Repr

namespace Compact

/-- The text that is signed. -/
def signedText (header payload : String) : String :=
  writePart header ++ "." ++ writePart payload

/-- The signed text with its signature behind it. -/
def attach (text : String) (signature : Bytes) : String :=
  text ++ "." ++ Base64.encode Base64.urlSafe signature

/-- The three parts of a token: it is cut at its last two dots. -/
def split? (token : String) : Option Compact := do
  let (message, signature) ← Text.cutAtLast? '.' token.toList
  let (header, payload) ← Text.cutAtLast? '.' message
  return ⟨header, payload, signature⟩

/-- The signed text of a token that has been taken apart. -/
def message (t : Compact) : List Char := t.header ++ '.' :: t.payload

/-- The parts with their dots are the token. -/
theorem append_of_split? {token : String} {t : Compact} (h : split? token = some t) :
    t.message ++ '.' :: t.signature = token.toList := by
  simp only [split?, Option.bind_eq_bind, Option.bind_eq_some_iff, Option.pure_def,
    Option.some.injEq] at h
  obtain ⟨outer, houter, inner, hinner, rfl⟩ := h
  rw [message, Text.append_of_cutAtLast? hinner, Text.append_of_cutAtLast? houter]

end Compact

end SessionAuth.Token
