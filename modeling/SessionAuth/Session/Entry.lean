/-
Session entries.

A session is stored as one text: the fingerprint of the client, two colons, and the
refresh token.  Reading splits at the first pair of colons, so a fingerprint is
accepted only if it holds no such pair.
-/
import SessionAuth.Bytes.Basic
import SessionAuth.Text.Cut
import SessionAuth.Text.Quoted
import SessionAuth.Text.Record
import SessionAuth.Error

namespace SessionAuth.Session

/-- The mark between fingerprint and token. -/
def separator : List Char := [':', ':']

/-! ### Fingerprints -/

/-- What a client calls itself: any text without the separator. -/
structure Fingerprint where
  text : String
  accepted : Text.cutAt? separator text.toList = none

namespace Fingerprint

instance : DecidableEq Fingerprint := fun a b =>
  if h : a.text = b.text then
    isTrue (by cases a; cases b; simp_all)
  else isFalse fun e => h (congrArg text e)

/-- The fingerprint of a text, or an error when the text holds the separator. -/
def ofText (text : String) : Except AuthError Fingerprint :=
  if h : Text.cutAt? separator text.toList = none then .ok ⟨text, h⟩
  else .error .invalidFingerprint

/-- A text is refused exactly when it holds the separator. -/
theorem ofText_eq_error_iff {text : String} {e : AuthError} :
    ofText text = .error e ↔
      Text.cutAt? separator text.toList ≠ none ∧ e = .invalidFingerprint := by
  unfold ofText
  split
  · rename_i h
    simp [h]
  · rename_i h
    simp [h, eq_comm]

end Fingerprint

/-! ### Entries -/

/-- One stored session. -/
structure Entry where
  fingerprint : String
  refreshToken : String
  deriving DecidableEq, Repr

namespace Entry

/-- The text under which a session is stored. -/
def encode (e : Entry) : String := e.fingerprint ++ String.ofList separator ++ e.refreshToken

/-- The session that a stored text stands for; a text without the separator stands for none. -/
def parse? (raw : String) : Option Entry :=
  (Text.cutAt? separator raw.toList).map fun sides =>
    ⟨String.ofList sides.1, String.ofList sides.2⟩

/-- The entry holds this token, compared byte for byte. -/
def matchesToken (e : Entry) (token : String) : Bool :=
  Bytes.sameAs (Bytes.ofText e.refreshToken) (Bytes.ofText token)

/-- The entry holds this fingerprint and this token; both are always compared. -/
def isFor (e : Entry) (fingerprint token : String) : Bool :=
  Bytes.sameAs (Bytes.ofText e.fingerprint) (Bytes.ofText fingerprint) && e.matchesToken token

/-- The entry as it shows in diagnostics. -/
def describe (e : Entry) : String :=
  Text.Record.complete "SessionEntry"
    [("fingerprint", Text.Quoted.write e.fingerprint),
      ("refresh_token", Text.Quoted.write e.refreshToken)]

end Entry

end SessionAuth.Session
