/-
The requests that change sessions.

Logging in, refreshing and logging out are the three operations that touch the list of
a user.  Statements about runs of the service quantify over what was asked of it, so
the three are put into one type here, with one way of serving them and one kind of
answer.
-/
import SessionAuth.Service

namespace SessionAuth.Service

/-- Something asked of the service that may change the sessions of a user. -/
inductive Request
  | login (login : String) (password : Password.ClearText) (fingerprint : Session.Fingerprint)
  | refresh (fingerprint : Session.Fingerprint) (token : String)
  | logout (token : String)

namespace Request

/-- The fingerprint that a new session would get. -/
def fingerprint? : Request → Option Session.Fingerprint
  | login _ _ fingerprint => some fingerprint
  | refresh fingerprint _ => some fingerprint
  | logout _ => none

/-- The refresh token that is presented. -/
def token? : Request → Option String
  | login _ _ _ => none
  | refresh _ token => some token
  | logout token => some token

/-- The stored text that the request would take out of a list. -/
def finds? (entries : List String) : Request → Option String
  | login _ _ _ => none
  | refresh fingerprint token => Session.Registry.find? fingerprint.text token entries
  | logout token => Session.Registry.findToken? token entries

theorem mem_of_finds? {q : Request} {entries : List String} {raw : String}
    (h : q.finds? entries = some raw) : raw ∈ entries := by
  cases q with
  | login login password fingerprint => cases h
  | refresh fingerprint token => exact List.mem_of_find?_eq_some h
  | logout token => exact List.mem_of_find?_eq_some h

end Request

/-- What a request is answered with: an error, or new tokens, which logging out has none of. -/
abbrev Answer := Except AuthError (Option IssuedTokens)

/-- Carries out a request. -/
def serve (s : Service) : Request → Call (Option IssuedTokens)
  | .login login password fingerprint => some <$> s.login login password fingerprint
  | .refresh fingerprint token => some <$> s.refresh fingerprint token
  | .logout token => do
    s.logout token
    return none

end SessionAuth.Service
