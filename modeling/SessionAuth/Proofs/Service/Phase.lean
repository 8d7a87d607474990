/-
How far a call has come with the list of its user.

Seen from the cache, a call is short: it reads the list, takes a text out or drops the
list, reads again, drops again, and puts a text in front.  `Phase` names the points
between these commands and keeps what the call has learned by then, and `Service.rules`
says which command may come at which point, and why: a text is taken out only if the
search in the list that was read found it, the list is dropped only if that list was as
long as allowed or held others but not the session sought, and what is put in front is
the entry of a token that the call has just minted.

The rules speak of one call only.  Nothing is said of what the list is by the time a
command arrives, since other calls may have changed it since it was read.
-/
import SessionAuth.Deployment.World
import SessionAuth.Proofs.Program.Rules
import SessionAuth.Proofs.Service.Request
import SessionAuth.Proofs.Token.Codec

namespace SessionAuth

/-- An exchange of a call with its surroundings. -/
abbrev Asked := Exchange Effect Effect.Reply

/-- The token is a refresh token of this user, at some time. -/
def Token.Codec.Names (c : Token.Codec) (token : String) (user : UserId) : Prop :=
  ∃ now payload, Token.Codec.open? c.verificationKey c.algorithm now token = some payload ∧
    payload.user = .ok user ∧ payload.isOf .refresh = true

/-- A token names one user only. -/
theorem Token.Codec.Names.unique {c : Token.Codec} {token : String} {user user' : UserId}
    (h : c.Names token user) (h' : c.Names token user') : user = user' := by
  obtain ⟨now, payload, hopen, huser, _⟩ := h
  obtain ⟨later, payload', hopen', huser', _⟩ := h'
  rw [Token.Codec.open?_unique hopen hopen', huser'] at huser
  exact (Except.ok.inj huser).symm

/-- No token that names somebody begins with a colon. -/
theorem Token.Codec.Names.head?_ne {c : Token.Codec} {token : String} {user : UserId}
    (h : c.Names token user) : token.toList.head? ≠ some ':' := by
  obtain ⟨now, payload, hopen, _⟩ := h
  exact Token.Codec.head?_of_open? hopen

namespace Service

/-- The token is a refresh token for this user, made with a time and bits that were asked for. -/
def Minted (s : Service) (user : UserId) (seen : List Asked) (token : String) : Prop :=
  ∃ now id noise expiry, (⟨.clock, now⟩ : Asked) ∈ seen ∧ ⟨.random 128, id⟩ ∈ seen ∧
    ⟨.random 512, noise⟩ ∈ seen ∧
    s.codec.mint now (.ofRandom id) noise user.toHex (some .refresh) {} = .ok (expiry, token)

/-! ### Phases -/

/-- How far a call has come with the list at a key. -/
inductive Phase
  /-- Nothing has been asked of the cache. -/
  | arriving
  /-- The list was read in search of the session that was presented. -/
  | searching (key : String) (entries : List String)
  /-- The session was found, but was gone when it was to be taken out. -/
  | missed (key : String)
  /-- The session was taken out. -/
  | taken (key raw : String)
  /-- The list was read, to see how many sessions there are before one is added. -/
  | counting (key : String) (sessions : Nat)
  /-- There were too many, and all of them were dropped. -/
  | cleared (key : String)
  /-- A session was added. -/
  | added (key raw : String)
  /-- All sessions were dropped since the one sought was not among them. -/
  | dropped (key : String)
  deriving DecidableEq, Repr

namespace Phase

/-- The phase after a reply of the cache. -/
def after (q : Request) : Phase → (c : Cache.Command) → c.Reply → Phase
  | arriving, .get key, entries =>
    if q.token? = none then counting key (List.length entries) else searching key entries
  | searching key _, .remove _ raw, (removed : Bool) =>
    if removed then taken key raw else missed key
  | searching key _, .delete _, _ => dropped key
  | missed key, .delete _, _ => dropped key
  | taken key _, .get _, entries => counting key (List.length entries)
  | counting key _, .delete _, _ => cleared key
  | counting key _, .push _ raw _, _ => added key raw
  | cleared key, .push _ raw _, _ => added key raw
  | phase, _, _ => phase

end Phase

/-- What a call has seen, newest first, and its phase. -/
structure Place where
  seen : List Asked
  phase : Phase

/-! ### Rules -/

/-- The list at this key is the one that the request is about. -/
def Request.IsAbout (s : Service) (q : Request) (key : String) : Prop :=
  ∃ user, key = Session.Registry.key user ∧ ∀ token, q.token? = some token →
    s.codec.Names token user

/-- The text is the entry of a new session of the request, to be kept for some time. -/
def Request.Opens (s : Service) (q : Request) (seen : List Asked) (key raw : String)
    (ttl : Option Nat) : Prop :=
  ∃ user fingerprint token seconds, key = Session.Registry.key user ∧
    q.fingerprint? = some fingerprint ∧ raw = Session.Entry.encode ⟨fingerprint.text, token⟩ ∧
    s.Minted user seen token ∧ ttl = some seconds ∧ 1 ≤ seconds

/-- The command may be sent to the cache. -/
def Place.AllowsCache (s : Service) (q : Request) (p : Place) (c : Cache.Command) : Prop :=
  match p.phase, c with
  | .arriving, .get key => q.IsAbout s key
  | .searching key entries, .remove k raw => k = key ∧ q.finds? entries = some raw
  | .searching key entries, .delete k =>
    k = key ∧ q.fingerprint? ≠ none ∧ entries ≠ [] ∧ q.finds? entries = none
  | .missed key, .delete k => k = key ∧ q.fingerprint? ≠ none
  | .taken key _, .get k => k = key ∧ q.fingerprint? ≠ none
  | .counting key sessions, .delete k => k = key ∧ s.registry.maxSessions ≤ sessions
  | .counting key sessions, .push k raw ttl =>
    k = key ∧ sessions < s.registry.maxSessions ∧ q.Opens s p.seen k raw ttl
  | .cleared key, .push k raw ttl => k = key ∧ q.Opens s p.seen k raw ttl
  | _, _ => False

/-- The reply is one that collaborators in memory give, in some state and at some time. -/
def expected : (e : Effect) → e.Reply → Prop
  | .cache c, reply => ∃ now m, reply = (Cache.Memory.perform now c m).1
  | .users c, reply => ∃ unit m, reply = (Users.Memory.perform unit c m).1
  | _, _ => True

/-- The place after a reply. -/
def Place.next (q : Request) (p : Place) : (e : Effect) → e.Reply → Place
  | .cache c, .ok reply => ⟨⟨.cache c, .ok reply⟩ :: p.seen, p.phase.after q c reply⟩
  | e, reply => ⟨⟨e, reply⟩ :: p.seen, p.phase⟩

/-- The rules for the calls of a service. -/
def rules (s : Service) (q : Request) : Rules Effect Effect.Reply Place where
  allows
    | p, .cache c => p.AllowsCache s q c
    | _, _ => True
  expects := expected
  next := Place.next q

/-- Where a call starts. -/
def Place.start : Place := ⟨[], .arriving⟩

/-- The answer that goes with the phase in which a call ends. -/
def Request.Ends (q : Request) (p : Place) (answer : Answer) : Prop :=
  match q, p.phase with
  | .logout _, .taken _ _ => answer = .ok none
  | .logout token, .searching _ entries =>
    answer = .error .unknownToken ∧ Session.Registry.findToken? token entries = none
  | .logout _, .missed _ => answer = .error .unknownToken
  | .refresh _ _, .searching _ entries => answer = .error .sessionRevoked ∧ entries = []
  | .refresh _ _, .dropped _ => answer = .error .sessionRevoked
  | .refresh _ _, .taken _ _ => ∃ message, answer = .error (.configuration message)
  | .refresh fingerprint _, .added _ raw | .login _ _ fingerprint, .added _ raw =>
    ∃ tokens, answer = .ok (some tokens) ∧
      raw = Session.Entry.encode ⟨fingerprint.text, tokens.refresh⟩
  | _, .arriving => ∃ e, answer = .error e ∧ e ≠ .sessionRevoked
  | _, _ => False

end Service

end SessionAuth
