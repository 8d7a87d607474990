/-
The service keeps failures to itself.

What a collaborator says of its failures is for the log.  Nothing that the service does, and
nothing that it comes to, depends on it: two runs in which the same commands fail stay in step
whatever the texts of the failures are, and so do two services that cannot make tokens for
different reasons.  `Hidden` says which errors are not told apart from outside, and every
operation is coupled with itself under replies that differ in nothing else.

There is one lemma for each function of the service, in the order in which they call each
other.  The log is the only place where the two runs part (`Discreet.log`).
-/
import SessionAuth.Proofs.Service.Coupled

namespace SessionAuth

open Session (Registry Entry Fingerprint)

/-- The errors are the same for whoever is not told about failures of the server. -/
def AuthError.Hidden (e e' : AuthError) : Prop :=
  e' = e ∨ e.isServerError = true ∧ e'.isServerError = true

theorem AuthError.Hidden.refl (e : AuthError) : e.Hidden e := Or.inl rfl

/-- The same is asked for, or something is reported. -/
inductive Discreet : Effect → Effect → Prop
  | same (c : Effect) : Discreet c c
  | log (event event' : Event) : Discreet (.log event) (.log event')

/-- The replies are the same, or they are failures of the server. -/
def Effect.RepliesAlike : (c c' : Effect) → c.Reply → c'.Reply → Prop
  | .cache _, .cache _, reply, reply' => Matched AuthError.Hidden (HEq · ·) reply reply'
  | .users _, .users _, reply, reply' => Matched AuthError.Hidden (HEq · ·) reply reply'
  | .clock, .clock, now, now' => now = now'
  | .random _, .random _, bits, bits' => HEq bits bits'
  | _, _, _, _ => True

/-- Two runs in which the same commands fail. -/
def discretion : Coupling Effect Effect.Reply where
  asks := Discreet
  replies := Effect.RepliesAlike

theorem matched_of_repliesAlike {α : Type} {result result' : Except AuthError α}
    (h : Matched AuthError.Hidden (HEq · ·) result result') :
    Matched AuthError.Hidden Eq result result' :=
  h.mono fun _ _ hvalue => eq_of_heq hvalue

theorem framed_discretion : discretion.Framed AuthError.Hidden where
  begins := .same _
  commits := .same _
  rollsBack := .same _
  begun _ _ h := matched_of_repliesAlike h
  committed _ _ h := matched_of_repliesAlike h
  rolledBack _ _ h := matched_of_repliesAlike h
  reports _ _ _ := .log _ _

namespace Call

variable {α β : Type}

/-- The calls come to the same, or they fail on the side of the server. -/
abbrev Alike (call call' : Call α) : Prop := Coupled discretion AuthError.Hidden Eq call call'

namespace Alike

theorem ofExcept (result : Except AuthError α) : Alike (Call.ofExcept result) (Call.ofExcept result) :=
  Coupled.ofExcept (.refl AuthError.Hidden.refl result)

theorem pure (value : α) : Alike (Pure.pure value) (Pure.pure value) := Coupled.pure rfl

theorem throw (e : AuthError) : Alike (MonadExcept.throw e : Call α) (MonadExcept.throw e) :=
  Coupled.throw (.refl e)

theorem cache (c : Cache.Command) : Alike (Call.cache c) (Call.cache c) :=
  Coupled.cache (.same _) fun _ _ => matched_of_repliesAlike

theorem users (c : Users.Command) : Alike (Call.users c) (Call.users c) :=
  Coupled.users (.same _) fun _ _ => matched_of_repliesAlike

theorem clock : Alike Call.clock Call.clock := ⟨.same _, fun _ _ h => Matched.ok h⟩

theorem random (bits : Nat) : Alike (Call.random bits) (Call.random bits) :=
  ⟨.same _, fun _ _ h => Matched.ok (eq_of_heq h)⟩

theorem log (event : Event) : Alike (Call.log event) (Call.log event) := Coupled.log (.log _ _)

/-- What is done after the same is looked at once. -/
theorem bind {call call' : Call α} {f f' : α → Call β} (h : Alike call call')
    (hrest : ∀ value, Alike (f value) (f' value)) : Alike (call >>= f) (call' >>= f') :=
  h.bind_eq hrest

end Alike

end Call

open Call (Alike)

/-! ### Tokens -/

/-- The codecs read the same tokens, and each token is made by both or by neither. -/
structure Token.Codec.Alike (c c' : Token.Codec) : Prop where
  verificationKey : c'.verificationKey = c.verificationKey
  algorithm : c'.algorithm = c.algorithm
  mint : ∀ now id noise subject kind, Matched AuthError.Hidden Eq
    (c.mint now id noise subject (some kind) {}) (c'.mint now id noise subject (some kind) {})

theorem Token.Codec.Alike.refl (c : Token.Codec) : c.Alike c :=
  ⟨rfl, rfl, fun _ _ _ _ _ => .refl AuthError.Hidden.refl _⟩

theorem decode_alike {c c' : Token.Codec} (h : c.Alike c') (token : String) :
    Alike (c.decode token) (c'.decode token) := by
  unfold Token.Codec.decode Token.Codec.decodeWith
  rw [h.verificationKey, h.algorithm]
  refine Alike.clock.bind fun now => ?_
  split
  · exact .pure _
  · exact (Alike.log _).bind fun _ => .throw _

theorem encode_alike {c c' : Token.Codec} (h : c.Alike c') (subject : String)
    (kind : Token.Kind) : Alike (c.encode subject kind) (c'.encode subject kind) := by
  unfold Token.Codec.encode Token.Codec.encodeWith
  simp only [Option.isNone_some, Bool.and_false, Bool.false_eq_true, if_false]
  exact Alike.clock.bind fun now => (Alike.random 128).bind fun id =>
    (Alike.random 512).bind fun noise => Call.Coupled.ofExcept (h.mint now _ noise subject kind)

/-! ### The registry -/

theorem register_alike (r : Registry) (user : UserId) (fingerprint token : String) (ttl : Nat) :
    Alike (r.register user fingerprint token ttl) (r.register user fingerprint token ttl) := by
  have hpush : Alike
      (Call.pushTo (Registry.key user) (Entry.encode ⟨fingerprint, token⟩) ttl >>= fun _ =>
        Call.log (.sessionRegistered user))
      (Call.pushTo (Registry.key user) (Entry.encode ⟨fingerprint, token⟩) ttl >>= fun _ =>
        Call.log (.sessionRegistered user)) :=
    (Alike.cache _).bind fun _ => .log _
  unfold Registry.register
  refine (Alike.cache _).bind fun entries => ?_
  split
  · exact (Alike.log _).bind fun _ => (Alike.cache _).bind fun _ => hpush
  · exact hpush

theorem consume_alike (user : UserId) (fingerprint token : String) :
    Alike (Registry.consume user fingerprint token) (Registry.consume user fingerprint token) := by
  have hdrop : Alike (Call.dropList (Registry.key user) >>= fun _ => pure false)
      (Call.dropList (Registry.key user) >>= fun _ => pure false) :=
    (Alike.cache _).bind fun _ => .pure _
  unfold Registry.consume
  refine (Alike.cache _).bind fun entries => ?_
  split
  · exact .pure _
  · split
    · refine (Alike.cache _).bind fun removed => ?_
      split
      · exact .pure _
      · exact (Alike.log _).bind fun _ => hdrop
    · exact (Alike.log _).bind fun _ => hdrop

theorem revoke_alike (user : UserId) (token : String) :
    Alike (Registry.revoke user token) (Registry.revoke user token) := by
  unfold Registry.revoke
  refine (Alike.cache _).bind fun entries => ?_
  split
  · exact .cache _
  · exact .pure _

/-! ### The service -/

/-- The services are the same but for the reasons why tokens cannot be made. -/
structure Service.Alike (s s' : Service) : Prop where
  codec : s.codec.Alike s'.codec
  registry : s'.registry = s.registry
  verify : s'.verify = s.verify

theorem Service.Alike.refl (s : Service) : s.Alike s := ⟨.refl s.codec, rfl, rfl⟩

namespace Service

variable {s s' : Service} (h : s.Alike s')
include h

theorem resolve_alike (token : String) (expected : Token.Kind) :
    Call.Alike (s.resolve token expected) (s'.resolve token expected) := by
  unfold resolve
  refine (decode_alike h.codec token).bind fun payload => ?_
  refine (Call.Alike.ofExcept _).bind fun id => ?_
  refine (Call.Alike.users (.findById id)).bind fun found => ?_
  cases found with
  | none => exact .throw _
  | some user =>
    dsimp only
    split
    · exact .pure _
    · exact .throw _

theorem issue_alike (user : UserId) (fingerprint : Fingerprint) :
    Call.Alike (s.issue user fingerprint) (s'.issue user fingerprint) := by
  unfold issue
  rw [h.registry]
  refine (encode_alike h.codec _ .refresh).bind fun made => ?_
  refine (encode_alike h.codec _ .access).bind fun madeToo => ?_
  refine Call.Alike.clock.bind fun now => ?_
  exact (register_alike _ _ _ _ _).bind fun _ => .pure _

theorem credentials_alike (login : String) (password : Password.ClearText) :
    Call.Alike (s.credentials login password) (s'.credentials login password) := by
  unfold credentials
  rw [h.verify]
  refine (Call.Alike.users (.findByLogin login)).bind fun found => ?_
  cases found with
  | none => exact .throw _
  | some user =>
    dsimp only
    split
    · exact .pure _
    · exact .throw _

theorem login_alike (login : String) (password : Password.ClearText) (fingerprint : Fingerprint) :
    Call.Alike (s.login login password fingerprint) (s'.login login password fingerprint) :=
  .inUnit framed_discretion <|
    (credentials_alike h login password).bind fun user =>
      (issue_alike h user.id fingerprint).bind fun _ => (Call.Alike.log _).bind fun _ => .pure _

theorem refresh_alike (fingerprint : Fingerprint) (token : String) :
    Call.Alike (s.refresh fingerprint token) (s'.refresh fingerprint token) := by
  refine .inUnit framed_discretion ?_
  refine (resolve_alike h token .refresh).bind fun user => ?_
  refine (consume_alike _ _ _).bind fun consumed => ?_
  split
  · exact (issue_alike h user.id fingerprint).bind fun _ =>
      (Call.Alike.log _).bind fun _ => .pure _
  · exact .throw _

theorem logout_alike (token : String) : Call.Alike (s.logout token) (s'.logout token) := by
  refine .inUnit framed_discretion ?_
  refine (resolve_alike h token .refresh).bind fun user => ?_
  refine (revoke_alike _ _).bind fun revoked => ?_
  split
  · exact .log _
  · exact .throw _

theorem authenticate_alike (token : String) (expected : Token.Kind) :
    Call.Alike (s.authenticate token expected) (s'.authenticate token expected) :=
  .inUnit framed_discretion (resolve_alike h token expected)

end Service

end SessionAuth
