/-
What a rejected call has left alone.

Before a call comes to the sessions of a user it begins a transaction, reads its token
or checks its credentials, and looks the user up.  Each of these steps can end the call,
and an error of theirs says that the cache was not asked for anything; later errors are
of the cache, of the configuration or about the session itself, and cannot be mistaken
for them.  `Spares` puts down for every error what it vouches for, and the statements of
this file are that every operation keeps to it, over a list server and a database that
refuse whatever they refuse.

An operation that is rejected by its error alone (`Lenient`) vouches for nothing, so for
the part of a call that works on the sessions only its errors have to be gone through.
-/
import SessionAuth.Proofs.Cache.Remote
import SessionAuth.Proofs.Service.Calls
import SessionAuth.Proofs.Service.Conduct
import SessionAuth.Proofs.Service.Interleaving
import SessionAuth.Proofs.Users.Relational

namespace SessionAuth.Service

open Session (Registry Entry Fingerprint)

/-- The state of a list server and of a database. -/
abbrev RemoteStore := Cache.ListServer × Users.Relational

/-- A list server and a database as collaborators. -/
abbrev remote : Backend RemoteStore := Deployment.remote.toBackend

/--
What an error vouches for, from the collaborators before a call to those afterwards.
A malformed fingerprint: nothing was asked of either of them.  Whoever is not let in, or
cannot be looked up since a transaction cannot begin or a look-up is refused: nothing was
asked of the server, not even to read a list.  A session that is not there: no list and
no time to live was changed.
-/
def Spares (before after : RemoteStore) : AuthError → Prop
  | .invalidFingerprint => after = before
  | .invalidCredentials | .tokenInvalid | .unauthorized => after.1 = before.1
  | .database _ =>
    before.2.faults.get? .begin ≠ none ∨ before.2.faults.get? .select ≠ none → after.1 = before.1
  | .unknownToken => after.1.keys = before.1.keys
  | .sessionRevoked | .configuration _ | .cache _ | .internal _ => True

/-- An error that vouches for nothing. -/
def Lenient (e : AuthError) : Prop := ∀ before after, Spares before after e

theorem lenient_of_isError {e : AuthError} (h : Cache.Remote.IsError e) : Lenient e := by
  cases h <;> exact fun _ _ => trivial

/-- Calls over a list server and a database; how they are responded to is not theirs to report. -/
def conduct (unit : Nat) : Contract Effect Effect.Reply (World RemoteStore) where
  asks _ e := ∀ cause, e ≠ .log (.responded cause)
  answers := remote.Answers unit

/-- The server has not been asked for anything, and the same statements are refused. -/
structure Withheld (w w' : World RemoteStore) : Prop where
  server : w'.store.1 = w.store.1
  faults : w'.store.2.faults = w.store.2.faults
  now : w'.now = w.now

variable {w w₁ : World RemoteStore} {unit : Nat} {s : Service} {α β : Type}

theorem Withheld.refl (w : World RemoteStore) : Withheld w w := ⟨rfl, rfl, rfl⟩

/-- The clock, randomness and the log have nothing to do with the server. -/
theorem undisturbed_withheld (w : World RemoteStore) (unit : Nat) :
    (conduct unit).Undisturbed (Withheld w) (· = w.now) where
  asks_clock _ _ _ := by simp
  asks_random _ _ _ _ := by simp
  asks_log _ event _ hevent cause := fun h => hevent cause (by cases h; rfl)
  clock state now later h hanswer := by
    cases hanswer
    exact ⟨h.now, h⟩
  random state count bits later h hanswer := by
    cases hanswer <;> exact ⟨h.server, h.faults, h.now⟩
  log state event reply later h hanswer := by
    cases hanswer
    exact ⟨h.server, h.faults, h.now⟩

/-- A command to the unit of work has nothing to do with the server. -/
theorem users_meets {c : Users.Command} {ends : World RemoteStore → Except AuthError c.Reply → Prop}
    (h : Withheld w w₁)
    (hends : ∀ later, Withheld w later → ends later (w₁.store.2.perform unit c).1) :
    Call.Meets (conduct unit) (Call.users c) ends w₁ := by
  refine Call.meets_users (fun _ => by simp) ?_
  intro reply later hanswer
  cases hanswer
  refine hends _ ⟨h.server, ?_, h.now⟩
  exact (Users.Relational.alike_perform unit c w₁.store.2).faults.trans h.faults

/-- A command to the cache is one that the server carries out. -/
theorem cache_meets {c : Cache.Command} {ends : World RemoteStore → Except AuthError c.Reply → Prop}
    (hends : ∀ later, later.store.1 = (Cache.Remote.perform w.now c w.store.1).2 →
      later.now = w.now → ends later (Cache.Remote.perform w.now c w.store.1).1) :
    Call.Meets (conduct unit) (Call.cache c) ends w := by
  refine Call.meets_cache (fun _ => by simp) ?_
  intro reply later hanswer
  cases hanswer
  exact hends _ rfl rfl

/-! ### Before the sessions -/

/-- A rejection that stands whatever becomes of the transaction. -/
def Rejects (w later : World RemoteStore) (e : AuthError) : Prop :=
  ∀ after : RemoteStore, after.1 = later.store.1 → Spares w.store after e

/-- Nobody is looked up where look-ups are refused. -/
def LooksUp (w : World RemoteStore) : Prop := w.store.2.faults.get? .select = none

/-- A look-up that fails has left the server alone. -/
theorem rejects_of_select {d : Users.Relational} {statement : Users.Statement}
    {wanted : User → Bool} {e : AuthError} (h : Withheld w w₁)
    (hfail : (d.select statement wanted unit).1 = .error e) : Rejects w w₁ e := by
  intro after hafter
  rcases Users.Relational.select_eq_error hfail with rfl | ⟨text, _, rfl⟩
  · exact trivial
  · exact fun _ => hafter.trans h.server

/-- Reading a token and looking its user up. -/
theorem resolve_meets {token : String} {kind : Token.Kind}
    {ends : World RemoteStore → Except AuthError User → Prop} (h : Withheld w w₁)
    (hok : ∀ user payload later, Withheld w later → LooksUp w →
      Token.Codec.open? s.codec.verificationKey s.codec.algorithm w.now token = some payload →
      payload.isOf kind = true → ends later (.ok user))
    (hbad : ∀ e later, Withheld w later → Rejects w later e → ends later (.error e)) :
    Call.Meets (conduct unit) (s.resolve token kind) ends w₁ := by
  unfold resolve
  refine Call.meets_bind.2 (decode_meets (undisturbed_withheld w unit) h ?_
    fun now later _ hlater _ => hbad _ later hlater fun after hafter => hafter.trans hlater.server)
  intro now payload later hnow hlater hopen
  subst hnow
  refine Call.meets_bind.2 (Call.meets_ofExcept.2 ?_)
  cases huser : payload.user with
  | error e =>
    refine hbad e later hlater ?_
    intro after hafter
    unfold Token.Payload.user at huser
    split at huser <;> cases huser
    exact hafter.trans hlater.server
  | ok id =>
    refine Call.meets_bind.2 (users_meets hlater ?_)
    intro last hlast
    cases hselect : (later.store.2.perform unit (.findById id)).1 with
    | error e => exact hbad e last hlast (rejects_of_select hlast hselect)
    | ok found =>
      have hlooks : LooksUp w := by
        unfold LooksUp
        rw [← hlater.faults]
        exact Users.Relational.select_eq_ok hselect
      have hrefused : Rejects w last .unauthorized := fun after hafter => hafter.trans hlast.server
      cases found with
      | none => exact hbad _ last hlast hrefused
      | some user =>
        simp only
        split
        · rename_i hkind
          exact hok user payload last hlast hlooks hopen hkind
        · exact hbad _ last hlast hrefused

/-- Looking a user up and checking the password. -/
theorem credentials_meets {login : String} {password : Password.ClearText}
    {ends : World RemoteStore → Except AuthError User → Prop} (h : Withheld w w₁)
    (hok : ∀ user later, Withheld w later → LooksUp w → ends later (.ok user))
    (hbad : ∀ e later, Withheld w later → Rejects w later e → ends later (.error e)) :
    Call.Meets (conduct unit) (s.credentials login password) ends w₁ := by
  unfold credentials
  refine Call.meets_bind.2 (users_meets h ?_)
  intro last hlast
  cases hselect : (w₁.store.2.perform unit (.findByLogin login)).1 with
  | error e => exact hbad e last hlast (rejects_of_select hlast hselect)
  | ok found =>
    have hlooks : LooksUp w := by
      unfold LooksUp
      rw [← h.faults]
      exact Users.Relational.select_eq_ok hselect
    have hrefused : Rejects w last .invalidCredentials := fun after hafter =>
      hafter.trans hlast.server
    cases found with
    | none => exact hbad _ last hlast hrefused
    | some user =>
      simp only
      split
      · exact hok user last hlast hlooks
      · exact hbad _ last hlast hrefused

/-! ### On the sessions -/

/-- Whatever error the call ends with, it vouches for nothing. -/
def EndsLenient (unit : Nat) (call : Call α) : Prop :=
  ∀ w, Call.Meets (conduct unit) call (fun _ result => ∀ e, result = .error e → Lenient e) w

theorem EndsLenient.pure (value : α) : EndsLenient unit (Pure.pure value : Call α) :=
  fun _ e h => by cases h

theorem EndsLenient.bind {call : Call α} {f : α → Call β} (h : EndsLenient unit call)
    (h' : ∀ value, EndsLenient unit (f value)) : EndsLenient unit (call >>= f) :=
  fun w => (h w).bind (fun later value _ => h' value later) fun _ _ hend e he =>
    hend e (by cases he; rfl)

theorem EndsLenient.cache (c : Cache.Command) : EndsLenient unit (Call.cache c) := by
  exact fun w => cache_meets fun later _ _ e he =>
    lenient_of_isError (Cache.Remote.isError_perform he)

theorem EndsLenient.clock : EndsLenient unit Call.clock :=
  fun w => meets_clock (undisturbed_withheld w unit) (.refl w) fun _ _ _ _ _ h => by cases h

theorem EndsLenient.log {event : Event} (h : ∀ cause, event ≠ .responded cause) :
    EndsLenient unit (Call.log event) :=
  fun w => meets_log (undisturbed_withheld w unit) (.refl w) h fun _ _ _ h => by cases h

/-- Making a token fails because of the configuration only. -/
theorem EndsLenient.encode (codec : Token.Codec) (subject : String) (kind : Token.Kind) :
    EndsLenient unit (codec.encode subject kind) := by
  refine fun w => encode_meets (undisturbed_withheld w unit) (.refl w) ?_
  intro _ _ _ _ _ _ e he
  obtain ⟨message, rfl⟩ := configuration_of_mint he
  exact fun _ _ => trivial

theorem EndsLenient.register (r : Registry) (user : UserId) (fingerprint token : String)
    (ttl : Nat) : EndsLenient unit (r.register user fingerprint token ttl) := by
  unfold Registry.register
  refine .bind (.cache _) ?_
  intro entries
  have hadd : EndsLenient unit (do
      Call.pushTo (Registry.key user) (Entry.encode ⟨fingerprint, token⟩) ttl
      Call.log (.sessionRegistered user)) :=
    .bind (.cache _) fun _ => .log fun _ => by simp
  split
  · exact .bind (.log fun _ => by simp) fun _ => .bind (.cache _) fun _ => hadd
  · exact hadd

theorem EndsLenient.issue (s : Service) (user : UserId) (f : Fingerprint) :
    EndsLenient unit (s.issue user f) := by
  unfold Service.issue
  refine .bind (.encode _ _ _) fun minted => .bind (.encode _ _ _) ?_
  intro _
  exact .bind .clock fun now => .bind (.register _ _ _ _ _) fun _ => .pure _

theorem EndsLenient.consume (user : UserId) (fingerprint token : String) :
    EndsLenient unit (Registry.consume user fingerprint token) := by
  unfold Registry.consume
  refine .bind (.cache _) ?_
  intro entries
  have hdrop : EndsLenient unit (do
      Call.dropList (Registry.key user)
      return false) :=
    .bind (.cache _) fun _ => .pure _
  split
  · exact .pure _
  · split
    · refine .bind (.cache _) ?_
      intro removed
      split
      · exact .pure _
      · exact .bind (.log fun _ => by simp) fun _ => hdrop
    · exact .bind (.log fun _ => by simp) fun _ => hdrop

/-- Revoking reports a session that is not there only if it has changed no key. -/
theorem revoke_meets (user : UserId) (token : String) (w : World RemoteStore) :
    Call.Meets (conduct unit) (Registry.revoke user token) (fun later result =>
      (∀ e, result = .error e → Lenient e) ∧
        (result = .ok false → later.store.1.keys = w.store.1.keys)) w := by
  unfold Registry.revoke
  refine Call.meets_bind.2 (cache_meets ?_)
  intro later hserver hnow
  have hkeys : later.store.1.keys = w.store.1.keys :=
    hserver ▸ Cache.Remote.keys_get w.now (Registry.key user) w.store.1
  cases hreply : (Cache.Remote.perform w.now (.get (Registry.key user)) w.store.1).1 with
  | error e =>
    refine ⟨?_, fun h => by cases h⟩
    intro e' he'
    cases he'
    exact lenient_of_isError (Cache.Remote.isError_perform hreply)
  | ok entries =>
    have hentries : entries = w.store.1.values w.now (Registry.key user) :=
      Cache.Remote.values_of_get hreply
    dsimp only
    cases hfind : Registry.findToken? token entries with
    | none => exact Call.meets_pure.2 ⟨fun e h => (by cases h), fun _ => hkeys⟩
    | some raw =>
      refine cache_meets fun last _ _ => ⟨?_, ?_⟩
      · intro e he
        exact lenient_of_isError (Cache.Remote.isError_perform he)
      · intro hfalse
        -- What was found a moment ago cannot be missing when it is taken out.
        have habsent := Cache.Remote.notMem_of_remove hfalse
        rw [Cache.ListServer.values_congr hkeys, hnow, ← hentries] at habsent
        exact absurd (List.mem_of_find?_eq_some hfind) habsent

/-! ### Units of work -/

/-- Everybody can be looked up: a transaction begins, and look-ups are answered. -/
def Admits (w : World RemoteStore) : Prop :=
  w.store.2.faults.get? .begin = none ∧ LooksUp w

/-- An error of the database that comes after a look-up vouches for nothing. -/
theorem spares_of_admits (h : Admits w) (fault : DatabaseFault) (after : RemoteStore) :
    Spares w.store after (.database fault) := by
  rintro (hbegin | hselect)
  · exact absurd h.1 hbegin
  · exact absurd h.2 hselect

/--
Work in a unit keeps to what its error vouches for, when it does so outside of one.  Only a
result that was not admitted could be spoilt by a commit that is refused.
-/
theorem inUnit_meets {work : Call α} {Q : RemoteStore → Prop} {R : α → Prop}
    (w : World RemoteStore) (unit : Nat)
    (hQ : ∀ before after : RemoteStore, after.1 = before.1 → Q before → Q after)
    (hstart : Q w.store)
    (hwork : ∀ w₁, Withheld w w₁ →
      Call.Meets (conduct unit) work (fun later result => Q later.store ∧
        (∀ e, result = .error e → Rejects w later e) ∧
        ∀ value, result = .ok value → LooksUp w ∧ R value) w₁) :
    Call.Meets (conduct unit) (Call.inUnit work) (fun later result => Q later.store ∧
      (∀ e, result = .error e → Spares w.store later.store e) ∧
      ∀ value, result = .ok value → R value) w := by
  unfold Call.inUnit
  refine Call.meets_bind.2 (users_meets (.refl w) ?_)
  intro w₁ h₁
  have hQ₁ : Q w₁.store := hQ _ _ h₁.server hstart
  cases hbegin : (w.store.2.perform unit .begin).1 with
  | error e =>
    refine ⟨hQ₁, ?_, fun value h => by cases h⟩
    intro e' he'
    cases he'
    obtain ⟨text, _, rfl⟩ := Users.Relational.isRefusal_of_begin hbegin
    exact fun _ => h₁.server
  | ok started =>
    refine Call.meets_bind.2 (Call.meets_lift.2 ((hwork w₁ h₁).mono ?_))
    intro w₂ result h₂
    obtain ⟨hQ₂, herror, hok⟩ := h₂
    have hstep : ∀ (c : Users.Command) (reply : c.Outcome) (last : World RemoteStore),
        (conduct unit).answers (.users c) w₂ reply last →
          last.store.1 = w₂.store.1 ∧ reply = (w₂.store.2.perform unit c).1 := by
      intro c reply last hanswer
      cases hanswer
      exact ⟨rfl, rfl⟩
    cases result with
    | ok value =>
      obtain ⟨hlooks, hvalue⟩ := hok value rfl
      refine Call.meets_bind.2 (Call.meets_users (fun _ => by simp) ?_)
      intro reply last hanswer
      obtain ⟨hserver, hreply⟩ := hstep _ _ _ hanswer
      cases reply with
      | ok _ =>
        refine Call.meets_pure.2 ⟨hQ _ _ hserver hQ₂, fun e he => (by cases he), ?_⟩
        intro other h
        cases h
        exact hvalue
      | error e =>
        refine ⟨hQ _ _ hserver hQ₂, ?_, fun other h => by cases h⟩
        intro e' he'
        cases he'
        obtain ⟨text, _, rfl⟩ := Users.Relational.isRefusal_of_commit hreply.symm
        exact spares_of_admits ⟨(Users.Relational.isOpen_of_begin hbegin).1, hlooks⟩ _ _
    | error e =>
      refine Call.meets_bind.2 (Call.meets_lift.2
        (Call.meets_users (fun _ => by simp) ?_))
      intro reply last hanswer
      obtain ⟨hserver, _⟩ := hstep _ _ _ hanswer
      -- The first error stands, and what it vouches for does not depend on the transaction.
      have hend : ∀ final : World RemoteStore, final.store.1 = w₂.store.1 →
          Call.Meets (conduct unit) (throw e : Call α) (fun later result => Q later.store ∧
            (∀ e, result = .error e → Spares w.store later.store e) ∧
            ∀ value, result = .ok value → R value) final := by
        intro final hsame
        refine Call.meets_throw.2 ⟨hQ _ _ hsame hQ₂, ?_, fun value h => by cases h⟩
        intro e' he'
        cases he'
        exact herror e rfl final.store hsame
      cases reply with
      | ok _ => exact hend last hserver
      | error cause =>
        refine Call.meets_bind.2 (meets_log (undisturbed_withheld last unit) (.refl last)
          (fun _ => by simp) ?_)
        intro final hfinal
        exact hend final (hfinal.server.trans hserver)

/-! ### Operations -/

/-- The token is accepted at a time, and it is of this kind. -/
def Presents (s : Service) (kind : Token.Kind) (now : Instant) (token : String) : Prop :=
  ∃ payload, Token.Codec.open? s.codec.verificationKey s.codec.algorithm now token = some payload ∧
    payload.isOf kind = true

/-- Nothing was asked of the server, unless there was a token of this kind. -/
def Guards (s : Service) (kind : Token.Kind) (token : String) (w : World RemoteStore)
    (after : RemoteStore) : Prop :=
  ¬ s.Presents kind w.now token → after.1 = w.store.1

theorem guards_congr {kind : Token.Kind} {token : String} {before after : RemoteStore}
    (h : after.1 = before.1) (hguards : s.Guards kind token w before) :
    s.Guards kind token w after := fun hnone => h.trans (hguards hnone)

theorem rejects_of_lenient {later : World RemoteStore} {e : AuthError} (h : Lenient e) :
    Rejects w later e := fun after _ => h w.store after

theorem login_meets (s : Service) (login : String) (password : Password.ClearText)
    (f : Fingerprint) (unit : Nat) (w : World RemoteStore) :
    Call.Meets (conduct unit) (s.login login password f) (fun later result =>
      ∀ e, result = .error e → Spares w.store later.store e) w := by
  unfold Service.login
  refine Call.Meets.mono (inUnit_meets (Q := fun _ => True) (R := fun _ => True) w unit
    (fun _ _ _ h => h) trivial ?_) fun _ _ h => h.2.1
  intro w₁ h₁
  refine Call.meets_bind.2 (credentials_meets h₁ ?_
    fun e later _ hrejects => ⟨trivial, ?_, fun value h => by cases h⟩)
  · intro user later _ hlooks
    have hissue : EndsLenient unit (do
        let tokens ← s.issue user.id f
        Call.log (.loggedIn user.id tokens.expiresAt)
        return tokens) :=
      .bind (.issue s user.id f) fun _ => .bind (.log fun _ => by simp) fun _ => .pure _
    exact (hissue later).mono fun last result h =>
      ⟨trivial, fun e he => rejects_of_lenient (h e he), fun _ _ => ⟨hlooks, trivial⟩⟩
  · intro e' he'
    cases he'
    exact hrejects

theorem refresh_meets (s : Service) (f : Fingerprint) (token : String) (unit : Nat)
    (w : World RemoteStore) :
    Call.Meets (conduct unit) (s.refresh f token) (fun later result =>
      s.Guards .refresh token w later.store ∧
        ∀ e, result = .error e → Spares w.store later.store e) w := by
  unfold refresh
  refine Call.Meets.mono (inUnit_meets (R := fun _ => True) w unit (fun _ _ => guards_congr)
    (fun _ => rfl) ?_) fun _ _ h => ⟨h.1, h.2.1⟩
  intro w₁ h₁
  refine Call.meets_bind.2 (resolve_meets h₁ ?_
    fun e later hlater hrejects => ⟨fun _ => hlater.server, ?_, fun value h => by cases h⟩)
  · intro user payload later _ hlooks hopen hkind
    have hpresents : ∀ after, s.Guards .refresh token w after := fun _ hnone =>
      absurd ⟨payload, hopen, hkind⟩ hnone
    have hrotate : EndsLenient unit (do
        if ← Registry.consume user.id f.text token then
          let tokens ← s.issue user.id f
          Call.log (.refreshed user.id tokens.expiresAt)
          return tokens
        else throw .sessionRevoked) := by
      refine .bind (.consume user.id f.text token) ?_
      intro consumed
      split
      · exact .bind (.issue s user.id f) fun _ => .bind (.log fun _ => by simp) fun _ => .pure _
      · refine fun w => Call.meets_throw.2 ?_
        intro e he
        cases he
        exact fun _ _ => trivial
    exact (hrotate later).mono fun last result h =>
      ⟨hpresents _, fun e he => rejects_of_lenient (h e he), fun _ _ => ⟨hlooks, trivial⟩⟩
  · intro e' he'
    cases he'
    exact hrejects

theorem logout_meets (s : Service) (token : String) (unit : Nat) (w : World RemoteStore) :
    Call.Meets (conduct unit) (s.logout token) (fun later result =>
      s.Guards .refresh token w later.store ∧
        ∀ e, result = .error e → Spares w.store later.store e) w := by
  unfold logout
  refine Call.Meets.mono (inUnit_meets (R := fun _ => True) w unit (fun _ _ => guards_congr)
    (fun _ => rfl) ?_) fun _ _ h => ⟨h.1, h.2.1⟩
  intro w₁ h₁
  refine Call.meets_bind.2 (resolve_meets h₁ ?_
    fun e later hlater hrejects => ⟨fun _ => hlater.server, ?_, fun value h => by cases h⟩)
  · intro user payload later hlater hlooks hopen hkind
    have hpresents : ∀ after, s.Guards .refresh token w after := fun _ hnone =>
      absurd ⟨payload, hopen, hkind⟩ hnone
    refine (revoke_meets user.id token later).bind ?_ fun last e h =>
      ⟨hpresents _, ?_, fun value h => by cases h⟩
    · intro last revoked h
      cases revoked with
      | true =>
        exact (EndsLenient.log (fun _ => by simp) last).mono fun final result hend =>
          ⟨hpresents _, fun e he => rejects_of_lenient (hend e he), fun _ _ => ⟨hlooks, trivial⟩⟩
      | false =>
        refine Call.meets_throw.2 ⟨hpresents _, ?_, fun value h => by cases h⟩
        intro e he
        cases he
        intro after hafter
        show after.1.keys = w.store.1.keys
        rw [hafter, h.2 rfl, hlater.server]
    · intro e' he'
      cases he'
      exact rejects_of_lenient (h.1 e rfl)
  · intro e' he'
    cases he'
    exact hrejects

/-- Telling who somebody is never asks anything of the server. -/
theorem authenticate_meets (s : Service) (token : String) (kind : Token.Kind) (unit : Nat)
    (w : World RemoteStore) :
    Call.Meets (conduct unit) (s.authenticate token kind) (fun later result =>
      later.store.1 = w.store.1 ∧ ∀ user, result = .ok user → s.Presents kind w.now token) w := by
  unfold authenticate
  refine Call.Meets.mono (inUnit_meets (Q := fun store => store.1 = w.store.1)
    (R := fun _ => s.Presents kind w.now token) w unit (fun _ _ h h' => h.trans h') rfl ?_)
    fun _ _ h => ⟨h.1, h.2.2⟩
  intro w₁ h₁
  refine resolve_meets h₁ (fun user payload later hlater hlooks hopen hkind =>
    ⟨hlater.server, fun e h => (by cases h), fun _ _ => ⟨hlooks, payload, hopen, hkind⟩⟩)
    fun e later hlater hrejects => ⟨hlater.server, ?_, fun value h => by cases h⟩
  intro e' he'
  cases he'
  exact hrejects

end SessionAuth.Service
