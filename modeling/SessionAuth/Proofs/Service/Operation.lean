/-
What an operation asks, and for whom.

All four operations look somebody up, by login or by the subject of a token, and three of
them then work on the sessions of whomever they have found.  `Operation.MayAsk` says in one
place what may be asked in terms of what has been asked before: the cache only for the list
of the user who was found, the users only for the look-up, and a new session only with a
time to live that was counted from the clock.  It also says where the error of an operation
comes from (`Blames`).

Nothing is expected of the replies.  So what is said here holds over every backend, with
whatever faults, and between whatever other calls.
-/
import SessionAuth.Proofs.Program.Record
import SessionAuth.Proofs.Service.Calls
import SessionAuth.Proofs.Service.Conduct

namespace SessionAuth.Service

open Session (Registry Entry Fingerprint)

/-! ### Operations -/

/-- Something that is asked of the service. -/
inductive Operation
  | login (login : String) (password : Password.ClearText) (fingerprint : Fingerprint)
  | refresh (fingerprint : Fingerprint) (token : String)
  | logout (token : String)
  | authenticate (token : String) (expected : Token.Kind)

/-- What an operation gives when it succeeds. -/
def Operation.Reply : Operation → Type
  | .login _ _ _ | .refresh _ _ => IssuedTokens
  | .logout _ => Unit
  | .authenticate _ _ => User

/-- Carries out an operation. -/
def call (s : Service) : (op : Operation) → Call op.Reply
  | .login login password fingerprint => s.login login password fingerprint
  | .refresh fingerprint token => s.refresh fingerprint token
  | .logout token => s.logout token
  | .authenticate token expected => s.authenticate token expected

/-- What an operation does inside its unit of work. -/
def work (s : Service) : (op : Operation) → Call op.Reply
  | .login login password fingerprint => show Call IssuedTokens from do
    let user ← s.credentials login password
    let tokens ← s.issue user.id fingerprint
    Call.log (.loggedIn user.id tokens.expiresAt)
    return tokens
  | .refresh fingerprint token => show Call IssuedTokens from do
    let user ← s.resolve token .refresh
    if ← Registry.consume user.id fingerprint.text token then
      let tokens ← s.issue user.id fingerprint
      Call.log (.refreshed user.id tokens.expiresAt)
      return tokens
    else throw .sessionRevoked
  | .logout token => show Call Unit from do
    let user ← s.resolve token .refresh
    if ← Registry.revoke user.id token then Call.log (.loggedOut user.id)
    else throw .unknownToken
  | .authenticate token expected => s.resolve token expected

/-- Every operation is work in a unit. -/
theorem call_eq (s : Service) (op : Operation) : s.call op = Call.inUnit (s.work op) := by
  cases op <;> rfl

/-! ### Readings of the clock -/

/-- Random bits have been drawn. -/
def hasDrawn : List Asked → Bool
  | [] => false
  | ⟨.random _, _⟩ :: _ => true
  | _ :: older => hasDrawn older

/-- What the clock showed when it was last read. -/
def lastReading : List Asked → Option Instant
  | [] => none
  | ⟨.clock, now⟩ :: _ => some now
  | _ :: older => lastReading older

/--
From the first random bits on, which a call draws to make a token, the clock shows it what it
has shown it last: the tokens of one call are made at one reading.
-/
def IsSteady : List Asked → Prop
  | [] => True
  | ⟨.clock, now⟩ :: older => IsSteady older ∧
    (hasDrawn older = true → ∀ before, lastReading older = some before → now = before)
  | _ :: older => IsSteady older

theorem IsSteady.of_cons {x : Asked} {seen : List Asked} (h : IsSteady (x :: seen)) :
    IsSteady seen := by
  obtain ⟨e, reply⟩ := x
  cases e with
  | clock => exact h.1
  | _ => exact h

/-- When the clock stands still, all that is read from it is steady. -/
theorem isSteady_of_standing {seen : List Asked} {now : Instant}
    (h : ∀ reading, (⟨.clock, reading⟩ : Asked) ∈ seen → reading = now) : IsSteady seen := by
  have hlast : ∀ older : List Asked, older ⊆ seen → ∀ before, lastReading older = some before →
      before = now := by
    intro older
    induction older with
    | nil =>
      intro _ before hbefore
      cases hbefore
    | cons x older ih =>
      intro hsub before hbefore
      obtain ⟨e, reply⟩ := x
      have holder : older ⊆ seen := fun y hy => hsub (List.mem_cons_of_mem _ hy)
      cases e with
      | clock =>
        cases hbefore
        exact h before (hsub List.mem_cons_self)
      | _ => exact ih holder before hbefore
  induction seen with
  | nil => trivial
  | cons x older ih =>
    have hsteady : IsSteady older :=
      ih (fun reading hmem => h reading (List.mem_cons_of_mem _ hmem))
      fun more hmore => hlast more fun y hy => List.mem_cons_of_mem _ (hmore hy)
    obtain ⟨e, reply⟩ := x
    cases e with
    | clock =>
      refine ⟨hsteady, ?_⟩
      intro _ before hbefore
      rw [hlast older (List.subset_cons_self _ _) before hbefore]
      exact h reply List.mem_cons_self
    | _ => exact hsteady

/-! ### What may be asked -/

/-- The user was found under the login, and the password is theirs. -/
def LoggedIn (s : Service) (login : String) (password : Password.ClearText) (seen : List Asked)
    (user : User) : Prop :=
  ⟨.users (.findByLogin login), .ok (some user)⟩ ∈ seen ∧
    s.verify user.passwordHash password = true

/-- The user was found under the id that the token speaks of, which is of the right kind. -/
def Bears (s : Service) (token : String) (kind : Token.Kind) (seen : List Asked) (user : User) :
    Prop :=
  ∃ now payload id, ⟨.clock, now⟩ ∈ seen ∧
    Token.Codec.open? s.codec.verificationKey s.codec.algorithm now token = some payload ∧
    payload.user = .ok id ∧ payload.isOf kind = true ∧
    ⟨.users (.findById id), .ok (some user)⟩ ∈ seen

/-- By what it was answered so far, the operation acts for this user. -/
def Operation.ActsFor (s : Service) (seen : List Asked) (user : User) : Operation → Prop
  | .login name password _ => s.LoggedIn name password seen user
  | .refresh _ token | .logout token => s.Bears token .refresh seen user
  | .authenticate token expected => s.Bears token expected seen user

/--
The text is the entry of a refresh token of the user whose key it is, made at a time that the
clock has shown, and it is to be kept for the seconds until the token expires.
-/
def Stamps (s : Service) (seen : List Asked) (key raw : String) (ttl : Option Nat) : Prop :=
  ∃ user fingerprint token minted id noise expiry now, key = Registry.key user ∧
    raw = Entry.encode ⟨fingerprint, token⟩ ∧ ⟨.clock, minted⟩ ∈ seen ∧
    s.codec.mint minted id noise user.toHex (some .refresh) {} = .ok (expiry, token) ∧
    ttl = some (now.secondsUntil expiry) ∧ (IsSteady seen → now = minted)

/-- The operation may send this to the cache. -/
structure Operation.MaySend (s : Service) (op : Operation) (seen : List Asked)
    (c : Cache.Command) : Prop where
  /-- It is about the list of the user for whom the operation acts. -/
  owner : ∃ user, op.ActsFor s seen user ∧ c.key = Registry.key user.id
  /-- So was everything before. -/
  single : ∀ d reply, (⟨.cache d, reply⟩ : Asked) ∈ seen → d.key = c.key
  stamps : ∀ key raw ttl, c = .push key raw ttl → s.Stamps seen key raw ttl

/-- A command that only looks somebody up. -/
def IsLookUp (c : Users.Command) : Prop :=
  (∃ login, c = .findByLogin login) ∨ ∃ id, c = .findById id

/-- What the work of an operation may ask. -/
def Operation.MayAsk (s : Service) (op : Operation) (seen : List Asked) : Effect → Prop
  | .cache c => op.MaySend s seen c
  | .users c => IsLookUp c
  | _ => True

/-- An error of the service itself, and not of a collaborator. -/
def IsOwn : AuthError → Prop
  | .invalidCredentials | .tokenInvalid | .unauthorized | .sessionRevoked | .unknownToken
  | .configuration _ => True
  | _ => False

/-- The error is the service's own, or a collaborator has replied it. -/
def Blames (seen : List Asked) (e : AuthError) : Prop :=
  IsOwn e ∨ (∃ c : Cache.Command, ⟨.cache c, .error e⟩ ∈ seen) ∨
    ∃ c : Users.Command, ⟨.users c, .error e⟩ ∈ seen

/-- The rules for the work of an operation, whatever it is replied. -/
def Operation.duty (s : Service) (op : Operation) : Contract Effect Effect.Reply (List Asked) :=
  .ofHistory (op.MayAsk s)

/-! ### More history -/

variable {s : Service} {op : Operation} {seen : List Asked} {user : User} {x : Asked} {α β : Type}

theorem Bears.of_subset {token : String} {kind : Token.Kind} {later : List Asked}
    (h : s.Bears token kind seen user) (hsub : seen ⊆ later) : s.Bears token kind later user := by
  obtain ⟨now, payload, id, hnow, hopen, hid, hkind, hfound⟩ := h
  exact ⟨now, payload, id, hsub hnow, hopen, hid, hkind, hsub hfound⟩

theorem Operation.ActsFor.of_subset {later : List Asked} (h : op.ActsFor s seen user)
    (hsub : seen ⊆ later) : op.ActsFor s later user := by
  cases op with
  | login login password fingerprint => exact ⟨hsub h.1, h.2⟩
  | refresh fingerprint token => exact Bears.of_subset h hsub
  | logout token => exact Bears.of_subset h hsub
  | authenticate token expected => exact Bears.of_subset h hsub

theorem Stamps.cons {key raw : String} {ttl : Option Nat} (h : s.Stamps seen key raw ttl) :
    s.Stamps (x :: seen) key raw ttl := by
  obtain ⟨user, fingerprint, token, minted, id, noise, expiry, now, hkey, hraw, hminted, hmint,
    httl, hnow⟩ := h
  exact ⟨user, fingerprint, token, minted, id, noise, expiry, now, hkey, hraw,
    List.mem_cons_of_mem _ hminted, hmint, httl, fun hsteady => hnow hsteady.of_cons⟩

theorem Blames.cons {e : AuthError} (h : Blames seen e) : Blames (x :: seen) e := by
  rcases h with hown | ⟨c, hc⟩ | ⟨c, hc⟩
  · exact Or.inl hown
  · exact Or.inr (Or.inl ⟨c, List.mem_cons_of_mem _ hc⟩)
  · exact Or.inr (Or.inr ⟨c, List.mem_cons_of_mem _ hc⟩)

/-! ### Commands -/

/-- The operation has found its user, and asked for nobody else's list. -/
structure Acting (s : Service) (op : Operation) (user : User) (seen : List Asked) : Prop where
  actsFor : op.ActsFor s seen user
  keys : ∀ d reply, (⟨.cache d, reply⟩ : Asked) ∈ seen → d.key = Registry.key user.id

/-- The cache has not been asked for anything. -/
def Unasked (seen : List Asked) : Prop :=
  ∀ (d : Cache.Command) (reply : d.Outcome), (⟨.cache d, reply⟩ : Asked) ∉ seen

/-- Something about the past that stays true when any of these commands are asked. -/
def Stays (allowed : Effect → Prop) (Inv : List Asked → Prop) : Prop :=
  ∀ x seen, allowed x.command → Inv seen → Inv (x :: seen)

/-- A command that is none to the cache. -/
def IsAside (e : Effect) : Prop := ∀ c, e ≠ .cache c

theorem stays_unasked : Stays IsAside Unasked := by
  intro x seen hx h d reply hmem
  rcases List.mem_cons.mp hmem with heq | hmem
  · exact hx d (by rw [← heq])
  · exact h d reply hmem

/-- A command that, if it is to the cache, is about this list. -/
def IsWithin (key : String) (e : Effect) : Prop := ∀ c, e = .cache c → c.key = key

theorem IsAside.isWithin {e : Effect} (h : IsAside e) (key : String) : IsWithin key e :=
  fun c hc => absurd hc (h c)

theorem Stays.aside {Inv : List Asked → Prop} {key : String} (h : Stays (IsWithin key) Inv) :
    Stays IsAside Inv :=
  fun x seen hx hinv => h x seen (hx.isWithin key) hinv

theorem stays_acting : Stays (IsWithin (Registry.key user.id)) (Acting s op user) := by
  intro x seen hx h
  refine ⟨h.actsFor.of_subset (List.subset_cons_self _ _), ?_⟩
  intro d reply hmem
  rcases List.mem_cons.mp hmem with heq | hmem
  · exact hx d (by rw [← heq])
  · exact h.keys d reply hmem

/-- The clock, randomness and the log do not disturb what stays true. -/
theorem undisturbed_of_stays {Inv : List Asked → Prop} (h : Stays IsAside Inv) :
    (op.duty s).Undisturbed Inv (fun _ => True) where
  asks_clock _ _ := trivial
  asks_random _ _ _ := trivial
  asks_log _ _ _ _ := trivial
  clock state now later hinv hanswer := by
    obtain rfl : later = _ := hanswer
    exact ⟨trivial, h _ _ nofun hinv⟩
  random state count bits later hinv hanswer := by
    obtain rfl : later = _ := hanswer
    exact h _ _ nofun hinv
  log state event reply later hinv hanswer := by
    obtain rfl : later = _ := hanswer
    exact h _ _ nofun hinv

/-- From where something is true on, the call does its duty, and leaves it true. -/
def Heeds (s : Service) (op : Operation) (Inv : List Asked → Prop) (call : Call α) : Prop :=
  ∀ seen, Inv seen → Call.Meets (op.duty s) call
    (fun later result => Inv later ∧ ∀ e, result = .error e → Blames later e) seen

section Heeds

variable {Inv : List Asked → Prop}

theorem Heeds.pure (value : α) : s.Heeds op Inv (Pure.pure value : Call α) :=
  fun _ hinv => Call.meets_pure.2 ⟨hinv, fun _ h => by cases h⟩

theorem Heeds.bind {call : Call α} {f : α → Call β} (h : s.Heeds op Inv call)
    (h' : ∀ value, s.Heeds op Inv (f value)) : s.Heeds op Inv (call >>= f) := by
  intro seen hinv
  refine Call.Meets.bind (h seen hinv) (fun later value hlater => h' value later hlater.1) ?_
  intro later e hlater
  refine ⟨hlater.1, ?_⟩
  intro e' he'
  cases he'
  exact hlater.2 e rfl

theorem Heeds.throw {e : AuthError} (h : IsOwn e) : s.Heeds op Inv (throw e : Call α) := by
  intro seen hinv
  refine Call.meets_throw.2 ⟨hinv, ?_⟩
  intro e' he'
  cases he'
  exact Or.inl h

theorem Heeds.log (h : Stays IsAside Inv) (event : Event) : s.Heeds op Inv (Call.log event) := by
  intro seen hinv
  refine ⟨trivial, ?_⟩
  intro reply later hanswer
  obtain rfl : later = _ := hanswer
  exact ⟨h _ _ nofun hinv, fun e he => by cases he⟩

/-- The list of the user may be asked for, and a failure of the cache is to blame. -/
theorem Heeds.cache (h : Stays (IsWithin (Registry.key user.id)) Inv)
    (hacting : ∀ seen, Inv seen → Acting s op user seen) {c : Cache.Command}
    (hkey : c.key = Registry.key user.id)
    (hstamps : ∀ seen, Inv seen → ∀ key raw ttl, c = .push key raw ttl →
      s.Stamps seen key raw ttl) : s.Heeds op Inv (Call.cache c) := by
  intro seen hinv
  have hcurrent := hacting seen hinv
  refine Call.meets_cache ⟨⟨user, hcurrent.actsFor, hkey⟩, ?_, hstamps seen hinv⟩ ?_
  · intro d reply hmem
    rw [hcurrent.keys d reply hmem, hkey]
  · intro reply later hanswer
    obtain rfl : later = _ := hanswer
    refine ⟨h _ _ (fun d hd => by cases hd; exact hkey) hinv, ?_⟩
    intro e he
    subst he
    exact Or.inr (Or.inl ⟨c, List.mem_cons_self⟩)

/-- A command that is not a push needs no stamp. -/
theorem Heeds.plain (h : Stays (IsWithin (Registry.key user.id)) Inv)
    (hacting : ∀ seen, Inv seen → Acting s op user seen) {c : Cache.Command}
    (hkey : c.key = Registry.key user.id) (hpush : ∀ key raw ttl, c ≠ .push key raw ttl) :
    s.Heeds op Inv (Call.cache c) :=
  .cache h hacting hkey fun _ _ key raw ttl hc => absurd hc (hpush key raw ttl)

end Heeds

/-! ### Looking somebody up -/

/-- A look-up is allowed, and a failure of it is to blame. -/
theorem lookUp_meets {c : Users.Command}
    {ends : List Asked → Except AuthError c.Reply → Prop} (hc : IsLookUp c)
    (hends : ∀ reply, ends (⟨.users c, reply⟩ :: seen) reply) :
    Call.Meets (op.duty s) (Call.users c) ends seen := by
  refine Call.meets_users hc ?_
  intro reply later hanswer
  obtain rfl : later = _ := hanswer
  exact hends reply

/-- The clock may be read. -/
theorem clock_meets {ends : List Asked → Except AuthError Instant → Prop}
    (hends : ∀ now : Instant, ends (⟨.clock, now⟩ :: seen) (.ok now)) :
    Call.Meets (op.duty s) Call.clock ends seen := by
  refine ⟨trivial, ?_⟩
  intro now later hanswer
  obtain rfl : later = _ := hanswer
  exact hends now

/-- So may random bits be drawn. -/
theorem random_meets {count : Nat} {ends : List Asked → Except AuthError (BitVec count) → Prop}
    (hends : ∀ bits : BitVec count, ends (⟨.random count, bits⟩ :: seen) (.ok bits)) :
    Call.Meets (op.duty s) (Call.random count) ends seen := by
  refine ⟨trivial, ?_⟩
  intro bits later hanswer
  obtain rfl : later = _ := hanswer
  exact hends bits

/-- Reading a token and looking up the user that it speaks of. -/
theorem resolve_duty {token : String} {kind : Token.Kind}
    {ends : List Asked → Except AuthError User → Prop} (hseen : Unasked seen)
    (hok : ∀ later user, Unasked later → s.Bears token kind later user → ends later (.ok user))
    (hbad : ∀ later e, Unasked later → Blames later e → ends later (.error e)) :
    Call.Meets (op.duty s) (s.resolve token kind) ends seen := by
  unfold resolve Token.Codec.decode Token.Codec.decodeWith
  refine Call.meets_bind.2 (Call.meets_bind.2 (clock_meets ?_))
  intro now
  have hclock : Unasked (⟨.clock, now⟩ :: seen) := stays_unasked _ _ nofun hseen
  simp only [Option.getD_none]
  split
  · rename_i payload hopen
    refine Call.meets_pure.2 (Call.meets_bind.2 (Call.meets_ofExcept.2 ?_))
    cases hid : payload.user with
    | error e =>
      refine hbad _ _ hclock (Or.inl ?_)
      unfold Token.Payload.user at hid
      split at hid <;> cases hid
      trivial
    | ok id =>
      refine Call.meets_bind.2 (lookUp_meets (Or.inr ⟨id, rfl⟩) ?_)
      intro reply
      have hlater : Unasked (⟨.users (.findById id), reply⟩ :: ⟨.clock, now⟩ :: seen) :=
        stays_unasked _ _ nofun hclock
      rcases reply with e | (_ | user)
      · exact hbad _ _ hlater (Or.inr (Or.inr ⟨.findById id, List.mem_cons_self⟩))
      · exact hbad _ _ hlater (Or.inl trivial)
      · by_cases hkind : payload.isOf kind = true
        · simp only [hkind, if_true]
          exact hok _ user hlater ⟨now, payload, id, by simp, hopen, hid, hkind,
            List.mem_cons_self⟩
        · simp only [hkind]
          exact hbad _ _ hlater (Or.inl trivial)
  · refine Call.meets_bind.2 ⟨trivial, ?_⟩
    intro reply later hanswer
    obtain rfl : later = _ := hanswer
    exact hbad _ _ (stays_unasked _ _ nofun hclock) (Or.inl trivial)

/-- Looking up a login and checking the password. -/
theorem credentials_duty {login : String} {password : Password.ClearText}
    {ends : List Asked → Except AuthError User → Prop} (hseen : Unasked seen)
    (hok : ∀ later user, Unasked later → s.LoggedIn login password later user →
      ends later (.ok user))
    (hbad : ∀ later e, Unasked later → Blames later e → ends later (.error e)) :
    Call.Meets (op.duty s) (s.credentials login password) ends seen := by
  unfold credentials
  refine Call.meets_bind.2 (lookUp_meets (Or.inl ⟨login, rfl⟩) ?_)
  intro reply
  have hlater : Unasked (⟨.users (.findByLogin login), reply⟩ :: seen) :=
    stays_unasked _ _ nofun hseen
  rcases reply with e | (_ | user)
  · exact hbad _ _ hlater (Or.inr (Or.inr ⟨.findByLogin login, List.mem_cons_self⟩))
  · exact hbad _ _ hlater (Or.inl trivial)
  · by_cases hverify : s.verify user.passwordHash password = true
    · simp only [hverify, if_true]
      exact hok _ user hlater ⟨List.mem_cons_self, hverify⟩
    · simp only [hverify]
      exact hbad _ _ hlater (Or.inl trivial)

/-! ### On the sessions -/

/-- The token is made at this reading, and the clock still shows it, if it is steady. -/
structure Drawn (minted : Instant) (seen : List Asked) : Prop where
  read : (⟨.clock, minted⟩ : Asked) ∈ seen
  drawn : hasDrawn seen = true
  last : IsSteady seen → lastReading seen = some minted

theorem stays_drawn {minted : Instant} : Stays (fun _ => True) (Drawn minted) := by
  intro x seen _ h
  obtain ⟨e, reply⟩ := x
  have hread : (⟨.clock, minted⟩ : Asked) ∈ (⟨e, reply⟩ :: seen : List Asked) :=
    List.mem_cons_of_mem _ h.read
  cases e with
  | clock =>
    refine ⟨hread, h.drawn, ?_⟩
    intro hsteady
    exact congrArg some (hsteady.2 h.drawn minted (h.last hsteady.1))
  | random count => exact ⟨hread, rfl, h.last⟩
  | cache c => exact ⟨hread, h.drawn, h.last⟩
  | users c => exact ⟨hread, h.drawn, h.last⟩
  | log event => exact ⟨hread, h.drawn, h.last⟩

theorem Stays.and {allowed : Effect → Prop} {P Q : List Asked → Prop} (h : Stays allowed P)
    (h' : Stays (fun _ => True) Q) : Stays allowed (fun seen => P seen ∧ Q seen) :=
  fun x seen hx hinv => ⟨h x seen hx hinv.1, h' x seen trivial hinv.2⟩

theorem register_heeds {r : Registry} {fingerprint token : String} {ttl : Nat} :
    s.Heeds op (fun seen => Acting s op user seen ∧ s.Stamps seen (Registry.key user.id)
      (Entry.encode ⟨fingerprint, token⟩) (some ttl))
      (r.register user.id fingerprint token ttl) := by
  have hstays : Stays (IsWithin (Registry.key user.id)) (fun seen => Acting s op user seen ∧
      s.Stamps seen (Registry.key user.id) (Entry.encode ⟨fingerprint, token⟩) (some ttl)) :=
    stays_acting.and fun _ _ _ h => h.cons
  have hpush : s.Heeds op (fun seen => Acting s op user seen ∧
      s.Stamps seen (Registry.key user.id) (Entry.encode ⟨fingerprint, token⟩) (some ttl)) (do
        Call.pushTo (Registry.key user.id) (Entry.encode ⟨fingerprint, token⟩) ttl
        Call.log (.sessionRegistered user.id)) := by
    refine .bind (.cache hstays (fun _ h => h.1) rfl ?_) fun _ => .log hstays.aside _
    intro seen hinv key raw ttl' hc
    cases hc
    exact hinv.2
  unfold Registry.register
  refine .bind (.plain hstays (fun _ h => h.1) rfl (by simp)) ?_
  intro entries
  split
  · exact .bind (.log hstays.aside _) fun _ =>
      .bind (.plain hstays (fun _ h => h.1) rfl (by simp)) fun _ => hpush
  · exact hpush

/-- Making a token, after which the clock shows what it was made with. -/
theorem encode_drawn {Inv : List Asked → Prop} {codec : Token.Codec} {subject : String}
    {kind : Token.Kind} {ends : List Asked → Except AuthError (Instant × String) → Prop}
    (h : Stays IsAside Inv) (hinv : Inv seen)
    (hends : ∀ minted id noise later, Inv later → Drawn minted later →
      ends later (codec.mint minted id noise subject (some kind) {})) :
    Call.Meets (op.duty s) (codec.encode subject kind) ends seen := by
  unfold Token.Codec.encode Token.Codec.encodeWith
  simp only [Option.isNone_some, Bool.and_false, Bool.false_eq_true, if_false]
  refine Call.meets_bind.2 (clock_meets ?_)
  intro minted
  have hread : Inv (⟨.clock, minted⟩ :: seen) := h _ _ nofun hinv
  refine Call.meets_bind.2 (random_meets ?_)
  intro id
  have hid : Inv (⟨.random 128, id⟩ :: ⟨.clock, minted⟩ :: seen) := h _ _ nofun hread
  have hdrawn : Drawn minted (⟨.random 128, id⟩ :: ⟨.clock, minted⟩ :: seen) :=
    ⟨List.mem_cons_of_mem _ List.mem_cons_self, rfl, fun _ => rfl⟩
  refine Call.meets_bind.2 (random_meets ?_)
  intro noise
  exact hends minted (.ofRandom id) noise _ (h _ _ nofun hid) (stays_drawn _ _ trivial hdrawn)

/-- Making tokens and adding the session. -/
theorem issue_heeds {fingerprint : Fingerprint} :
    s.Heeds op (Acting s op user) (s.issue user.id fingerprint) := by
  have haside : Stays IsAside (Acting s op user) := stays_acting.aside
  have hown : ∀ {now id noise kind e later},
      s.codec.mint now id noise user.id.toHex (some kind) {} = .error e → Blames later e := by
    intro now id noise kind e later he
    obtain ⟨message, rfl⟩ := configuration_of_mint he
    exact Or.inl trivial
  intro seen hacting
  unfold issue
  refine Call.meets_bind.2 (encode_drawn haside hacting ?_)
  intro minted id noise later hacting hdrawn
  cases hrefresh : s.codec.mint minted id noise user.id.toHex (some .refresh) {} with
  | error e => exact ⟨hacting, fun e' he' => by cases he'; exact hown hrefresh⟩
  | ok made =>
    obtain ⟨expiry, token⟩ := made
    refine Call.meets_bind.2 (encode_meets (undisturbed_of_stays (haside.and stays_drawn))
      ⟨hacting, hdrawn⟩ ?_)
    intro minted' id' noise' later _ hlater
    cases haccess : s.codec.mint minted' id' noise' user.id.toHex (some .access) {} with
    | error e => exact ⟨hlater.1, fun e' he' => by cases he'; exact hown haccess⟩
    | ok access =>
      refine Call.meets_bind.2 (clock_meets ?_)
      intro now
      obtain ⟨hacting, hdrawn⟩ := (haside.and stays_drawn) ⟨.clock, now⟩ later nofun hlater
      have hstamps : s.Stamps (⟨.clock, now⟩ :: later) (Registry.key user.id)
          (Entry.encode ⟨fingerprint.text, token⟩) (some (now.secondsUntil expiry)) := by
        refine ⟨user.id, fingerprint.text, token, minted, id, noise, expiry, now, rfl, rfl,
          hdrawn.read, hrefresh, rfl, ?_⟩
        intro hsteady
        exact Option.some.inj (hdrawn.last hsteady)
      refine Call.Meets.bind (register_heeds _ ⟨hacting, hstamps⟩)
        (fun final _ hfinal => Call.meets_pure.2 ⟨hfinal.1.1, fun e he => by cases he⟩) ?_
      intro final e hfinal
      exact ⟨hfinal.1.1, fun e' he' => by cases he'; exact hfinal.2 e rfl⟩

/-- Using a session up. -/
theorem consume_heeds {fingerprint token : String} :
    s.Heeds op (Acting s op user) (Registry.consume user.id fingerprint token) := by
  have hdrop : s.Heeds op (Acting s op user) (do
      Call.dropList (Registry.key user.id)
      return false) :=
    .bind (.plain stays_acting (fun _ h => h) rfl (by simp)) fun _ => .pure _
  unfold Registry.consume
  refine .bind (.plain stays_acting (fun _ h => h) rfl (by simp)) ?_
  intro entries
  split
  · exact .pure _
  · split
    · refine .bind (.plain stays_acting (fun _ h => h) rfl (by simp)) ?_
      intro removed
      split
      · exact .pure _
      · exact .bind (.log stays_acting.aside _) fun _ => hdrop
    · exact .bind (.log stays_acting.aside _) fun _ => hdrop

/-- Ending a session. -/
theorem revoke_heeds {token : String} :
    s.Heeds op (Acting s op user) (Registry.revoke user.id token) := by
  unfold Registry.revoke
  refine .bind (.plain stays_acting (fun _ h => h) rfl (by simp)) ?_
  intro entries
  split
  · exact .plain stays_acting (fun _ h => h) rfl (by simp)
  · exact .pure _

/-! ### The work of an operation -/

/-- The operation has left the cache alone, or kept to the list of the user it acts for. -/
def Operation.KeepsTo (s : Service) (op : Operation) (seen : List Asked) : Prop :=
  Unasked seen ∨ ∃ user, Acting s op user seen

/-- Work has kept to one list, and its error, if it has one, has somebody to blame. -/
def Accounts (s : Service) (op : Operation) (seen : List Asked) (result : Except AuthError α) :
    Prop :=
  op.KeepsTo s seen ∧ ∀ e, result = .error e → Blames seen e

/-- What acts for somebody after they were found accounts for itself. -/
theorem Heeds.accounts {call : Call α} (user : User)
    (h : s.Heeds op (Acting s op user) call) (hseen : Unasked seen)
    (hacts : op.ActsFor s seen user) :
    Call.Meets (op.duty s) call (Accounts s op) seen := by
  refine (h seen ⟨hacts, fun d reply hmem => absurd hmem (hseen d reply)⟩).mono ?_
  intro later result hlater
  exact ⟨Or.inr ⟨user, hlater.1⟩, hlater.2⟩

/-- **Every operation does its duty, whatever it is replied.** -/
theorem work_meets (s : Service) (op : Operation) (hseen : Unasked seen) :
    Call.Meets (op.duty s) (s.work op) (Accounts s op) seen := by
  have hbad : ∀ {α : Type} later e, Unasked later → Blames later e →
      Accounts s op later (.error e : Except AuthError α) := by
    intro α later e hlater hblames
    exact ⟨Or.inl hlater, fun e' he' => by cases he'; exact hblames⟩
  cases op with
  | login name password fingerprint =>
    refine Call.meets_bind.2 (credentials_duty hseen ?_ hbad)
    intro later user hlater hfound
    refine Heeds.accounts user ?_ hlater hfound
    exact .bind issue_heeds fun tokens => .bind (.log stays_acting.aside _) fun _ => .pure _
  | refresh fingerprint token =>
    refine Call.meets_bind.2 (resolve_duty hseen ?_ hbad)
    intro later user hlater hfound
    refine Heeds.accounts user ?_ hlater hfound
    refine .bind consume_heeds ?_
    intro consumed
    split
    · exact .bind issue_heeds fun tokens => .bind (.log stays_acting.aside _) fun _ => .pure _
    · exact .throw trivial
  | logout token =>
    refine Call.meets_bind.2 (resolve_duty hseen ?_ hbad)
    intro later user hlater hfound
    refine Heeds.accounts user ?_ hlater hfound
    refine .bind revoke_heeds ?_
    intro revoked
    split
    · exact .log stays_acting.aside _
    · exact .throw trivial
  | authenticate token expected =>
    exact resolve_duty hseen (fun later user hlater _ =>
      ⟨Or.inl hlater, fun e he => by cases he⟩) hbad

/-! ### The unit around it -/

/-- The rules for an operation with its unit of work; only what it asks of the cache is bound. -/
def Operation.errand (s : Service) (op : Operation) : Contract Effect Effect.Reply (List Asked) :=
  .ofHistory fun seen e => ∀ c, e = .cache c → op.MaySend s seen c

theorem stays_keepsTo : Stays IsAside (op.KeepsTo s) := by
  intro x seen hx h
  rcases h with hseen | ⟨user, hacting⟩
  · exact Or.inl (stays_unasked x seen hx hseen)
  · exact Or.inr ⟨user, stays_acting.aside x seen hx hacting⟩

/-- What the unit of work is asked has nothing to do with the lists. -/
theorem errand_users_meets {Inv : List Asked → Prop} {c : Users.Command}
    {ends : List Asked → Except AuthError c.Reply → Prop} (h : Stays IsAside Inv) (hinv : Inv seen)
    (hends : ∀ later reply, Inv later → ends later reply) :
    Call.Meets (op.errand s) (Call.users c) ends seen := by
  refine Call.meets_users nofun ?_
  intro reply later hanswer
  obtain rfl : later = _ := hanswer
  exact hends _ reply (h _ _ nofun hinv)

/-- **Every operation runs its errand**: it keeps to the list of the user it acts for. -/
theorem call_meets (s : Service) (op : Operation) (hseen : Unasked seen) :
    Call.Meets (op.errand s) (s.call op) (fun later _ => op.KeepsTo s later) seen := by
  rw [call_eq]
  unfold Call.inUnit
  refine Call.meets_bind.2 (errand_users_meets stays_unasked hseen ?_)
  intro later begun hlater
  cases begun with
  | error e => exact Or.inl hlater
  | ok started =>
    have hwork : Call.Meets (op.errand s) (s.work op) (Accounts s op) later := by
      refine Program.Meets.imp (work_meets s op hlater) ?_ fun _ _ _ _ h => h
      intro state e hask c hc
      subst hc
      exact hask
    refine Call.meets_bind.2 (Call.meets_lift.2 (hwork.mono ?_))
    intro last result haccounts
    have hkeeps : op.KeepsTo s last := haccounts.1
    cases result with
    | ok value =>
      refine Call.meets_bind.2 (errand_users_meets stays_keepsTo hkeeps ?_)
      intro final committed hfinal
      cases committed <;> exact hfinal
    | error e =>
      refine Call.meets_bind.2 (Call.meets_lift.2 (errand_users_meets stays_keepsTo hkeeps ?_))
      intro final rolledBack hfinal
      cases rolledBack with
      | ok done => exact hfinal
      | error cause =>
        refine Call.meets_bind.2 ⟨nofun, ?_⟩
        intro reply final' hanswer
        obtain rfl : final' = _ := hanswer
        exact stays_keepsTo _ _ nofun hfinal

end SessionAuth.Service
