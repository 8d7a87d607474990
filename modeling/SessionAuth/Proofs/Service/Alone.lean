/-
What calls come to when nothing else happens meanwhile.

`Alone` says with which result and in which world a call ends that runs by itself, over
collaborators in memory.  There is one lemma for each function of the service, in the
order in which they call each other.  What a function reports to the log and how often it
draws random bits is left open (`Still`), and so is how the store of users counts its
transactions (`Settled`): neither is ever read again.

Where random bits come from is a parameter, since they may be any in a run.
-/
import SessionAuth.Proofs.Cache.Memory
import SessionAuth.Proofs.Service.Moves
import SessionAuth.Proofs.Session.Registry
import SessionAuth.Proofs.Users.Memory

namespace SessionAuth

open Session (Registry Entry Fingerprint)

namespace Service

/-- Where random bits come from. -/
abbrev Source := Entropy → (count : Nat) → BitVec count × Entropy

/-- Carries out one request over collaborators in memory, with random bits from a source. -/
def handleWith (source : Source) (unit : Nat) : (e : Effect) → World Store → e.Reply × World Store
  | .random count, w =>
    ((source w.entropy count).1, { w with entropy := (source w.entropy count).2 })
  | e, w => inMemory.handle unit e w

/-- With the random bits of the world itself, requests are carried out as they always are. -/
theorem handleWith_bits (unit : Nat) : handleWith Entropy.bits unit = inMemory.handle unit := by
  funext e w
  cases e <;> rfl

/-- The call ends with this result in this world, when it runs in a unit of work by itself. -/
def Alone {α : Type} (source : Source) (unit : Nat) (call : Call α) (w : World Store)
    (result : Except AuthError α) (w' : World Store) : Prop :=
  Program.run (handleWith source unit) call.run w = (result, w')

/-- The world with other lists in its cache. -/
def withCache (w : World Store) (m : Cache.Memory) : World Store :=
  { w with store := (m, w.store.2) }

/-- Only the log and the source of randomness may differ. -/
structure Still (w w' : World Store) : Prop where
  store : w'.store = w.store
  now : w'.now = w.now

/-- Nothing differs that another call can see: the lists, the users and the time are the same. -/
structure Settled (w w' : World Store) : Prop where
  lists : w'.store.1 = w.store.1
  users : w'.store.2.users = w.store.2.users
  now : w'.now = w.now

variable {α β : Type} {source : Source} {unit : Nat} {w w₁ w₂ : World Store}

theorem Still.refl (w : World Store) : Still w w := ⟨rfl, rfl⟩

theorem Still.trans (h : Still w w₁) (h' : Still w₁ w₂) : Still w w₂ :=
  ⟨h'.store.trans h.store, h'.now.trans h.now⟩

theorem Still.settled (h : Still w w₁) : Settled w w₁ :=
  ⟨by rw [h.store], by rw [h.store], h.now⟩

theorem Settled.trans (h : Settled w w₁) (h' : Settled w₁ w₂) : Settled w w₂ :=
  ⟨h'.lists.trans h.lists, h'.users.trans h.users, h'.now.trans h.now⟩

/-- What changes the lists alike leaves worlds that are alike. -/
theorem Settled.withCache (h : Settled w w₁) (m : Cache.Memory) :
    Settled (withCache w m) (withCache w₁ m) :=
  ⟨rfl, h.users, h.now⟩

@[simp] theorem now_withCache (m : Cache.Memory) : (withCache w m).now = w.now := rfl

@[simp] theorem users_withCache (m : Cache.Memory) :
    (withCache w m).store.2.users = w.store.2.users := rfl

theorem sessions_withCache (m : Cache.Memory) (key : String) :
    sessions (withCache w m) key = m.values w.now key := rfl

theorem Settled.sessions (h : Settled w w₁) (key : String) :
    Service.sessions w₁ key = Service.sessions w key := by
  unfold Service.sessions
  rw [h.lists, h.now]

/-! ### Calls -/

namespace Alone

theorem ofExcept (result : Except AuthError α) (w : World Store) :
    Alone source unit (Call.ofExcept result) w result w := rfl

theorem pure (value : α) (w : World Store) :
    Alone source unit (Pure.pure value : Call α) w (.ok value) w := rfl

theorem throw (e : AuthError) (w : World Store) :
    Alone source unit (MonadExcept.throw e : Call α) w (.error e) w := rfl

/-- A sequence goes on with what its first part came to. -/
theorem bind {call : Call α} {f : α → Call β} {value : α} {result : Except AuthError β}
    (h : Alone source unit call w (.ok value) w₁) (h' : Alone source unit (f value) w₁ result w₂) :
    Alone source unit (call >>= f) w result w₂ := by
  unfold Alone at *
  rw [ExceptT.run_bind, Program.bind_eq, Program.run_bind, h]
  exact h'

/-- A sequence ends where its first part failed. -/
theorem bind_error {call : Call α} {f : α → Call β} {e : AuthError}
    (h : Alone source unit call w (.error e) w₁) :
    Alone source unit (call >>= f) w (.error e) w₁ := by
  unfold Alone at *
  rw [ExceptT.run_bind, Program.bind_eq, Program.run_bind, h]
  rfl

/-- A call whose failure is taken as a result never fails. -/
theorem lift {call : Call α} {result : Except AuthError α}
    (h : Alone source unit call w result w₁) :
    Alone source unit (ExceptT.lift call.run) w (.ok result) w₁ := by
  unfold Alone at h ⊢
  show Program.run _ (Program.bind call.run _) w = _
  rw [Program.run_bind, h]
  rfl

theorem map {call : Call α} {f : α → β} {result : Except AuthError α}
    (h : Alone source unit call w result w₁) :
    Alone source unit (f <$> call) w (result.map f) w₁ := by
  unfold Alone at *
  show Program.run _ (Program.bind call.run _) w = _
  rw [Program.run_bind, h]
  cases result <;> rfl

/-- A call that runs by itself comes to one end only. -/
theorem unique {call : Call α} {result result' : Except AuthError α}
    (h : Alone source unit call w result w₁) (h' : Alone source unit call w result' w₂) :
    result = result' ∧ w₁ = w₂ := by
  have hsame := h.symm.trans h'
  exact ⟨congrArg Prod.fst hsame, congrArg Prod.snd hsame⟩

/-- A sequence that ends well is one of parts that end well. -/
theorem bind_eq_ok {call : Call α} {g : α → Call β} {value : β}
    (h : Alone source unit (call >>= g) w (.ok value) w₂) :
    ∃ a w₁, Alone source unit call w (.ok a) w₁ ∧ Alone source unit (g a) w₁ (.ok value) w₂ := by
  unfold Alone at h
  rw [ExceptT.run_bind, Program.bind_eq, Program.run_bind] at h
  cases hcall : Program.run (handleWith source unit) call.run w with
  | mk result w₁ =>
    rw [hcall] at h
    cases result with
    | ok a => exact ⟨a, w₁, hcall, h⟩
    | error e => cases (Prod.mk.inj h).1

/-- What ended well with a value that was made from another ended well with the other one. -/
theorem map_eq_ok {call : Call α} {g : α → β} {value : β}
    (h : Alone source unit (g <$> call) w (.ok value) w₁) :
    ∃ a, value = g a ∧ Alone source unit call w (.ok a) w₁ := by
  cases hcall : Program.run (handleWith source unit) call.run w with
  | mk result w' =>
    have halone : Alone source unit call w result w' := hcall
    obtain ⟨hvalue, rfl⟩ := h.unique (map (f := g) halone)
    cases result with
    | ok a => exact ⟨a, Except.ok.inj hvalue, halone⟩
    | error e => cases hvalue

theorem readList (key : String) (w : World Store) :
    Alone source unit (Call.readList key) w (.ok (sessions w key)) w := rfl

theorem pushTo (key value : String) (ttl : Nat) (w : World Store) :
    Alone source unit (Call.pushTo key value ttl) w (.ok ())
      (withCache w (w.store.1.push w.now key value (some ttl))) := rfl

theorem removeFrom (source : Source) (unit : Nat) (key value : String) (w : World Store) :
    Alone source unit (Call.removeFrom key value) w (.ok (w.store.1.remove w.now key value).1)
      (withCache w (w.store.1.remove w.now key value).2) := rfl

theorem dropList (key : String) (w : World Store) :
    Alone source unit (Call.dropList key) w (.ok ())
      (withCache w ⟨w.store.1.lists.erase key⟩) := rfl

theorem users (source : Source) (unit : Nat) (c : Users.Command) (w : World Store) :
    Alone source unit (Call.users c) w (w.store.2.perform unit c).1
      { w with store := (w.store.1, (w.store.2.perform unit c).2) } := rfl

theorem clock (w : World Store) : Alone source unit Call.clock w (.ok w.now) w := rfl

theorem random (source : Source) (unit count : Nat) (w : World Store) :
    ∃ w', Alone source unit (Call.random count) w (.ok (source w.entropy count).1) w' ∧
      Still w w' :=
  ⟨_, rfl, rfl, rfl⟩

theorem log (source : Source) (unit : Nat) (event : Event) (w : World Store) :
    ∃ w', Alone source unit (Call.log event) w (.ok ()) w' ∧ Still w w' :=
  ⟨_, rfl, rfl, rfl⟩

/-! ### Tokens -/

theorem decode (source : Source) (unit : Nat) (s : Service) (token : String) (w : World Store) :
    ∃ w', Alone source unit (s.codec.decode token) w
      (match Token.Codec.open? s.codec.verificationKey s.codec.algorithm w.now token with
        | some payload => .ok payload
        | none => .error .tokenInvalid) w' ∧ Still w w' := by
  unfold Token.Codec.decode Token.Codec.decodeWith
  simp only [Option.getD_none]
  cases hopen : Token.Codec.open? s.codec.verificationKey s.codec.algorithm w.now token with
  | some payload =>
    refine ⟨w, bind (clock w) ?_, .refl w⟩
    rw [hopen]
    exact pure payload w
  | none =>
    obtain ⟨w', hlog, hstill⟩ := log source unit .tokenRejected w
    refine ⟨w', bind (clock w) ?_, hstill⟩
    rw [hopen]
    exact bind hlog (throw _ w')

theorem encode (source : Source) (unit : Nat) (s : Service) (subject : String) (kind : Token.Kind)
    (w : World Store) :
    ∃ x y w', Alone source unit (s.codec.encode subject kind) w
      (s.codec.mint w.now (.ofRandom (source x 128).1) (source y 512).1 subject (some kind) {}) w' ∧
        Still w w' := by
  obtain ⟨w₁, hid, hstill⟩ := random source unit 128 w
  obtain ⟨w₂, hnoise, hstill'⟩ := random source unit 512 w₁
  refine ⟨w.entropy, w₁.entropy, w₂, ?_, hstill.trans hstill'⟩
  unfold Token.Codec.encode Token.Codec.encodeWith
  simp only [Option.isNone_some, Bool.and_false, Bool.false_eq_true, if_false]
  exact bind (clock w) (bind hid (bind hnoise (ofExcept _ w₂)))

end Alone

/-! ### Users -/

/-- The user of a refresh token that is presented at a time, or why it is refused. -/
def bearer (s : Service) (users : List User) (now : Instant) (token : String) :
    Except AuthError User :=
  match Token.Codec.open? s.codec.verificationKey s.codec.algorithm now token with
  | none => .error .tokenInvalid
  | some payload =>
    match payload.user with
    | .error e => .error e
    | .ok id =>
      match users.find? (·.id == id) with
      | none => .error .unauthorized
      | some user => if payload.isOf .refresh then .ok user else .error .unauthorized

section Bearer

variable {s : Service} {users : List User} {user : User} {now : Instant} {token : String}

theorem bearer_eq_ok {payload : Token.Payload} {id : UserId}
    (hopen : Token.Codec.open? s.codec.verificationKey s.codec.algorithm now token = some payload)
    (huser : payload.user = .ok id) (hfind : users.find? (·.id == id) = some user)
    (hkind : payload.isOf .refresh = true) : s.bearer users now token = .ok user := by
  unfold bearer
  simp only [hopen, huser, hfind, hkind, if_true]

/-- A token that has a bearer is a refresh token that names him, and he is known. -/
theorem exists_payload_of_bearer (h : s.bearer users now token = .ok user) :
    ∃ payload, Token.Codec.open? s.codec.verificationKey s.codec.algorithm now token =
        some payload ∧ payload.user = .ok user.id ∧ users.find? (·.id == user.id) = some user ∧
      payload.isOf .refresh = true := by
  unfold bearer at h
  split at h
  · cases h
  · rename_i payload hopen
    split at h
    · cases h
    · rename_i id hid
      split at h
      · cases h
      · rename_i found hfound
        split at h
        · rename_i hkind
          cases h
          obtain rfl : user.id = id := by simpa using List.find?_some hfound
          exact ⟨payload, hopen, hid, hfound, hkind⟩
        · cases h

theorem names_of_bearer (h : s.bearer users now token = .ok user) :
    s.codec.Names token user.id := by
  obtain ⟨payload, hopen, huser, _, hkind⟩ := exists_payload_of_bearer h
  exact ⟨now, payload, hopen, huser, hkind⟩

end Bearer

/-- The user with this login and this password, or why there is none. -/
def verified (s : Service) (users : List User) (login : String) (password : Password.ClearText) :
    Except AuthError User :=
  match users.find? (·.hasLogin login) with
  | none => .error .invalidCredentials
  | some user =>
    if s.verify user.passwordHash password then .ok user else .error .invalidCredentials

/-- The user whose sessions a request is about, or why there is none. -/
def Request.owner (s : Service) (users : List User) (now : Instant) : Request → Except AuthError User
  | .login name password _ => s.verified users name password
  | .refresh _ token => s.bearer users now token
  | .logout token => s.bearer users now token

/-- The transaction of the unit is open. -/
def IsOpen (unit : Nat) (w : World Store) : Prop := w.store.2.units.isOpen unit = true

namespace Alone

variable {s : Service}

theorem userById {id : UserId} (h : IsOpen unit w) :
    Alone source unit (Call.userById id) w (.ok (w.store.2.users.find? (·.id == id))) w := by
  have hperform : w.store.2.perform unit (.findById id) =
      (.ok (w.store.2.users.find? (·.id == id)), w.store.2) := if_pos h
  have hasked := users source unit (.findById id) w
  rw [hperform] at hasked
  exact hasked

theorem userByLogin {login : String} (h : IsOpen unit w) :
    Alone source unit (Call.userByLogin login) w
      (.ok (w.store.2.users.find? (·.hasLogin login))) w := by
  have hperform : w.store.2.perform unit (.findByLogin login) =
      (.ok (w.store.2.users.find? (·.hasLogin login)), w.store.2) := if_pos h
  have hasked := users source unit (.findByLogin login) w
  rw [hperform] at hasked
  exact hasked

theorem resolve (source : Source) (s : Service) (token : String) (h : IsOpen unit w) :
    ∃ w', Alone source unit (s.resolve token .refresh) w (s.bearer w.store.2.users w.now token) w' ∧
      Still w w' := by
  obtain ⟨w', hdecode, hstill⟩ := decode source unit s token w
  refine ⟨w', ?_, hstill⟩
  have hopen : IsOpen unit w' := by
    unfold IsOpen
    rw [hstill.store]
    exact h
  unfold Service.resolve bearer
  cases hread : Token.Codec.open? s.codec.verificationKey s.codec.algorithm w.now token with
  | none =>
    rw [hread] at hdecode
    exact bind_error hdecode
  | some payload =>
    rw [hread] at hdecode
    refine bind hdecode ?_
    dsimp only
    cases hid : payload.user with
    | error e => exact bind_error (ofExcept _ w')
    | ok id =>
      refine bind (ofExcept _ w') (bind (userById hopen) ?_)
      rw [hstill.store]
      dsimp only
      cases w.store.2.users.find? (·.id == id) with
      | none => exact throw _ w'
      | some user =>
        dsimp only
        split
        · exact pure user w'
        · exact throw _ w'

theorem credentials (source : Source) (s : Service) (login : String)
    (password : Password.ClearText) (h : IsOpen unit w) :
    Alone source unit (s.credentials login password) w
      (s.verified w.store.2.users login password) w := by
  unfold Service.credentials verified
  refine bind (userByLogin h) ?_
  cases w.store.2.users.find? (·.hasLogin login) with
  | none => exact throw _ w
  | some user =>
    simp only
    split
    · exact pure user w
    · exact throw _ w

end Alone

/-! ### Sessions -/

/-- The list to which a session is added: without those there, when they are as many as allowed. -/
def roomIn (maxSessions : Nat) (l : List String) : List String :=
  if maxSessions ≤ l.length then [] else l

/-- The lists after a session was added: without those that were there, if there were too many. -/
def registered (r : Registry) (now : Instant) (key raw : String) (ttl : Nat) (m : Cache.Memory) :
    Cache.Memory :=
  (if r.maxSessions ≤ (m.values now key).length then ⟨m.lists.erase key⟩ else m).push now key raw
    (some ttl)

/-- A session that is added to an empty list is alone in it. -/
theorem values_registered {r : Registry} {now : Instant} {key raw : String} {ttl : Nat}
    {m : Cache.Memory} (hempty : m.values now key = []) (httl : 1 ≤ ttl) :
    (registered r now key raw ttl m).values now key = [raw] := by
  unfold registered
  rw [Cache.Memory.values_push_self httl]
  split
  · rw [Cache.Memory.values_erase_self]
  · rw [hempty]

/-- The tokens that a user is given at a time, made with random bits of the source. -/
structure Issues (s : Service) (source : Source) (user : UserId) (now : Instant)
    (tokens : IssuedTokens) : Prop where
  refresh : ∃ x y, s.codec.mint now (.ofRandom (source x 128).1) (source y 512).1 user.toHex
    (some .refresh) {} = .ok (tokens.expiresAt, tokens.refresh)
  access : ∃ x y expiry, s.codec.mint now (.ofRandom (source x 128).1) (source y 512).1 user.toHex
    (some .access) {} = .ok (expiry, tokens.access)
  maxAge : tokens.maxAge = now.secondsUntil tokens.expiresAt

/-- Tokens of both kinds can be made for a user at a time. -/
def CanMint (s : Service) (user : UserId) (now : Instant) : Prop :=
  ∀ id noise kind, ∃ minted, s.codec.mint now id noise user.toHex (some kind) {} = .ok minted

namespace Alone

variable {user : UserId} {fingerprint token raw : String}

theorem register (source : Source) (unit : Nat) (r : Registry) (user : UserId)
    (fingerprint token : String) (ttl : Nat) (w : World Store) :
    ∃ w', Alone source unit (r.register user fingerprint token ttl) w (.ok ()) w' ∧
      Still (withCache w (registered r w.now (Registry.key user)
        (Entry.encode ⟨fingerprint, token⟩) ttl w.store.1)) w' := by
  unfold Registry.register registered
  by_cases hfull : r.maxSessions ≤ (w.store.1.values w.now (Registry.key user)).length
  · rw [if_pos hfull]
    have hread : r.maxSessions ≤ (sessions w (Registry.key user)).length := hfull
    obtain ⟨⟨store, now, entropy, events⟩, hlog, hstore, hnow⟩ :=
      log source unit (.sessionCapReached user (sessions w (Registry.key user)).length) w
    obtain rfl : store = w.store := hstore
    obtain rfl : now = w.now := hnow
    obtain ⟨w', hlast, hstill⟩ := log source unit (.sessionRegistered user)
      (withCache ⟨w.store, w.now, entropy, events⟩
        ((Cache.Memory.mk (w.store.1.lists.erase (Registry.key user))).push w.now
          (Registry.key user) (Entry.encode ⟨fingerprint, token⟩) (some ttl)))
    refine ⟨w', bind (readList _ w) ?_, ⟨hstill.store, hstill.now⟩⟩
    simp only [if_pos hread]
    exact bind hlog (bind (dropList _ _) (bind (pushTo _ _ _ _) hlast))
  · rw [if_neg hfull]
    have hread : ¬ r.maxSessions ≤ (sessions w (Registry.key user)).length := hfull
    obtain ⟨w', hlast, hstill⟩ := log source unit (.sessionRegistered user)
      (withCache w (w.store.1.push w.now (Registry.key user) (Entry.encode ⟨fingerprint, token⟩)
        (some ttl)))
    refine ⟨w', bind (readList _ w) ?_, hstill⟩
    simp only [if_neg hread]
    exact bind (pushTo _ _ _ _) hlast

theorem removeFrom_mem {key : String} (h : raw ∈ sessions w key) :
    Alone source unit (Call.removeFrom key raw) w (.ok true)
      (withCache w (w.store.1.remove w.now key raw).2) := by
  have hremoved : (w.store.1.remove w.now key raw).1 = true := by
    rw [Cache.Memory.remove_fst]
    exact decide_eq_true h
  have hasked := removeFrom source unit key raw w
  rw [hremoved] at hasked
  exact hasked

/-- A session that is in the list is used up. -/
theorem consume_found (hfind : Registry.find? fingerprint token (sessions w (Registry.key user)) =
    some raw) :
    Alone source unit (Registry.consume user fingerprint token) w (.ok true)
      (withCache w (w.store.1.remove w.now (Registry.key user) raw).2) := by
  have hmem : raw ∈ sessions w (Registry.key user) := (Registry.parse?_of_find? hfind).1
  have hsome : (sessions w (Registry.key user)).isEmpty = false := by
    cases hlist : sessions w (Registry.key user) with
    | nil => rw [hlist] at hmem; cases hmem
    | cons first rest => rfl
  have hremoved : Alone source unit (Call.removeFrom (Registry.key user) raw) w (.ok true)
      (withCache w (w.store.1.remove w.now (Registry.key user) raw).2) :=
    removeFrom_mem hmem
  unfold Registry.consume
  refine bind (readList _ w) ?_
  rw [hsome, hfind]
  exact bind hremoved (pure true _)

/-- Where there are no sessions, nothing is used up and nothing dropped. -/
theorem consume_empty (hempty : sessions w (Registry.key user) = []) :
    Alone source unit (Registry.consume user fingerprint token) w (.ok false) w := by
  unfold Registry.consume
  refine bind (readList _ w) ?_
  rw [hempty]
  exact pure false w

/-- A session that is not in the list takes all others with it. -/
theorem consume_unknown (source : Source) (unit : Nat) (hsome : sessions w (Registry.key user) ≠ [])
    (hfind : Registry.find? fingerprint token (sessions w (Registry.key user)) = none) :
    ∃ w', Alone source unit (Registry.consume user fingerprint token) w (.ok false) w' ∧
      Still (withCache w ⟨w.store.1.lists.erase (Registry.key user)⟩) w' := by
  have hnonempty : (sessions w (Registry.key user)).isEmpty = false := by
    rw [Bool.eq_false_iff, ne_eq, List.isEmpty_iff]
    exact hsome
  obtain ⟨⟨store, now, entropy, events⟩, hlog, hstore, hnow⟩ :=
    log source unit (.unknownRefreshToken user) w
  obtain rfl : store = w.store := hstore
  obtain rfl : now = w.now := hnow
  refine ⟨withCache ⟨w.store, w.now, entropy, events⟩ ⟨w.store.1.lists.erase (Registry.key user)⟩,
    ?_, ⟨rfl, rfl⟩⟩
  unfold Registry.consume
  refine bind (readList _ w) ?_
  rw [hnonempty, hfind]
  exact bind hlog (bind (dropList _ _) (pure false _))

/-- A session that is in the list is taken out. -/
theorem revoke_found (hfind : Registry.findToken? token (sessions w (Registry.key user)) =
    some raw) :
    Alone source unit (Registry.revoke user token) w (.ok true)
      (withCache w (w.store.1.remove w.now (Registry.key user) raw).2) := by
  unfold Registry.revoke
  refine bind (readList _ w) ?_
  rw [hfind]
  exact removeFrom_mem (Registry.parse?_of_findToken? hfind).1

theorem revoke_unknown
    (hfind : Registry.findToken? token (sessions w (Registry.key user)) = none) :
    Alone source unit (Registry.revoke user token) w (.ok false) w := by
  unfold Registry.revoke
  refine bind (readList _ w) ?_
  rw [hfind]
  exact pure false w

/-- Where tokens can be made, a session is added and the user is given its tokens. -/
theorem issue (source : Source) (unit : Nat) (s : Service) (f : Fingerprint)
    (hmint : s.CanMint user w.now) :
    ∃ tokens w', Alone source unit (s.issue user f) w (.ok tokens) w' ∧
      s.Issues source user w.now tokens ∧
      Still (withCache w (registered s.registry w.now (Registry.key user)
        (Entry.encode ⟨f.text, tokens.refresh⟩) tokens.maxAge w.store.1)) w' := by
  obtain ⟨x, y, ⟨store, now, entropy, events⟩, hrefresh, hstore, hnow⟩ :=
    encode source unit s user.toHex .refresh w
  obtain rfl : store = w.store := hstore
  obtain rfl : now = w.now := hnow
  obtain ⟨x', y', ⟨store, now, entropy, events⟩, haccess, hstore, hnow⟩ :=
    encode source unit s user.toHex .access ⟨w.store, w.now, entropy, events⟩
  obtain rfl : store = w.store := hstore
  obtain rfl : now = w.now := hnow
  obtain ⟨⟨expiry, refresh⟩, hminted⟩ :=
    hmint (.ofRandom (source x 128).1) (source y 512).1 .refresh
  obtain ⟨⟨expiry', access⟩, hminted'⟩ :=
    hmint (.ofRandom (source x' 128).1) (source y' 512).1 .access
  rw [hminted] at hrefresh
  rw [hminted'] at haccess
  obtain ⟨w', hregister, hstill⟩ := register source unit s.registry user f.text refresh
    (w.now.secondsUntil expiry) ⟨w.store, w.now, entropy, events⟩
  refine ⟨⟨access, refresh, expiry, w.now.secondsUntil expiry⟩, w', ?_,
    ⟨⟨x, y, hminted⟩, ⟨x', y', expiry', hminted'⟩, rfl⟩, ⟨hstill.store, hstill.now⟩⟩
  exact bind hrefresh (bind haccess (bind (clock _) (bind hregister (pure _ w'))))

end Alone

/-! ### Units of work -/

/-- The world after the unit of work was begun. -/
def begun (unit : Nat) (w : World Store) : World Store :=
  { w with store := (w.store.1, w.store.2.countBegin.replace unit true) }

theorem settled_begun (unit : Nat) (w : World Store) : Settled w (begun unit w) :=
  ⟨rfl, Users.Memory.users_perform unit .begin w.store.2, rfl⟩

theorem isOpen_begun (unit : Nat) (w : World Store) : IsOpen unit (begun unit w) :=
  Users.Memory.isOpen_perform_self unit .begin w.store.2

/-- A unit of work adds nothing to the work that another call could see. -/
theorem Alone.inUnit {work : Call α} {result : Except AuthError α}
    (h : Alone source unit work (begun unit w) result w₁) :
    ∃ w', Alone source unit (Call.inUnit work) w result w' ∧ Settled w₁ w' := by
  unfold Call.inUnit
  cases result with
  | ok value =>
    refine ⟨{ w₁ with store := (w₁.store.1, w₁.store.2.commit unit) }, ?_,
      ⟨rfl, Users.Memory.users_commit _ _, rfl⟩⟩
    exact bind (users source unit .begin w)
      (bind (lift h) (bind (users source unit .commit w₁) (pure value _)))
  | error e =>
    refine ⟨{ w₁ with store := (w₁.store.1, w₁.store.2.abandon unit) }, ?_,
      ⟨rfl, Users.Memory.users_abandon _ _, rfl⟩⟩
    exact bind (users source unit .begin w) (bind (lift h) rfl)

/-- Work that ended well in a unit of work ended well by itself. -/
theorem Alone.inUnit_of_ok {work : Call α} {value : α}
    (h : Alone source unit (Call.inUnit work) w (.ok value) w₂) :
    ∃ w₁, Alone source unit work (begun unit w) (.ok value) w₁ ∧ Settled w₁ w₂ := by
  cases hwork : Program.run (handleWith source unit) work.run (begun unit w) with
  | mk result w₁ =>
    have halone : Alone source unit work (begun unit w) result w₁ := hwork
    obtain ⟨w', hunit, hsettled⟩ := Alone.inUnit halone
    obtain ⟨rfl, rfl⟩ := h.unique hunit
    exact ⟨w₁, halone, hsettled⟩

/-! ### Requests -/

namespace Alone

variable {s : Service} {user : User} {token raw : String} {f : Fingerprint} {e : AuthError}
  {target : World Store}

/-- Work that leaves a world, as far as others can see, does so in a unit of work as well. -/
theorem inUnit_settled {work : Call α} {result : Except AuthError α}
    (h : ∃ w₁, Alone source unit work (begun unit w) result w₁ ∧ Settled target w₁) :
    ∃ w', Alone source unit (Call.inUnit work) w result w' ∧ Settled target w' := by
  obtain ⟨w₁, hwork, hsettled⟩ := h
  obtain ⟨w', halone, hend⟩ := inUnit hwork
  exact ⟨w', halone, hsettled.trans hend⟩

theorem map_ok {call : Call α} {g : α → β} {value : α}
    (h : ∃ w', Alone source unit call w (.ok value) w' ∧ Settled target w') :
    ∃ w', Alone source unit (g <$> call) w (.ok (g value)) w' ∧ Settled target w' := by
  obtain ⟨w', halone, hsettled⟩ := h
  exact ⟨w', map halone, hsettled⟩

theorem map_error {call : Call α} {g : α → β}
    (h : ∃ w', Alone source unit call w (.error e) w' ∧ Settled target w') :
    ∃ w', Alone source unit (g <$> call) w (.error e) w' ∧ Settled target w' := by
  obtain ⟨w', halone, hsettled⟩ := h
  exact ⟨w', map halone, hsettled⟩

theorem followed_ok {call : Call Unit} {value : α}
    (h : ∃ w', Alone source unit call w (.ok ()) w' ∧ Settled target w') :
    ∃ w', Alone source unit (call >>= fun _ => Pure.pure value) w (.ok value) w' ∧
      Settled target w' := by
  obtain ⟨w', halone, hsettled⟩ := h
  exact ⟨w', bind halone (pure value w'), hsettled⟩

theorem followed_error {call : Call Unit} {value : α}
    (h : ∃ w', Alone source unit call w (.error e) w' ∧ Settled target w') :
    ∃ w', Alone source unit (call >>= fun _ => Pure.pure value) w (.error e) w' ∧
      Settled target w' := by
  obtain ⟨w', halone, hsettled⟩ := h
  exact ⟨w', bind_error halone, hsettled⟩

/-! #### Logging in -/

/-- Whoever is not known gets no session, and nothing is changed. -/
theorem login_refused {login : String} {password : Password.ClearText}
    (h : s.verified w.store.2.users login password = .error e) :
    ∃ w', Alone source unit (s.serve (.login login password f)) w (.error e) w' ∧ Settled w w' := by
  have hcredentials := credentials source s login password (isOpen_begun unit w)
  rw [(settled_begun unit w).users, h] at hcredentials
  exact map_error (inUnit_settled ⟨_, bind_error hcredentials, settled_begun unit w⟩)

/-- Whoever is known gets a session. -/
theorem login_ok (source : Source) (unit : Nat) (f : Fingerprint) {login : String}
    {password : Password.ClearText}
    (h : s.verified w.store.2.users login password = .ok user) (hmint : s.CanMint user.id w.now) :
    ∃ tokens, s.Issues source user.id w.now tokens ∧ ∃ w',
      Alone source unit (s.serve (.login login password f)) w (.ok (some tokens)) w' ∧
      Settled (withCache w (registered s.registry w.now (Registry.key user.id)
        (Entry.encode ⟨f.text, tokens.refresh⟩) tokens.maxAge w.store.1)) w' := by
  have hbegun := settled_begun unit w
  have hcredentials := credentials source s login password (isOpen_begun unit w)
  rw [hbegun.users, h] at hcredentials
  obtain ⟨tokens, w₁, hissue, hissues, hstill⟩ := issue (w := begun unit w) source unit s f hmint
  obtain ⟨w₂, hlog, hstill'⟩ := log source unit (.loggedIn user.id tokens.expiresAt) w₁
  refine ⟨tokens, hissues, map_ok (inUnit_settled ⟨w₂, ?_, ?_⟩)⟩
  · exact bind hcredentials (bind hissue (bind hlog (pure tokens w₂)))
  · exact (hbegun.withCache _).trans (hstill.trans hstill').settled

/-! #### Presenting a token -/

/-- Whom a token names is found out without a change. -/
theorem resolve_begun (source : Source) (unit : Nat) (s : Service) (w : World Store)
    (token : String) :
    ∃ w₁, Alone source unit (s.resolve token .refresh) (begun unit w)
      (s.bearer w.store.2.users w.now token) w₁ ∧ Settled w w₁ := by
  have hbegun := settled_begun unit w
  obtain ⟨w₁, hresolve, hstill⟩ := resolve source s token (isOpen_begun unit w)
  rw [hbegun.users, hbegun.now] at hresolve
  exact ⟨w₁, hresolve, hbegun.trans hstill.settled⟩

/-- A token that names nobody is refused, and nothing is changed. -/
theorem refresh_refused (h : s.bearer w.store.2.users w.now token = .error e) :
    ∃ w', Alone source unit (s.serve (.refresh f token)) w (.error e) w' ∧ Settled w w' := by
  obtain ⟨w₁, hresolve, hsettled⟩ := resolve_begun source unit s w token
  rw [h] at hresolve
  exact map_error (inUnit_settled ⟨w₁, bind_error hresolve, hsettled⟩)

/-- A session that is in the list is replaced by a new one. -/
theorem refresh_found (source : Source) (unit : Nat)
    (h : s.bearer w.store.2.users w.now token = .ok user)
    (hfind : Registry.find? f.text token (sessions w (Registry.key user.id)) = some raw)
    (hmint : s.CanMint user.id w.now) :
    ∃ tokens, s.Issues source user.id w.now tokens ∧ ∃ w',
      Alone source unit (s.serve (.refresh f token)) w (.ok (some tokens)) w' ∧
      Settled (withCache w (registered s.registry w.now (Registry.key user.id)
        (Entry.encode ⟨f.text, tokens.refresh⟩) tokens.maxAge
          (w.store.1.remove w.now (Registry.key user.id) raw).2)) w' := by
  obtain ⟨w₁, hresolve, hsettled⟩ := resolve_begun source unit s w token
  rw [h] at hresolve
  rw [← hsettled.sessions] at hfind
  rw [← hsettled.now] at hmint
  obtain ⟨tokens, w₂, hissue, hissues, hstill⟩ := issue
    (w := withCache w₁ (w₁.store.1.remove w₁.now (Registry.key user.id) raw).2) source unit s f
    hmint
  obtain ⟨w₃, hlog, hstill'⟩ := log source unit (.refreshed user.id tokens.expiresAt) w₂
  refine ⟨tokens, hsettled.now ▸ hissues, map_ok (inUnit_settled ⟨w₃, ?_, ?_⟩)⟩
  · exact bind hresolve (bind (consume_found hfind) (bind hissue (bind hlog (pure tokens w₃))))
  · rw [← hsettled.now, ← hsettled.lists]
    exact (hsettled.withCache _).trans (hstill.trans hstill').settled

/-- A session that is not in the list takes all others with it. -/
theorem refresh_unknown (h : s.bearer w.store.2.users w.now token = .ok user)
    (hsome : sessions w (Registry.key user.id) ≠ [])
    (hfind : Registry.find? f.text token (sessions w (Registry.key user.id)) = none) :
    ∃ w', Alone source unit (s.serve (.refresh f token)) w (.error .sessionRevoked) w' ∧
      Settled (withCache w ⟨w.store.1.lists.erase (Registry.key user.id)⟩) w' := by
  obtain ⟨w₁, hresolve, hsettled⟩ := resolve_begun source unit s w token
  rw [h] at hresolve
  rw [← hsettled.sessions] at hsome hfind
  obtain ⟨w₂, hconsume, hstill⟩ := consume_unknown source unit hsome hfind
  refine map_error (inUnit_settled ⟨w₂, bind hresolve (bind hconsume (throw _ w₂)), ?_⟩)
  rw [← hsettled.lists]
  exact (hsettled.withCache _).trans hstill.settled

/-- Where the user has no sessions, a refresh finds nothing, and nothing is changed. -/
theorem refresh_empty (h : s.bearer w.store.2.users w.now token = .ok user)
    (hempty : sessions w (Registry.key user.id) = []) :
    ∃ w', Alone source unit (s.serve (.refresh f token)) w (.error .sessionRevoked) w' ∧
      Settled w w' := by
  obtain ⟨w₁, hresolve, hsettled⟩ := resolve_begun source unit s w token
  rw [h] at hresolve
  rw [← hsettled.sessions] at hempty
  refine map_error (inUnit_settled ⟨w₁, ?_, hsettled⟩)
  exact bind hresolve (bind (consume_empty hempty) (throw _ w₁))

/-- Where a session is not in the list, a refresh with it leaves an empty list behind. -/
theorem refresh_absent (source : Source) (unit : Nat)
    (h : s.bearer w.store.2.users w.now token = .ok user)
    (hfind : Registry.find? f.text token (sessions w (Registry.key user.id)) = none) :
    ∃ w', Alone source unit (s.serve (.refresh f token)) w (.error .sessionRevoked) w' ∧
      sessions w' (Registry.key user.id) = [] ∧ w'.now = w.now := by
  by_cases hempty : sessions w (Registry.key user.id) = []
  · obtain ⟨w', halone, hsettled⟩ := refresh_empty (f := f) h hempty
    exact ⟨w', halone, (hsettled.sessions _).trans hempty, hsettled.now⟩
  · obtain ⟨w', halone, hsettled⟩ := refresh_unknown h hempty hfind
    exact ⟨w', halone, (hsettled.sessions _).trans Cache.Memory.values_erase_self, hsettled.now⟩

/-- A token that names nobody is refused, and nothing is changed. -/
theorem logout_refused (h : s.bearer w.store.2.users w.now token = .error e) :
    ∃ w', Alone source unit (s.serve (.logout token)) w (.error e) w' ∧ Settled w w' := by
  obtain ⟨w₁, hresolve, hsettled⟩ := resolve_begun source unit s w token
  rw [h] at hresolve
  exact followed_error (inUnit_settled ⟨w₁, bind_error hresolve, hsettled⟩)

/-- A session that is in the list is ended. -/
theorem logout_found (source : Source) (unit : Nat)
    (h : s.bearer w.store.2.users w.now token = .ok user)
    (hfind : Registry.findToken? token (sessions w (Registry.key user.id)) = some raw) :
    ∃ w', Alone source unit (s.serve (.logout token)) w (.ok none) w' ∧
      Settled (withCache w (w.store.1.remove w.now (Registry.key user.id) raw).2) w' := by
  obtain ⟨w₁, hresolve, hsettled⟩ := resolve_begun source unit s w token
  rw [h] at hresolve
  rw [← hsettled.sessions] at hfind
  obtain ⟨w₂, hlog, hstill⟩ := log source unit (.loggedOut user.id)
    (withCache w₁ (w₁.store.1.remove w₁.now (Registry.key user.id) raw).2)
  refine followed_ok (inUnit_settled ⟨w₂, bind hresolve (bind (revoke_found hfind) hlog), ?_⟩)
  rw [← hsettled.now, ← hsettled.lists]
  exact (hsettled.withCache _).trans hstill.settled

/-- Without a session for the token, a logout ends nothing. -/
theorem logout_unknown (h : s.bearer w.store.2.users w.now token = .ok user)
    (hfind : Registry.findToken? token (sessions w (Registry.key user.id)) = none) :
    ∃ w', Alone source unit (s.serve (.logout token)) w (.error .unknownToken) w' ∧
      Settled w w' := by
  obtain ⟨w₁, hresolve, hsettled⟩ := resolve_begun source unit s w token
  rw [h] at hresolve
  rw [← hsettled.sessions] at hfind
  refine followed_error (inUnit_settled ⟨w₁, ?_, hsettled⟩)
  exact bind hresolve (bind (revoke_unknown hfind) (throw _ w₁))

end Alone

end Service

end SessionAuth
