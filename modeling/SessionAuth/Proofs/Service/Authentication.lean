/-
Who a token belongs to.

Authenticating a token reads it, looks its user up and asks nothing else, so over any backend
the outcome is a plain function of the clock and of the reply to the look-up (`resolution`).
Around that a transaction begins and is committed, and either may fail.  `Transacting` says what
a store of users makes of the three statements involved; where it holds, the outcome of the
whole call is `authentication`, whatever the rest of the backend does.
-/
import SessionAuth.Proofs.Deployment.Runs
import SessionAuth.Proofs.Service.Transaction

namespace SessionAuth

variable {σ : Type} {b : Backend σ} {w : World σ}

/-- Reading a token reads the clock, and reports a token that is refused. -/
theorem runCall_decode (b : Backend σ) (c : Token.Codec) (token : String) (w : World σ) :
    b.runCall (c.decode token) w =
      match Token.Codec.open? c.verificationKey c.algorithm w.now token with
      | some payload => (.ok payload, w)
      | none => (.error .tokenInvalid, { w with events := w.events ++ [.tokenRejected] }) := by
  have hclock : b.runCall Call.clock w = (.ok w.now, w) := rfl
  unfold Token.Codec.decode Token.Codec.decodeWith
  rw [Backend.runCall_bind_of_ok hclock]
  simp only [Option.getD_none]
  cases Token.Codec.open? c.verificationKey c.algorithm w.now token <;> rfl

namespace Service

/-- The user of a token of the expected kind, by the clock and by what a look-up is replied. -/
def resolution (s : Service) (lookUp : UserId → Except AuthError (Option User)) (now : Instant)
    (token : String) (expected : Token.Kind) : Except AuthError User :=
  match Token.Codec.open? s.codec.verificationKey s.codec.algorithm now token with
  | none => .error .tokenInvalid
  | some payload =>
    match payload.user with
    | .error e => .error e
    | .ok id =>
      match lookUp id with
      | .error e => .error e
      | .ok none => .error .unauthorized
      | .ok (some user) => if payload.isOf expected then .ok user else .error .unauthorized

variable {s : Service} {token : String} {expected : Token.Kind}

/-- **A token is resolved by one look-up**, after which nothing else has happened. -/
theorem runCall_resolve (b : Backend σ) (s : Service) (token : String) (expected : Token.Kind)
    (w : World σ) :
    ∃ w₁, b.runCall (s.resolve token expected) w =
        (s.resolution (fun id => (b.users 0 (.findById id) w.store).1) w.now token expected, w₁) ∧
      ∀ user, s.resolution (fun id => (b.users 0 (.findById id) w.store).1) w.now token expected =
          .ok user →
        ∃ id, w₁ = (b.handle 0 (.users (.findById id)) w).2 := by
  have hdecode := runCall_decode b s.codec token w
  unfold resolve resolution
  cases hopen : Token.Codec.open? s.codec.verificationKey s.codec.algorithm w.now token with
  | none =>
    rw [hopen] at hdecode
    exact ⟨_, Backend.runCall_bind_of_error hdecode, nofun⟩
  | some payload =>
    rw [hopen] at hdecode
    rw [Backend.runCall_bind_of_ok hdecode]
    dsimp only
    cases payload.user with
    | error e => exact ⟨w, rfl, nofun⟩
    | ok id =>
      have hid : b.runCall (Call.ofExcept (.ok id)) w = (.ok id, w) := rfl
      have hlookUp : b.runCall (Call.userById id) w =
          ((b.users 0 (.findById id) w.store).1, (b.handle 0 (.users (.findById id)) w).2) := rfl
      rw [Backend.runCall_bind_of_ok hid]
      dsimp only
      cases hfound : (b.users 0 (.findById id) w.store).1 with
      | error e =>
        rw [hfound] at hlookUp
        exact ⟨_, Backend.runCall_bind_of_error hlookUp, nofun⟩
      | ok found =>
        rw [hfound] at hlookUp
        rw [Backend.runCall_bind_of_ok hlookUp]
        refine ⟨(b.handle 0 (.users (.findById id)) w).2, ?_, fun _ _ => ⟨id, rfl⟩⟩
        cases found with
        | none => rfl
        | some user =>
          dsimp only
          split <;> rfl

/-- The token is accepted, of the expected kind, and names a user of the table. -/
def Resolves (s : Service) (users : List User) (now : Instant) (token : String)
    (expected : Token.Kind) (user : User) : Prop :=
  ∃ payload id, Token.Codec.open? s.codec.verificationKey s.codec.algorithm now token =
      some payload ∧ payload.isOf expected = true ∧ payload.user = .ok id ∧
    users.find? (·.id == id) = some user

/-- The token is accepted and has a subject, so somebody is looked up. -/
def Seeks (s : Service) (now : Instant) (token : String) : Prop :=
  ∃ payload id, Token.Codec.open? s.codec.verificationKey s.codec.algorithm now token =
    some payload ∧ payload.user = .ok id

section Resolution

variable {select : Except AuthError Unit} {users : List User} {now : Instant} {user : User}
  {e : AuthError}

theorem resolution_of_resolves (h : s.Resolves users now token expected user) :
    s.resolution (fun id => .ok (users.find? (·.id == id))) now token expected = .ok user := by
  obtain ⟨payload, id, hopen, hkind, huser, hfind⟩ := h
  unfold resolution
  simp only [hopen, huser, hfind, hkind, if_true]

/-- A token that was resolved was accepted, of the expected kind, and its user was found. -/
theorem resolution_eq_ok {lookUp : UserId → Except AuthError (Option User)}
    (h : s.resolution lookUp now token expected = .ok user) :
    ∃ payload id, Token.Codec.open? s.codec.verificationKey s.codec.algorithm now token =
        some payload ∧ payload.isOf expected = true ∧ payload.user = .ok id ∧
      lookUp id = .ok (some user) := by
  unfold resolution at h
  split at h
  · cases h
  · rename_i payload hopen
    split at h
    · cases h
    · rename_i id huser
      split at h
      · cases h
      · cases h
      · rename_i found hfound
        split at h
        · rename_i hkind
          cases h
          exact ⟨payload, id, hopen, hkind, huser, hfound⟩
        · cases h

theorem resolution_of_seeks (h : s.Seeks now token) :
    s.resolution (fun _ => .error e) now token expected = .error e := by
  obtain ⟨payload, id, hopen, huser⟩ := h
  unfold resolution
  simp only [hopen, huser]

/-- A token that resolves to nobody is told so in one of two ways, if it is looked up at all. -/
theorem resolution_cases (s : Service) (lookUp : UserId → Except AuthError (Option User))
    (now : Instant) (token : String) (expected : Token.Kind) :
    (∃ payload id user, Token.Codec.open? s.codec.verificationKey s.codec.algorithm now token =
        some payload ∧ payload.isOf expected = true ∧ payload.user = .ok id ∧
        lookUp id = .ok (some user)) ∨
      (s.Seeks now token ∧ ∃ id e, lookUp id = .error e) ∨
      ∃ e, (e = .tokenInvalid ∨ e = .unauthorized) ∧
        s.resolution lookUp now token expected = .error e := by
  unfold resolution
  cases hopen : Token.Codec.open? s.codec.verificationKey s.codec.algorithm now token with
  | none => exact Or.inr (Or.inr ⟨_, Or.inl rfl, rfl⟩)
  | some payload =>
    dsimp only
    cases huser : payload.user with
    | error e =>
      refine Or.inr (Or.inr ⟨e, Or.inl ?_, rfl⟩)
      unfold Token.Payload.user at huser
      split at huser
      · cases huser
      · exact (Except.error.inj huser).symm
    | ok id =>
      dsimp only
      cases hfound : lookUp id with
      | error e => exact Or.inr (Or.inl ⟨⟨payload, id, hopen, huser⟩, id, e, hfound⟩)
      | ok found =>
        cases found with
        | none => exact Or.inr (Or.inr ⟨_, Or.inr rfl, rfl⟩)
        | some user =>
          dsimp only
          split
          · rename_i hkind
            exact Or.inl ⟨payload, id, user, rfl, hkind, huser, hfound⟩
          · exact Or.inr (Or.inr ⟨_, Or.inr rfl, rfl⟩)

end Resolution

/-! ### The transaction around it -/

/-- What becomes of the statements of a transaction that looks one user up. -/
structure Transacting (b : Backend σ) (store : σ)
    (verdict : Users.StatementKind → Except AuthError Unit) (users : List User) : Prop where
  begin : (b.users 0 .begin store).1 = verdict .begin
  select : verdict .begin = .ok () → ∀ id,
    (b.users 0 (.findById id) (b.users 0 .begin store).2).1 =
      (verdict .select).map fun _ => users.find? (·.id == id)
  commit : verdict .begin = .ok () → ∀ id,
    (b.users 0 .commit (b.users 0 (.findById id) (b.users 0 .begin store).2).2).1 =
      verdict .commit

/-- What authenticating a token comes to. -/
def authentication (s : Service) (verdict : Users.StatementKind → Except AuthError Unit)
    (users : List User) (now : Instant) (token : String) (expected : Token.Kind) :
    Except AuthError User := do
  verdict .begin
  let user ← s.resolution (fun id => (verdict .select).map fun _ => users.find? (·.id == id)) now
    token expected
  verdict .commit
  return user

variable {verdict : Users.StatementKind → Except AuthError Unit} {users : List User}

theorem runCall_authenticate (h : Transacting b w.store verdict users) (token : String)
    (expected : Token.Kind) :
    (b.runCall (s.authenticate token expected) w).1 =
      s.authentication verdict users w.now token expected := by
  unfold authentication
  cases hbegin : verdict .begin with
  | error e =>
    have hrefused : (b.handle 0 (.users .begin) w).1 = .error e := h.begin.trans hbegin
    have hcalled : called b s (.authenticate token expected) 0 w = _ :=
      (called_of_refused hrefused).1
    exact congrArg Prod.fst hcalled
  | ok _ =>
    have hbegun : (b.handle 0 (.users .begin) w).1 = .ok () := h.begin.trans hbegin
    have hlookUp : (fun id => (b.users 0 (.findById id) (b.handle 0 (.users .begin) w).2.store).1) =
        fun id => (verdict .select).map fun _ => users.find? (·.id == id) :=
      funext (h.select hbegin)
    obtain ⟨w₁, hresolve, hafter⟩ :=
      runCall_resolve b s token expected (b.handle 0 (.users .begin) w).2
    rw [hlookUp] at hresolve hafter
    have hwork : worked b s (.authenticate token expected) 0 w = (s.resolution _ w.now token
        expected, w₁) := hresolve
    show (called b s (.authenticate token expected) 0 w).1 = _
    cases hresult : s.resolution (fun id => (verdict .select).map fun _ =>
        users.find? (·.id == id)) w.now token expected with
    | error e =>
      rw [hresult] at hwork
      exact (called_of_error hbegun (congrArg Prod.fst hwork)).1
    | ok user =>
      obtain ⟨id, hw₁⟩ := hafter user hresult
      rw [hresult] at hwork
      rw [called_of_ok hbegun (congrArg Prod.fst hwork), hwork, hw₁]
      exact congrArg (Except.map fun _ => user) (h.commit hbegin id)

/-- The statements of a transaction that is committed all succeed. -/
structure Succeeds (verdict : Users.StatementKind → Except AuthError Unit) : Prop where
  begin : verdict .begin = .ok ()
  select : verdict .select = .ok ()
  commit : verdict .commit = .ok ()

/-- A statement that authenticating the token comes to is refused. -/
inductive Refused (s : Service) (verdict : Users.StatementKind → Except AuthError Unit)
    (users : List User) (now : Instant) (token : String) (expected : Token.Kind) (e : AuthError) :
    Prop
  | begin (h : verdict .begin = .error e)
  | select (hbegin : verdict .begin = .ok ()) (hseeks : s.Seeks now token)
    (h : verdict .select = .error e)
  | commit {user : User} (hbegin : verdict .begin = .ok ()) (hselect : verdict .select = .ok ())
    (hresolves : s.Resolves users now token expected user) (h : verdict .commit = .error e)

section Authentication

variable {now : Instant} {user : User} {e : AuthError}

/-- A refusal is what became of some statement. -/
theorem Refused.exists_verdict (h : s.Refused verdict users now token expected e) :
    ∃ kind, verdict kind = .error e := by
  cases h with
  | begin h => exact ⟨_, h⟩
  | select _ _ h => exact ⟨_, h⟩
  | commit _ _ _ h => exact ⟨_, h⟩

theorem authentication_of_refused (h : s.Refused verdict users now token expected e) :
    s.authentication verdict users now token expected = .error e := by
  unfold authentication
  cases h with
  | begin h => rw [h]; rfl
  | select hbegin hseeks h =>
    rw [hbegin, h]
    show (s.resolution (fun _ => .error e) now token expected >>= _) = _
    rw [resolution_of_seeks hseeks]
    rfl
  | commit hbegin hselect hresolves h =>
    rw [hbegin, hselect]
    show (s.resolution (fun id => .ok (users.find? (·.id == id))) now token expected >>= _) = _
    rw [resolution_of_resolves hresolves, h]
    rfl

theorem authentication_of_resolves (h : Succeeds verdict)
    (hresolves : s.Resolves users now token expected user) :
    s.authentication verdict users now token expected = .ok user := by
  unfold authentication
  rw [h.begin, h.select, h.commit]
  show (s.resolution (fun id => .ok (users.find? (·.id == id))) now token expected >>= _) = _
  rw [resolution_of_resolves hresolves]
  rfl

/-- **Authentication ends in one of three ways**: with a user, with a refusal, or without either. -/
theorem authentication_cases (s : Service) (verdict : Users.StatementKind → Except AuthError Unit)
    (users : List User) (now : Instant) (token : String) (expected : Token.Kind) :
    (∃ user, Succeeds verdict ∧ s.Resolves users now token expected user) ∨
      (∃ e, s.Refused verdict users now token expected e) ∨
      ∃ e, (e = .tokenInvalid ∨ e = .unauthorized) ∧
        s.authentication verdict users now token expected = .error e := by
  cases hbegin : verdict .begin with
  | error e => exact Or.inr (Or.inl ⟨e, .begin hbegin⟩)
  | ok _ =>
    rcases resolution_cases s (fun id => (verdict .select).map fun _ => users.find? (·.id == id))
        now token expected with
      ⟨payload, id, user, hopen, hkind, huser, hfound⟩ | ⟨hseeks, id, e, hfailed⟩ |
      ⟨e, he, hresult⟩
    · cases hselect : verdict .select with
      | error e => exact Or.inr (Or.inl ⟨e, .select hbegin ⟨payload, id, hopen, huser⟩ hselect⟩)
      | ok _ =>
        rw [hselect] at hfound
        have hresolves : s.Resolves users now token expected user :=
          ⟨payload, id, hopen, hkind, huser, Except.ok.inj hfound⟩
        cases hcommit : verdict .commit with
        | error e => exact Or.inr (Or.inl ⟨e, .commit hbegin hselect hresolves hcommit⟩)
        | ok _ => exact Or.inl ⟨user, ⟨hbegin, hselect, hcommit⟩, hresolves⟩
    · cases hselect : verdict .select with
      | error e' => exact Or.inr (Or.inl ⟨e', .select hbegin hseeks hselect⟩)
      | ok _ =>
        rw [hselect] at hfailed
        cases hfailed
    · refine Or.inr (Or.inr ⟨e, he, ?_⟩)
      unfold authentication
      rw [hbegin]
      show (s.resolution _ now token expected >>= _) = _
      rw [hresult]
      rfl

end Authentication

/-! ### Over a database and over a table -/

variable {κ : Type} (cache : Instant → (c : Cache.Command) → κ → c.Outcome × κ)

theorem transacting_database (store : κ × Users.Relational) :
    Transacting (overDatabase cache) store store.2.verdict store.2.users where
  begin := Users.Relational.fst_perform 0 .begin store.2
  select h := (Users.Relational.find_begun h 0).2
  commit h id := by
    have hopen : ((store.2.perform 0 .begin).2.perform 0 (.findById id)).2.units.isOpen 0 = true :=
      (Users.Relational.isOpen_perform_self 0 (.findById id) _).trans
        (isOpen_begun_relational 0 h)
    have halike := (Users.Relational.alike_perform 0 .begin store.2).trans
      (Users.Relational.alike_perform 0 (.findById id) _)
    show (Users.Relational.perform 0 .commit _).1 = _
    rw [Users.Relational.fst_perform, ← Users.Relational.verdict_congr halike.faults .commit]
    exact if_pos hopen

/-- In memory no statement is refused. -/
theorem transacting_table (store : κ × Users.Memory) :
    Transacting (overTable cache) store (fun _ => .ok ()) store.2.users where
  begin := rfl
  select _ id := by
    have hopen : (store.2.perform 0 .begin).2.units.isOpen 0 = true :=
      Users.Memory.isOpen_perform_self 0 .begin store.2
    refine ((Users.Memory.find_of_isOpen hopen).2 id).trans ?_
    rw [Users.Memory.users_perform]
    rfl
  commit _ _ := rfl

end Service

end SessionAuth
