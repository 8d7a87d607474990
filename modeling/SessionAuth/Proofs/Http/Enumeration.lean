/-
Logins that are turned away.

Whoever tries out logins should not learn which of them exist.  Two requests are compared, one
with a login that nobody has and one with the login of a user whom the password does not let
in, be it because it is another password or because the stored hash is no hash at all.  The two
are carried out side by side.  They begin a transaction, they look up one login each, and from
then on there is nothing but the same error on both sides (`credentials_turnedAway`); so they
roll back, report the same and respond the same.  The cache is never asked.

What the store of users makes of it is a relation that is kept: a database has received the
same statements but for the login in one of them, and a table in memory is the same table.
What is refused does not matter, as long as it is refused to both.
-/
import SessionAuth.Password.Hasher
import SessionAuth.Proofs.Http.Response
import SessionAuth.Proofs.Service.Transaction
import SessionAuth.Proofs.Users.Beside

namespace SessionAuth.Http

open Session (Fingerprint)
open Service (overDatabase overTable)

variable {s : Service} {login login' : String} {password password' : Password.ClearText}

/-! ### Two logins side by side -/

/-- The first look-up found nobody, and the second one somebody whom the password rejects. -/
def NobodyOrRejected (s : Service) (password' : Password.ClearText) (found found' : Option User) :
    Prop :=
  found = none ∧ ∃ user, found' = some user ∧ s.verify user.passwordHash password' = false

/-- What may stand side by side: each looks its own login up, otherwise they do the same. -/
inductive LooksUp (login login' : String) : Effect → Effect → Prop
  | ownLogin : LooksUp login login' (.users (.findByLogin login)) (.users (.findByLogin login'))
  | unit {c : Users.Command} (h : c = .begin ∨ c = .commit ∨ c = .rollback) :
    LooksUp login login' (.users c) (.users c)
  | log (event : Event) : LooksUp login login' (.log event) (.log event)

/-- What two such commands may be replied. -/
def lookedUp (s : Service) (password' : Password.ClearText) :
    (c c' : Effect) → c.Reply → c'.Reply → Prop
  | .users (.findByLogin _), .users (.findByLogin _), reply, reply' =>
    Matched Eq (NobodyOrRejected s password') reply reply'
  | .users .begin, .users .begin, reply, reply' => reply' = reply
  | .users .commit, .users .commit, reply, reply' => reply' = reply
  | .users .rollback, .users .rollback, reply, reply' => reply' = reply
  | _, _, _, _ => True

/-- Two logins that do not get in. -/
def turnedAway (s : Service) (login login' : String) (password' : Password.ClearText) :
    Coupling Effect Effect.Reply where
  asks := LooksUp login login'
  replies := lookedUp s password'

theorem framed_turnedAway : (turnedAway s login login' password').Framed Eq where
  begins := .unit (Or.inl rfl)
  commits := .unit (Or.inr (Or.inl rfl))
  rollsBack := .unit (Or.inr (Or.inr rfl))
  begun reply _ h := h ▸ .refl (fun _ => rfl) reply
  committed reply _ h := h ▸ .refl (fun _ => rfl) reply
  rolledBack reply _ h := h ▸ .refl (fun _ => rfl) reply
  reports _ _ h := h ▸ .log _

/-- Both fail with the same error: nobody is let in. -/
theorem credentials_turnedAway :
    Call.Coupled (turnedAway s login login' password') Eq (fun _ _ => False)
      (s.credentials login password) (s.credentials login' password') := by
  unfold Service.credentials
  have hlookUp : Call.Coupled (turnedAway s login login' password') Eq
      (NobodyOrRejected s password') (Call.userByLogin login) (Call.userByLogin login') :=
    .users LooksUp.ownLogin fun _ _ h => h
  refine hlookUp.bind ?_
  rintro _ _ ⟨rfl, user, rfl, hrejected⟩
  simp only [hrejected]
  exact .throw rfl

variable {api : Api} {r r' : Request} {body body' : LoginBody} {fingerprint fingerprint' : Fingerprint}

/-- The same response on both sides, and it tells of a problem. -/
def SameProblem (response response' : Response) : Prop :=
  response' = response ∧ ∃ e : AuthError, response = .problem e.problem

/-- **Two requests to log in that do not get in are in step up to the response.** -/
theorem handle_turnedAway (hr : r.IsLogin body fingerprint) (hr' : r'.IsLogin body' fingerprint') :
    Program.Coupled
      (turnedAway api.service body.login body'.login (.ofTyped body'.password))
      SameProblem (api.handle r) (api.handle r') := by
  have hlogin : Call.Coupled
      (turnedAway api.service body.login body'.login (.ofTyped body'.password)) Eq
      (fun _ _ => False) (api.service.login body.login (.ofTyped body.password) fingerprint)
      (api.service.login body'.login (.ofTyped body'.password) fingerprint') :=
    .inUnit framed_turnedAway (credentials_turnedAway.bind fun _ _ h => h.elim)
  rw [handle_login hr, handle_login hr']
  refine coupled_respond (hlogin.bind (S := fun _ _ => False) fun _ _ h => h.elim)
    (fun _ _ h => h.elim) ?_
  rintro e _ rfl
  exact ⟨.log _, rfl, e, rfl⟩

/-! ### Stores side by side -/

section Stores

variable {κ υ : Type} {cache : Instant → (c : Cache.Command) → κ → c.Outcome × κ}
  {users : Nat → (c : Users.Command) → υ → c.Outcome × υ} {Together : υ → υ → Prop}

/-- The worlds differ in their stores of users only, and the cache is still as it was. -/
structure Abreast (Together : υ → υ → Prop) (start left right : World (κ × υ)) : Prop where
  clock : right.now = left.now
  entropy : right.entropy = left.entropy
  events : right.events = left.events
  cache : left.store.1 = start.store.1
  cache' : right.store.1 = start.store.1
  users : Together left.store.2 right.store.2

/-- A store of users keeps two such logins apart from each other in nothing that is seen. -/
structure Hides (users : Nat → (c : Users.Command) → υ → c.Outcome × υ) (s : Service)
    (login login' : String) (password' : Password.ClearText) (Together : υ → υ → Prop) : Prop where
  unit : ∀ c m m', c = .begin ∨ c = .commit ∨ c = .rollback → Together m m' →
    (users 0 c m').1 = (users 0 c m).1 ∧ Together (users 0 c m).2 (users 0 c m').2
  ownLogin : ∀ m m', Together m m' →
    Matched Eq (NobodyOrRejected s password') (users 0 (.findByLogin login) m).1
        (users 0 (.findByLogin login') m').1 ∧
      Together (users 0 (.findByLogin login) m).2 (users 0 (.findByLogin login') m').2

/-- What is asked side by side is answered side by side. -/
theorem Hides.answers (h : Hides users s login login' password' Together) (start : World (κ × υ)) :
    Program.Answers (turnedAway s login login' password') ((Backend.paired cache users).handle 0)
      ((Backend.paired cache users).handle 0) (Abreast Together start) := by
  intro c c' left right hasks habreast
  cases hasks with
  | ownLogin =>
    obtain ⟨hreply, hafter⟩ := h.ownLogin _ _ habreast.users
    exact ⟨hreply, { habreast with users := hafter }⟩
  | unit hc =>
    obtain ⟨hreply, hafter⟩ := h.unit _ _ _ hc habreast.users
    refine ⟨?_, { habreast with users := hafter }⟩
    rcases hc with rfl | rfl | rfl
    all_goals exact hreply
  | log event =>
    exact ⟨trivial, { habreast with events := congrArg (· ++ [event]) habreast.events }⟩

/-- What two requests to log in have in common when neither gets in. -/
structure LooksAlike (b : Backend (κ × υ)) (api : Api) (r r' : Request) (w : World (κ × υ)) :
    Prop where
  response : (b.run (api.handle r') w).1 = (b.run (api.handle r) w).1
  setCookie : (b.run (api.handle r) w).1.setCookie = none
  events : (b.run (api.handle r') w).2.events = (b.run (api.handle r) w).2.events
  uncached : ∀ x ∈ (api.handle r).record (b.handle 0) w, ∀ c, x.command ≠ .cache c
  uncached' : ∀ x ∈ (api.handle r').record (b.handle 0) w, ∀ c, x.command ≠ .cache c
  cache : (b.run (api.handle r) w).2.store.1 = w.store.1
  cache' : (b.run (api.handle r') w).2.store.1 = w.store.1

/-- **Over a store that hides them two logins look alike**, and leave stores that belong together. -/
theorem looksAlike_of_hides
    (h : Hides users api.service body.login body'.login (.ofTyped body'.password) Together)
    {b : Backend (κ × υ)} (hb : b = .paired cache users)
    (hr : r.IsLogin body fingerprint) (hr' : r'.IsLogin body' fingerprint') {w : World (κ × υ)}
    (hstart : Together w.store.2 w.store.2) :
    LooksAlike b api r r' w ∧
      Together (b.run (api.handle r) w).2.store.2 (b.run (api.handle r') w).2.store.2 := by
  subst hb
  have hcoupled : Program.Coupled
      (turnedAway api.service body.login body'.login (.ofTyped body'.password)) SameProblem
      (api.handle r) (api.handle r') := handle_turnedAway hr hr'
  have habreast : Abreast Together w w w := ⟨rfl, rfl, rfl, rfl, rfl, hstart⟩
  have hanswers : Program.Answers
      (turnedAway api.service body.login body'.login (.ofTyped body'.password))
      ((Backend.paired cache users).handle 0) ((Backend.paired cache users).handle 0)
      (Abreast Together w) := h.answers w
  obtain ⟨⟨hresponse, e, hproblem⟩, hlast⟩ :=
    Backend.run_coupled hcoupled hanswers habreast
  have hrecord := hcoupled.record hanswers habreast
  have huncached : ∀ x x' : Exchange Effect Effect.Reply,
      (turnedAway api.service body.login body'.login (.ofTyped body'.password)).Pairs x x' →
        (∀ c, x.command ≠ .cache c) ∧ ∀ c, x'.command ≠ .cache c := by
    rintro ⟨c, reply⟩ ⟨c', reply'⟩ ⟨hasks, _⟩
    change LooksUp _ _ c c' at hasks
    cases hasks <;> exact ⟨fun _ => Effect.noConfusion, fun _ => Effect.noConfusion⟩
  refine ⟨?_, hlast.users⟩
  constructor
  case response => exact hresponse
  case setCookie => exact congrArg Response.setCookie hproblem
  case events => exact hlast.events
  case cache => exact hlast.cache
  case cache' => exact hlast.cache'
  case uncached =>
    exact (List.forall₂_and_left _ _ |>.mp (hrecord.imp fun x x' hx => ⟨(huncached x x' hx).1, hx⟩)).1
  case uncached' =>
    exact (List.forall₂_and_left _ _ |>.mp
      (hrecord.flip.imp fun x' x hx => ⟨(huncached x x' hx).2, hx⟩)).1

end Stores

/-! ### Over a database and over a table -/

/-- The statements are the same but for the login that is looked up. -/
def ButForLogin (login login' : String) (statement statement' : Users.Statement) : Prop :=
  statement' = statement ∨ statement = .byLogin login ∧ statement' = .byLogin login'

open Users (Relational)
open Users.Relational (Beside Conveys)

/-- A database with these users, beside one that has received the same but for the login. -/
def TogetherBut (login login' : String) (us : List User) (d d' : Relational) : Prop :=
  d.users = us ∧ Beside Eq (ButForLogin login login') d d'

theorem conveys_eq : Conveys Eq Eq := ⟨fun _ _ h => h ▸ rfl, rfl⟩

theorem hides_database {us : List User} {user : User} (hnobody : us.find? (·.hasLogin login) = none)
    (hsomebody : us.find? (·.hasLogin login') = some user)
    (hrejected : s.verify user.passwordHash password' = false) :
    Hides (fun unit c d => Relational.perform unit c d) s login login' password'
      (TogetherBut login login' us) where
  unit c d d' _ htogether := by
    obtain ⟨husers, hbeside⟩ := htogether
    obtain ⟨hreply, hafter⟩ := hbeside.perform conveys_eq (fun _ => Or.inl rfl) 0 c
    exact ⟨hreply.eq, (Users.Relational.alike_perform 0 c d).users.trans husers, hafter⟩
  ownLogin d d' htogether := by
    obtain ⟨husers, hbeside⟩ := htogether
    obtain ⟨hreply, hafter⟩ := hbeside.findByLogin conveys_eq 0 (Or.inr ⟨rfl, rfl⟩)
    refine ⟨hreply.mono ?_, (Users.Relational.alike_perform 0 _ d).users.trans husers, hafter⟩
    rintro found found' ⟨hfound, hfound'⟩
    rw [husers] at hfound hfound'
    exact ⟨hfound.trans hnobody, user, hfound'.trans hsomebody, hrejected⟩

theorem hides_table {us : List User} {user : User} (hnobody : us.find? (·.hasLogin login) = none)
    (hsomebody : us.find? (·.hasLogin login') = some user)
    (hrejected : s.verify user.passwordHash password' = false) :
    Hides (fun unit c m => Users.Memory.perform unit c m) s login login' password'
      (fun m m' => m' = m ∧ m.users = us) where
  unit c m m' _ htogether := by
    obtain ⟨rfl, husers⟩ := htogether
    exact ⟨rfl, rfl, (Users.Memory.users_perform 0 c m').trans husers⟩
  ownLogin m m' htogether := by
    obtain ⟨rfl, husers⟩ := htogether
    rw [Users.Memory.perform_findByLogin, Users.Memory.perform_findByLogin]
    refine ⟨?_, rfl, husers⟩
    unfold Users.Memory.perform
    dsimp only
    split
    · rw [husers]
      exact .ok ⟨hnobody, user, hsomebody, hrejected⟩
    · exact .error rfl

/-! ### What they are told -/

section Told

variable {σ : Type} {b : Backend σ} {w : World σ}

theorem runCall_credentials_nobody
    (hnobody : (b.users 0 (.findByLogin login) w.store).1 = .ok none) :
    ∃ w₁, b.runCall (s.credentials login password) w = (.error .invalidCredentials, w₁) := by
  have hlookUp : b.runCall (Call.userByLogin login) w =
      (.ok none, (b.handle 0 (.users (.findByLogin login)) w).2) := Prod.ext hnobody rfl
  unfold Service.credentials
  exact ⟨_, (Backend.runCall_bind_of_ok hlookUp).trans rfl⟩

/-- Where a transaction begins and nobody is found in it, the credentials are to blame. -/
theorem problem_of_nobody (hr : r.IsLogin body fingerprint)
    (hbegin : (b.users 0 .begin w.store).1 = .ok ())
    (hnobody : (b.users 0 (.findByLogin body.login) (b.users 0 .begin w.store).2).1 = .ok none) :
    (b.run (api.handle r) w).1 = .problem AuthError.invalidCredentials.problem := by
  have hwork : (Service.worked b api.service
      (.login body.login (.ofTyped body.password) fingerprint) 0 w).1 =
        .error .invalidCredentials := by
    obtain ⟨w₁, hcredentials⟩ : ∃ w₁, b.runCall
        (api.service.credentials body.login (.ofTyped body.password))
        (b.handle 0 (.users .begin) w).2 = (.error .invalidCredentials, w₁) :=
      runCall_credentials_nobody hnobody
    exact congrArg Prod.fst (Backend.runCall_bind_of_error hcredentials)
  have hstart : (b.handle 0 (.users .begin) w).1 = .ok () := hbegin
  obtain ⟨w₁, hlogin⟩ : ∃ w₁, b.runCall
      (api.service.login body.login (.ofTyped body.password) fingerprint) w =
        (.error .invalidCredentials, w₁) :=
    ⟨_, Prod.ext (Service.called_of_error hstart hwork).1 rfl⟩
  have hanswered : b.runCall (api.answered
      (api.service.login body.login (.ofTyped body.password) fingerprint)) w =
        (.error .invalidCredentials, w₁) := Backend.runCall_bind_of_error hlogin
  rw [handle_login hr, run_respond_of_error hanswered]

end Told

/-! ### All logins -/

/--
**Logins that are turned away look alike.**  Two requests to log in whose fingerprints are
accepted, one with a login that nobody has and one with the login of a user whose stored hash
and password do not belong together, are responded to with the same response and leave the same
log; they do not ask the cache for anything, and they leave the cache and the users as they
were.  A database has received the same statements from both, but for the login that is looked
up, and counts the same, whatever it refuses; a table in memory is the same afterwards.  What
they are told is that the credentials are wrong, unless a statement before that was refused.
-/
theorem logins_look_alike (hr : r.IsLogin body fingerprint) (hr' : r'.IsLogin body' fingerprint')
    {us : List User} {user : User} (hnobody : ∀ u ∈ us, u.hasLogin body.login = false)
    (hsomebody : us.find? (·.hasLogin body'.login) = some user)
    (hrejected : api.service.verify user.passwordHash (.ofTyped body'.password) = false)
    {κ : Type} (cache : Instant → (c : Cache.Command) → κ → c.Outcome × κ) :
    (∀ w : World (κ × Users.Relational), w.store.2.users = us →
      LooksAlike (overDatabase cache) api r r' w ∧
      ((overDatabase cache).run (api.handle r) w).2.store.2.users = us ∧
      Beside Eq (ButForLogin body.login body'.login)
        ((overDatabase cache).run (api.handle r) w).2.store.2
        ((overDatabase cache).run (api.handle r') w).2.store.2 ∧
      (w.store.2.verdict .begin = .ok () → w.store.2.verdict .select = .ok () →
        ((overDatabase cache).run (api.handle r) w).1 =
          .problem AuthError.invalidCredentials.problem)) ∧
    ∀ w : World (κ × Users.Memory), w.store.2.users = us →
      LooksAlike (overTable cache) api r r' w ∧
      ((overTable cache).run (api.handle r) w).2.store.2.users = us ∧
      ((overTable cache).run (api.handle r') w).2.store.2 =
        ((overTable cache).run (api.handle r) w).2.store.2 ∧
      ((overTable cache).run (api.handle r) w).1 =
        .problem AuthError.invalidCredentials.problem := by
  have hnone : us.find? (·.hasLogin body.login) = none := by
    refine List.find?_eq_none.mpr fun u hu => ?_
    rw [hnobody u hu]
    decide
  constructor
  · intro w husers
    obtain ⟨hlike, hkept, hbeside⟩ := looksAlike_of_hides (b := overDatabase cache)
      (hides_database hnone hsomebody hrejected) rfl hr hr'
      ⟨husers, .refl (fun _ => rfl) (fun _ => Or.inl rfl) w.store.2⟩
    refine ⟨hlike, hkept, hbeside, ?_⟩
    intro hbegin hselect
    refine problem_of_nobody hr ((Users.Relational.fst_perform 0 .begin w.store.2).trans hbegin) ?_
    refine ((Users.Relational.find_begun hbegin 0).1 body.login).trans ?_
    rw [hselect, husers, hnone]
    rfl
  · intro w husers
    obtain ⟨hlike, hsame, hkept⟩ := looksAlike_of_hides (b := overTable cache)
      (hides_table hnone hsomebody hrejected) rfl hr hr' ⟨rfl, husers⟩
    refine ⟨hlike, hkept, hsame, problem_of_nobody hr rfl ?_⟩
    have hopen : (w.store.2.perform 0 .begin).2.units.isOpen 0 = true :=
      Users.Memory.isOpen_perform_self 0 .begin w.store.2
    have hbegun : (w.store.2.perform 0 .begin).2.users = us :=
      (Users.Memory.users_perform 0 .begin w.store.2).trans husers
    refine ((Users.Memory.find_of_isOpen hopen).1 body.login).trans ?_
    rw [hbegun, hnone]

namespace Sample

/-- The service with the verifier that reads stored hashes. -/
def strictApi : Api :=
  ⟨{ Service.Sample.service 3 with verify := Password.Hasher.verify {} }, .session⟩

/-- A request to log in with a password. -/
def loginAs (json : String) : Request where
  method := "POST"
  target := "/v1/auth/login"
  headers := [("content-type", Bytes.ofText "application/json")]
  body := Bytes.ofText json

def eve : Request :=
  loginAs "\x7b\"login\":\"eve\",\"password\":\"guess\",\"fingerprint\":\"laptop\"\x7d"

def adaGuessed : Request :=
  loginAs "\x7b\"login\":\"ada\",\"password\":\"guess\",\"fingerprint\":\"laptop\"\x7d"

theorem isLogin_eve : eve.IsLogin ⟨"eve", "guess", "laptop"⟩ Service.Sample.fingerprint :=
  ⟨rfl, rfl, rfl, rfl⟩

theorem isLogin_adaGuessed :
    adaGuessed.IsLogin ⟨"ada", "guess", "laptop"⟩ Service.Sample.fingerprint :=
  ⟨rfl, rfl, rfl, rfl⟩

end Sample

/-- Nobody is called Eve, and the hash that is stored for Ada is none; a rollback is refused. -/
theorem logins_look_alike_eve :
    LooksAlike (overDatabase fun now c server => Cache.Remote.perform now c server)
        Sample.strictApi Sample.eve Sample.adaGuessed Service.Sample.refusing ∧
      ((overDatabase fun now c server => Cache.Remote.perform now c server).run
        (Sample.strictApi.handle Sample.eve) Service.Sample.refusing).1 =
          .problem AuthError.invalidCredentials.problem := by
  have hnobody : ∀ u ∈ [Service.Sample.ada], u.hasLogin "eve" = false := by
    intro u hu
    rw [List.mem_singleton.mp hu]
    rfl
  have hrejected : Sample.strictApi.service.verify Service.Sample.ada.passwordHash
      (.ofTyped "guess") = false := rfl
  obtain ⟨halike, _, _, htold⟩ := (logins_look_alike Sample.isLogin_eve Sample.isLogin_adaGuessed
    hnobody (List.find?_cons_of_pos (beq_iff_eq.mpr rfl)) hrejected
    fun now c server => Cache.Remote.perform now c server).1 Service.Sample.refusing rfl
  exact ⟨halike, htold rfl rfl⟩

end SessionAuth.Http
