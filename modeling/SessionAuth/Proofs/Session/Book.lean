/-
The sessions of all users, without the cache.

A book has an account for every user.  `Book.Serves` says what a request is answered with
and what it does to the book, in terms of accounts: there are no keys, no stored texts
and no commands.  The theorem is that requests that are served one after the other, by a
service that keeps its lists in memory, are answered as the book says, and that the lists
are those of the book afterwards.

Three things have to be kept to carry this from one request to the next (`Agrees`).  No
account is longer than allowed, so that the session which a refresh adds never drops the
others.  No token is in an account twice, so that a stored text is that of one session.
And tokens hold no colon, so that a stored text tells its session.
-/
import SessionAuth.Proofs.Service.Schedule
import SessionAuth.Proofs.Session.Account

namespace SessionAuth.Service

open Session (Registry Fingerprint Account)

/-! ### Books -/

/-- The account of every user. -/
abbrev Book := UserId → Account

/-- The book with another account for one user. -/
def Book.set (book : Book) (user : UserId) (a : Account) : Book :=
  fun other => if other = user then a else book other

/-- Tokens for a user that are made at a second; they hold for the lifetime of refresh tokens. -/
structure Grants (s : Service) (user : UserId) (now : Int) (tokens : IssuedTokens) : Prop where
  issues : s.Issues Entropy.bits user (.ofSeconds now) tokens
  expiresAt : tokens.expiresAt = .ofSeconds (now + s.codec.refreshLifetime.seconds)
  maxAge : tokens.maxAge = s.codec.refreshLifetime.seconds

/--
What a request is answered with at a second, and what it does to the book.  Only a session
that counts, and whose fingerprint does not end in a colon, can be used up.
-/
inductive Book.Serves (s : Service) (users : List User) (now : Int) :
    Request → Book → Answer → Book → Prop
  | loginRefused {login : String} {password : Password.ClearText} {f : Fingerprint} {book : Book}
      {e : AuthError} (hverified : s.verified users login password = .error e) :
    Serves s users now (.login login password f) book (.error e) book
  | loggedIn {login : String} {password : Password.ClearText} {f : Fingerprint} {book : Book}
      {user : User} {tokens : IssuedTokens} (hverified : s.verified users login password = .ok user)
      (htokens : s.Grants user.id now tokens) :
    Serves s users now (.login login password f) book (.ok (some tokens))
      (book.set user.id (((book user.id).clearFull now s.registry.maxSessions).add now
        s.codec.refreshLifetime.seconds (f, tokens.refresh)))
  | refreshRefused {f : Fingerprint} {token : String} {book : Book} {e : AuthError}
      (hbearer : s.bearer users (.ofSeconds now) token = .error e) :
    Serves s users now (.refresh f token) book (.error e) book
  | refreshed {f : Fingerprint} {token : String} {book : Book} {user : User} {tokens : IssuedTokens}
      (hbearer : s.bearer users (.ofSeconds now) token = .ok user)
      (hmem : (f, token) ∈ (book user.id).unexpired now) (hcolon : f.endsInColon = false)
      (htokens : s.Grants user.id now tokens) :
    Serves s users now (.refresh f token) book (.ok (some tokens))
      (book.set user.id (((book user.id).without (f, token)).add now
        s.codec.refreshLifetime.seconds (f, tokens.refresh)))
  | revoked {f : Fingerprint} {token : String} {book : Book} {user : User}
      (hbearer : s.bearer users (.ofSeconds now) token = .ok user)
      (hnot : ¬ ((f, token) ∈ (book user.id).unexpired now ∧ f.endsInColon = false)) :
    Serves s users now (.refresh f token) book (.error .sessionRevoked) (book.set user.id {})
  | logoutRefused {token : String} {book : Book} {e : AuthError}
      (hbearer : s.bearer users (.ofSeconds now) token = .error e) :
    Serves s users now (.logout token) book (.error e) book
  | loggedOut {f : Fingerprint} {token : String} {book : Book} {user : User}
      (hbearer : s.bearer users (.ofSeconds now) token = .ok user)
      (hmem : (f, token) ∈ (book user.id).unexpired now) (hcolon : f.endsInColon = false) :
    Serves s users now (.logout token) book (.ok none)
      (book.set user.id ((book user.id).without (f, token)))
  | unknown {token : String} {book : Book} {user : User}
      (hbearer : s.bearer users (.ofSeconds now) token = .ok user)
      (hnot : ∀ f, (f, token) ∈ (book user.id).unexpired now → f.endsInColon = true) :
    Serves s users now (.logout token) book (.error .unknownToken) book

/-- Requests at their seconds, served one after the other. -/
inductive Book.Runs (s : Service) (users : List User) :
    List (Int × Request) → Book → List Answer → Book → Prop
  | nil {book : Book} : Runs s users [] book [] book
  | cons {now : Int} {q : Request} {calls : List (Int × Request)} {book next last : Book}
      {answer : Answer} {answers : List Answer}
      (hserves : Serves s users now q book answer next)
      (hruns : Runs s users calls next answers last) :
    Runs s users ((now, q) :: calls) book (answer :: answers) last

/-! ### The service -/

/-- Serves requests at their seconds one after the other. -/
def serveAll (s : Service) : List (Int × Request) → World Store → List Answer × World Store
  | [], w => ([], w)
  | (now, q) :: calls, w =>
    let (answer, w) := inMemory.runCall (s.serve q) { w with now := .ofSeconds now }
    let (answers, w) := s.serveAll calls w
    (answer :: answers, w)

/-- The new refresh token in an answer. -/
def newToken? : Answer → Option String
  | .ok (some tokens) => some tokens.refresh
  | _ => none

/-- Logging out gives no token. -/
theorem newToken?_logout (s : Service) (token : String) (w : World Store) :
    newToken? (inMemory.runCall (s.serve (.logout token)) w).1 = none := by
  unfold Backend.runCall Backend.run Service.serve
  rw [ExceptT.run_bind, Program.bind_eq, Program.run_bind]
  cases (Program.run (inMemory.handle 0) (s.logout token).run w).1 <;> rfl

/-- Of a request and a logout after it only the first one can give a token. -/
theorem nodup_newToken?_pair (s : Service) (now later : Int) (q : Request) (token : String)
    (w : World Store) :
    ((s.serveAll [(now, q), (later, .logout token)] w).1.filterMap newToken?).Nodup := by
  simp only [serveAll, List.filterMap_cons, newToken?_logout, List.filterMap_nil]
  split
  · exact List.nodup_nil
  · exact List.nodup_singleton _

/-- The list of a user is that of the account at a second, and the account is in order. -/
structure Agrees (s : Service) (used : List String) (m : Cache.Memory) (now : Int) (user : UserId)
    (a : Account) : Prop where
  list : m.live? (.ofSeconds now) (Registry.key user) = a.held now
  cap : a.sessions.length ≤ s.registry.maxSessions
  nodup : (a.sessions.map Prod.snd).Nodup
  /-- Every token was given out before. -/
  used : ∀ session ∈ a.sessions, session.2 ∈ used
  colon : ∀ session ∈ a.sessions, ':' ∉ session.2.toList

/-- The lists of all users are those of the book. -/
def Book.Agrees (s : Service) (book : Book) (used : List String) (w : World Store) (now : Int) :
    Prop :=
  ∀ user, s.Agrees used w.store.1 now user (book user)

variable {s : Service} {book : Book} {used used' : List String} {w w' : World Store}
  {now : Int} {user : UserId} {a : Account} {m : Cache.Memory} {f : Fingerprint}
  {token : String} {tokens : IssuedTokens}

/-! ### Keeping the agreement -/

/-- Time takes away from the lists what it takes away from the accounts. -/
theorem Book.Agrees.later {last : Int} (h : book.Agrees s used w now) (hle : now ≤ last) :
    book.Agrees s used w last := by
  intro user
  have hnanos : (Instant.ofSeconds now).nanos ≤ (Instant.ofSeconds last).nanos :=
    Int.mul_le_mul_of_nonneg_right hle (by decide)
  refine ⟨?_, (h user).cap, (h user).nodup, (h user).used, (h user).colon⟩
  rw [Cache.Memory.live?_later hnanos, (h user).list, ← Account.held_later hle]

theorem Book.Agrees.settled (h : book.Agrees s used w now) (hsettled : Settled w w') :
    book.Agrees s used w' now := by
  unfold Book.Agrees
  rw [hsettled.lists]
  exact h

/-- A change to the list of one user is a change to one account. -/
theorem Book.Agrees.set (h : book.Agrees s used w now) (hself : s.Agrees used' m now user a)
    (hother : ∀ key, key ≠ Registry.key user →
      m.live? (.ofSeconds now) key = w.store.1.live? (.ofSeconds now) key)
    (hsub : used ⊆ used') : (book.set user a).Agrees s used' (withCache w m) now := by
  intro other
  unfold Book.set
  by_cases ho : other = user
  · rw [if_pos ho, ho]
    exact hself
  · rw [if_neg ho]
    have hkey : Registry.key other ≠ Registry.key user := fun heq => ho (Registry.key_inj heq)
    refine ⟨(hother _ hkey).trans (h other).list, (h other).cap, (h other).nodup,
      fun session hs => hsub ((h other).used session hs), (h other).colon⟩

/-! ### Accounts that are changed -/

/-- An account in which nothing is left is in order. -/
theorem Agrees.drop : s.Agrees used ⟨m.lists.erase (Registry.key user)⟩ now user {} :=
  ⟨Account.live?_erase, Nat.zero_le _, List.nodup_nil, nofun, nofun⟩

/-- Taking out the text of a session ends this session. -/
theorem Agrees.remove {session : Fingerprint × String} (h : s.Agrees used m now user a)
    (hmem : session ∈ a.unexpired now) :
    s.Agrees used (m.remove (.ofSeconds now) (Registry.key user) (Registry.stored session)).2 now
      user (a.without session) := by
  have hsub : (a.without session).sessions.Sublist a.sessions := List.erase_sublist
  refine ⟨Account.live?_remove h.list hmem h.colon h.nodup, Nat.le_trans hsub.length_le h.cap,
    h.nodup.sublist (hsub.map _), fun other ho => h.used other (hsub.subset ho),
    fun other ho => h.colon other (hsub.subset ho)⟩

/-- Adding a session with a token that was not given out before keeps the account in order. -/
theorem Agrees.register {seconds : Nat} (h : s.Agrees used m now user a) (hpos : 1 ≤ seconds)
    (hmax : 1 ≤ s.registry.maxSessions) (hnew : token ∉ used) (hcolon : ':' ∉ token.toList) :
    s.Agrees (token :: used)
      (registered s.registry (.ofSeconds now) (Registry.key user) (Registry.stored (f, token))
        seconds m) now user
      ((a.clearFull now s.registry.maxSessions).add now seconds (f, token)) := by
  have hsub : ((a.clearFull now s.registry.maxSessions).unexpired now).Sublist a.sessions :=
    Account.clearFull_sublist
  refine ⟨Account.live?_registered h.list hpos, ?_, ?_, ?_, ?_⟩
  · exact Account.length_clearFull hmax
  · refine List.nodup_cons.mpr ⟨fun hmem => ?_, h.nodup.sublist (hsub.map _)⟩
    obtain ⟨session, hs, heq⟩ := List.mem_map.mp hmem
    obtain rfl : session.2 = token := heq
    exact hnew (h.used session (hsub.subset hs))
  · intro session hs
    rcases List.mem_cons.mp hs with rfl | hs
    · exact List.mem_cons_self
    · exact List.mem_cons_of_mem _ (h.used session (hsub.subset hs))
  · intro session hs
    rcases List.mem_cons.mp hs with rfl | hs
    · exact hcolon
    · exact h.colon session (hsub.subset hs)

/-! ### Tokens -/

/-- Tokens that are issued when a second begins hold for whole seconds from then. -/
theorem Issues.grants {user : UserId} (h : s.Issues Entropy.bits user (.ofSeconds now) tokens) :
    s.Grants user now tokens ∧ 1 ≤ tokens.maxAge ∧ ':' ∉ tokens.refresh.toList := by
  obtain ⟨id, noise, hmint⟩ := h.refresh
  obtain ⟨hpositive, hexpires, _⟩ := Token.Codec.mint_eq_ok hmint
  have hlifetime : s.codec.lifetimeSeconds (some .refresh) {} =
      (s.codec.refreshLifetime.seconds : Int) := rfl
  rw [hlifetime, Instant.seconds_ofSeconds] at hexpires
  rw [hlifetime] at hpositive
  have hmaxAge : tokens.maxAge = s.codec.refreshLifetime.seconds := by
    rw [h.maxAge, hexpires]
    unfold Instant.secondsUntil Instant.millisUntil Instant.ofSeconds nanosPerSecond nanosPerMilli
    simp only
    omega
  exact ⟨⟨h, hexpires, hmaxAge⟩, by omega, Token.Codec.colon_notMem_of_mint hmint⟩

/-! ### One request -/

/-- The request is answered as the book says, and the lists are those of the book afterwards. -/
def Refines (s : Service) (book : Book) (used : List String) (w : World Store) (now : Int)
    (q : Request) : Prop :=
  ∃ answer w', Alone Entropy.bits 0 (s.serve q) w answer w' ∧ w'.store.2.users = w.store.2.users ∧
    ((∀ token, newToken? answer = some token → token ∉ used) →
      ∃ next, Book.Serves s w.store.2.users now q book answer next ∧
        next.Agrees s ((newToken? answer).toList ++ used) w' now)

variable {q : Request}

/-- A request that changes no list. -/
theorem Refines.of_settled {answer : Answer} (h : book.Agrees s used w now)
    (halone : ∃ w', Alone Entropy.bits 0 (s.serve q) w answer w' ∧ Settled w w')
    (hnew : newToken? answer = none)
    (hserves : Book.Serves s w.store.2.users now q book answer book) :
    s.Refines book used w now q := by
  obtain ⟨w', halone, hsettled⟩ := halone
  refine ⟨answer, w', halone, hsettled.users, fun _ => ⟨book, hserves, ?_⟩⟩
  rw [hnew]
  exact h.settled hsettled

/-- A request that changes the list of one user. -/
theorem Refines.of_change {answer : Answer} (h : book.Agrees s used w now)
    (halone : ∃ w', Alone Entropy.bits 0 (s.serve q) w answer w' ∧ Settled (withCache w m) w')
    (hother : ∀ key, key ≠ Registry.key user →
      m.live? (.ofSeconds now) key = w.store.1.live? (.ofSeconds now) key)
    (hself : (∀ token, newToken? answer = some token → token ∉ used) →
      s.Agrees ((newToken? answer).toList ++ used) m now user a)
    (hserves : Book.Serves s w.store.2.users now q book answer (book.set user a)) :
    s.Refines book used w now q := by
  obtain ⟨w', halone, hsettled⟩ := halone
  refine ⟨answer, w', halone, hsettled.users, fun hfresh => ⟨book.set user a, hserves, ?_⟩⟩
  exact (h.set (hself hfresh) hother (List.subset_append_right _ _)).settled hsettled

theorem live?_registered_ne {r : Registry} {at_ : Instant} {key raw other : String} {seconds : Nat}
    (hother : other ≠ key) :
    (registered r at_ key raw seconds m).live? at_ other = m.live? at_ other := by
  unfold registered
  rw [Cache.Memory.live?_push_ne hother]
  split
  · exact Cache.Memory.live?_erase_ne hother
  · rfl

/-- The list of a user is read as the sessions that count. -/
theorem Book.Agrees.sessions_eq (h : book.Agrees s used w now) (hnow : w.now = .ofSeconds now)
    (user : UserId) :
    sessions w (Registry.key user) = ((book user).unexpired now).map Registry.stored := by
  unfold sessions
  rw [hnow]
  exact Account.values_of_held (h user).list

theorem Book.Agrees.login (h : book.Agrees s used w now) (hnow : w.now = .ofSeconds now)
    (hmax : 1 ≤ s.registry.maxSessions) (hmint : ∀ user, s.CanMint user w.now) (login : String)
    (password : Password.ClearText) (f : Fingerprint) :
    s.Refines book used w now (.login login password f) := by
  cases hverified : s.verified w.store.2.users login password with
  | error e =>
    exact .of_settled h (Alone.login_refused hverified) rfl (.loginRefused hverified)
  | ok user =>
    obtain ⟨tokens, hissues, halone⟩ := Alone.login_ok Entropy.bits 0 f hverified (hmint user.id)
    rw [hnow] at hissues halone
    obtain ⟨hgrants, hpos, hcolon⟩ := hissues.grants
    refine .of_change h halone (fun key hkey => live?_registered_ne hkey) (fun hfresh => ?_)
      (.loggedIn hverified hgrants)
    rw [← hgrants.maxAge]
    exact (h user.id).register hpos hmax (hfresh _ rfl) hcolon

theorem Book.Agrees.refresh (h : book.Agrees s used w now) (hnow : w.now = .ofSeconds now)
    (hmax : 1 ≤ s.registry.maxSessions) (hmint : ∀ user, s.CanMint user w.now) (f : Fingerprint)
    (token : String) : s.Refines book used w now (.refresh f token) := by
  cases hbearer : s.bearer w.store.2.users (.ofSeconds now) token with
  | error e =>
    have hrefused := hnow ▸ hbearer
    exact .of_settled h (Alone.refresh_refused hrefused) rfl (.refreshRefused hbearer)
  | ok user =>
    have hknown : s.bearer w.store.2.users w.now token = .ok user := hnow ▸ hbearer
    have hhead := (names_of_bearer hbearer).head?_ne
    have hlist := h.sessions_eq hnow user.id
    by_cases hfound : (f, token) ∈ (book user.id).unexpired now ∧ f.endsInColon = false
    · -- The session is replaced; there is room for the new one since the old one is gone.
      obtain ⟨hmem, hreads⟩ := hfound
      have hfind := Registry.find?_stored hhead hmem hreads
      rw [← hlist] at hfind
      obtain ⟨tokens, hissues, halone⟩ :=
        Alone.refresh_found Entropy.bits 0 hknown hfind (hmint user.id)
      rw [hnow] at hissues halone
      obtain ⟨hgrants, hpos, hcolon⟩ := hissues.grants
      have hroom : (((book user.id).without (f, token)).unexpired now).length <
          s.registry.maxSessions := by
        rw [Account.unexpired_without, List.length_erase_of_mem hmem]
        have hlength := ((book user.id).unexpired_sublist now).length_le
        have hcap := (h user.id).cap
        have hpos := List.length_pos_of_mem hmem
        omega
      refine .of_change h halone (fun key hkey => ?_) (fun hfresh => ?_)
        (.refreshed hbearer hmem hreads hgrants)
      · rw [live?_registered_ne hkey, Cache.Memory.live?_remove_ne hkey]
      · have hregister :=
          ((h user.id).remove hmem).register (f := f) hpos hmax (hfresh _ rfl) hcolon
        rw [Account.clearFull_of_lt hroom, hgrants.maxAge] at hregister
        rw [hgrants.maxAge]
        exact hregister
    · have hnone : Registry.find? f.text token (sessions w (Registry.key user.id)) = none := by
        cases hfind : Registry.find? f.text token (sessions w (Registry.key user.id)) with
        | none => rfl
        | some raw =>
          rw [hlist] at hfind
          obtain ⟨hmem, hreads, _⟩ := Registry.stored_of_find? hhead hfind
          exact absurd ⟨hmem, hreads⟩ hfound
      by_cases hempty : sessions w (Registry.key user.id) = []
      · -- Nothing is dropped, since there is nothing that counts.
        have hunexpired : (book user.id).unexpired now = [] := by
          rw [hlist] at hempty
          exact List.map_eq_nil_iff.mp hempty
        have hgone : s.Agrees used w.store.1 now user.id {} := by
          refine ⟨?_, Nat.zero_le _, List.nodup_nil, nofun, nofun⟩
          rw [(h user.id).list]
          unfold Account.held
          rw [if_pos hunexpired, if_pos (Account.unexpired_empty now)]
        exact .of_change h (Alone.refresh_empty hknown hempty) (fun _ _ => rfl) (fun _ => hgone)
          (.revoked hbearer hfound)
      · exact .of_change h (Alone.refresh_unknown hknown hempty hnone)
          (fun key hkey => Cache.Memory.live?_erase_ne hkey) (fun _ => .drop)
          (.revoked hbearer hfound)

theorem Book.Agrees.logout (h : book.Agrees s used w now) (hnow : w.now = .ofSeconds now)
    (token : String) : s.Refines book used w now (.logout token) := by
  cases hbearer : s.bearer w.store.2.users (.ofSeconds now) token with
  | error e =>
    have hrefused := hnow ▸ hbearer
    exact .of_settled h (Alone.logout_refused hrefused) rfl (.logoutRefused hbearer)
  | ok user =>
    have hknown : s.bearer w.store.2.users w.now token = .ok user := hnow ▸ hbearer
    have hhead := (names_of_bearer hbearer).head?_ne
    have hlist := h.sessions_eq hnow user.id
    by_cases hfound : ∃ f, (f, token) ∈ (book user.id).unexpired now ∧ f.endsInColon = false
    · obtain ⟨f, hmem, hreads⟩ := hfound
      have hnodup := (h user.id).nodup.sublist
        (((book user.id).unexpired_sublist now).map Prod.snd)
      have hfind := Registry.findToken?_stored hhead hmem hreads hnodup
      rw [← hlist] at hfind
      have halone := Alone.logout_found Entropy.bits 0 hknown hfind
      rw [hnow] at halone
      exact .of_change h halone (fun key hkey => Cache.Memory.live?_remove_ne hkey)
        (fun _ => (h user.id).remove hmem) (.loggedOut hbearer hmem hreads)
    · have hnone : Registry.findToken? token (sessions w (Registry.key user.id)) = none := by
        cases hfind : Registry.findToken? token (sessions w (Registry.key user.id)) with
        | none => rfl
        | some raw =>
          rw [hlist] at hfind
          obtain ⟨⟨f, _⟩, hmem, hreads, rfl, _⟩ := Registry.stored_of_findToken? hhead hfind
          exact absurd ⟨f, hmem, hreads⟩ hfound
      refine .of_settled h (Alone.logout_unknown hknown hnone) rfl
        (.unknown hbearer fun f hmem => ?_)
      cases hreads : f.endsInColon with
      | true => rfl
      | false => exact absurd ⟨f, hmem, hreads⟩ hfound

/-- Every request is answered as the book says. -/
theorem Book.Agrees.serve (h : book.Agrees s used w now) (hnow : w.now = .ofSeconds now)
    (hmax : 1 ≤ s.registry.maxSessions) (hmint : ∀ user, s.CanMint user w.now) (q : Request) :
    s.Refines book used w now q := by
  cases q with
  | login login password f => exact h.login hnow hmax hmint login password f
  | refresh f token => exact h.refresh hnow hmax hmint f token
  | logout token => exact h.logout hnow token

/-! ### All requests -/

/-- From a world whose lists are those of a book, all requests are answered as the book says. -/
theorem Book.Agrees.serveAll (calls : List (Int × Request)) (hmax : 1 ≤ s.registry.maxSessions)
    (h : book.Agrees s used w now) (hsorted : (now :: calls.map Prod.fst).Pairwise (· ≤ ·))
    (hmint : ∀ call ∈ calls, ∀ user, s.CanMint user (.ofSeconds call.1))
    (hfresh : ((s.serveAll calls w).1.filterMap newToken?).Nodup)
    (hunused : ∀ token ∈ (s.serveAll calls w).1.filterMap newToken?, token ∉ used) :
    ∃ last used', Book.Runs s w.store.2.users calls book (s.serveAll calls w).1 last ∧
      ∀ later, (∀ second ∈ now :: calls.map Prod.fst, second ≤ later) →
        last.Agrees s used' (s.serveAll calls w).2 later := by
  induction calls generalizing book used w now with
  | nil => exact ⟨book, used, .nil, fun last hlast => h.later (hlast now List.mem_cons_self)⟩
  | cons call calls ih =>
    obtain ⟨second, q⟩ := call
    rw [List.map_cons, List.pairwise_cons] at hsorted
    have hle : now ≤ second := hsorted.1 second List.mem_cons_self
    have hbefore : book.Agrees s used { w with now := .ofSeconds second } second := h.later hle
    obtain ⟨answer, w₁, halone, husers, hserve⟩ :=
      hbefore.serve rfl hmax (hmint _ List.mem_cons_self) q
    have hfirst : s.serveAll ((second, q) :: calls) w =
        (answer :: (s.serveAll calls w₁).1, (s.serveAll calls w₁).2) := by
      have hcall : inMemory.runCall (s.serve q) { w with now := .ofSeconds second } =
          (answer, w₁) := by
        unfold Alone at halone
        rw [handleWith_bits] at halone
        exact halone
      rw [Service.serveAll, hcall]
    have htokens : (answer :: (s.serveAll calls w₁).1).filterMap newToken? =
        (newToken? answer).toList ++ (s.serveAll calls w₁).1.filterMap newToken? := by
      cases hnew : newToken? answer <;> simp [hnew]
    rw [hfirst] at hfresh hunused ⊢
    rw [htokens] at hfresh hunused
    obtain ⟨_, hrest, hapart⟩ := List.nodup_append.mp hfresh
    obtain ⟨next, hserves, hnext⟩ := hserve fun token hnew =>
      hunused token (List.mem_append_left _ (by rw [hnew]; exact List.mem_cons_self))
    have hunused' : ∀ token ∈ (s.serveAll calls w₁).1.filterMap newToken?,
        token ∉ (newToken? answer).toList ++ used := by
      intro token hmem hold
      rcases List.mem_append.mp hold with hnew | hold
      · exact hapart token hnew token hmem rfl
      · exact hunused token (List.mem_append_right _ hmem) hold
    obtain ⟨last, used', hruns, hlast⟩ := ih hnext hsorted.2
      (fun call hcall => hmint call (List.mem_cons_of_mem _ hcall)) hrest hunused'
    rw [husers] at hruns
    refine ⟨last, used', .cons hserves hruns, fun later hlater => ?_⟩
    exact hlast later fun at_ hat => hlater at_ (List.mem_cons_of_mem _ hat)

/--
**Requests that are served one after the other do to the lists in the cache what they do to
accounts.**  The cache is empty at first, the clock stands at whole seconds and never goes
back, tokens can be made at every second of a request, and no two new refresh tokens are
the same.  Then all answers are those of the book, and from the last request on the list
of every user is that of his account.
-/
theorem serveAll_refines (s : Service) (calls : List (Int × Request)) (w : World Store)
    (hmax : 1 ≤ s.registry.maxSessions) (hempty : w.store.1 = {})
    (hclock : (calls.map Prod.fst).Pairwise (· ≤ ·))
    (hmint : ∀ call ∈ calls, ∀ user, s.CanMint user (.ofSeconds call.1))
    (hfresh : ((s.serveAll calls w).1.filterMap newToken?).Nodup) :
    ∃ book, Book.Runs s w.store.2.users calls (fun _ => {}) (s.serveAll calls w).1 book ∧
      ∀ user later, (∀ second ∈ calls.map Prod.fst, second ≤ later) →
        (s.serveAll calls w).2.store.1.live? (.ofSeconds later) (Registry.key user) =
          (book user).held later := by
  -- The lists are those of the empty book at any second, so also when the requests begin.
  have hstart : ∀ now, Book.Agrees s (fun _ => {}) [] w now := by
    intro now user
    refine ⟨?_, Nat.zero_le _, List.nodup_nil, nofun, nofun⟩
    rw [hempty]
    unfold Account.held
    rw [if_pos (Account.unexpired_empty now)]
    rfl
  cases calls with
  | nil => exact ⟨fun _ => {}, .nil, fun user later _ => (hstart later user).list⟩
  | cons call calls =>
    have hsorted : (call.1 :: (call :: calls).map Prod.fst).Pairwise (· ≤ ·) := by
      refine List.pairwise_cons.mpr ⟨fun second hmem => ?_, hclock⟩
      rcases List.mem_cons.mp hmem with rfl | hmem
      · exact Int.le_refl _
      · exact (List.pairwise_cons.mp hclock).1 second hmem
    obtain ⟨book, used, hruns, hagrees⟩ := (hstart call.1).serveAll (call :: calls) hmax hsorted
      hmint hfresh fun _ _ => List.not_mem_nil
    refine ⟨book, hruns, fun user later hlater => (hagrees later (fun second hmem => ?_) user).list⟩
    rcases List.mem_cons.mp hmem with rfl | hmem
    · exact hlater _ List.mem_cons_self
    · exact hlater second hmem

theorem serveAll_refines_login : ∃ book,
    Book.Runs (Sample.service 1) [Sample.ada] Sample.calls (fun _ => {})
      ((Sample.service 1).serveAll Sample.calls Sample.world).1 book ∧
    ∀ user later, 60 ≤ later →
      ((Sample.service 1).serveAll Sample.calls Sample.world).2.store.1.live? (.ofSeconds later)
        (Registry.key user) = (book user).held later := by
  have hseconds : ∀ call ∈ Sample.calls, 0 ≤ call.1 ∧ call.1 ≤ 60 := by
    intro call hcall
    rcases List.mem_pair.mp hcall with rfl | rfl <;> decide
  have hmint : ∀ call ∈ Sample.calls, ∀ user,
      (Sample.service 1).CanMint user (.ofSeconds call.1) := by
    intro call hcall user
    have hcall := hseconds call hcall
    exact Sample.canMint user hcall.1 (by omega)
  have hfresh : (((Sample.service 1).serveAll Sample.calls Sample.world).1.filterMap
      newToken?).Nodup := nodup_newToken?_pair _ _ _ _ _ _
  obtain ⟨book, hruns, hlists⟩ := serveAll_refines (Sample.service 1) Sample.calls Sample.world
    (Nat.le_refl 1) rfl (by simp [Sample.calls]) hmint hfresh
  refine ⟨book, hruns, fun user later hlater => hlists user later fun second hsecond => ?_⟩
  obtain ⟨call, hcall, rfl⟩ := List.mem_map.mp hsecond
  exact Int.le_trans (hseconds call hcall).2 hlater

end SessionAuth.Service
