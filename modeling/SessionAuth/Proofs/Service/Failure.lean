/-
What a failed call has done to the sessions.

A call works on two collaborators one after the other, and any of its commands can be
refused.  The transaction takes back nothing of what was done to the list server, so what
is left of a list depends on how far the call had come.  Here the commands of one kind may
be refused, each of them or only some, as an adversary likes (`failing`), and `LeftBy`
says for every kind what a call that fails with an error of the server can leave of the
list: the list as it was, the list without the session that was presented, an empty list
where there were too many sessions, or the list with a session whose token the call has made
and given to nobody.

A list may be read twice, and which of the readings was refused is not to be seen in the
list.  Therefore the calls keep a record of what they ask (`Progress`).

The statements go from the commands of the cache to the two operations that make tokens,
and each is stated with the end that it is wanted for.
-/
import SessionAuth.Proofs.Service.Course
import SessionAuth.Proofs.Service.Rejection
import SessionAuth.Proofs.Service.Schedule

namespace SessionAuth

/-- The seconds until a calendar date can always be sent to a list server. -/
theorem Instant.secondsUntil_le_longestTtl {now : Instant} {lifetime : Int}
    (hdate : Instant.firstSecond ≤ now.seconds)
    (hlast : now.seconds + lifetime ≤ Instant.lastSecond) :
    now.secondsUntil (.ofSeconds (now.seconds + lifetime)) ≤ Cache.longestTtl := by
  have hlongest : Cache.longestTtl = 9223372036854775 := by decide
  rw [hlongest]
  unfold Instant.secondsUntil Instant.millisUntil Instant.ofSeconds nanosPerMilli
  unfold Instant.seconds Instant.firstSecond Instant.lastSecond nanosPerSecond at *
  dsimp only at *
  omega

namespace Service

open Session (Registry Entry Fingerprint)

/-! ### Commands that may fail -/

/-- A kind of command that can be refused: statements of the database, requests to the server. -/
inductive Fragile
  | begin | select | commit | rollback
  | lrange | lrem | del | lpush | expire | exec
  deriving DecidableEq, Repr

namespace Fragile

/-- The kind of statement that is refused. -/
def statement? : Fragile → Option Users.StatementKind
  | begin => some .begin
  | select => some .select
  | commit => some .commit
  | rollback => some .rollback
  | _ => none

/-- The name of the requests that are refused. -/
def request? : Fragile → Option String
  | lrange => some "LRANGE"
  | lrem => some "LREM"
  | del => some "DEL"
  | lpush => some "LPUSH"
  | expire => some "EXPIRE"
  | exec => some "EXEC"
  | _ => none

end Fragile

/-- The world in which commands of one kind only are refused, with a line, if there is one. -/
def refusing (k : Fragile) (line : Option String) (w : World RemoteStore) : World RemoteStore :=
  { w with store :=
    ({ w.store.1 with faults := ⟨fun name => if k.request? = some name then line else none⟩ },
      { w.store.2 with faults := ⟨fun kind => if k.statement? = some kind then line else none⟩ }) }

/--
Calls during which commands of one kind are refused or not, anew for every command; how is
chosen among some possibilities.
-/
def failing (k : Fragile) (may : Option String → Prop) (unit : Nat) :
    Contract Effect Effect.Reply (World RemoteStore) where
  asks _ _ := True
  answers e w reply later :=
    ∃ line, may line ∧ remote.Answers unit e (refusing k line w) reply later

/-- The handler that refuses every command of one kind. -/
def refuse (k : Fragile) (line : Option String) (unit : Nat) (e : Effect) (w : World RemoteStore) :
    e.Reply × World RemoteStore :=
  remote.handle unit e (refusing k line w)

/-- The lists, the users and the time are the same. -/
structure Unmoved (w later : World RemoteStore) : Prop where
  keys : later.store.1.keys = w.store.1.keys
  queue : later.store.1.queue = w.store.1.queue
  users : later.store.2.users = w.store.2.users
  now : later.now = w.now

/-- The server is in order and has this list at a key, and nothing else was moved. -/
structure Leaves (w : World RemoteStore) (key : String) (l : List String)
    (later : World RemoteStore) : Prop where
  inOrder : later.store.1.InOrder
  list : later.store.1.values later.now key = l
  elsewhere : ∀ other ≠ key, later.store.1.values later.now other = w.store.1.values w.now other
  users : later.store.2.users = w.store.2.users
  now : later.now = w.now

/-- How far a call has come: the world around it, and what it has asked so far. -/
abbrev Progress := Course Effect Effect.Reply (World RemoteStore)

/-- On the way from here to there nothing was moved, and no list was read. -/
structure Idle (p later : Progress) : Prop where
  unmoved : Unmoved p.state later.state
  readings : readings later.asked = readings p.asked
  asked : p.asked ⊆ later.asked

/-- Here the list at a key is this one, and so far the call has read lists with these results. -/
structure Stands (w : World RemoteStore) (key : String) (l : List String)
    (read : List (Except AuthError (List String))) (p : Progress) : Prop extends
    Leaves w key l p.state where
  readings : readings p.asked = read

variable {w later : World RemoteStore} {p p₁ : Progress} {unit : Nat} {s : Service} {α β : Type}
  {k : Fragile} {may : Option String → Prop} {key : String} {l : List String}
  {read : List (Except AuthError (List String))}

theorem failing_answers (k : Fragile) (line : Option String) (unit : Nat) (hmay : may line)
    (e : Effect) (w : World RemoteStore) :
    (failing k may unit).answers e w (refuse k line unit e w).1 (refuse k line unit e w).2 :=
  ⟨line, hmay, .handled e _⟩

theorem Unmoved.refl (w : World RemoteStore) : Unmoved w w := ⟨rfl, rfl, rfl, rfl⟩

theorem Unmoved.trans {w₁ : World RemoteStore} (h : Unmoved w w₁) (h' : Unmoved w₁ later) :
    Unmoved w later :=
  ⟨h'.keys.trans h.keys, h'.queue.trans h.queue, h'.users.trans h.users, h'.now.trans h.now⟩

theorem unmoved_refusing (k : Fragile) (line : Option String) (w : World RemoteStore) :
    Unmoved w (refusing k line w) := ⟨rfl, rfl, rfl, rfl⟩

theorem Leaves.refl (h : w.store.1.InOrder) (key : String) :
    Leaves w key (w.store.1.values w.now key) w := ⟨h, rfl, fun _ _ => rfl, rfl, rfl⟩

theorem Leaves.unmoved {w₁ : World RemoteStore} (h : Leaves w key l w₁) (h' : Unmoved w₁ later) :
    Leaves w key l later := by
  refine ⟨h.inOrder.congr h'.keys (h'.queue.trans h.inOrder.queue), ?_, ?_,
    h'.users.trans h.users, h'.now.trans h.now⟩
  · rw [h'.now, Cache.ListServer.values_congr h'.keys]
    exact h.list
  · intro other hother
    rw [h'.now, Cache.ListServer.values_congr h'.keys]
    exact h.elsewhere other hother

theorem Idle.refl (p : Progress) : Idle p p := ⟨.refl p.state, rfl, List.Subset.refl _⟩

theorem Idle.trans {later : Progress} (h : Idle p p₁) (h' : Idle p₁ later) : Idle p later :=
  ⟨h.unmoved.trans h'.unmoved, h'.readings.trans h.readings, List.Subset.trans h.asked h'.asked⟩

/-- A command that reads no list and moves nothing. -/
theorem Idle.cons {x : Asked} {later : Progress} (h : Idle p p₁)
    (hasked : later.asked = x :: p₁.asked) (hx : ReadsNothing x.command)
    (hmoved : Unmoved p₁.state later.state) : Idle p later := by
  refine h.trans ⟨hmoved, ?_, ?_⟩ <;> rw [hasked]
  · exact readings_cons hx
  · exact List.subset_cons_self _ _

theorem Stands.idle {later : Progress} (h : Stands w key l read p) (h' : Idle p later) :
    Stands w key l read later :=
  ⟨h.toLeaves.unmoved h'.unmoved, h'.readings.trans h.readings⟩

/-- A command that reads no list leaves the readings as they were. -/
theorem Stands.readings_of_cons {x : Asked} {later : Progress} (h : Stands w key l read p)
    (hasked : later.asked = x :: p.asked) (hx : ReadsNothing x.command) :
    Service.readings later.asked = read := by
  rw [hasked, readings_cons hx, h.readings]

/-- The clock, randomness and the log move nothing. -/
theorem undisturbed_idle (p : Progress) (k : Fragile) (may : Option String → Prop)
    (unit : Nat) : (failing k may unit).recorded.Undisturbed
      (fun later => Idle p later ∧ later.state.store.2.units = p.state.store.2.units)
      (· = p.state.now) where
  asks_clock _ _ := trivial
  asks_random _ _ _ := trivial
  asks_log _ _ _ _ := trivial
  clock c now later h hanswer := by
    obtain ⟨last, asked⟩ := later
    obtain ⟨⟨line, _, hanswer⟩, hasked⟩ := hanswer
    cases hanswer
    exact ⟨h.1.unmoved.now, h.1.cons hasked (fun _ => nofun) (unmoved_refusing k line c.state), h.2⟩
  random c count bits later h hanswer := by
    obtain ⟨last, asked⟩ := later
    obtain ⟨⟨line, _, hanswer⟩, hasked⟩ := hanswer
    cases hanswer <;>
      exact ⟨h.1.cons hasked (fun _ => nofun) ⟨rfl, rfl, rfl, rfl⟩, h.2⟩
  log c event reply later h hanswer := by
    obtain ⟨last, asked⟩ := later
    obtain ⟨⟨line, _, hanswer⟩, hasked⟩ := hanswer
    cases hanswer
    exact ⟨h.1.cons hasked (fun _ => nofun) ⟨rfl, rfl, rfl, rfl⟩, h.2⟩

/-! ### Commands of the cache -/

theorem Fragile.request?_inj {k k' : Fragile} {name : String} (h : k.request? = some name)
    (h' : k'.request? = some name) : k = k' := by
  have hsame : k.request? = k'.request? := h.trans h'.symm
  have hsome : k.request? ≠ none := by simp [h]
  revert hsame hsome
  cases k <;> cases k' <;> simp [Fragile.request?]

theorem Fragile.statement?_inj {k k' : Fragile} {kind : Users.StatementKind}
    (h : k.statement? = some kind) (h' : k'.statement? = some kind) : k = k' := by
  have hsame : k.statement? = k'.statement? := h.trans h'.symm
  have hsome : k.statement? ≠ none := by simp [h]
  revert hsame hsome
  cases k <;> cases k' <;> simp [Fragile.statement?]

/-- What is refused is a request of the kind in question, with a line that was chosen. -/
theorem refused_request {line : Option String} {name : String} {k' : Fragile}
    (hname : k'.request? = some name)
    (h : (refusing k line w).store.1.faults.get? name ≠ none) : k = k' ∧ line ≠ none := by
  have hget : (refusing k line w).store.1.faults.get? name =
      if k.request? = some name then line else none := rfl
  rw [hget] at h
  split at h
  · rename_i hkind
    exact ⟨Fragile.request?_inj hkind hname, h⟩
  · exact absurd rfl h

/-- What is refused is a statement of the kind in question. -/
theorem refused_statement {line : Option String} {kind : Users.StatementKind} {k' : Fragile}
    (hkind : k'.statement? = some kind)
    (h : (refusing k line w).store.2.faults.get? kind ≠ none) : k = k' := by
  have hget : (refusing k line w).store.2.faults.get? kind =
      if k.statement? = some kind then line else none := rfl
  rw [hget] at h
  split at h
  · exact Fragile.statement?_inj ‹_› hkind
  · exact absurd rfl h

/-- No request that opens a queue is refused. -/
theorem not_refused_multi (k : Fragile) (line : Option String) (w : World RemoteStore) :
    (refusing k line w).store.1.faults.get? "MULTI" = none := by
  cases k <;> rfl

/-- A command of the cache is carried out by a server that may refuse some requests. -/
theorem failing_cache_meets {c : Cache.Command}
    {ends : Progress → Except AuthError c.Reply → Prop} (h : Leaves w key l p.state)
    (hkey : c.key = key)
    (hpush : ∀ key value ttl, c = .push key value ttl → ∃ seconds, ttl = some seconds ∧ 1 ≤ seconds)
    (hends : ∀ line later, may line → Leaves w key l (refusing k line p.state) →
      Leaves w key ((Cache.Remote.perform p.state.now c (refusing k line p.state).store.1).2.values
        p.state.now key) later.state →
      later.asked = ⟨.cache c, (Cache.Remote.perform p.state.now c
        (refusing k line p.state).store.1).1⟩ :: p.asked →
      ends later (Cache.Remote.perform p.state.now c (refusing k line p.state).store.1).1) :
    Call.Meets (failing k may unit).recorded (Call.cache c) ends p := by
  refine Call.meets_cache trivial ?_
  intro reply ⟨last, asked⟩ hanswer
  obtain ⟨⟨line, hmay, hanswer⟩, hasked⟩ := hanswer
  have hbefore := h.unmoved (unmoved_refusing k line p.state)
  obtain ⟨hinOrder, helsewhere⟩ := Cache.Remote.perform_spares hbefore.inOrder p.state.now c
    (not_refused_multi k line p.state) hpush
  cases hanswer
  refine hends line _ hmay hbefore ⟨hinOrder, rfl, ?_, h.users, h.now⟩ hasked
  intro other hother
  exact (helsewhere other (hkey ▸ hother)).trans (hbefore.elsewhere other hother)

/-- The list is read, unless reading is what may be refused. -/
theorem readList_leaves {ends : Progress → Except AuthError (List String) → Prop}
    (h : Stands w key l read p)
    (hok : ∀ later, Stands w key l (.ok l :: read) later → ends later (.ok l))
    (hbad : ∀ fault later, k = .lrange → Stands w key l (.error (.cache fault) :: read) later →
      ends later (.error (.cache fault))) :
    Call.Meets (failing k may unit).recorded (Call.readList key) ends p := by
  refine failing_cache_meets h.toLeaves rfl (by simp) ?_
  intro line later _ hbefore hlater hasked
  have hlist : (refusing k line p.state).store.1.values p.state.now key = l := hbefore.list
  rw [Cache.ListServer.values_congr (Cache.Remote.keys_get _ _ _), hlist] at hlater
  rcases Cache.Remote.get_cases hbefore.inOrder p.state.now key with
    ⟨_, hreply⟩ | ⟨hrefused, fault, hreply⟩
  · rw [hreply, hlist] at hasked ⊢
    exact hok later ⟨hlater, (congrArg Service.readings hasked).trans
      (congrArg (List.cons _) h.readings)⟩
  · rw [hreply] at hasked ⊢
    exact hbad fault later (refused_request rfl hrefused).1 ⟨hlater,
      (congrArg Service.readings hasked).trans (congrArg (List.cons _) h.readings)⟩

/-- A session is taken out, unless that is what may be refused. -/
theorem removeFrom_leaves {raw : String} {ends : Progress → Except AuthError Bool → Prop}
    (h : Stands w key l read p)
    (hok : ∀ later, Stands w key (l.filter (· != raw)) read later →
      ends later (.ok (decide (raw ∈ l))))
    (hbad : ∀ fault later, k = .lrem → Stands w key l read later →
      ends later (.error (.cache fault))) :
    Call.Meets (failing k may unit).recorded (Call.removeFrom key raw) ends p := by
  refine failing_cache_meets h.toLeaves rfl (by simp) ?_
  intro line later _ hbefore hlater hasked
  have hlist : (refusing k line p.state).store.1.values p.state.now key = l := hbefore.list
  have hread := h.readings_of_cons hasked (fun _ => nofun)
  rcases Cache.Remote.remove_cases hbefore.inOrder p.state.now key raw with
    ⟨_, hreply, hvalues⟩ | ⟨hrefused, ⟨fault, hreply⟩, hvalues⟩
  · rw [hvalues, hlist] at hlater
    rw [hreply, hlist]
    exact hok later ⟨hlater, hread⟩
  · rw [hvalues, hlist] at hlater
    rw [hreply]
    exact hbad fault later (refused_request rfl hrefused).1 ⟨hlater, hread⟩

/-- The list is dropped, unless that is what may be refused. -/
theorem dropList_leaves {ends : Progress → Except AuthError Unit → Prop}
    (h : Stands w key l read p) (hok : ∀ later, Stands w key [] read later → ends later (.ok ()))
    (hbad : ∀ fault later, k = .del → Stands w key l read later →
      ends later (.error (.cache fault))) :
    Call.Meets (failing k may unit).recorded (Call.dropList key) ends p := by
  refine failing_cache_meets h.toLeaves rfl (by simp) ?_
  intro line later _ hbefore hlater hasked
  have hlist : (refusing k line p.state).store.1.values p.state.now key = l := hbefore.list
  have hread := h.readings_of_cons hasked (fun _ => nofun)
  rcases Cache.Remote.delete_cases hbefore.inOrder p.state.now key with
    ⟨_, hreply, hvalues⟩ | ⟨hrefused, ⟨fault, hreply⟩, hvalues⟩
  · rw [hvalues] at hlater
    rw [hreply]
    exact hok later ⟨hlater, hread⟩
  · rw [hvalues, hlist] at hlater
    rw [hreply]
    exact hbad fault later (refused_request rfl hrefused).1 ⟨hlater, hread⟩

/-- A session is put in front; when only its time to live is refused, it is there all the same. -/
theorem pushTo_leaves {raw : String} {seconds : Nat}
    {ends : Progress → Except AuthError Unit → Prop} (h : Stands w key l read p)
    (hpos : 1 ≤ seconds) (hlong : seconds ≤ Cache.longestTtl)
    (hok : ∀ later, (k = .lpush → may none) → Stands w key (raw :: l) read later →
      ends later (.ok ()))
    (hbad : ∀ fault later, k = .lpush ∨ k = .exec → Stands w key l read later →
      ends later (.error (.cache fault)))
    (hlasting : ∀ fault later, k = .expire → Stands w key (raw :: l) read later →
      ends later (.error (.cache fault))) :
    Call.Meets (failing k may unit).recorded (Call.pushTo key raw seconds) ends p := by
  refine failing_cache_meets h.toLeaves rfl
    (fun k v ttl hc => ⟨seconds, by cases hc; rfl, hpos⟩) ?_
  intro line later hmay hbefore hlater hasked
  have hlist : (refusing k line p.state).store.1.values p.state.now key = l := hbefore.list
  have hread := h.readings_of_cons hasked (fun _ => nofun)
  rcases Cache.Remote.push_cases hbefore.inOrder p.state.now key raw
    (not_refused_multi k line p.state) hpos hlong with
    ⟨hreply, hallowed, hvalues⟩ | ⟨⟨fault, hreply⟩, hcases⟩
  · rw [hvalues, hlist] at hlater
    rw [hreply]
    refine hok later ?_ ⟨hlater, hread⟩
    intro hk
    subst hk
    obtain rfl : line = none := hallowed
    exact hmay
  · rw [hreply]
    rcases hcases with ⟨hrefused, hvalues⟩ | ⟨hrefused, hvalues⟩
    · rw [hvalues, hlist] at hlater
      refine hbad fault later ?_ ⟨hlater, hread⟩
      rcases hrefused with hrefused | hrefused
      · exact Or.inl (refused_request rfl hrefused).1
      · exact Or.inr (refused_request rfl hrefused).1
    · rw [hvalues, hlist] at hlater
      exact hlasting fault later (refused_request rfl hrefused).1 ⟨hlater, hread⟩

/-! ### What is left of a list -/

/-- The list without the session that was presented. -/
def Request.rest (q : Request) (entries : List String) : List String :=
  (q.finds? entries).elim entries fun raw => entries.filter (· != raw)

/-- The list of a user. -/
def listOf (w : World RemoteStore) (user : UserId) : List String :=
  w.store.1.values w.now (Registry.key user)

/--
What is left of a list when a call fails with an error of the server, while commands of one
kind may be refused: `before` is the list as it was, and `rest` the list without the
session that was presented.  What the call has asked tells its two readings of the list
apart, and that it has made the token of a new session itself; as the call fails, it gives
that token to nobody.
-/
inductive LeftBy (s : Service) (user : UserId) (f : Fingerprint) (before rest : List String)
    (asked : List Asked) : Fragile → AuthError → List String → Prop
  /-- No token could be made; that has nothing to do with what is refused. -/
  | unmade {k : Fragile} {detail : String} :
    LeftBy s user f before rest asked k (.configuration detail) rest
  | begin {fault : DatabaseFault} :
    LeftBy s user f before rest asked .begin (.database fault) before
  | select {fault : DatabaseFault} :
    LeftBy s user f before rest asked .select (.database fault) before
  /-- The first time that the list was read, it could not be. -/
  | read {fault : CacheFault} (h : readings asked = [.error (.cache fault)]) :
    LeftBy s user f before rest asked .lrange (.cache fault) before
  /-- The session could not be taken out. -/
  | take {fault : CacheFault} :
    LeftBy s user f before rest asked .lrem (.cache fault) before
  /-- The list was read in search of the session, but not again before a session is added. -/
  | readAgain {fault : CacheFault} (h : readings asked = [.error (.cache fault), .ok before]) :
    LeftBy s user f before rest asked .lrange (.cache fault) rest
  /-- The sessions could not be dropped. -/
  | drop {fault : CacheFault} :
    LeftBy s user f before rest asked .del (.cache fault) rest
  /-- The new session could not be added, in a list where there was room or room was made. -/
  | add {k : Fragile} {fault : CacheFault} (hk : k = .lpush ∨ k = .exec) :
    LeftBy s user f before rest asked k (.cache fault) (roomIn s.registry.maxSessions rest)
  /-- The new session was added, but the list could not be given its time to live. -/
  | expire {fault : CacheFault} {token : String} (h : s.Minted user asked token) :
    LeftBy s user f before rest asked .expire (.cache fault)
      (Entry.encode ⟨f.text, token⟩ :: roomIn s.registry.maxSessions rest)
  /-- The new session was added, but the transaction could not be committed. -/
  | commit {fault : DatabaseFault} {token : String} (h : s.Minted user asked token) :
    LeftBy s user f before rest asked .commit (.database fault)
      (Entry.encode ⟨f.text, token⟩ :: roomIn s.registry.maxSessions rest)

variable {f : Fingerprint} {before rest : List String}

/-- What was left is still what is left when the call has done nothing more to lists. -/
theorem LeftBy.idle {user : UserId} {later : Progress} {e : AuthError}
    (h : LeftBy s user f before rest p.asked k e l) (hidle : Idle p later) :
    LeftBy s user f before rest later.asked k e l := by
  cases h with
  | unmade => exact .unmade
  | begin => exact .begin
  | select => exact .select
  | read hread => exact .read (hidle.readings.trans hread)
  | take => exact .take
  | readAgain hread => exact .readAgain (hidle.readings.trans hread)
  | drop => exact .drop
  | add hk => exact .add hk
  | expire hminted => exact .expire (hminted.mono hidle.asked)
  | commit hminted => exact .commit (hminted.mono hidle.asked)

/-! ### The registry -/

/-- Adding a session. -/
theorem register_leaves (before : List String) {user : UserId} {token : String} {seconds : Nat}
    {ends : Progress → Except AuthError Unit → Prop}
    (h : Stands w (Registry.key user) rest read p) (hminted : s.Minted user p.asked token)
    (hpos : 1 ≤ seconds) (hlong : seconds ≤ Cache.longestTtl)
    (hok : ∀ later, (k = .lpush → may none) → s.Minted user later.asked token →
      Leaves w (Registry.key user)
        (Entry.encode ⟨f.text, token⟩ :: roomIn s.registry.maxSessions rest) later.state →
      ends later (.ok ()))
    (hread : ∀ fault later, k = .lrange →
      Stands w (Registry.key user) rest (.error (.cache fault) :: read) later →
      ends later (.error (.cache fault)))
    (hbad : ∀ fault l later, LeftBy s user f before rest later.asked k (.cache fault) l →
      Leaves w (Registry.key user) l later.state → ends later (.error (.cache fault))) :
    Call.Meets (failing k may unit).recorded (s.registry.register user f.text token seconds) ends
      p := by
  -- The token has been made before, and that is still on record when the list is left.
  refine Program.Meets.remembering ?_
  have hpush : ∀ p₂, Stands w (Registry.key user) (roomIn s.registry.maxSessions rest)
      (.ok rest :: read) p₂ → Call.Meets (failing k may unit).recorded (do
        Call.pushTo (Registry.key user) (Entry.encode ⟨f.text, token⟩) seconds
        Call.log (.sessionRegistered user))
        (fun later result => p.asked ⊆ later.asked → ends later result) p₂ := by
    intro p₂ h₂
    refine Call.meets_bind.2 (pushTo_leaves h₂ hpos hlong ?_
      (fun fault p₃ hk h₃ _ => hbad _ _ p₃ (.add hk) h₃.toLeaves) ?_)
    · intro p₃ hmay h₃
      refine meets_log (undisturbed_idle p₃ k may unit) ⟨.refl p₃, rfl⟩ (fun _ => by simp) ?_
      intro last hlast hasked
      exact hok last hmay (hminted.mono hasked) (h₃.idle hlast.1).toLeaves
    · intro fault p₃ hk h₃ hasked
      subst hk
      exact hbad _ _ p₃ (.expire (hminted.mono hasked)) h₃.toLeaves
  unfold Registry.register
  refine Call.meets_bind.2 (readList_leaves h ?_ ?_)
  · intro p₂ h₂
    dsimp only
    split
    · rename_i hfull
      refine Call.meets_bind.2 (meets_log (undisturbed_idle p₂ k may unit) ⟨.refl p₂, rfl⟩
        (fun _ => by simp) ?_)
      intro p₃ h₃
      refine Call.meets_bind.2 (dropList_leaves (h₂.idle h₃.1) ?_ ?_)
      · intro p₄ h₄
        refine hpush p₄ ?_
        rw [roomIn, if_pos hfull]
        exact h₄
      · intro fault p₄ hk h₄ _
        subst hk
        exact hbad _ _ p₄ .drop h₄.toLeaves
    · rename_i hroom
      refine hpush p₂ ?_
      rw [roomIn, if_neg hroom]
      exact h₂
  · intro fault later hk hlater _
    exact hread fault later hk hlater

/-- Making tokens and adding the session. -/
theorem issue_leaves (before : List String) {user : UserId}
    {ends : Progress → Except AuthError IssuedTokens → Prop}
    (hdate : Instant.firstSecond ≤ w.now.seconds) (h : Stands w (Registry.key user) rest read p)
    (hok : ∀ tokens later, (k = .lpush → may none) → s.Minted user later.asked tokens.refresh →
      Leaves w (Registry.key user)
        (Entry.encode ⟨f.text, tokens.refresh⟩ :: roomIn s.registry.maxSessions rest) later.state →
      ends later (.ok tokens))
    (hunmade : ∀ detail later, ¬ s.CanMint user w.now →
      Leaves w (Registry.key user) rest later.state → ends later (.error (.configuration detail)))
    (hread : ∀ fault later, k = .lrange →
      Stands w (Registry.key user) rest (.error (.cache fault) :: read) later →
      ends later (.error (.cache fault)))
    (hbad : ∀ fault l later, LeftBy s user f before rest later.asked k (.cache fault) l →
      Leaves w (Registry.key user) l later.state → ends later (.error (.cache fault))) :
    Call.Meets (failing k may unit).recorded (s.issue user f) ends p := by
  have hmint : ∀ id noise kind e later,
      s.codec.mint w.now id noise user.toHex (some kind) {} = .error e →
      Stands w (Registry.key user) rest read later → ends later (.error e) := by
    intro id noise kind e later hmint hlater
    obtain ⟨detail, rfl⟩ := configuration_of_mint hmint
    refine hunmade detail later ?_ hlater.toLeaves
    intro hcan
    obtain ⟨minted, hminted⟩ := hcan id noise kind
    rw [hmint] at hminted
    cases hminted
  unfold issue
  refine Call.meets_bind.2 (encode_minted (undisturbed_idle p k may unit) ⟨.refl p, rfl⟩ ?_)
  intro now id noise p₂ hnow h₂ hminted
  rw [hnow, h.now] at hminted ⊢
  cases hrefresh : s.codec.mint w.now id noise user.toHex (some .refresh) {} with
  | error e => exact hmint _ _ _ e p₂ hrefresh (h.idle h₂.1)
  | ok minted =>
    obtain ⟨expiry, token⟩ := minted
    have hown := hminted expiry token hrefresh
    refine Call.meets_bind.2 (encode_meets (undisturbed_idle p₂ k may unit) ⟨.refl p₂, rfl⟩ ?_)
    intro now' id' noise' p₃ hnow' h₃
    rw [hnow', (h.idle h₂.1).now]
    cases haccess : s.codec.mint w.now id' noise' user.toHex (some .access) {} with
    | error e => exact hmint _ _ _ e p₃ haccess ((h.idle h₂.1).idle h₃.1)
    | ok minted' =>
      refine Call.meets_bind.2 (meets_clock (undisturbed_idle p₂ k may unit) h₃ ?_)
      intro now'' p₄ hnow'' h₄
      have h' := (h.idle h₂.1).idle h₄.1
      rw [hnow'', (h.idle h₂.1).now]
      have hlong : w.now.secondsUntil expiry ≤ Cache.longestTtl := by
        rw [(Token.Codec.mint_eq_ok hrefresh).2.1]
        exact Instant.secondsUntil_le_longestTtl hdate (Token.Codec.le_lastSecond_of_mint hrefresh)
      refine Call.meets_bind.2 (register_leaves before h' (hown.mono h₄.1.asked)
        (Instant.one_le_secondsUntil _ _) hlong ?_ hread hbad)
      intro last hmay hlast
      exact hok ⟨minted'.2, token, expiry, w.now.secondsUntil expiry⟩ last hmay hlast

/-- Using a session up for a refresh. -/
theorem consume_leaves {user : UserId} {token : String}
    {ends : Progress → Except AuthError Bool → Prop}
    (h : Stands w (Registry.key user) before [] p)
    (hrest : rest = (Registry.find? f.text token before).elim before fun raw =>
      before.filter (· != raw))
    (hfound : ∀ raw later, Registry.find? f.text token before = some raw →
      Stands w (Registry.key user) rest [.ok before] later → ends later (.ok true))
    (hmissing : ∀ l later, Registry.find? f.text token before = none →
      Leaves w (Registry.key user) l later.state → ends later (.ok false))
    (hbad : ∀ fault l later, LeftBy s user f before rest later.asked k (.cache fault) l →
      Leaves w (Registry.key user) l later.state → ends later (.error (.cache fault))) :
    Call.Meets (failing k may unit).recorded (Registry.consume user f.text token) ends p := by
  unfold Registry.consume
  refine Call.meets_bind.2 (readList_leaves h ?_ ?_)
  · intro p₂ h₂
    dsimp only
    split
    · rename_i hempty
      obtain rfl : before = [] := List.isEmpty_iff.mp hempty
      exact hmissing [] p₂ rfl h₂.toLeaves
    · cases hfind : Registry.find? f.text token before with
      | some raw =>
        rw [hfind] at hrest
        refine Call.meets_bind.2 (removeFrom_leaves h₂ ?_ ?_)
        · intro p₃ h₃
          rw [decide_eq_true (List.mem_of_find?_eq_some hfind)]
          refine hfound raw p₃ hfind ?_
          rw [hrest]
          exact h₃
        · intro fault p₃ hk h₃
          subst hk
          exact hbad _ _ p₃ .take h₃.toLeaves
      | none =>
        rw [hfind] at hrest
        refine Call.meets_bind.2 (meets_log (undisturbed_idle p₂ k may unit) ⟨.refl p₂, rfl⟩
          (fun _ => by simp) ?_)
        intro p₃ h₃
        refine Call.meets_bind.2 (dropList_leaves (h₂.idle h₃.1)
          (fun p₄ h₄ => hmissing [] p₄ hfind h₄.toLeaves) ?_)
        intro fault p₄ hk h₄
        subst hk
        refine hbad _ _ p₄ .drop ?_
        rw [hrest]
        exact h₄.toLeaves
  · intro fault later hk hlater
    subst hk
    exact hbad _ _ later (.read hlater.readings) hlater.toLeaves

/-! ### Units of work -/

/-- A command to the unit of work moves nothing. -/
theorem failing_users_meets {c : Users.Command}
    {ends : Progress → Except AuthError c.Reply → Prop} (h : Idle p p₁)
    (hends : ∀ line later, Idle p later →
      later.state.store.2 = ((refusing k line p₁.state).store.2.perform unit c).2 →
      ends later ((refusing k line p₁.state).store.2.perform unit c).1) :
    Call.Meets (failing k may unit).recorded (Call.users c) ends p₁ := by
  refine Call.meets_users trivial ?_
  intro reply ⟨last, asked⟩ hanswer
  obtain ⟨⟨line, _, hanswer⟩, hasked⟩ := hanswer
  have halike := Users.Relational.alike_perform unit c (refusing k line p₁.state).store.2
  cases hanswer
  exact hends line _ (h.cons hasked (fun _ => nofun) ⟨rfl, rfl, halike.users, rfl⟩) rfl

/-- A look-up in an open transaction sees the users, unless it may be refused. -/
theorem look_cases {w₁ : World RemoteStore} (k : Fragile) (line : Option String)
    (statement : Users.Statement) (wanted : User → Bool)
    (hopen : w₁.store.2.units.isOpen unit = true) (husers : w₁.store.2.users = w.store.2.users) :
    ((refusing k line w₁).store.2.select statement wanted unit).1 =
        .ok (w.store.2.users.find? wanted) ∨
      ∃ fault, k = .select ∧
        ((refusing k line w₁).store.2.select statement wanted unit).1 =
          .error (.database fault) := by
  rcases Users.Relational.select_of_isOpen (d := (refusing k line w₁).store.2) hopen with
    ⟨_, hreply⟩ | ⟨e, ⟨text, hrefused, rfl⟩, hreply⟩
  · rw [hreply, show (refusing k line w₁).store.2.users = w.store.2.users from husers]
    exact Or.inl rfl
  · exact Or.inr ⟨_, refused_statement rfl (by rw [hrefused]; simp), hreply⟩

/-- Finding out whom a token names. -/
theorem resolve_idle {token : String} {ends : Progress → Except AuthError User → Prop}
    (h : Idle p p₁) (hopen : p₁.state.store.2.units.isOpen unit = true)
    (hok : ∀ later, Idle p later → ends later (s.bearer p.state.store.2.users p.state.now token))
    (hbad : ∀ fault later, k = .select → Idle p later → ends later (.error (.database fault))) :
    Call.Meets (failing k may unit).recorded (s.resolve token .refresh) ends p₁ := by
  unfold resolve
  unfold bearer at hok
  refine Call.meets_bind.2 (decode_meets (undisturbed_idle p₁ k may unit) ⟨.refl p₁, rfl⟩ ?_ ?_)
  · intro now payload p₂ hnow h₂ hread
    have h' := h.trans h₂.1
    rw [hnow, h.unmoved.now] at hread
    rw [hread] at hok
    refine Call.meets_bind.2 (Call.meets_ofExcept.2 ?_)
    dsimp only at hok ⊢
    cases huser : payload.user with
    | error e =>
      rw [huser] at hok
      exact hok p₂ h'
    | ok id =>
      rw [huser] at hok
      refine Call.meets_bind.2 (failing_users_meets h' ?_)
      intro line last hlast _
      have hopen₂ : p₂.state.store.2.units.isOpen unit = true := h₂.2 ▸ hopen
      dsimp only at hok ⊢
      rcases look_cases k line (.byId id) (·.id == id) hopen₂ h'.unmoved.users with
        hreply | ⟨fault, hk, hreply⟩
      · rw [show ((refusing k line p₂.state).store.2.perform unit (.findById id)).1 = _
          from hreply]
        dsimp only
        cases hfind : p.state.store.2.users.find? (·.id == id) with
        | none =>
          rw [hfind] at hok
          exact hok last hlast
        | some user =>
          rw [hfind] at hok
          dsimp only at hok ⊢
          split
          · rename_i hkind
            rw [if_pos hkind] at hok
            exact hok last hlast
          · rename_i hkind
            rw [if_neg hkind] at hok
            exact hok last hlast
      · rw [show ((refusing k line p₂.state).store.2.perform unit (.findById id)).1 = _
          from hreply]
        exact hbad fault last hk hlast
  · intro now p₂ hnow h₂ hread
    rw [hnow, h.unmoved.now] at hread
    rw [hread] at hok
    exact hok p₂ (h.trans h₂.1)

/-- Looking a user up and checking the password. -/
theorem credentials_idle {login : String} {password : Password.ClearText}
    {ends : Progress → Except AuthError User → Prop} (h : Idle p p₁)
    (hopen : p₁.state.store.2.units.isOpen unit = true)
    (hok : ∀ later, Idle p later →
      ends later (s.verified p.state.store.2.users login password))
    (hbad : ∀ fault later, k = .select → Idle p later → ends later (.error (.database fault))) :
    Call.Meets (failing k may unit).recorded (s.credentials login password) ends p₁ := by
  unfold credentials
  unfold verified at hok
  refine Call.meets_bind.2 (failing_users_meets h ?_)
  intro line last hlast _
  rcases look_cases k line (.byLogin login) (·.hasLogin login) hopen h.unmoved.users with
    hreply | ⟨fault, hk, hreply⟩
  · rw [show ((refusing k line p₁.state).store.2.perform unit (.findByLogin login)).1 = _
      from hreply]
    dsimp only
    cases hfind : p.state.store.2.users.find? (·.hasLogin login) with
    | none =>
      rw [hfind] at hok
      exact hok last hlast
    | some user =>
      rw [hfind] at hok
      dsimp only at hok ⊢
      split
      · rename_i hverify
        rw [if_pos hverify] at hok
        exact hok last hlast
      · rename_i hverify
        rw [if_neg hverify] at hok
        exact hok last hlast
  · rw [show ((refusing k line p₁.state).store.2.perform unit (.findByLogin login)).1 = _
      from hreply]
    exact hbad fault last hk hlast

/-- Work in a unit ends as it does outside of one, unless the transaction cannot begin or end. -/
theorem inUnit_idle {work : Call α} {ends : Progress → Except AuthError α → Prop}
    (hbegin : ∀ fault later, k = .begin → Idle p later → ends later (.error (.database fault)))
    (hwork : ∀ p₁, Idle p p₁ → p₁.state.store.2.units.isOpen unit = true →
      Call.Meets (failing k may unit).recorded work (fun p₂ result => ∀ last, Idle p₂ last →
        ends last result ∧ ∀ value fault, result = .ok value → k = .commit →
          ends last (.error (.database fault))) p₁) :
    Call.Meets (failing k may unit).recorded (Call.inUnit work) ends p := by
  unfold Call.inUnit
  refine Call.meets_bind.2 (failing_users_meets (.refl p) ?_)
  intro line p₁ h₁ hstore
  cases hreply : ((refusing k line p.state).store.2.perform unit .begin).1 with
  | error e =>
    obtain ⟨text, hrefused, rfl⟩ := Users.Relational.isRefusal_of_begin hreply
    exact hbegin _ p₁ (refused_statement rfl (by rw [hrefused]; simp)) h₁
  | ok started =>
    have hopen : p₁.state.store.2.units.isOpen unit = true := by
      rw [hstore]
      exact (Users.Relational.isOpen_of_begin hreply).2
    refine Call.meets_bind.2 (Call.meets_lift.2 ((hwork p₁ h₁ hopen).mono ?_))
    intro p₂ result h₂
    cases result with
    | ok value =>
      refine Call.meets_bind.2 (failing_users_meets (.refl p₂) ?_)
      intro line last hlast _
      cases hcommit : ((refusing k line p₂.state).store.2.perform unit .commit).1 with
      | ok _ => exact (h₂ last hlast).1
      | error e =>
        obtain ⟨text, hrefused, rfl⟩ := Users.Relational.isRefusal_of_commit hcommit
        exact (h₂ last hlast).2 value _ rfl (refused_statement rfl (by rw [hrefused]; simp))
    | error e =>
      refine Call.meets_bind.2 (Call.meets_lift.2 (failing_users_meets (.refl p₂) ?_))
      intro line p₃ h₃ _
      cases ((refusing k line p₂.state).store.2.perform unit .rollback).1 with
      | ok _ => exact (h₂ p₃ h₃).1
      | error cause =>
        refine Call.meets_bind.2 (meets_log (undisturbed_idle p₃ k may unit) ⟨.refl p₃, rfl⟩
          (fun _ => by simp) ?_)
        intro last hlast
        exact (h₂ last (h₃.trans hlast.1)).1

/-! ### Requests -/

section Requests

variable {user : User} {q : Request} {ends : Progress → Answer → Prop}

/-- A request of nobody moves nothing. -/
theorem serve_idle (s : Service) (unit : Nat) (hq : q.fingerprint? = some f)
    {e : AuthError} (howner : q.owner s p.state.store.2.users p.state.now = .error e)
    (hends : ∀ e later, Idle p later → ends later (.error e)) :
    Call.Meets (failing k may unit).recorded (s.serve q) ends p := by
  cases q with
  | logout token => cases hq
  | login name password fingerprint =>
    refine Call.meets_map.2 (inUnit_idle (fun fault later _ h => hends _ later h) ?_)
    intro p₁ h₁ hopen
    refine Call.meets_bind.2 (credentials_idle h₁ hopen ?_
      fun fault p₂ _ h₂ last hlast => ⟨hends _ last (h₂.trans hlast), fun _ _ h => by cases h⟩)
    intro p₂ h₂
    rw [show s.verified p.state.store.2.users name password = .error e from howner]
    exact fun last hlast => ⟨hends _ last (h₂.trans hlast), fun _ _ h => by cases h⟩
  | refresh fingerprint token =>
    refine Call.meets_map.2 (inUnit_idle (fun fault later _ h => hends _ later h) ?_)
    intro p₁ h₁ hopen
    refine Call.meets_bind.2 (resolve_idle h₁ hopen ?_
      fun fault p₂ _ h₂ last hlast => ⟨hends _ last (h₂.trans hlast), fun _ _ h => by cases h⟩)
    intro p₂ h₂
    rw [show s.bearer p.state.store.2.users p.state.now token = .error e from howner]
    exact fun last hlast => ⟨hends _ last (h₂.trans hlast), fun _ _ h => by cases h⟩

/-- What is left of a list of which the session that was presented, if any, has been taken out. -/
theorem issued_leaves (s : Service) {event : IssuedTokens → Event}
    (hdate : Instant.firstSecond ≤ w.now.seconds)
    (hevent : ∀ tokens cause, event tokens ≠ .responded cause)
    (h : Stands w (Registry.key user.id) rest read p)
    (hread : ∀ fault asked, readings asked = .error (.cache fault) :: read →
      LeftBy s user.id f (listOf w user.id) rest asked .lrange (.cache fault) rest)
    (hok : ∀ tokens later, (k = .lpush → may none) → Leaves w (Registry.key user.id)
      (Entry.encode ⟨f.text, tokens.refresh⟩ :: roomIn s.registry.maxSessions rest) later.state →
      ends later (.ok (some tokens)))
    (hunmade : ∀ detail later, ¬ s.CanMint user.id w.now →
      Leaves w (Registry.key user.id) rest later.state →
      ends later (.error (.configuration detail)))
    (hbad : ∀ e l later, LeftBy s user.id f (listOf w user.id) rest later.asked k e l →
      (∀ detail, e ≠ .configuration detail) → Leaves w (Registry.key user.id) l later.state →
      ends later (.error e)) :
    Call.Meets (failing k may unit).recorded (do
      let tokens ← s.issue user.id f
      Call.log (event tokens)
      return tokens) (fun p₂ result => ∀ last, Idle p₂ last →
        ends last (result.map some) ∧ ∀ value fault, result = .ok value → k = .commit →
          ends last (.error (.database fault))) p := by
  refine Call.meets_bind.2 (issue_leaves (listOf w user.id) hdate h ?_ ?_ ?_ ?_)
  · intro tokens p₂ hmay hminted h₂
    refine Call.meets_bind.2 (meets_log (undisturbed_idle p₂ k may unit) ⟨.refl p₂, rfl⟩
      (hevent tokens) ?_)
    intro p₃ h₃
    refine Call.meets_pure.2 ?_
    intro last hlast
    have hidle := h₃.1.trans hlast
    have hleaves := h₂.unmoved hidle.unmoved
    refine ⟨hok tokens last hmay hleaves, ?_⟩
    -- The tokens are lost when it is the end of the transaction that is refused.
    intro value fault _ hk
    subst hk
    exact hbad _ _ last (.commit (hminted.mono hidle.asked)) (by simp) hleaves
  · intro detail p₂ hcannot h₂ last hlast
    exact ⟨hunmade detail last hcannot (h₂.unmoved hlast.unmoved), fun _ _ h => by cases h⟩
  · intro fault p₂ hk h₂ last hlast
    subst hk
    have hlater := h₂.idle hlast
    exact ⟨hbad _ _ last (hread fault _ hlater.readings) (by simp) hlater.toLeaves,
      fun _ _ h => by cases h⟩
  · intro fault l p₂ hleft h₂ last hlast
    exact ⟨hbad _ _ last (hleft.idle hlast) (by simp) (h₂.unmoved hlast.unmoved),
      fun _ _ h => by cases h⟩

/-- What a request that makes tokens leaves of the list of its owner. -/
theorem serve_leaves (s : Service) (unit : Nat) (horder : w.store.1.InOrder)
    (hdate : Instant.firstSecond ≤ w.now.seconds) (hq : q.fingerprint? = some f)
    (howner : q.owner s w.store.2.users w.now = .ok user)
    (hrest : rest = q.rest (listOf w user.id))
    (hok : ∀ tokens later, (k = .lpush → may none) → Leaves w (Registry.key user.id)
      (Entry.encode ⟨f.text, tokens.refresh⟩ :: roomIn s.registry.maxSessions rest) later.state →
      ends later (.ok (some tokens)))
    (hrevoked : ∀ later, q.finds? (listOf w user.id) = none → ends later (.error .sessionRevoked))
    (hunmade : ∀ detail later, ¬ s.CanMint user.id w.now →
      Leaves w (Registry.key user.id) rest later.state →
      ends later (.error (.configuration detail)))
    (hbad : ∀ e l later, LeftBy s user.id f (listOf w user.id) rest later.asked k e l →
      (∀ detail, e ≠ .configuration detail) → Leaves w (Registry.key user.id) l later.state →
      ends later (.error e)) :
    Call.Meets (failing k may unit).recorded (s.serve q) ends ⟨w, []⟩ := by
  have hstart : Stands w (Registry.key user.id) (listOf w user.id) [] ⟨w, []⟩ :=
    ⟨Leaves.refl horder _, rfl⟩
  have hbegin : ∀ fault later, k = .begin → Idle ⟨w, []⟩ later →
      ends later (.error (.database fault)) := by
    intro fault later hk h
    subst hk
    exact hbad _ _ later .begin (by simp) (hstart.idle h).toLeaves
  have hselect : ∀ fault p₂ last, k = .select → Idle ⟨w, []⟩ p₂ → Idle p₂ last →
      ends last (.error (.database fault)) := by
    intro fault p₂ last hk h h'
    subst hk
    exact hbad _ _ last .select (by simp) (hstart.idle (h.trans h')).toLeaves
  cases q with
  | logout token => cases hq
  | login name password fingerprint =>
    cases hq
    subst hrest
    refine Call.meets_map.2 (inUnit_idle hbegin ?_)
    intro p₁ h₁ hopen
    refine Call.meets_bind.2 (credentials_idle h₁ hopen ?_
      fun fault p₂ hk h₂ last hlast => ⟨hselect fault p₂ last hk h₂ hlast, fun _ _ h => by cases h⟩)
    intro p₂ h₂
    rw [show s.verified w.store.2.users name password = .ok user from howner]
    -- Nothing was presented, so the only reading is the first one, and nothing was taken out.
    exact issued_leaves s hdate (by simp) (hstart.idle h₂) (fun fault asked h => .read h) hok
      hunmade hbad
  | refresh fingerprint token =>
    cases hq
    refine Call.meets_map.2 (inUnit_idle hbegin ?_)
    intro p₁ h₁ hopen
    refine Call.meets_bind.2 (resolve_idle h₁ hopen ?_
      fun fault p₂ hk h₂ last hlast => ⟨hselect fault p₂ last hk h₂ hlast, fun _ _ h => by cases h⟩)
    intro p₂ h₂
    rw [show s.bearer w.store.2.users w.now token = .ok user from howner]
    refine Call.meets_bind.2 (consume_leaves (s := s) (hstart.idle h₂) hrest ?_ ?_ ?_)
    · intro raw p₃ _ h₃
      exact issued_leaves s hdate (by simp) h₃ (fun fault asked h => .readAgain h) hok hunmade hbad
    · intro l p₃ hfind h₃
      exact Call.meets_throw.2 fun last _ => ⟨hrevoked last hfind, fun _ _ h => by cases h⟩
    · intro fault l p₃ hleft h₃ last hlast
      exact ⟨hbad _ _ last (hleft.idle hlast) (by simp) (h₃.unmoved hlast.unmoved),
        fun _ _ h => by cases h⟩

end Requests

/--
**What a failure of the server leaves.**  While commands of one kind are refused or not, as
an adversary likes, a login or a refresh that ends with an error of the server leaves of
the list of its owner what `LeftBy` says, and of every other list what was there.  Without an
owner nothing is moved at all.
-/
theorem failure_leaves (s : Service) (q : Request) (k : Fragile) (unit : Nat)
    (w : World RemoteStore) (horder : w.store.1.InOrder)
    (hdate : Instant.firstSecond ≤ w.now.seconds) (hq : q.fingerprint? = some f) :
    Call.Meets (failing k (fun _ => True) unit).recorded (s.serve q) (fun later answer =>
      ∀ e, answer = .error e → e.isServerError = true →
        (∀ user, q.owner s w.store.2.users w.now = .ok user → ∃ l,
          LeftBy s user.id f (listOf w user.id) (q.rest (listOf w user.id)) later.asked k e l ∧
            Leaves w (Registry.key user.id) l later.state) ∧
        ((∀ user, q.owner s w.store.2.users w.now ≠ .ok user) →
          ∀ key, later.state.store.1.values later.state.now key =
            w.store.1.values w.now key)) ⟨w, []⟩ := by
  cases howner : q.owner s w.store.2.users w.now with
  | error e =>
    refine serve_idle s unit hq howner ?_
    intro e later h e' he' hserver
    refine ⟨fun user huser => (by cases huser), ?_⟩
    intro _ key
    exact ((Leaves.refl horder key).unmoved h.unmoved).list
  | ok user =>
    refine serve_leaves s unit horder hdate hq howner rfl (fun tokens later _ _ e he => by cases he)
      ?_ ?_ ?_
    · intro later _ e he hserver
      cases he
      simp [AuthError.isServerError, AuthError.kind, ErrorKind.isServerError,
        ErrorKind.status] at hserver
    · intro detail later _ h e he hserver
      cases he
      refine ⟨?_, fun hnone => absurd rfl (hnone user)⟩
      intro user' huser
      cases huser
      exact ⟨_, .unmade, h⟩
    · intro e l later hleft _ h e' he' hserver
      cases he'
      refine ⟨?_, fun hnone => absurd rfl (hnone user)⟩
      intro user' huser
      cases huser
      exact ⟨l, hleft, h⟩

namespace Sample

/-- The token has been given to the only session that the server keeps. -/
def kept : World RemoteStore :=
  let server := ({} : Cache.ListServer).store (Registry.key ada.id)
    (some ⟨.list [Registry.stored (fingerprint, token)], none⟩)
  ⟨(server, { users := [ada] }), .ofSeconds 0, ⟨[], 0⟩, []⟩

def refresh : Request := .refresh fingerprint token

theorem inOrder_kept : kept.store.1.InOrder := by
  refine Cache.ListServer.InOrder.store ⟨rfl, fun _ _ hget => (by cases hget)⟩ ?_
  intro new hnew
  obtain rfl := Option.some.inj hnew
  simp

theorem date_kept : Instant.firstSecond ≤ kept.now.seconds := by decide

theorem listOf_kept : listOf kept ada.id = [Registry.stored (fingerprint, token)] := by
  unfold listOf Cache.ListServer.values kept
  rw [Cache.ListServer.live?_store_self]
  rfl

theorem owner_refresh :
    refresh.owner (service 3) kept.store.2.users kept.now = .ok ada := by
  unfold refresh Request.owner
  exact bearer

theorem finds?_refresh :
    refresh.finds? (listOf kept ada.id) = some (Registry.stored (fingerprint, token)) := by
  have hlist : [Registry.stored (fingerprint, token)] =
      [(fingerprint, token)].map Registry.stored := rfl
  rw [listOf_kept, hlist]
  exact Registry.find?_stored (names 1).head?_ne List.mem_cons_self (by decide)

theorem rest_refresh : refresh.rest (listOf kept ada.id) = [] := by
  unfold Request.rest
  rw [finds?_refresh, listOf_kept, Option.elim_some]
  refine List.filter_eq_nil_iff.mpr ?_
  intro raw hraw
  rw [List.mem_singleton.mp hraw, bne_self_eq_false]
  exact Bool.false_ne_true

end Sample

/-- When the only session is refreshed and the new one cannot be added, none is left. -/
theorem failure_leaves_kept : Call.Meets (failing .lpush (fun _ => True) 0)
    ((Sample.service 3).serve Sample.refresh)
    (fun later answer => ∀ e, answer = .error e → e.isServerError = true →
      later.store.1.values later.now (Registry.key Sample.ada.id) = []) Sample.kept := by
  refine Program.Meets.of_recorded (Program.Meets.mono (failure_leaves (Sample.service 3)
    Sample.refresh .lpush 0 Sample.kept Sample.inOrder_kept Sample.date_kept rfl) ?_)
  intro later answer h e he hserver
  obtain ⟨l, hleft, hleaves⟩ := (h e he hserver).1 _ Sample.owner_refresh
  rw [Sample.rest_refresh] at hleft
  rw [hleaves.list]
  cases hleft <;> rfl

/-- So a failure does not always leave the list as it was. -/
theorem not_forall_failure_keeps : ¬ ∀ (s : Service) (q : Request) (k : Fragile) (unit : Nat)
    (w : World RemoteStore), w.store.1.InOrder → Instant.firstSecond ≤ w.now.seconds →
    q.fingerprint? ≠ none →
    Call.Meets (failing k (fun _ => True) unit) (s.serve q) (fun later answer =>
      ∀ e, answer = .error e → e.isServerError = true →
        ∀ key, later.store.1.values later.now key = w.store.1.values w.now key) w := by
  intro hall
  have hkeeps := hall (Sample.service 3) Sample.refresh .lpush 0 Sample.kept Sample.inOrder_kept
    Sample.date_kept (by simp [Sample.refresh, Request.fingerprint?])
  -- Here each of the requests is refused.
  have hempties : Call.Meets (failing .lpush (· = some "OOM") 0)
      ((Sample.service 3).serve Sample.refresh) (fun later answer =>
        ∃ fault, answer = .error (.cache fault) ∧
          later.store.1.values later.now (Registry.key Sample.ada.id) = []) Sample.kept := by
    refine Program.Meets.of_recorded (serve_leaves (Sample.service 3) 0 Sample.inOrder_kept
      Sample.date_kept rfl Sample.owner_refresh Sample.rest_refresh.symm ?_ ?_ ?_ ?_)
    · intro _ _ hmay _
      exact absurd (hmay rfl) (by simp)
    · intro _ hnone
      rw [Sample.finds?_refresh] at hnone
      cases hnone
    · intro _ _ hcannot _
      exact absurd (Sample.canMint _ (by decide) (by decide)) hcannot
    · intro e l later hleft hmade hleaves
      cases hleft with
      | unmade => exact absurd rfl (hmade _)
      | add _ => exact ⟨_, rfl, hleaves.list⟩
  have hkept := hkeeps.run (failing_answers .lpush (some "OOM") 0 trivial)
  obtain ⟨fault, hanswer, hlist⟩ := hempties.run (failing_answers .lpush (some "OOM") 0 rfl)
  have hsame := hkept _ hanswer rfl (Registry.key Sample.ada.id)
  rw [hlist] at hsame
  exact absurd (hsame.trans Sample.listOf_kept) (by simp)

end Service

end SessionAuth
