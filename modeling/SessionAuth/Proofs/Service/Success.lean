/-
Calls that lack nothing.

A call fails because of what it is answered: its user is not known, tokens cannot be made,
or the session that was presented is not there.  `favourable` is a contract under which
none of this comes about, and under it every call succeeds, whatever else the list holds
and whatever others do with it.

The contract says nothing of how long the list is.  A call that finds it too long drops it
and succeeds all the same, so that no session gets lost has to be seen from the list.
-/
import SessionAuth.Proofs.Service.Alone
import SessionAuth.Proofs.Service.Calls

namespace SessionAuth.Service

open Session (Registry Fingerprint)

/-- The answer of a request that succeeds: new tokens, if it is one that opens a session. -/
def Request.Succeeds (q : Request) (answer : Answer) : Prop :=
  ∃ issued, answer = .ok issued ∧ issued.isSome = q.fingerprint?.isSome

/-- After what a call has asked, newest first, the transaction of its unit is open. -/
def isBegun : List Asked → Bool
  | [] => false
  | ⟨.users c, _⟩ :: older => c.leavesOpen (isBegun older)
  | _ :: older => isBegun older

/-! ### The contract -/

/--
The reply is one that a call can use: the session that was presented is found under the
text `raw` until it has been taken out, the users are as given and can be looked up in a
transaction, and the clock shows one of some readings.
-/
def Favours (q : Request) (key raw : String) (users : List User) (Reading : Instant → Prop)
    (p : Place) : (e : Effect) → e.Reply → Prop
  | .cache c, reply => ∃ now m, reply = (Cache.Memory.perform now c m).1 ∧
      (q.token? ≠ none → p.phase.hasTaken key = false →
        q.finds? (m.values now key) = some raw)
  | .users c, reply => ∃ unit m, reply = (Users.Memory.perform unit c m).1 ∧ m.users = users ∧
      (isBegun p.seen = true → m.units.isOpen unit = true)
  | .clock, now => Reading now
  | _, _ => True

/-- Only the list at a key may be asked for, and every reply is one that the call can use. -/
def favourable (q : Request) (key raw : String) (users : List User) (Reading : Instant → Prop) :
    Contract Effect Effect.Reply Place where
  asks _ e := ∀ c, e = .cache c → c.key = key
  answers e p reply later := Favours q key raw users Reading p e reply ∧ later = p.next q e reply

section Contract

variable {s : Service} {q : Request} {key raw : String} {users : List User}
  {Reading : Instant → Prop} {p : Place} {α : Type}

/-- The call has begun its unit of work and has not come to the list. -/
def Arrived (p : Place) : Prop := p.phase = .arriving ∧ isBegun p.seen = true

theorem undisturbed_arrived : (favourable q key raw users Reading).Undisturbed Arrived Reading where
  asks_clock _ _ := nofun
  asks_random _ _ _ := nofun
  asks_log _ _ _ _ := nofun
  clock _ _ _ hp hanswer := ⟨hanswer.1, hanswer.2 ▸ hp⟩
  random _ _ _ _ hp hanswer := hanswer.2 ▸ hp
  log _ _ _ _ hp hanswer := hanswer.2 ▸ hp

theorem undisturbed_anywhere :
    (favourable q key raw users Reading).Undisturbed (fun _ => True) Reading where
  asks_clock _ _ := nofun
  asks_random _ _ _ := nofun
  asks_log _ _ _ _ := nofun
  clock _ _ _ _ hanswer := ⟨hanswer.1, trivial⟩
  random _ _ _ _ _ _ := trivial
  log _ _ _ _ _ _ := trivial

/-! ### Commands -/

/-- The list may be asked for, and the cache does not fail. -/
theorem favourable_cache_meets {c : Cache.Command} {ends : Place → Except AuthError c.Reply → Prop}
    (hkey : c.key = key)
    (hends : ∀ reply, Favours q key raw users Reading p (.cache c) (.ok reply) →
      ends (p.next q (.cache c) (.ok reply)) (.ok reply)) :
    Call.Meets (favourable q key raw users Reading) (Call.cache c) ends p := by
  refine Call.meets_cache ?_ ?_
  · intro d hd
    cases hd
    exact hkey
  · intro reply later hanswer
    obtain ⟨hfavours, rfl⟩ := hanswer
    obtain ⟨now, m, rfl, hfind⟩ := hfavours
    have hok : ∃ value, (Cache.Memory.perform now c m).1 = .ok value := by
      cases c <;> exact ⟨_, rfl⟩
    obtain ⟨value, hvalue⟩ := hok
    rw [hvalue]
    exact hends value ⟨now, m, hvalue.symm, hfind⟩

/-- In a transaction users are found. -/
theorem favourable_find_meets {c : Users.Command} {ends : Place → Except AuthError c.Reply → Prop}
    {found : c.Reply} (hp : Arrived p)
    (hfound : ∀ unit m, m.users = users → m.units.isOpen unit = true →
      (Users.Memory.perform unit c m).1 = .ok found)
    (hleaves : c.leavesOpen true = true)
    (hends : ∀ later, Arrived later → ends later (.ok found)) :
    Call.Meets (favourable q key raw users Reading) (Call.users c) ends p := by
  refine Call.meets_users nofun ?_
  intro reply later hanswer
  obtain ⟨⟨unit, m, rfl, husers, hopen⟩, rfl⟩ := hanswer
  rw [hfound unit m husers (hopen hp.2)]
  refine hends _ ⟨hp.1, ?_⟩
  show c.leavesOpen (isBegun p.seen) = true
  rw [hp.2]
  exact hleaves

/-! ### Users -/

/-- A token that is presented has a bearer. -/
theorem favourable_resolve_meets {token : String} {user : UserId}
    {ends : Place → Except AuthError User → Prop} (hp : Arrived p)
    (hbearer : ∀ now, Reading now → ∃ u, s.bearer users now token = .ok u ∧ u.id = user)
    (hends : ∀ later u, Arrived later → u.id = user → ends later (.ok u)) :
    Call.Meets (favourable q key raw users Reading) (s.resolve token .refresh) ends p := by
  unfold resolve
  refine Call.meets_bind.2 (decode_meets undisturbed_arrived hp ?_ ?_)
  · intro now payload later hnow hlater hread
    obtain ⟨u, hu, hid⟩ := hbearer now hnow
    obtain ⟨payload', hopen, huser, hfind, hkind⟩ := exists_payload_of_bearer hu
    obtain rfl : payload = payload' := Option.some.inj (hread.symm.trans hopen)
    refine Call.meets_bind.2 (Call.meets_ofExcept.2 ?_)
    rw [huser]
    have hfound : ∀ (unit : Nat) (m : Users.Memory), m.users = users →
        m.units.isOpen unit = true →
        (Users.Memory.perform unit (.findById u.id) m).1 = .ok (some u) := by
      intro unit m husers hopened
      unfold Users.Memory.perform
      dsimp only
      rw [if_pos hopened, husers, hfind]
    refine Call.meets_bind.2 (favourable_find_meets hlater hfound rfl ?_)
    intro last hlast
    dsimp only
    rw [if_pos hkind]
    exact hends last u hlast hid
  · intro now later hnow _ hread
    obtain ⟨u, hu, _⟩ := hbearer now hnow
    obtain ⟨payload, hopen, _⟩ := exists_payload_of_bearer hu
    cases hread.symm.trans hopen

/-- Whoever is verified is let in. -/
theorem favourable_credentials_meets {login : String} {password : Password.ClearText} {u : User}
    {ends : Place → Except AuthError User → Prop} (hp : Arrived p)
    (hverified : s.verified users login password = .ok u)
    (hends : ∀ later, Arrived later → ends later (.ok u)) :
    Call.Meets (favourable q key raw users Reading) (s.credentials login password) ends p := by
  unfold verified at hverified
  split at hverified
  · cases hverified
  · rename_i user hfind
    split at hverified
    · rename_i hverify
      cases hverified
      have hfound : ∀ (unit : Nat) (m : Users.Memory), m.users = users →
          m.units.isOpen unit = true →
          (Users.Memory.perform unit (.findByLogin login) m).1 = .ok (some u) := by
        intro unit m husers hopened
        unfold Users.Memory.perform
        dsimp only
        rw [if_pos hopened, husers, hfind]
      unfold credentials
      refine Call.meets_bind.2 (favourable_find_meets hp hfound rfl ?_)
      intro last hlast
      dsimp only
      rw [if_pos hverify]
      exact hends last hlast
    · cases hverified

/-! ### Sessions -/

/-- A session is added, whether or not the others are dropped. -/
theorem favourable_register_meets {user : UserId} {fingerprint token : String} {ttl : Nat}
    {ends : Place → Except AuthError Unit → Prop} (hkey : Registry.key user = key)
    (hends : ∀ later, ends later (.ok ())) :
    Call.Meets (favourable q key raw users Reading)
      (s.registry.register user fingerprint token ttl) ends p := by
  have hpush : ∀ before, Call.Meets (favourable q key raw users Reading) (do
      Call.pushTo (Registry.key user) (Session.Entry.encode ⟨fingerprint, token⟩) ttl
      Call.log (.sessionRegistered user)) ends before := by
    intro before
    refine Call.meets_bind.2 (favourable_cache_meets hkey ?_)
    intro reply _
    exact meets_log undisturbed_anywhere trivial (fun _ => by simp) fun last _ => hends last
  unfold Registry.register
  refine Call.meets_bind.2 (favourable_cache_meets hkey ?_)
  intro entries _
  dsimp only
  split
  · refine Call.meets_bind.2 (meets_log undisturbed_anywhere trivial (fun _ => by simp) ?_)
    intro later _
    exact Call.meets_bind.2 (favourable_cache_meets hkey fun reply _ => hpush _)
  · exact hpush _

/-- Tokens that can be made are made. -/
theorem favourable_issue_meets {user : UserId} {f : Fingerprint}
    {ends : Place → Except AuthError IssuedTokens → Prop} (hkey : Registry.key user = key)
    (hmint : ∀ now, Reading now → s.CanMint user now)
    (hends : ∀ later tokens, ends later (.ok tokens)) :
    Call.Meets (favourable q key raw users Reading) (s.issue user f) ends p := by
  unfold issue
  refine Call.meets_bind.2 (encode_meets undisturbed_anywhere trivial ?_)
  intro now id noise later hnow _
  obtain ⟨refresh, hrefresh⟩ := hmint now hnow id noise .refresh
  rw [hrefresh]
  refine Call.meets_bind.2 (encode_meets undisturbed_anywhere trivial ?_)
  intro now id noise later hnow _
  obtain ⟨access, haccess⟩ := hmint now hnow id noise .access
  rw [haccess]
  refine Call.meets_bind.2 (meets_clock undisturbed_anywhere trivial ?_)
  intro now later _ _
  refine Call.meets_bind.2 (favourable_register_meets hkey ?_)
  intro last
  exact hends last _

/-- The text that was found in the list is taken out of it. -/
theorem favourable_remove_meets {seen : List Asked} {entries : List String}
    {ends : Place → Except AuthError Bool → Prop} (htoken : q.token? ≠ none)
    (hends : ∀ later, ends later (.ok true)) :
    Call.Meets (favourable q key raw users Reading) (Call.removeFrom key raw) ends
      ⟨seen, .searching key entries⟩ := by
  refine favourable_cache_meets rfl ?_
  intro reply hfavours
  obtain ⟨now, m, hreply, hfind⟩ := hfavours
  have hmem : raw ∈ m.values now key := Request.mem_of_finds? (hfind htoken rfl)
  have hremoved : (m.remove now key raw).1 = true := by
    rw [Cache.Memory.remove_fst]
    exact decide_eq_true hmem
  obtain rfl : reply = true := (Except.ok.inj hreply).trans hremoved
  exact hends _

/-- What the list is found to hold, when a session is presented. -/
theorem finds?_of_favours {entries : List String} (hp : Arrived p) (htoken : q.token? ≠ none)
    (h : Favours q key raw users Reading p (.cache (.get key)) (.ok entries)) :
    q.finds? entries = some raw := by
  obtain ⟨now, m, hreply, hfind⟩ := h
  obtain rfl : entries = m.values now key := Except.ok.inj hreply
  refine hfind htoken ?_
  rw [hp.1]
  rfl

theorem favourable_consume_meets {user : UserId} {f : Fingerprint} {token : String}
    {ends : Place → Except AuthError Bool → Prop} (hp : Arrived p)
    (hkey : Registry.key user = key) (hends : ∀ later, ends later (.ok true)) :
    Call.Meets (favourable (.refresh f token) key raw users Reading)
      (Registry.consume user f.text token) ends p := by
  subst hkey
  unfold Registry.consume
  refine Call.meets_bind.2 (favourable_cache_meets rfl ?_)
  intro (entries : List String) hfavours
  have hfind : Registry.find? f.text token entries = some raw :=
    finds?_of_favours hp (by simp [Request.token?]) hfavours
  have hsome : entries.isEmpty = false := by
    cases entries with
    | nil => cases hfind
    | cons first rest => rfl
  obtain ⟨seen, φ⟩ := p
  obtain rfl : φ = .arriving := hp.1
  simp only [hsome, hfind, Bool.false_eq_true, if_false]
  refine Call.meets_bind.2 (favourable_remove_meets (by simp [Request.token?]) ?_)
  intro later
  exact hends later

theorem favourable_revoke_meets {user : UserId} {token : String}
    {ends : Place → Except AuthError Bool → Prop} (hp : Arrived p)
    (hkey : Registry.key user = key) (hends : ∀ later, ends later (.ok true)) :
    Call.Meets (favourable (.logout token) key raw users Reading)
      (Registry.revoke user token) ends p := by
  subst hkey
  unfold Registry.revoke
  refine Call.meets_bind.2 (favourable_cache_meets rfl ?_)
  intro (entries : List String) hfavours
  have hfind : Registry.findToken? token entries = some raw :=
    finds?_of_favours hp (by simp [Request.token?]) hfavours
  obtain ⟨seen, φ⟩ := p
  obtain rfl : φ = .arriving := hp.1
  simp only [hfind]
  exact favourable_remove_meets (by simp [Request.token?]) hends

/-! ### Requests -/

/-- Work that succeeds does so in a unit of work. -/
theorem favourable_inUnit_meets {work : Call α} {ends : Place → Except AuthError α → Prop}
    {Q : α → Prop} (hphase : p.phase = .arriving)
    (hwork : ∀ later, Arrived later → Call.Meets (favourable q key raw users Reading) work
      (fun _ result => ∃ value, result = .ok value ∧ Q value) later)
    (hends : ∀ later value, Q value → ends later (.ok value)) :
    Call.Meets (favourable q key raw users Reading) (Call.inUnit work) ends p := by
  unfold Call.inUnit
  refine Call.meets_bind.2 (Call.meets_users nofun ?_)
  intro reply later hanswer
  obtain ⟨⟨unit, m, rfl, _⟩, rfl⟩ := hanswer
  have hbegun : Arrived (p.next q (.users .begin) (.ok ())) := ⟨hphase, rfl⟩
  refine Call.meets_bind.2 (Call.meets_lift.2 ((hwork _ hbegun).mono ?_))
  intro last result hresult
  obtain ⟨value, rfl, hvalue⟩ := hresult
  refine Call.meets_bind.2 (Call.meets_users nofun ?_)
  intro reply final hanswer
  obtain ⟨⟨unit, m, rfl, _⟩, rfl⟩ := hanswer
  exact hends _ value hvalue

/-- **A call that lacks nothing succeeds.** -/
theorem serve_succeeds (s : Service) (q : Request) {user : UserId}
    (howner : ∀ now, Reading now → ∃ u, q.owner s users now = .ok u ∧ u.id = user)
    (hread : ∃ now, Reading now) (hmint : ∀ now, Reading now → s.CanMint user now) :
    Call.Meets (favourable q (Registry.key user) raw users Reading) (s.serve q)
      (fun _ answer => q.Succeeds answer) Place.start := by
  cases q with
  | login login password f =>
    obtain ⟨now, hnow⟩ := hread
    obtain ⟨u, hverified, rfl⟩ := howner now hnow
    refine Call.meets_map.2 (favourable_inUnit_meets (Q := fun _ => True) rfl ?_
      fun last tokens _ => ⟨some tokens, rfl, rfl⟩)
    intro later hlater
    refine Call.meets_bind.2 (favourable_credentials_meets hlater hverified ?_)
    intro later _
    refine Call.meets_bind.2 (favourable_issue_meets rfl hmint ?_)
    intro later tokens
    refine Call.meets_bind.2 (meets_log undisturbed_anywhere trivial (fun _ => by simp) ?_)
    intro last _
    exact ⟨tokens, rfl, trivial⟩
  | refresh f token =>
    refine Call.meets_map.2 (favourable_inUnit_meets (Q := fun _ => True) rfl ?_
      fun last tokens _ => ⟨some tokens, rfl, rfl⟩)
    intro later hlater
    refine Call.meets_bind.2 (favourable_resolve_meets hlater howner ?_)
    intro later u hlater hu
    subst hu
    refine Call.meets_bind.2 (favourable_consume_meets hlater rfl ?_)
    intro later
    refine Call.meets_bind.2 (favourable_issue_meets rfl hmint ?_)
    intro later tokens
    refine Call.meets_bind.2 (meets_log undisturbed_anywhere trivial (fun _ => by simp) ?_)
    intro last _
    exact ⟨tokens, rfl, trivial⟩
  | logout token =>
    refine Call.meets_bind.2 (favourable_inUnit_meets (Q := fun _ => True) rfl ?_
      fun last _ _ => ⟨none, rfl, rfl⟩)
    intro later hlater
    refine Call.meets_bind.2 (favourable_resolve_meets hlater howner ?_)
    intro later u hlater hu
    subst hu
    refine Call.meets_bind.2 (favourable_revoke_meets hlater rfl ?_)
    intro later
    exact meets_log undisturbed_anywhere trivial (fun _ => by simp) fun last _ => ⟨(), rfl, trivial⟩

/-- A call that asks for one list only has come to no other one. -/
theorem key?_next_of_asks {e : Effect} {reply : e.Reply} {later : Place}
    (hasks : (favourable q key raw users Reading).asks p e)
    (hanswer : (favourable q key raw users Reading).answers e p reply later)
    (h : ∀ k, p.phase.key? = some k → k = key) : ∀ k, later.phase.key? = some k → k = key := by
  obtain ⟨_, rfl⟩ := hanswer
  obtain ⟨seen, φ⟩ := p
  cases e with
  | cache c =>
    have hkey : c.key = key := hasks c rfl
    cases reply with
    | error e => exact h
    | ok reply =>
      intro k hk
      have hafter : (φ.after q c reply).key? = φ.key? ∨ (φ.after q c reply).key? = some c.key := by
        unfold Phase.after
        split
        · right
          split <;> rfl
        · left
          split <;> rfl
        all_goals exact Or.inl rfl
      rcases hafter with hsame | hnew
      · exact h k (hsame.symm.trans hk)
      · exact (Option.some.inj (hk.symm.trans hnew)).trans hkey
  | _ => exact h

/-- A call that lacks nothing succeeds with the list that it asked for. -/
theorem serve_favourable (s : Service) (q : Request) {user : UserId}
    (howner : ∀ now, Reading now → ∃ u, q.owner s users now = .ok u ∧ u.id = user)
    (hread : ∃ now, Reading now) (hmint : ∀ now, Reading now → s.CanMint user now) :
    Call.Meets (favourable q (Registry.key user) raw users Reading) (s.serve q)
      (fun p answer => (∀ k, p.phase.key? = some k → k = Registry.key user) ∧ q.Succeeds answer)
      Place.start :=
  Program.Meets.keeps (P := fun p : Place => ∀ k, p.phase.key? = some k → k = Registry.key user)
    (serve_succeeds s q howner hread hmint) (fun _ _ _ _ => key?_next_of_asks) nofun

end Contract

/-! ### Runs -/

section Runs

variable {n : Nat} {s : Service} {requests : Fin n → Request} {past : List (Happening n)}
  {w : World Store} {a : Scene Store n} {i : Fin n}

/-- The users stay who they are. -/
theorem Run.users_eq (hrun : Run inMemory (s.opening requests w) past a) :
    a.world.store.2.users = w.store.2.users := by
  induction hrun with
  | start => rfl
  | @step past h a c hrun hstep ih =>
    cases hstep with
    | waits hle => exact ih
    | @asks j e next reply w' hcall hreply =>
      cases hreply with
      | drawn count bits => exact ih
      | handled =>
        cases e with
        | users d => exact (Users.Memory.users_perform j d a.world.store.2).trans ih
        | _ => exact ih

/-- A call that has begun its unit of work has its transaction open. -/
theorem Run.isOpen (hrun : Run inMemory (s.opening requests w) past a)
    (hbegun : isBegun (own i past) = true) : a.world.store.2.units.isOpen i = true := by
  induction hrun with
  | start => cases hbegun
  | @step past h a c hrun hstep ih =>
    cases hstep with
    | waits hle => exact ih hbegun
    | @asks j e next reply w' hcall hreply =>
      by_cases hj : j = i
      · subst hj
        rw [own_asked_self] at hbegun
        cases hreply with
        | drawn count bits => exact ih hbegun
        | handled =>
          cases e with
          | users d =>
            show (a.world.store.2.perform j d).2.units.isOpen j = true
            rw [Users.Memory.isOpen_perform_self]
            cases d with
            | begin | create => rfl
            | findByLogin login => exact ih hbegun
            | findById id => exact ih hbegun
            | _ => cases hbegun
          | _ => exact ih hbegun
      · rw [own_asked_ne hj] at hbegun
        cases hreply with
        | drawn count bits => exact ih hbegun
        | handled =>
          cases e with
          | users d =>
            have hne : (i : Nat) ≠ j := fun h => hj (Fin.ext h.symm)
            exact (Users.Memory.isOpen_perform_ne _ d _ hne).trans (ih hbegun)
          | _ => exact ih hbegun

/-- A call that is answered as a contract says meets it from its place on. -/
theorem Run.meets {contract : Contract Effect Effect.Reply Place} {ends : Place → Answer → Prop}
    (hstart : Call.Meets contract (s.serve (requests i)) ends Place.start)
    (hrun : Run inMemory (s.opening requests w) past a)
    (hanswers : ∀ older c e reply w', older <:+ past → Run inMemory (s.opening requests w) older c →
      inMemory.Answers i e c.world reply w' → contract.answers e (s.place requests i older) reply
        (s.place requests i (.asked i ⟨e, reply⟩ :: older))) :
    (a.calls i).Meets contract ends (s.place requests i past) := by
  induction hrun with
  | start => exact hstart
  | @step past h a c hrun hstep ih =>
    have hbefore := ih fun older c e reply w' holder =>
      hanswers older c e reply w' (holder.trans (List.suffix_cons _ _))
    cases hstep with
    | waits hle => exact hbefore
    | @asks j e next reply w' hcall hreply =>
      show Program.Meets _ _ (if i = j then next reply else a.calls i) _
      by_cases hj : i = j
      · subst hj
        rw [if_pos rfl]
        rw [hcall] at hbefore
        exact hbefore.2 reply _ (hanswers past a e reply w' (List.suffix_cons _ _) hrun hreply)
      · rw [if_neg hj, place_asked_ne fun h => hj h.symm]
        exact hbefore

end Runs

end SessionAuth.Service
