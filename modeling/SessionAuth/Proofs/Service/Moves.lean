/-
What one step of a call does to the list of a user.

The rules of `Proofs/Service/Phase.lean` say which command a call may send; the cache in
memory says what the command does to a list.  `Move` is the two together, seen from one
key: the phase of the call and the list before, and both of them afterwards.  Every step
of every run is a move (`Run.move`), or time passes, which leaves the list or
takes all of it away.  The theorems about interleavings are inductions over these
moves, and look into no program again.
-/
import SessionAuth.Proofs.Cache.Memory
import SessionAuth.Proofs.Service.Interleaving

namespace SessionAuth.Service

/-- The state of collaborators in memory. -/
abbrev Store := Cache.Memory × Users.Memory

/-- Collaborators in memory. -/
abbrev inMemory : Backend Store := Deployment.inMemory.toBackend

/-- The list that a client sees at a key. -/
def sessions (w : World Store) (key : String) : List String := w.store.1.values w.now key

/-- The key of the list that a call has come to. -/
def Phase.key? : Phase → Option String
  | arriving => none
  | searching key _ | missed key | taken key _ | counting key _ | cleared key | added key _
  | dropped key => some key

/-- The call has got past taking a session out, if that is how it began. -/
def Phase.hasTaken (key : String) : Phase → Bool
  | taken k _ | counting k _ | cleared k | added k _ => k == key
  | _ => false

/-- A step of a call, with the list at a key before and afterwards. -/
inductive Move (s : Service) (q : Request) (key : String) :
    Place → List String → Asked → Phase → List String → Prop
  /-- Nothing is asked of the cache. -/
  | aside {p : Place} {l : List String} {x : Asked} (hx : ∀ c, x.command ≠ .cache c) :
    Move s q key p l x p.phase l
  /-- Another list is asked for. -/
  | elsewhere {p : Place} {l : List String} {c : Cache.Command} {reply : c.Reply} {φ : Phase}
      (hc : c.key ≠ key) (hbefore : p.phase.key? ≠ some key) (hafter : φ.key? ≠ some key) :
    Move s q key p l ⟨.cache c, .ok reply⟩ φ l
  /-- The list is read to find a session in it. -/
  | search {seen : List Asked} {l : List String} (hq : q.token? ≠ none)
      (habout : q.IsAbout s key) :
    Move s q key ⟨seen, .arriving⟩ l ⟨.cache (.get key), .ok l⟩ (.searching key l) l
  /-- The list is read to add a session for a login. -/
  | countFirst {seen : List Asked} {l : List String} (hq : q.token? = none)
      (habout : q.IsAbout s key) :
    Move s q key ⟨seen, .arriving⟩ l ⟨.cache (.get key), .ok l⟩ (.counting key l.length) l
  /-- The list is read to add a session in the place of another one. -/
  | countAgain {seen : List Asked} {raw : String} {l : List String} (hq : q.fingerprint? ≠ none) :
    Move s q key ⟨seen, .taken key raw⟩ l ⟨.cache (.get key), .ok l⟩ (.counting key l.length) l
  /-- The session that was found is taken out. -/
  | take {seen : List Asked} {entries l : List String} {raw : String}
      (hfind : q.finds? entries = some raw) (hmem : raw ∈ l) :
    Move s q key ⟨seen, .searching key entries⟩ l ⟨.cache (.remove key raw), .ok true⟩
      (.taken key raw) (l.filter (· != raw))
  /-- The session that was found is no longer there. -/
  | miss {seen : List Asked} {entries l : List String} {raw : String}
      (hfind : q.finds? entries = some raw) (hmem : raw ∉ l) :
    Move s q key ⟨seen, .searching key entries⟩ l ⟨.cache (.remove key raw), .ok false⟩
      (.missed key) l
  /-- The session was not found among others, and all of them are dropped. -/
  | dropUnfound {seen : List Asked} {entries l : List String} (hq : q.fingerprint? ≠ none)
      (hentries : entries ≠ []) (hfind : q.finds? entries = none) :
    Move s q key ⟨seen, .searching key entries⟩ l ⟨.cache (.delete key), .ok ()⟩ (.dropped key) []
  /-- The session was gone, and the others are dropped. -/
  | dropMissed {seen : List Asked} {l : List String} (hq : q.fingerprint? ≠ none) :
    Move s q key ⟨seen, .missed key⟩ l ⟨.cache (.delete key), .ok ()⟩ (.dropped key) []
  /-- There were too many sessions, and all of them are dropped. -/
  | clear {seen : List Asked} {l : List String} {count : Nat}
      (hfull : s.registry.maxSessions ≤ count) :
    Move s q key ⟨seen, .counting key count⟩ l ⟨.cache (.delete key), .ok ()⟩ (.cleared key) []
  /-- A session is added since there was room. -/
  | addBelow {seen : List Asked} {l : List String} {count : Nat} {raw : String} {ttl : Option Nat}
      (hroom : count < s.registry.maxSessions) (hopens : q.Opens s seen key raw ttl) :
    Move s q key ⟨seen, .counting key count⟩ l ⟨.cache (.push key raw ttl), .ok ()⟩
      (.added key raw) (raw :: l)
  /-- A session is added after all others were dropped. -/
  | addCleared {seen : List Asked} {l : List String} {raw : String} {ttl : Option Nat}
      (hopens : q.Opens s seen key raw ttl) :
    Move s q key ⟨seen, .cleared key⟩ l ⟨.cache (.push key raw ttl), .ok ()⟩
      (.added key raw) (raw :: l)

variable {s : Service} {q : Request} {p : Place} {key : String} {m : Cache.Memory} {now : Instant}

/-! ### Commands to the cache -/

/-- A push under the rules puts its text in front. -/
theorem values_push_of_opens {seen : List Asked} {raw : String} {ttl : Option Nat}
    (h : q.Opens s seen key raw ttl) :
    (m.push now key raw ttl).values now key = raw :: m.values now key := by
  obtain ⟨_, _, _, seconds, _, _, _, _, rfl, hseconds⟩ := h
  exact Cache.Memory.values_push_self hseconds

/-- A command does nothing at other keys. -/
theorem values_perform_ne {c : Cache.Command} (h : c.key ≠ key) :
    (Cache.Memory.perform now c m).2.values now key = m.values now key := by
  unfold Cache.Memory.values
  cases c with
  | get k => rfl
  | push k raw ttl =>
    have hne : key ≠ k := fun h' => h h'.symm
    exact congrArg (fun held => (Option.map Cache.Held.values held).getD [])
      (Cache.Memory.live?_push_ne hne)
  | remove k raw =>
    have hne : key ≠ k := fun h' => h h'.symm
    exact congrArg (fun held => (Option.map Cache.Held.values held).getD [])
      (Cache.Memory.live?_remove_ne hne)
  | delete k =>
    have hne : key ≠ k := fun h' => h h'.symm
    exact congrArg (fun held => (Option.map Cache.Held.values held).getD [])
      (Cache.Memory.live?_erase_ne hne)

/-- Under the rules a call that has come to a list asks for no other one. -/
theorem key?_of_allowed {c : Cache.Command} (h : p.AllowsCache s q c) :
    p.phase = .arriving ∨ p.phase.key? = some c.key := by
  obtain ⟨seen, φ⟩ := p
  cases φ with
  | arriving => exact Or.inl rfl
  | searching k entries => cases c <;> first | exact h.elim | exact Or.inr (by rw [h.1]; rfl)
  | missed k => cases c <;> first | exact h.elim | exact Or.inr (by rw [h.1]; rfl)
  | taken k raw => cases c <;> first | exact h.elim | exact Or.inr (by rw [h.1]; rfl)
  | counting k count => cases c <;> first | exact h.elim | exact Or.inr (by rw [h.1]; rfl)
  | cleared k => cases c <;> first | exact h.elim | exact Or.inr (by rw [h.1]; rfl)
  | added k raw => cases c <;> exact h.elim
  | dropped k => cases c <;> exact h.elim

/-- After an allowed command a call has come to the list of the command. -/
theorem key?_after {c : Cache.Command} (h : p.AllowsCache s q c) (reply : c.Reply) :
    (p.phase.after q c reply).key? = some c.key := by
  obtain ⟨seen, φ⟩ := p
  cases φ with
  | arriving =>
    cases c <;> try exact h.elim
    show Phase.key? (if _ then _ else _) = _
    split <;> rfl
  | searching k entries =>
    cases c with
    | remove other raw =>
      have hafter : ∀ removed : Bool,
          (Phase.after q (.searching k entries) (.remove other raw) removed).key? = some k :=
        fun removed => by cases removed <;> rfl
      exact (hafter reply).trans (congrArg some h.1.symm)
    | delete other => exact congrArg some h.1.symm
    | _ => exact h.elim
  | missed k => cases c <;> first | exact h.elim | (rw [h.1]; rfl)
  | taken k raw => cases c <;> first | exact h.elim | (rw [h.1]; rfl)
  | counting k count => cases c <;> first | exact h.elim | (rw [h.1]; rfl)
  | cleared k => cases c <;> first | exact h.elim | (rw [h.1]; rfl)
  | added k raw => cases c <;> exact h.elim
  | dropped k => cases c <;> exact h.elim

/-- **An allowed command to the list at a key is a move.** -/
theorem Move.of_perform (now : Instant) (m : Cache.Memory) {c : Cache.Command}
    (h : p.AllowsCache s q c) :
    ∃ reply, (Cache.Memory.perform now c m).1 = .ok reply ∧
      Move s q c.key p (m.values now c.key) ⟨.cache c, .ok reply⟩ (p.phase.after q c reply)
        ((Cache.Memory.perform now c m).2.values now c.key) := by
  obtain ⟨seen, φ⟩ := p
  cases c with
  | get k =>
    refine ⟨m.values now k, rfl, ?_⟩
    cases φ <;> try exact h.elim
    · by_cases hq : q.token? = none
      · simp only [Phase.after, hq, if_true]
        exact .countFirst hq h
      · simp only [Phase.after, hq, if_false]
        exact .search hq h
    · obtain ⟨rfl, hq⟩ := h
      exact .countAgain hq
  | push k raw ttl =>
    refine ⟨(), rfl, ?_⟩
    cases φ <;> try exact h.elim
    · obtain ⟨rfl, hroom, hopens⟩ := h
      have hvalues : (m.push now k raw ttl).values now k = raw :: m.values now k :=
        values_push_of_opens hopens
      exact hvalues ▸ .addBelow hroom hopens
    · obtain ⟨rfl, hopens⟩ := h
      have hvalues : (m.push now k raw ttl).values now k = raw :: m.values now k :=
        values_push_of_opens hopens
      exact hvalues ▸ .addCleared hopens
  | remove k raw =>
    have hvalues : (m.remove now k raw).2.values now k = (m.values now k).filter (· != raw) :=
      Cache.Memory.values_remove_self
    cases φ <;> try exact h.elim
    obtain ⟨rfl, hfind⟩ := h
    by_cases hmem : raw ∈ m.values now k
    · have hfst : (m.remove now k raw).1 = true := by
        rw [Cache.Memory.remove_fst, decide_eq_true hmem]
      exact ⟨true, congrArg Except.ok hfst, hvalues ▸ .take hfind hmem⟩
    · have hfst : (m.remove now k raw).1 = false := by
        rw [Cache.Memory.remove_fst, decide_eq_false hmem]
      have hkept : (m.values now k).filter (· != raw) = m.values now k := by
        rw [List.filter_eq_self]
        intro other hother
        simpa using fun heq : other = raw => hmem (heq ▸ hother)
      refine ⟨false, congrArg Except.ok hfst, ?_⟩
      exact (congrArg (Move s q k _ _ _ _) (hvalues.trans hkept)).mpr (.miss hfind hmem)
  | delete k =>
    refine ⟨(), rfl, ?_⟩
    have hvalues : (Cache.Memory.mk (m.lists.erase k)).values now k = [] :=
      Cache.Memory.values_erase_self
    cases φ <;> try exact h.elim
    · obtain ⟨rfl, hq, hentries, hfind⟩ := h
      exact hvalues ▸ .dropUnfound hq hentries hfind
    · obtain ⟨rfl, hq⟩ := h
      exact hvalues ▸ .dropMissed hq
    · obtain ⟨rfl, hfull⟩ := h
      exact hvalues ▸ .clear hfull

/-- Whoever is past taking a session out stays so. -/
theorem Move.hasTaken {x : Asked} {l l' : List String} {φ : Phase}
    (h : Move s q key p l x φ l')
    (hbefore : p.phase.hasTaken key = true) : φ.hasTaken key = true := by
  cases h with
  | aside hx => exact hbefore
  | elsewhere hc hnot hafter =>
    generalize p.phase = ψ at hbefore hnot
    cases ψ <;> simp_all [Phase.hasTaken, Phase.key?]
  | _ => first | exact hbefore | simp_all [Phase.hasTaken]

/-! ### Runs -/

variable {n : Nat} {requests : Fin n → Request} {past : List (Happening n)} {w : World Store}
  {a c : Scene Store n}

/-- What collaborators in memory reply is what is to be expected of them. -/
theorem expected_of_answers {unit : Nat} {e : Effect} {w w' : World Store} {reply : e.Reply}
    (h : inMemory.Answers unit e w reply w') : expected e reply := by
  cases h with
  | handled => cases e <;> first | exact ⟨_, _, rfl⟩ | trivial
  | drawn => trivial

/-- Where a call asks a command, the rules allow it. -/
theorem Run.allows {i : Fin n} {e : Effect} {next : e.Reply → Action Answer}
    (hrun : Run inMemory (s.opening requests w) past a) (hcall : a.calls i = Program.ask e next) :
    (s.rules (requests i)).allows (s.place requests i past) e := by
  have hfollows := hrun.follows (fun _ _ _ _ _ => expected_of_answers) i
  rw [hcall] at hfollows
  exact hfollows.1

/-- **Every step of a call is a move.** -/
theorem Run.move (hrun : Run inMemory (s.opening requests w) past a) (key : String) {i : Fin n}
    {x : Asked} (hstep : Scene.Step inMemory a (.asked i x) c) :
    Move s (requests i) key (s.place requests i past) (sessions a.world key) x
      (s.place requests i (.asked i x :: past)).phase (sessions c.world key) := by
  rw [place_asked_self]
  cases hstep with
  | @asks _ e next reply w' hcall hreply =>
    have hallows := hrun.allows hcall
    cases hreply with
    | drawn count bits => exact .aside fun _ h => by cases h
    | handled =>
      cases e with
      | cache d =>
        obtain ⟨reply, hok, hmove⟩ := Move.of_perform a.world.now a.world.store.1 hallows
        have hhandle : (inMemory.handle i (.cache d) a.world).1 = .ok reply := hok
        simp only [hhandle]
        by_cases hkey : d.key = key
        · subst hkey
          exact hmove
        · have hother : (s.place requests i past).phase.key? ≠ some key := by
            rcases key?_of_allowed hallows with h | h
            · rw [h]
              exact Option.some_ne_none key |>.symm
            · rw [h]
              exact fun heq => hkey (Option.some.inj heq)
          have hlist : sessions (inMemory.handle i (.cache d) a.world).2 key =
              sessions a.world key := values_perform_ne hkey
          rw [hlist]
          refine .elsewhere hkey hother ?_
          show Phase.key? (Phase.after _ _ _ _) ≠ _
          rw [key?_after hallows]
          exact fun heq => hkey (Option.some.inj heq)
      | users d => exact .aside fun _ h => by cases h
      | clock => exact .aside fun _ h => by cases h
      | random count => exact .aside fun _ h => by cases h
      | log event => exact .aside fun _ h => by cases h

/-- When time passes, a list stays or is gone. -/
theorem sessions_waited {later : Instant} (hstep : Scene.Step inMemory a (.waited later) c) :
    sessions c.world key = sessions a.world key ∨ sessions c.world key = [] := by
  cases hstep with
  | waits hle => exact Cache.Memory.values_later hle

/--
What holds of a list at the start of a run, and is kept by every move and by time, holds
throughout the run.
-/
theorem Run.invariant {P : List (Happening n) → List String → Prop} (key : String)
    (hstart : P [] (sessions w key))
    (hmove : ∀ past l i x l', P past l →
      Move s (requests i) key (s.place requests i past) l x
        (s.place requests i (.asked i x :: past)).phase l' → P (.asked i x :: past) l')
    (hwait : ∀ past l later l', P past l → l' = l ∨ l' = [] → P (.waited later :: past) l')
    (hrun : Run inMemory (s.opening requests w) past a) : P past (sessions a.world key) := by
  induction hrun with
  | start => exact hstart
  | @step past h a c hrun hstep ih =>
    cases h with
    | asked i x => exact hmove _ _ _ _ _ ih (hrun.move key hstep)
    | waited later => exact hwait _ _ _ _ ih (sessions_waited hstep)

/-- The list that a call has come to is the one that its request is about. -/
theorem Run.isAbout (hrun : Run inMemory (s.opening requests w) past a) {i : Fin n} {key : String}
    (hkey : (s.place requests i past).phase.key? = some key) : (requests i).IsAbout s key := by
  have habout := hrun.invariant key
    (P := fun past _ => ∀ i, (s.place requests i past).phase.key? = some key →
      (requests i).IsAbout s key)
    ?start ?move ?wait
  case start => exact fun i h => nomatch h
  case wait => exact fun past l later l' ih _ => ih
  case move =>
    intro past l j x l' ih hmove i hi
    by_cases hj : j = i
    · subst hj
      have hbefore := ih j
      generalize s.place requests j past = p at hmove hbefore
      generalize (s.place requests j (.asked j x :: past)).phase = φ at hmove hi
      cases hmove with
      | aside hx => exact hbefore hi
      | elsewhere hc _ hafter => exact absurd hi hafter
      | search hq habout => exact habout
      | countFirst hq habout => exact habout
      | _ => exact hbefore rfl
    · rw [place_asked_ne hj] at hi
      exact ih i hi
  exact habout i hkey

end SessionAuth.Service
