/-
Calls that keep out of each other's way.

What befalls a call is given from outside: the clock, the random bits, and mishaps, by which
any of its commands to a collaborator fails, with its effect or without one.  All of that is
arbitrary here.  A call changes the cells of the keys that it reaches for and no others
(`spares`), and it goes the same way in all worlds that agree on these cells
(`perform_congr`), because every request does so.  The only thing to see to is the unit of
work: its transaction is in the same state from its beginning on.

So calls that reach for different keys do not notice each other: in either order they give
the same results and leave the same in the cache (`commute`).
-/
import SessionAuth.Proofs.Deployment.View
import SessionAuth.Proofs.Program.Record
import SessionAuth.Proofs.Service.Phase
import SessionAuth.Service

namespace SessionAuth

variable {σ α β : Type} {v : View σ} {d : Deployment σ}

/-! ### Calls in a world -/

/-- A failure that befalls one command to a collaborator. -/
structure Mishap where
  error : AuthError
  /-- The command is carried out all the same, and only its reply is lost. -/
  isDone : Bool

namespace Backend

/-- Carries out one request, unless a mishap befalls it. -/
def attempt (b : Backend σ) (unit : Nat) (mishap : Option Mishap) :
    (e : Effect) → World σ → e.Reply × World σ
  | .cache c, w =>
    match mishap with
    | some m => (.error m.error, if m.isDone then (b.handle unit (.cache c) w).2 else w)
    | none => b.handle unit (.cache c) w
  | .users c, w =>
    match mishap with
    | some m => (.error m.error, if m.isDone then (b.handle unit (.users c) w).2 else w)
    | none => b.handle unit (.users c) w
  | .clock, w => b.handle unit .clock w
  | .random count, w => b.handle unit (.random count) w
  | .log event, w => b.handle unit (.log event) w

/-- Carries out the requests of a call; the mishaps are given by the number of the request. -/
def attempts (b : Backend σ) (unit : Nat) (mishaps : Nat → Option Mishap) (e : Effect)
    (state : World σ × Nat) : e.Reply × World σ × Nat :=
  ((b.attempt unit (mishaps state.2) e state.1).1,
    (b.attempt unit (mishaps state.2) e state.1).2, state.2 + 1)

/-- Carries out a call in the unit of work with number `unit`. -/
def perform (b : Backend σ) (unit : Nat) (mishaps : Nat → Option Mishap) (call : Call α)
    (w : World σ) : Except AuthError α × World σ :=
  ((Program.run (b.attempts unit mishaps) call.run (w, 0)).1,
    (Program.run (b.attempts unit mishaps) call.run (w, 0)).2.1)

/-- What the call asks meanwhile, oldest first. -/
def asked (b : Backend σ) (unit : Nat) (mishaps : Nat → Option Mishap) (call : Call α)
    (w : World σ) : List Asked := call.run.record (b.attempts unit mishaps) (w, 0)

end Backend

/-- The cache is asked for what is stored at this key. -/
def Reaches (asked : List Asked) (key : String) : Prop :=
  ∃ (c : Cache.Command) (reply : c.Outcome), ⟨.cache c, reply⟩ ∈ asked ∧ c.key = key

namespace View

variable {keys : String → Prop} {w w' w'' : World σ} {unit : Nat}

/-- Of the one world, the other has at most the cells at these keys changed. -/
structure Spares (v : View σ) (keys : String → Prop) (w w' : World σ) : Prop where
  ready : v.Ready w'.store
  front : v.front w'.store = v.front w.store
  cell : ∀ key, ¬ keys key → v.cell key w'.store = v.cell key w.store

/-- Two worlds alike as far as a call can see that reaches for these keys only. -/
structure Agree (v : View σ) (keys : String → Prop) (w w' : World σ) : Prop where
  ready : v.Ready w.store
  ready' : v.Ready w'.store
  now : w'.now = w.now
  entropy : w'.entropy = w.entropy
  front : v.front w'.store = v.front w.store
  cell : ∀ key, keys key → v.cell key w'.store = v.cell key w.store

/-- The transaction of the unit is as open in the one world as in the other. -/
def SameUnit (v : View σ) (unit : Nat) (w w' : World σ) : Prop :=
  v.isOpen unit w'.store = v.isOpen unit w.store

/-- Two worlds that are alike after as many requests in the one as in the other. -/
def Abreast (v : View σ) (unit : Nat) (keys : String → Prop) (state state' : World σ × Nat) :
    Prop :=
  v.Agree keys state.1 state'.1 ∧ v.SameUnit unit state.1 state'.1 ∧ state'.2 = state.2

/-! One request. -/

/-- A request changes the cells at the keys it is allowed, and no others. -/
theorem Spares.handle (h : v.Fits d) {e : Effect} (hkeys : ∀ c, e = .cache c → keys c.key)
    (hspares : v.Spares keys w w') : v.Spares keys w (d.handle unit e w').2 := by
  cases e with
  | cache c =>
    refine ⟨h.ready_cache _ c _ hspares.ready,
      (h.front_cache _ c _ hspares.ready).trans hspares.front, ?_⟩
    intro key hkey
    have hne : key ≠ c.key := by
      rintro rfl
      exact hkey (hkeys c rfl)
    exact (h.cell_cache _ c _ key hspares.ready hne).trans (hspares.cell key hkey)
  | users c =>
    exact ⟨h.ready_users unit c _ hspares.ready, (h.front_users unit c _).trans hspares.front,
      fun key hkey => (h.cell_users unit c _ key).trans (hspares.cell key hkey)⟩
  | clock => exact hspares
  | random count | log event => exact ⟨hspares.ready, hspares.front, hspares.cell⟩

/-- Mishaps do not change that: a command has its effect, or none. -/
theorem Spares.attempt (h : v.Fits d) {e : Effect} (hkeys : ∀ c, e = .cache c → keys c.key)
    (hspares : v.Spares keys w w') (mishap : Option Mishap) :
    v.Spares keys w (d.attempt unit mishap e w').2 := by
  have hhandled : v.Spares keys w (d.handle unit e w').2 := hspares.handle h hkeys
  have hfailed : ∀ isDone : Bool,
      v.Spares keys w (if isDone then (d.handle unit e w').2 else w') := by
    intro isDone
    split
    · exact hhandled
    · exact hspares
  cases e with
  | cache c =>
    cases mishap with
    | none => exact hhandled
    | some m => exact hfailed m.isDone
  | users c =>
    cases mishap with
    | none => exact hhandled
    | some m => exact hfailed m.isDone
  | clock | random count | log event => exact hhandled

/-- A request is replied the same in worlds that are alike, and leaves them alike. -/
theorem Agree.handle (h : v.Fits d) {e : Effect} (hkeys : ∀ c, e = .cache c → keys c.key)
    (hagree : v.Agree keys w w') (hunit : v.SameUnit unit w w') :
    (d.handle unit e w').1 = (d.handle unit e w).1 ∧
      v.Agree keys (d.handle unit e w).2 (d.handle unit e w').2 ∧
      v.SameUnit unit (d.handle unit e w).2 (d.handle unit e w').2 := by
  have hnow := hagree.now
  cases e with
  | cache c =>
    obtain ⟨hreply, hcell⟩ := h.cache_congr w.now c w.store w'.store hagree.ready hagree.ready'
      hagree.front (hagree.cell _ (hkeys c rfl))
    refine ⟨?_, ⟨h.ready_cache _ c _ hagree.ready, h.ready_cache _ c _ hagree.ready', hnow,
      hagree.entropy, ?_, ?_⟩, ?_⟩
    · show (d.cache w'.now c w'.store).1 = (d.cache w.now c w.store).1
      rw [hnow, hreply]
    · show v.front (d.cache w'.now c w'.store).2 = v.front (d.cache w.now c w.store).2
      rw [h.front_cache _ c _ hagree.ready', h.front_cache _ c _ hagree.ready, hagree.front]
    · intro key hkey
      show v.cell key (d.cache w'.now c w'.store).2 = v.cell key (d.cache w.now c w.store).2
      rw [hnow]
      by_cases hsame : key = c.key
      · rw [hsame]
        exact hcell
      · rw [h.cell_cache _ c _ key hagree.ready' hsame, h.cell_cache _ c _ key hagree.ready hsame]
        exact hagree.cell key hkey
    · exact (h.isOpen_cache _ c _ unit).trans (hunit.trans (h.isOpen_cache _ c _ unit).symm)
  | users c =>
    obtain ⟨hreply, hopen⟩ := h.users_congr unit c w.store w'.store hagree.front hunit
    refine ⟨hreply, ⟨h.ready_users unit c _ hagree.ready, h.ready_users unit c _ hagree.ready',
      hnow, hagree.entropy, ?_, ?_⟩, hopen⟩
    · exact (h.front_users unit c _).trans (hagree.front.trans (h.front_users unit c _).symm)
    · intro key hkey
      exact (h.cell_users unit c _ key).trans
        ((hagree.cell key hkey).trans (h.cell_users unit c _ key).symm)
  | clock => exact ⟨hnow, hagree, hunit⟩
  | random count =>
    refine ⟨congrArg (fun dice => (Entropy.bits dice count).1) hagree.entropy, ?_, hunit⟩
    exact ⟨hagree.ready, hagree.ready', hnow,
      congrArg (fun dice => (Entropy.bits dice count).2) hagree.entropy, hagree.front, hagree.cell⟩
  | log event =>
    exact ⟨rfl, ⟨hagree.ready, hagree.ready', hnow, hagree.entropy, hagree.front, hagree.cell⟩,
      hunit⟩

/-- The same mishaps in both worlds leave them alike as well. -/
theorem Agree.attempt (h : v.Fits d) {e : Effect} (hkeys : ∀ c, e = .cache c → keys c.key)
    (hagree : v.Agree keys w w') (hunit : v.SameUnit unit w w') (mishap : Option Mishap) :
    (d.attempt unit mishap e w').1 = (d.attempt unit mishap e w).1 ∧
      v.Agree keys (d.attempt unit mishap e w).2 (d.attempt unit mishap e w').2 ∧
      v.SameUnit unit (d.attempt unit mishap e w).2 (d.attempt unit mishap e w').2 := by
  have hhandled := hagree.handle h hkeys hunit
  have hfailed : ∀ isDone : Bool,
      v.Agree keys (if isDone then (d.handle unit e w).2 else w)
          (if isDone then (d.handle unit e w').2 else w') ∧
        v.SameUnit unit (if isDone then (d.handle unit e w).2 else w)
          (if isDone then (d.handle unit e w').2 else w') := by
    intro isDone
    cases isDone with
    | true => exact hhandled.2
    | false => exact ⟨hagree, hunit⟩
  cases e with
  | cache c =>
    cases mishap with
    | none => exact hhandled
    | some m => exact ⟨rfl, hfailed m.isDone⟩
  | users c =>
    cases mishap with
    | none => exact hhandled
    | some m => exact ⟨rfl, hfailed m.isDone⟩
  | clock | random count | log event => exact hhandled

/-- Beginning a unit of work, if it succeeds, makes it the same in both worlds. -/
theorem Agree.begin (h : v.Fits d) (hagree : v.Agree keys w w') (unit : Nat)
    (mishap : Option Mishap) :
    (d.attempt unit mishap (.users .begin) w').1 = (d.attempt unit mishap (.users .begin) w).1 ∧
      v.Agree keys (d.attempt unit mishap (.users .begin) w).2
        (d.attempt unit mishap (.users .begin) w').2 ∧
      ((d.attempt unit mishap (.users .begin) w).1 = .ok () →
        v.SameUnit unit (d.attempt unit mishap (.users .begin) w).2
          (d.attempt unit mishap (.users .begin) w').2) := by
  obtain ⟨hreply, hopen⟩ := h.begin_congr unit w.store w'.store hagree.front
  have hhandled : v.Agree keys (d.handle unit (.users .begin) w).2
      (d.handle unit (.users .begin) w').2 := by
    refine ⟨h.ready_users unit .begin _ hagree.ready, h.ready_users unit .begin _ hagree.ready',
      hagree.now, hagree.entropy, ?_, ?_⟩
    · exact (h.front_users unit .begin _).trans
        (hagree.front.trans (h.front_users unit .begin _).symm)
    · intro key hkey
      exact (h.cell_users unit .begin _ key).trans
        ((hagree.cell key hkey).trans (h.cell_users unit .begin _ key).symm)
  cases mishap with
  | none => exact ⟨hreply, hhandled, hopen⟩
  | some m =>
    refine ⟨rfl, ?_, nofun⟩
    show v.Agree keys (if m.isDone then (d.handle unit (.users .begin) w).2 else w)
      (if m.isDone then (d.handle unit (.users .begin) w').2 else w')
    cases m.isDone with
    | true => exact hhandled
    | false => exact hagree

end View

/-! ### Whole calls -/

/-- The call begins a unit of work first, and if that fails it has failed. -/
def Call.Opens (call : Call α) : Prop :=
  ∃ next : Users.Command.begin.Outcome → Action (Except AuthError α),
    call.run = Program.ask (Effect.users .begin) next ∧ ∀ e, next (.error e) = .done (.error e)

theorem Call.opens_inUnit (work : Call α) : (Call.inUnit work).Opens := by
  refine ⟨_, rfl, ?_⟩
  intro e
  rfl

namespace View.Fits

variable {unit unit' : Nat} {mishaps mishaps' : Nat → Option Mishap} {call : Call α}
  {other : Call β} {w w' : World σ}

/-- **A call changes the cells of the keys that it reaches for, and no others.** -/
theorem spares (h : v.Fits d) (hready : v.Ready w.store) :
    v.Spares (Reaches (d.asked unit mishaps call w)) w (d.perform unit mishaps call w).2 := by
  have hstep : ∀ x ∈ d.asked unit mishaps call w, ∀ state : World σ × Nat,
      v.Spares (Reaches (d.asked unit mishaps call w)) w state.1 →
        v.Spares (Reaches (d.asked unit mishaps call w)) w
          (d.attempts unit mishaps x.command state).2.1 := by
    intro x hx state hstate
    refine hstate.attempt h ?_ (mishaps state.2)
    intro c hc
    obtain ⟨e, reply⟩ := x
    subst hc
    exact ⟨c, reply, hx, rfl⟩
  exact Program.run_keeps
    (fun state : World σ × Nat => v.Spares (Reaches (d.asked unit mishaps call w)) w state.1)
    ⟨hready, rfl, fun _ _ => rfl⟩ hstep

/-- Whoever a look-up has found is the first such user in the table. -/
def Finds (us : List User) (x : Asked) : Prop :=
  (∀ id user, x = ⟨.users (.findById id), .ok (some user)⟩ →
      us.find? (·.id == id) = some user) ∧
    ∀ login user, x = ⟨.users (.findByLogin login), .ok (some user)⟩ →
      us.find? (·.hasLogin login) = some user

/-- A reply without a mishap is that of the store. -/
theorem found_of_attempts {e : Effect} {state : World σ × Nat} {c : Users.Command}
    {reply : c.Reply} (hx : (⟨e, (d.attempts unit mishaps e state).1⟩ : Asked) =
      ⟨.users c, .ok reply⟩) : (d.users unit c state.1.store).1 = .ok reply := by
  obtain rfl : e = .users c := congrArg Exchange.command hx
  have hreply : (d.attempts unit mishaps (.users c) state).1 = .ok reply :=
    eq_of_heq (Exchange.mk.inj hx).2
  unfold Backend.attempts at hreply
  cases hmishap : mishaps state.2 with
  | none =>
    rw [hmishap] at hreply
    exact hreply
  | some m =>
    rw [hmishap] at hreply
    cases hreply

/-- The look-ups of a call are answered from the table as it was when the call came in. -/
theorem finds_asked (h : v.Fits d) (hready : v.Ready w.store) :
    ∀ x ∈ d.asked unit mishaps call w, Finds (v.users (v.front w.store)) x := by
  have hstep : ∀ x ∈ d.asked unit mishaps call w, ∀ state : World σ × Nat,
      v.Spares (fun _ => True) w state.1 →
        Finds (v.users (v.front w.store)) ⟨x.command, (d.attempts unit mishaps x.command state).1⟩ ∧
          v.Spares (fun _ => True) w (d.attempts unit mishaps x.command state).2.1 := by
    intro x _ state hstate
    refine ⟨?_, hstate.attempt h (fun _ _ => trivial) (mishaps state.2)⟩
    rw [← hstate.front]
    constructor
    · intro id user hx
      exact h.find?_of_findById unit id _ user (found_of_attempts hx)
    · intro login user hx
      exact h.find?_of_findByLogin unit login _ user (found_of_attempts hx)
  exact Program.forall_record (fun state : World σ × Nat => v.Spares (fun _ => True) w state.1)
    ⟨hready, rfl, fun _ _ => rfl⟩ hstep

/-- **A call goes the same way in worlds that agree on the keys that it reaches for.** -/
theorem perform_congr (h : v.Fits d) (hopens : call.Opens)
    (hagree : v.Agree (Reaches (d.asked unit mishaps call w)) w w') :
    d.asked unit mishaps call w' = d.asked unit mishaps call w ∧
      (d.perform unit mishaps call w').1 = (d.perform unit mishaps call w).1 ∧
      v.Agree (Reaches (d.asked unit mishaps call w)) (d.perform unit mishaps call w).2
        (d.perform unit mishaps call w').2 := by
  obtain ⟨next, hcall, hfailed⟩ := hopens
  obtain ⟨hreply, hbegun, hunit⟩ := hagree.begin h unit (mishaps 0)
  have hasked : ∀ w : World σ, d.asked unit mishaps call w =
      ⟨.users .begin, (d.attempt unit (mishaps 0) (.users .begin) w).1⟩ ::
        (next (d.attempt unit (mishaps 0) (.users .begin) w).1).record (d.attempts unit mishaps)
          ((d.attempt unit (mishaps 0) (.users .begin) w).2, 1) := by
    intro w
    unfold Backend.asked
    rw [hcall]
    rfl
  have hrun : ∀ w : World σ, Program.run (d.attempts unit mishaps) call.run (w, 0) =
      Program.run (d.attempts unit mishaps)
        (next (d.attempt unit (mishaps 0) (.users .begin) w).1)
        ((d.attempt unit (mishaps 0) (.users .begin) w).2, 1) := by
    intro w
    rw [hcall]
    rfl
  unfold Backend.perform
  rw [hrun, hrun, hasked w', hreply]
  have hfirst := hasked w
  cases hstarted : (d.attempt unit (mishaps 0) (.users .begin) w).1 with
  | error e =>
    rw [hstarted, hfailed] at hfirst
    rw [hfailed]
    exact ⟨hfirst.symm, rfl, hbegun⟩
  | ok started =>
    rw [hstarted] at hfirst
    have hstart : v.Abreast unit (Reaches (d.asked unit mishaps call w))
        ((d.attempt unit (mishaps 0) (.users .begin) w).2, 1)
        ((d.attempt unit (mishaps 0) (.users .begin) w').2, 1) := ⟨hbegun, hunit hstarted, rfl⟩
    have hstep : ∀ x ∈ (next (.ok started)).record (d.attempts unit mishaps)
        ((d.attempt unit (mishaps 0) (.users .begin) w).2, 1), ∀ state state',
        v.Abreast unit (Reaches (d.asked unit mishaps call w)) state state' →
        (d.attempts unit mishaps x.command state').1 =
            (d.attempts unit mishaps x.command state).1 ∧
          v.Abreast unit (Reaches (d.asked unit mishaps call w))
            (d.attempts unit mishaps x.command state).2
            (d.attempts unit mishaps x.command state').2 := by
      intro x hx state state' habreast
      obtain ⟨hagree, hunit, hcount⟩ := habreast
      have hkeys : ∀ c, x.command = .cache c → Reaches (d.asked unit mishaps call w) c.key := by
        intro c hc
        obtain ⟨e, reply⟩ := x
        subst hc
        refine ⟨c, reply, ?_, rfl⟩
        rw [hfirst]
        exact List.mem_cons_of_mem _ hx
      obtain ⟨hsame, hlater, hlaterUnit⟩ := hagree.attempt h hkeys hunit (mishaps state.2)
      unfold Backend.attempts
      rw [hcount]
      exact ⟨hsame, hlater, hlaterUnit, rfl⟩
    obtain ⟨hrecord, hresult, hlast, _⟩ := Program.run_congr hstart hstep
    refine ⟨?_, hresult, hlast⟩
    rw [hrecord, hfirst]

/--
**Calls that reach for different keys do not notice each other.**  Each brings its own clock,
random bits, log and mishaps, and they have the store in common.
-/
theorem commute (h : v.Fits d) (hopens : call.Opens) (hopens' : other.Opens)
    (hready : v.Ready w.store) (hstore : w'.store = w.store)
    (hapart : ∀ key, Reaches (d.asked unit mishaps call w) key →
      ¬ Reaches (d.asked unit' mishaps' other w') key) :
    let first := d.perform unit mishaps call w
    let second := d.perform unit' mishaps' other w'
    let secondAfter := d.perform unit' mishaps' other { w' with store := first.2.store }
    let firstAfter := d.perform unit mishaps call { w with store := second.2.store }
    secondAfter.1 = second.1 ∧ firstAfter.1 = first.1 ∧
      ∀ key, v.cell key secondAfter.2.store = v.cell key firstAfter.2.store := by
  intro first second secondAfter firstAfter
  have hready' : v.Ready w'.store := by rwa [hstore]
  have hfirst : v.Spares (Reaches (d.asked unit mishaps call w)) w first.2 := h.spares hready
  have hsecond : v.Spares (Reaches (d.asked unit' mishaps' other w')) w' second.2 :=
    h.spares hready'
  have hagree : v.Agree (Reaches (d.asked unit mishaps call w)) w
      { w with store := second.2.store } := by
    refine ⟨hready, hsecond.ready, rfl, rfl, hsecond.front.trans (by rw [hstore]), ?_⟩
    intro key hkey
    exact (hsecond.cell key (hapart key hkey)).trans (by rw [hstore])
  have hagree' : v.Agree (Reaches (d.asked unit' mishaps' other w')) w'
      { w' with store := first.2.store } := by
    refine ⟨hready', hfirst.ready, rfl, rfl, hfirst.front.trans (by rw [hstore]), ?_⟩
    intro key hkey
    exact (hfirst.cell key fun hreached => hapart key hreached hkey).trans (by rw [hstore])
  obtain ⟨hasked, hresult, hcells⟩ := h.perform_congr hopens hagree
  obtain ⟨hasked', hresult', hcells'⟩ := h.perform_congr hopens' hagree'
  have hfirstAfter : v.Spares (Reaches (d.asked unit mishaps call w))
      { w with store := second.2.store } firstAfter.2 := by
    rw [← hasked]
    exact h.spares hsecond.ready
  have hsecondAfter : v.Spares (Reaches (d.asked unit' mishaps' other w'))
      { w' with store := first.2.store } secondAfter.2 := by
    rw [← hasked']
    exact h.spares hfirst.ready
  refine ⟨hresult', hresult, ?_⟩
  intro key
  by_cases hreached : Reaches (d.asked unit mishaps call w) key
  · calc v.cell key secondAfter.2.store
        = v.cell key first.2.store := hsecondAfter.cell key (hapart key hreached)
      _ = v.cell key firstAfter.2.store := (hcells.cell key hreached).symm
  · by_cases hreached' : Reaches (d.asked unit' mishaps' other w') key
    · calc v.cell key secondAfter.2.store
          = v.cell key second.2.store := hcells'.cell key hreached'
        _ = v.cell key firstAfter.2.store := (hfirstAfter.cell key hreached).symm
    · calc v.cell key secondAfter.2.store
          = v.cell key first.2.store := hsecondAfter.cell key hreached'
        _ = v.cell key w.store := hfirst.cell key hreached
        _ = v.cell key w'.store := by rw [hstore]
        _ = v.cell key second.2.store := (hsecond.cell key hreached').symm
        _ = v.cell key firstAfter.2.store := (hfirstAfter.cell key hreached).symm

end View.Fits

end SessionAuth
