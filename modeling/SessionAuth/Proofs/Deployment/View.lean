/-
The compartments of a store.

A store holds many lists, a table of users and open transactions, and a command works on a
part of that.  A view names the parts: a cell for every key of the cache, whether the
transaction of a unit is open, and in front of both what decides about all commands, which is
who the users are and what is refused.  `View.Fits` says how commands go with the parts.  A
command to the cache depends on the front and on the cell of its key, and changes that cell
only.  A command to a unit of work depends on the front and on its own transaction, and
changes no cell.

Every setup has a view that fits it (`Setup.fits`), watched ones included: what is told to
fail has no effect on the parts.
-/
import SessionAuth.Deployment.Watched
import SessionAuth.Proofs.Cache.Cell
import SessionAuth.Proofs.Users.Statements

namespace SessionAuth

/-! ### Setups -/

/-- The deployments there are: in memory or remote, and watched as often as one likes. -/
inductive Setup
  | inMemory
  | remote
  | watched (inner : Setup)

namespace Setup

/-- What the store of a setup is. -/
def Store : Setup → Type
  | inMemory => Cache.Memory × Users.Memory
  | remote => Cache.ListServer × Users.Relational
  | watched inner => Watched inner.Store

/-- How a setup carries out commands. -/
def deployment : (x : Setup) → Deployment x.Store
  | inMemory => .inMemory
  | remote => .remote
  | watched inner => inner.deployment.watched

/-- No command is queued on the server, if there is one. -/
def Ready : (x : Setup) → x.Store → Prop
  | inMemory, _ => True
  | remote, store => store.1.queue = none
  | watched inner, store => inner.Ready store.inner

end Setup

/-! ### Views -/

/-- The parts of a store. -/
structure View (σ : Type) where
  Front : Type
  Cell : Type
  /-- Who the users are, and what is refused. -/
  front : σ → Front
  users : Front → List User
  /-- Whether the transaction of a unit is open. -/
  isOpen : Nat → σ → Bool
  /-- What is stored at a key. -/
  cell : String → σ → Cell
  /-- Commands can be sent. -/
  Ready : σ → Prop

variable {σ : Type} {v : View σ} {d : Deployment σ}

/-- How the commands of a deployment go with the parts of its store. -/
structure View.Fits (v : View σ) (d : Deployment σ) : Prop where
  ready_cache : ∀ now c st, v.Ready st → v.Ready (d.cache now c st).2
  front_cache : ∀ now c st, v.Ready st → v.front (d.cache now c st).2 = v.front st
  isOpen_cache : ∀ now c st unit, v.isOpen unit (d.cache now c st).2 = v.isOpen unit st
  cell_cache : ∀ now c st key, v.Ready st → key ≠ c.key →
    v.cell key (d.cache now c st).2 = v.cell key st
  cache_congr : ∀ now c st st', v.Ready st → v.Ready st' → v.front st' = v.front st →
    v.cell c.key st' = v.cell c.key st → (d.cache now c st').1 = (d.cache now c st).1 ∧
      v.cell c.key (d.cache now c st').2 = v.cell c.key (d.cache now c st).2
  ready_users : ∀ unit c st, v.Ready st → v.Ready (d.users unit c st).2
  front_users : ∀ unit c st, v.front (d.users unit c st).2 = v.front st
  cell_users : ∀ unit c st key, v.cell key (d.users unit c st).2 = v.cell key st
  users_congr : ∀ unit c st st', v.front st' = v.front st → v.isOpen unit st' = v.isOpen unit st →
    (d.users unit c st').1 = (d.users unit c st).1 ∧
      v.isOpen unit (d.users unit c st').2 = v.isOpen unit (d.users unit c st).2
  /-- Beginning depends on the front alone. -/
  begin_congr : ∀ unit st st', v.front st' = v.front st →
    (d.users unit .begin st').1 = (d.users unit .begin st).1 ∧
      ((d.users unit .begin st).1 = .ok () →
        v.isOpen unit (d.users unit .begin st').2 = v.isOpen unit (d.users unit .begin st).2)
  list_congr : ∀ now key st st', v.cell key st' = v.cell key st →
    d.list now key st' = d.list now key st
  find?_of_findById : ∀ unit id st user,
    (d.users unit (.findById id) st).1 = .ok (some user) →
    (v.users (v.front st)).find? (·.id == id) = some user
  find?_of_findByLogin : ∀ unit login st user,
    (d.users unit (.findByLogin login) st).1 = .ok (some user) →
    (v.users (v.front st)).find? (·.hasLogin login) = some user

namespace View

/-! ### The setups have views -/

/-- The parts of a store in memory. -/
def inMemory : View (Cache.Memory × Users.Memory) where
  Front := List User
  Cell := Option Cache.Held
  front st := st.2.users
  users front := front
  isOpen unit st := st.2.units.isOpen unit
  cell key st := st.1.lists.get? key
  Ready _ := True

/-- The parts of a server and a database. -/
def remote : View (Cache.ListServer × Users.Relational) where
  Front := Table String String × List User × Table Users.StatementKind String
  Cell := Option Cache.Stored
  front st := (st.1.faults, st.2.users, st.2.faults)
  users front := front.2.1
  isOpen unit st := st.2.units.isOpen unit
  cell key st := st.1.keys.get? key
  Ready st := st.1.queue = none

/-- The parts of a watched store; what was told to fail stands in front. -/
def watched (v : View σ) : View (Watched σ) where
  Front := List Collaboration × Bool × v.Front
  Cell := v.Cell
  front st := (st.failing, st.losesRemovals, v.front st.inner)
  users front := v.users front.2.2
  isOpen unit st := v.isOpen unit st.inner
  cell key st := v.cell key st.inner
  Ready st := v.Ready st.inner

theorem fits_inMemory : inMemory.Fits .inMemory where
  ready_cache _ _ _ _ := trivial
  front_cache _ _ _ _ := rfl
  isOpen_cache _ _ _ _ := rfl
  cell_cache _ _ _ _ _ hkey := Cache.Memory.get?_perform_ne hkey
  cache_congr _ _ _ _ _ _ _ hcell := Cache.Memory.perform_cell hcell
  ready_users _ _ _ _ := trivial
  front_users unit c st := Users.Memory.users_perform unit c st.2
  cell_users _ _ _ _ := rfl
  users_congr unit c st st' hfront hopen := by
    refine ⟨Users.Memory.perform_congr unit c st.2 hfront hopen, ?_⟩
    have hopen' : st'.2.units.isOpen unit = st.2.units.isOpen unit := hopen
    show (st'.2.perform unit c).2.units.isOpen unit = (st.2.perform unit c).2.units.isOpen unit
    rw [Users.Memory.isOpen_perform_self, Users.Memory.isOpen_perform_self, hopen']
  begin_congr unit st st' _ := by
    refine ⟨rfl, fun _ => ?_⟩
    show (st'.2.perform unit .begin).2.units.isOpen unit =
      (st.2.perform unit .begin).2.units.isOpen unit
    rw [Users.Memory.isOpen_perform_self, Users.Memory.isOpen_perform_self]
    rfl
  list_congr now key st st' hcell := by
    have hlive : st'.1.live? now key = st.1.live? now key := Cache.Memory.live?_congr hcell
    show (st'.1.values now key, st'.1.ttl now key) = (st.1.values now key, st.1.ttl now key)
    unfold Cache.Memory.values Cache.Memory.ttl
    rw [hlive]
  find?_of_findById unit _ st _ h := Users.Memory.find?_of_findById unit st.2 h
  find?_of_findByLogin unit _ st _ h := Users.Memory.find?_of_findByLogin unit st.2 h

theorem fits_remote : remote.Fits .remote where
  ready_cache now c st hready := (Cache.Remote.perform_spared now c hready).2
  front_cache now c st hready := by
    show ((Cache.Remote.perform now c st.1).2.faults, st.2.users, st.2.faults) = _
    rw [(Cache.Remote.perform_spared now c hready).1.faults]
    rfl
  isOpen_cache _ _ _ _ := rfl
  cell_cache now c st key hready hkey :=
    (Cache.Remote.perform_spared now c hready).1.elsewhere key hkey
  cache_congr now c st st' hready hready' hfront hcell := by
    have hfaults : st'.1.faults = st.1.faults := congrArg Prod.fst hfront
    have hshares : Cache.ListServer.Shares c.key st.1 st'.1 :=
      ⟨hcell, hfaults, hready'.trans hready.symm⟩
    obtain ⟨hreply, hafter⟩ := Cache.Remote.perform_cell hshares hready
    exact ⟨hreply, hafter.cell⟩
  ready_users _ _ _ hready := hready
  front_users unit c st := by
    have halike := Users.Relational.alike_perform unit c st.2
    show (st.1.faults, (st.2.perform unit c).2.users, (st.2.perform unit c).2.faults) = _
    rw [halike.users, halike.faults]
    rfl
  cell_users _ _ _ _ := rfl
  users_congr unit c st st' hfront hopen :=
    Users.Relational.perform_congr
      ⟨congrArg (fun front => front.2.1) hfront, congrArg (fun front => front.2.2) hfront⟩ hopen c
  begin_congr unit st st' hfront := by
    have hfaults : st'.2.faults = st.2.faults := congrArg (fun front => front.2.2) hfront
    have hreply : (st'.2.perform unit .begin).1 = (st.2.perform unit .begin).1 := by
      rw [Users.Relational.fst_perform, Users.Relational.fst_perform]
      unfold Users.Relational.reply Users.Relational.verdict
      dsimp only
      rw [hfaults]
    refine ⟨hreply, fun hok => ?_⟩
    show (st'.2.perform unit .begin).2.units.isOpen unit =
      (st.2.perform unit .begin).2.units.isOpen unit
    rw [(Users.Relational.isOpen_of_begin (hreply.trans hok)).2,
      (Users.Relational.isOpen_of_begin hok).2]
  list_congr now key st st' hcell := by
    have hlive : st'.1.live? now key = st.1.live? now key := by
      unfold Cache.ListServer.live?
      rw [show st'.1.keys.get? key = st.1.keys.get? key from hcell]
    show (st'.1.values now key, st'.1.ttl now key) = (st.1.values now key, st.1.ttl now key)
    unfold Cache.ListServer.values Cache.ListServer.ttl
    rw [hlive]
  find?_of_findById _ _ _ _ h := Users.Relational.find?_of_select h
  find?_of_findByLogin _ _ _ _ h := Users.Relational.find?_of_select h

variable {now : Instant} {c : Cache.Command} {u : Users.Command} {unit : Nat} {st : Watched σ}

theorem cache_of_failing (h : Collaboration.ofCache c ∈ st.failing) :
    d.watched.cache now c st = (.error injectedCacheFault, st.note c.line) := if_pos h

theorem cache_of_working (h : Collaboration.ofCache c ∉ st.failing) :
    d.watched.cache now c st = (Watched.reported st.losesRemovals c (d.cache now c st.inner).1,
      { st.note c.line with inner := (d.cache now c st.inner).2 }) := if_neg h

/-- What is left when a command to a unit was told to fail: a unit that was to end is abandoned. -/
def spoiled (d : Deployment σ) (unit : Nat) (u : Users.Command) (st : σ) : σ :=
  if u = .commit ∨ u = .rollback then (d.users unit .abandon st).2 else st

theorem users_of_failing (h : Collaboration.ofUsers u ∈ st.failing) :
    d.watched.users unit u st = (.error injectedDatabaseFault,
      { st.note u.line with inner := spoiled d unit u st.inner }) := if_pos h

theorem users_of_working (h : Collaboration.ofUsers u ∉ st.failing) :
    d.watched.users unit u st = ((d.users unit u st.inner).1,
      { st.note u.line with inner := (d.users unit u st.inner).2 }) := if_neg h

/-- A command to the cache either has its effect on the inner store or none. -/
theorem cache_cases (d : Deployment σ) (now : Instant) (c : Cache.Command) (st : Watched σ) :
    ∃ inner, (d.watched.cache now c st).2 = { st.note c.line with inner := inner } ∧
      (inner = st.inner ∨ inner = (d.cache now c st.inner).2) := by
  by_cases hfails : Collaboration.ofCache c ∈ st.failing
  · exact ⟨st.inner, by rw [cache_of_failing hfails]; rfl, Or.inl rfl⟩
  · exact ⟨_, by rw [cache_of_working hfails], Or.inr rfl⟩

/-- A command to a unit has the effect of some command to that unit on the inner store, or none. -/
theorem users_cases (d : Deployment σ) (unit : Nat) (u : Users.Command) (st : Watched σ) :
    ∃ inner, (d.watched.users unit u st).2 = { st.note u.line with inner := inner } ∧
      (inner = st.inner ∨ ∃ u', inner = (d.users unit u' st.inner).2) := by
  by_cases hfails : Collaboration.ofUsers u ∈ st.failing
  · refine ⟨_, by rw [users_of_failing hfails], ?_⟩
    unfold spoiled
    split
    · exact Or.inr ⟨.abandon, rfl⟩
    · exact Or.inl rfl
  · exact ⟨_, by rw [users_of_working hfails], Or.inr ⟨u, rfl⟩⟩

/-- A look-up that was told to fail finds nobody. -/
theorem ok_of_users {reply : u.Reply} (h : (d.watched.users unit u st).1 = .ok reply) :
    (d.users unit u st.inner).1 = .ok reply := by
  by_cases hfails : Collaboration.ofUsers u ∈ st.failing
  · rw [users_of_failing hfails] at h
    cases h
  · rw [users_of_working hfails] at h
    exact h

/-- A command to the cache that succeeds has its effect on the inner store. -/
theorem ok_of_cache {reply : c.Reply} (h : (d.watched.cache now c st).1 = .ok reply) :
    Watched.reported st.losesRemovals c (d.cache now c st.inner).1 = .ok reply ∧
      (d.watched.cache now c st).2.inner = (d.cache now c st.inner).2 := by
  by_cases hfails : Collaboration.ofCache c ∈ st.failing
  · rw [cache_of_failing hfails] at h
    cases h
  · rw [cache_of_working hfails] at h ⊢
    exact ⟨h, rfl⟩

/-- **Watching a deployment leaves the parts as they were**, apart from what stands in front. -/
theorem Fits.watched (h : v.Fits d) : v.watched.Fits d.watched where
  ready_cache now c st hready := by
    obtain ⟨inner, hafter, rfl | rfl⟩ := cache_cases d now c st <;> rw [hafter]
    · exact hready
    · exact h.ready_cache now c st.inner hready
  front_cache now c st hready := by
    obtain ⟨inner, hafter, rfl | rfl⟩ := cache_cases d now c st <;> rw [hafter]
    · rfl
    · exact congrArg (fun front => (st.failing, st.losesRemovals, front))
        (h.front_cache now c st.inner hready)
  isOpen_cache now c st unit := by
    obtain ⟨inner, hafter, rfl | rfl⟩ := cache_cases d now c st <;> rw [hafter]
    · rfl
    · exact h.isOpen_cache now c st.inner unit
  cell_cache now c st key hready hkey := by
    obtain ⟨inner, hafter, rfl | rfl⟩ := cache_cases d now c st <;> rw [hafter]
    · rfl
    · exact h.cell_cache now c st.inner key hready hkey
  cache_congr now c st st' hready hready' hfront hcell := by
    have hfailing : st'.failing = st.failing := congrArg Prod.fst hfront
    have hloses : st'.losesRemovals = st.losesRemovals := congrArg (fun front => front.2.1) hfront
    by_cases hfails : Collaboration.ofCache c ∈ st.failing
    · have hfails' : Collaboration.ofCache c ∈ st'.failing := by rwa [hfailing]
      rw [cache_of_failing hfails, cache_of_failing hfails']
      exact ⟨rfl, hcell⟩
    · have hfails' : Collaboration.ofCache c ∉ st'.failing := by rwa [hfailing]
      obtain ⟨hreply, hafter⟩ := h.cache_congr now c st.inner st'.inner hready hready'
        (congrArg (fun front => front.2.2) hfront) hcell
      rw [cache_of_working hfails, cache_of_working hfails', hloses]
      exact ⟨congrArg (Watched.reported st.losesRemovals c) hreply, hafter⟩
  ready_users unit u st hready := by
    obtain ⟨inner, hafter, rfl | ⟨u', rfl⟩⟩ := users_cases d unit u st <;> rw [hafter]
    · exact hready
    · exact h.ready_users unit u' st.inner hready
  front_users unit u st := by
    obtain ⟨inner, hafter, rfl | ⟨u', rfl⟩⟩ := users_cases d unit u st <;> rw [hafter]
    · rfl
    · exact congrArg (fun front => (st.failing, st.losesRemovals, front))
        (h.front_users unit u' st.inner)
  cell_users unit u st key := by
    obtain ⟨inner, hafter, rfl | ⟨u', rfl⟩⟩ := users_cases d unit u st <;> rw [hafter]
    · rfl
    · exact h.cell_users unit u' st.inner key
  users_congr unit u st st' hfront hopen := by
    have hfailing : st'.failing = st.failing := congrArg Prod.fst hfront
    have hinner : v.front st'.inner = v.front st.inner := congrArg (fun front => front.2.2) hfront
    by_cases hfails : Collaboration.ofUsers u ∈ st.failing
    · have hfails' : Collaboration.ofUsers u ∈ st'.failing := by rwa [hfailing]
      rw [users_of_failing hfails, users_of_failing hfails']
      refine ⟨rfl, ?_⟩
      show v.isOpen unit (spoiled d unit u st'.inner) = v.isOpen unit (spoiled d unit u st.inner)
      unfold spoiled
      split
      · exact (h.users_congr unit .abandon st.inner st'.inner hinner hopen).2
      · exact hopen
    · have hfails' : Collaboration.ofUsers u ∉ st'.failing := by rwa [hfailing]
      rw [users_of_working hfails, users_of_working hfails']
      exact h.users_congr unit u st.inner st'.inner hinner hopen
  begin_congr unit st st' hfront := by
    have hfailing : st'.failing = st.failing := congrArg Prod.fst hfront
    have hinner : v.front st'.inner = v.front st.inner := congrArg (fun front => front.2.2) hfront
    by_cases hfails : Collaboration.ofUsers .begin ∈ st.failing
    · have hfails' : Collaboration.ofUsers .begin ∈ st'.failing := by rwa [hfailing]
      rw [users_of_failing hfails, users_of_failing hfails']
      exact ⟨rfl, nofun⟩
    · have hfails' : Collaboration.ofUsers .begin ∉ st'.failing := by rwa [hfailing]
      rw [users_of_working hfails, users_of_working hfails']
      exact h.begin_congr unit st.inner st'.inner hinner
  list_congr now key st st' hcell := h.list_congr now key st.inner st'.inner hcell
  find?_of_findById unit id st user hfound :=
    h.find?_of_findById unit id st.inner user (ok_of_users hfound)
  find?_of_findByLogin unit login st user hfound :=
    h.find?_of_findByLogin unit login st.inner user (ok_of_users hfound)

end View

namespace Setup

/-- The parts of the store of a setup. -/
def view : (x : Setup) → View x.Store
  | inMemory => .inMemory
  | remote => .remote
  | watched inner => inner.view.watched

/-- **In every setup the commands go with the parts of the store.** -/
theorem fits (x : Setup) : x.view.Fits x.deployment := by
  induction x with
  | inMemory => exact View.fits_inMemory
  | remote => exact View.fits_remote
  | watched inner ih => exact ih.watched

/-- The table of users. -/
def users (x : Setup) (st : x.Store) : List User := x.view.users (x.view.front st)

theorem ready_view (x : Setup) (st : x.Store) : x.view.Ready st ↔ x.Ready st := by
  induction x with
  | inMemory => exact Iff.rfl
  | remote => exact Iff.rfl
  | watched inner ih => exact ih st.inner

end Setup

end SessionAuth
