/-
What a setup holds at a key.

Whether the lists are kept in memory or on a server, and whether or not the deployment is
watched, a client finds at a key a list with its expiry, or nothing (`Setup.held?`).  A setup
that stands in nobody's way at a key (`Setup.Serves`) replies to every command what this list
says, and leaves there what the command makes of it (`Setup.cache_eq`).

On a server this is known of one that holds lists only.  A command works in one cell, so the
other keys may as well be forgotten, and what they hold does not matter.
-/
import SessionAuth.Proofs.Cache.Content
import SessionAuth.Proofs.Deployment.View

namespace SessionAuth

open Cache (Command Held)

variable {now : Instant} {key : String} {c : Command}

namespace Cache.ListServer

variable {s s' : ListServer}

/-- Nothing is queued and nothing is refused, and there is a list at the key, or nothing. -/
structure Serves (s : ListServer) (key : String) : Prop where
  queue : s.queue = none
  faults : ∀ name, s.faults.get? name = none
  list : ∀ stored, s.keys.get? key = some stored → stored.content ≠ .text

/-- The server without the other keys. -/
def only (s : ListServer) (key : String) : ListServer :=
  { s with keys := Table.empty.put key (s.keys.get? key) }

theorem shares_only (s : ListServer) (key : String) : Shares key (s.only key) s :=
  ⟨(if_pos rfl).symm, rfl, rfl⟩

theorem Serves.willing (h : s.Serves key) : (s.only key).Willing := by
  refine ⟨⟨h.queue, ?_⟩, h.faults⟩
  intro other stored hget
  unfold only at hget
  rw [Table.get?_put] at hget
  split at hget
  · exact h.list stored hget
  · cases hget

theorem Shares.held? (h : Shares key s s') : s'.held? now key = s.held? now key := by
  unfold ListServer.held?
  rw [h.live?]

/-- What a server in its place would do, the server does. -/
theorem Serves.perform (h : s.Serves c.key) (now : Instant) (hfits : c.Fits) :
    (Remote.perform now c s).1 = .ok (c.answer (s.held? now c.key)) ∧
      (Remote.perform now c s).2.Serves c.key ∧
      (Remote.perform now c s).2.held? now c.key = c.leaves now (s.held? now c.key) := by
  obtain ⟨hreply, hwilling, hself, _⟩ := Remote.perform_eq h.willing now c hfits
  have hcell : SameOn c.key (Remote.perform now c (s.only c.key)) (Remote.perform now c s) :=
    Remote.perform_cell (shares_only s c.key) h.queue
  obtain ⟨hsame, hafter⟩ := hcell
  rw [hsame, hafter.held?, (shares_only s c.key).held?]
  refine ⟨hreply, ⟨?_, ?_, ?_⟩, hself⟩
  · exact hafter.queue.trans hwilling.inOrder.queue
  · intro name
    rw [hafter.faults]
    exact hwilling.faults name
  · intro stored hget
    rw [hafter.cell] at hget
    exact hwilling.inOrder.lists c.key stored hget

end Cache.ListServer

namespace Setup

/-- No command to the cache about the key is refused, made to fail or reported wrongly. -/
def Serves (key : String) : (x : Setup) → x.Store → Prop
  | inMemory, _ => True
  | remote, store => store.1.Serves key
  | watched inner, store =>
    (∀ c, Collaboration.ofCache c ∉ store.failing) ∧ store.losesRemovals = false ∧
      inner.Serves key store.inner

/-- The list at a key with its expiry, as a client finds it. -/
def held? (now : Instant) (key : String) : (x : Setup) → x.Store → Option Held
  | inMemory, store => store.1.live? now key
  | remote, store => store.1.held? now key
  | watched inner, store => inner.held? now key store.inner

/-- Nothing is told of a removal but whether it took place. -/
theorem reported_false (c : Command) (outcome : c.Outcome) :
    Watched.reported false c outcome = outcome := by
  cases c <;> cases outcome <;> rfl

/-- **Every setup replies and leaves what it should.** -/
theorem cache_eq (x : Setup) {st : x.Store} (h : x.Serves c.key st) (now : Instant)
    (hfits : c.Fits) :
    (x.deployment.cache now c st).1 = .ok (c.answer (x.held? now c.key st)) ∧
      x.Serves c.key (x.deployment.cache now c st).2 ∧
      x.held? now c.key (x.deployment.cache now c st).2 = c.leaves now (x.held? now c.key st) := by
  induction x with
  | inMemory =>
    obtain ⟨hreply, hself, _⟩ := Cache.Memory.perform_eq now c st.1
    exact ⟨hreply, trivial, hself⟩
  | remote => exact h.perform now hfits
  | watched inner ih =>
    obtain ⟨hworks, hkeeps, hinner⟩ := h
    obtain ⟨hreply, hserves, hself⟩ := ih hinner
    have hcache : (watched inner).deployment.cache now c st =
        (Watched.reported st.losesRemovals c (inner.deployment.cache now c st.inner).1,
          { st.note c.line with inner := (inner.deployment.cache now c st.inner).2 }) :=
      View.cache_of_working (hworks c)
    rw [hcache, hkeeps, reported_false]
    exact ⟨hreply, ⟨hworks, hkeeps, hserves⟩, hself⟩

end Setup

end SessionAuth
