/-
What a setup shows of its store.

Two things of a store can be looked at without a command: who the users are, and for every key
the list with the time that it has left.  No command to a unit of work changes either.

A session is added by up to three commands: the list is read, dropped when it is full, and the
entry is pushed (`Registers`).  That the first and the last of them succeed is all that has to be
known for the entry to be in front of the list, and for the list to live as long as told.  A
server that was about to queue commands would not have answered with a list, so the state in
which the call found it does not matter.
-/
import SessionAuth.Proofs.Cache.Pushed
import SessionAuth.Proofs.Deployment.View

namespace SessionAuth

/--
The list at a key was read, dropped or not, and a value was pushed that is to stay for some
seconds.
-/
def Backend.Registers {σ : Type} (b : Backend σ) (now : Instant) (key value : String)
    (seconds : Nat) (before last : σ) : Prop :=
  ∃ entries between, (b.cache now (.get key) before).1 = .ok entries ∧
    (between = (b.cache now (.get key) before).2 ∨
      between = (b.cache now (.delete key) (b.cache now (.get key) before).2).2) ∧
    (b.cache now (.push key value (some seconds)) between).1 = .ok () ∧
    last = (b.cache now (.push key value (some seconds)) between).2

namespace Setup

variable {x : Setup} {st before last : x.Store} {unit : Nat} {now : Instant} {key value : String}
  {seconds : Nat}

/-- The users stay who they are. -/
theorem users_perform (c : Users.Command) : x.users (x.deployment.users unit c st).2 = x.users st :=
  congrArg x.view.users (x.fits.front_users unit c st)

/-- No command to a unit of work changes a list. -/
theorem list_users (c : Users.Command) :
    x.deployment.list now key (x.deployment.users unit c st).2 = x.deployment.list now key st :=
  x.fits.list_congr now key _ _ (x.fits.cell_users unit c st key)

/-- Where a list was read, commands can be sent. -/
theorem ready_of_get {entries : List String}
    (h : (x.deployment.cache now (.get key) st).1 = .ok entries) : x.view.Ready st := by
  induction x with
  | inMemory => trivial
  | remote => exact Cache.Remote.queue_of_get h
  | watched inner ih => exact ih (View.ok_of_cache h).1

/-- **A value that was pushed is in front, and the list lives as told.** -/
theorem list_push (hready : x.view.Ready st) (hpos : 1 ≤ seconds)
    (h : (x.deployment.cache now (.push key value (some seconds)) st).1 = .ok ()) :
    x.deployment.list now key (x.deployment.cache now (.push key value (some seconds)) st).2 =
      (value :: (x.deployment.list now key st).1, some seconds) := by
  induction x with
  | inMemory => exact Cache.Memory.list_push st.1 hpos
  | remote => exact Cache.Remote.list_push hready h hpos
  | watched inner ih =>
    obtain ⟨hinner, hafter⟩ := View.ok_of_cache h
    exact (congrArg (inner.deployment.list now key) hafter).trans (ih hready hinner)

/-- **A session that was added is in front of its list.** -/
theorem list_registers (hpos : 1 ≤ seconds)
    (h : x.deployment.toBackend.Registers now key value seconds before last) :
    ∃ older, x.deployment.list now key last = (value :: older, some seconds) := by
  obtain ⟨entries, between, hget, hbetween, hpush, rfl⟩ := h
  have hread : x.view.Ready (x.deployment.cache now (.get key) before).2 :=
    x.fits.ready_cache now _ before (ready_of_get hget)
  have hready : x.view.Ready between := by
    rcases hbetween with rfl | rfl
    · exact hread
    · exact x.fits.ready_cache now _ _ hread
  exact ⟨_, list_push hready hpos hpush⟩

end Setup

end SessionAuth
