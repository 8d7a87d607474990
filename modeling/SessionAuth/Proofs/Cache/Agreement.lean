/-
The cache in memory and the cache on a list server cannot be told apart.

The two keep different things: in memory an expired list lies in the table until its key is
next pushed to, on the server it is gone, and so is a list that was emptied.  What they have
in common is what a client finds at each key, `Agrees`.  A command of the cache depends on
that alone and leaves the same of it on both sides (`Proofs/Cache/Content.lean`), and time
takes the same away from both.  So whatever the commands are, a client is told the same and
finds the same afterwards, as long as the server is given no time to live that is too long
for it.

Nothing here needs the clock to stand still, only that it does not go back.
-/
import SessionAuth.Proofs.Cache.Content

namespace SessionAuth.Cache

/-! ### What a client notices -/

/-- What a client notices of a command: its outcome, and what each key holds afterwards. -/
structure Sight where
  command : Command
  outcome : command.Outcome
  values : String → List String
  /-- The seconds that a key has left, if it expires. -/
  ttl : String → Option Nat

section Observe

variable {σ : Type} (perform : Instant → (c : Command) → σ → c.Outcome × σ)
  (values : σ → Instant → String → List String) (ttl : σ → Instant → String → Option Nat)

/-- What a client notices of commands that are given one after the other, each at its instant. -/
def observe : List (Instant × Command) → σ → List Sight
  | [], _ => []
  | (now, c) :: rest, state =>
    let after := (perform now c state).2
    ⟨c, (perform now c state).1, values after now, ttl after now⟩ :: observe rest after

end Observe

/-- What a client notices of the cache in memory. -/
def Memory.observe : List (Instant × Command) → Memory → List Sight :=
  Cache.observe Memory.perform Memory.values Memory.ttl

/-- What a client notices of the cache on a server. -/
def Remote.observe : List (Instant × Command) → ListServer → List Sight :=
  Cache.observe Remote.perform ListServer.values ListServer.ttl

/-! ### Agreement -/

variable {now afterwards : Instant} {key : String} {m : Memory} {s : ListServer}

/-- The list that is stored, if it is one. -/
def Stored.held? : Stored → Option Held
  | ⟨.list values, expires⟩ => some ⟨values, expires⟩
  | ⟨.text, _⟩ => none

/-- A client sees the stored list as long as it counts. -/
theorem ListServer.held?_eq :
    s.held? now key = ((s.keys.get? key).bind Stored.held?).filter (Held.isLive now) := by
  unfold held? live?
  cases s.keys.get? key with
  | none => rfl
  | some stored =>
    obtain ⟨content, expires⟩ := stored
    have hvalues : ∀ values, (Held.mk values expires).isLive now =
        (Held.mk [] expires).isLive now := fun _ => rfl
    by_cases hnow : (Held.mk [] expires).isLive now = true <;>
      cases content <;> simp [Stored.held?, Option.filter, hvalues, hnow]

/-- Time takes from a server what it takes from a cache in memory. -/
theorem ListServer.held?_later (hle : now.nanos ≤ afterwards.nanos) :
    s.held? afterwards key = (s.held? now key).filter (Held.isLive afterwards) := by
  rw [held?_eq, held?_eq, Option.filter_filter]
  congr 1
  funext held
  by_cases hlive : held.isLive afterwards = true
  · rw [hlive, Held.isLive_mono hle hlive]
    rfl
  · rw [Bool.not_eq_true] at hlive
    rw [hlive, Bool.and_false]

/-- A cache in memory and a server that hold the same, as far as a client can see. -/
structure Agrees (now : Instant) (m : Memory) (s : ListServer) : Prop where
  willing : s.Willing
  /-- At each key there is the same list with the same expiry, or nothing on either side. -/
  held : ∀ key, s.held? now key = m.live? now key

namespace Agrees

/-- Nothing has been stored yet. -/
theorem start (now : Instant) : Agrees now {} {} where
  willing := ⟨⟨rfl, fun _ _ h => by cases h⟩, fun _ => rfl⟩
  held := fun _ => rfl

theorem values (h : Agrees now m s) (key : String) : s.values now key = m.values now key := by
  rw [ListServer.values_eq, h.held]
  rfl

theorem ttl (h : Agrees now m s) (key : String) : s.ttl now key = m.ttl now key := by
  rw [ListServer.ttl_eq h.willing.inOrder, h.held]
  rfl

/-- Agreement lasts. -/
theorem later (h : Agrees now m s) (hle : now.nanos ≤ afterwards.nanos) :
    Agrees afterwards m s where
  willing := h.willing
  held key := by rw [ListServer.held?_later hle, h.held, Memory.live?_later hle]

/-- **A command has the same outcome on both sides and preserves agreement.** -/
theorem perform (h : Agrees now m s) (c : Command) (hfits : c.Fits) :
    (Memory.perform now c m).1 = (Remote.perform now c s).1 ∧
      Agrees now (Memory.perform now c m).2 (Remote.perform now c s).2 := by
  obtain ⟨hreply, hself, helsewhere⟩ := Memory.perform_eq now c m
  obtain ⟨hreply', hwilling, hself', helsewhere'⟩ := Remote.perform_eq h.willing now c hfits
  refine ⟨?_, hwilling, ?_⟩
  · rw [hreply, hreply', h.held]
  · intro key
    by_cases hkey : key = c.key
    · rw [hkey, hself, hself', h.held]
    · rw [helsewhere key hkey, helsewhere' key hkey, h.held]

/-- **Commands that are given to both in the order of time are noticed the same.** -/
theorem observe_eq {steps : List (Instant × Command)} :
    ∀ {now m s}, Agrees now m s → (∀ step ∈ steps, now.nanos ≤ step.1.nanos) →
      steps.Pairwise (fun first second => first.1.nanos ≤ second.1.nanos) →
      (∀ step ∈ steps, step.2.Fits) → Memory.observe steps m = Remote.observe steps s := by
  induction steps with
  | nil =>
    intro now m s _ _ _ _
    rfl
  | cons step rest ih =>
    obtain ⟨instant, c⟩ := step
    intro now m s h hclock hsorted hfits
    obtain ⟨hbehind, hsorted'⟩ := List.pairwise_cons.mp hsorted
    have hinstant : Agrees instant m s := h.later (hclock _ List.mem_cons_self)
    obtain ⟨houtcome, hafter⟩ := hinstant.perform c (hfits _ List.mem_cons_self)
    have hrest := ih hafter hbehind hsorted'
      fun step hstep => hfits step (List.mem_cons_of_mem _ hstep)
    have hvalues : (Memory.perform instant c m).2.values instant =
        (Remote.perform instant c s).2.values instant := funext fun key => (hafter.values key).symm
    have httl : (Memory.perform instant c m).2.ttl instant =
        (Remote.perform instant c s).2.ttl instant := funext fun key => (hafter.ttl key).symm
    show Sight.mk c _ _ _ :: _ = Sight.mk c _ _ _ :: _
    rw [houtcome, hvalues, httl]
    exact congrArg _ hrest

end Agrees

/-! ### At a standing clock -/

/--
**The cache in memory and the cache on a server are interchangeable**: from nothing, at a
standing clock, any commands have the same outcomes on both, and after each of them every key
holds the same values and has the same time left.
-/
theorem remote_interchangeable (now : Instant) (commands : List Command)
    (hfits : ∀ c ∈ commands, c.Fits) :
    Remote.observe (commands.map fun c => (now, c)) {} =
      Memory.observe (commands.map fun c => (now, c)) {} := by
  have hmapped : ∀ step ∈ commands.map fun c => (now, c), step.1 = now ∧ step.2.Fits := by
    intro step hstep
    obtain ⟨c, hc, rfl⟩ := List.mem_map.mp hstep
    exact ⟨rfl, hfits c hc⟩
  refine ((Agrees.start now).observe_eq ?_ ?_ ?_).symm
  · intro step hstep
    exact Int.le_of_eq (congrArg Instant.nanos (hmapped step hstep).1.symm)
  · exact List.pairwise_map.mpr (List.pairwise_of_forall fun _ _ => Int.le_refl _)
  · intro step hstep
    exact (hmapped step hstep).2

/-- A push to a list that is there, a time to live of nothing, an emptied list and a deleted one. -/
theorem remote_interchangeable_sample :
    let commands : List Command := [.push "a" "x" none, .push "a" "y" (some 60),
      .push "a" "x" none, .push "b" "x" (some longestTtl), .remove "a" "x", .get "a",
      .push "a" "z" (some 0), .push "a" "w" none, .remove "a" "w", .push "a" "v" none,
      .delete "b", .push "b" "u" (some 7)]
    (∀ c ∈ commands, c.Fits) ∧
      Remote.observe (commands.map fun c => (⟨5⟩, c)) {} =
        Memory.observe (commands.map fun c => (⟨5⟩, c)) {} ∧
      (Memory.observe (commands.map fun c => (⟨5⟩, c)) {}).map
          (fun sight => (sight.values "a", sight.ttl "a")) =
        [(["x"], none), (["y", "x"], some 60), (["x", "y", "x"], some 60),
          (["x", "y", "x"], some 60), (["y"], some 60), (["y"], some 60), ([], none),
          (["w"], none), ([], none), (["v"], none), (["v"], none), (["v"], none)] :=
  ⟨by decide, remote_interchangeable ⟨5⟩ _ (by decide), by decide⟩

end SessionAuth.Cache
