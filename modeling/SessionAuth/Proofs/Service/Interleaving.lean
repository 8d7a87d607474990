/-
Calls that run at the same time.

A scene is a number of calls, each with the program it still has to carry out, and the
world they share.  One thing happens after the other: a call asks one command and gets
its reply, or time passes.  Which call is next is open, when and how far the clock moves
is open, and so are the random bits; so a statement about every run is a statement about
every interleaving.  Calls that have not asked anything yet are the calls that come
later, so a fixed number of calls, whatever it is, is no restriction.

What has happened is kept, newest first, and the place of a call in the rules of
`Proofs/Service/Phase.lean` is a function of that (`place`).  `Run.follows` says that
every call of every run still follows the rules from its place on, and `Run.completes`
that every run can go on until all calls have returned.
-/
import SessionAuth.Proofs.Service.Conduct
import Mathlib.Data.DFinsupp.WellFounded

namespace SessionAuth

/-- The world gives this reply, in the unit of work with number `unit`; random bits may be any. -/
inductive Backend.Answers {σ : Type} (b : Backend σ) (unit : Nat) :
    (e : Effect) → World σ → e.Reply → World σ → Prop
  | handled (e : Effect) (w : World σ) :
    b.Answers unit e w (b.handle unit e w).1 (b.handle unit e w).2
  | drawn (count : Nat) (bits : BitVec count) (w : World σ) :
    b.Answers unit (.random count) w bits w

namespace Service

variable {σ : Type} {n : Nat}

/-- What calls still have to do, and the world around them. -/
structure Scene (σ : Type) (n : Nat) where
  calls : Fin n → Action Answer
  world : World σ

/-- The scene in which nothing has been done about some requests. -/
def opening (s : Service) (requests : Fin n → Request) (w : World σ) : Scene σ n :=
  ⟨fun i => (s.serve (requests i)).run, w⟩

/-- Something that happens in a scene. -/
inductive Happening (n : Nat)
  /-- A call asks a command and gets a reply. -/
  | asked (caller : Fin n) (x : Asked)
  /-- Time passes. -/
  | waited (later : Instant)

/-- One scene turns into another. -/
inductive Scene.Step (b : Backend σ) : Scene σ n → Happening n → Scene σ n → Prop
  | asks {a : Scene σ n} {i : Fin n} {e : Effect} {next : e.Reply → Action Answer} {reply : e.Reply}
      {w : World σ} (hcall : a.calls i = Program.ask e next)
      (hreply : b.Answers i e a.world reply w) :
    Step b a (.asked i ⟨e, reply⟩) ⟨fun j => if j = i then next reply else a.calls j, w⟩
  | waits {a : Scene σ n} {later : Instant} (hle : a.world.now.nanos ≤ later.nanos) :
    Step b a (.waited later) ⟨a.calls, { a.world with now := later }⟩

/-- A scene that comes from another one by some happenings, newest first. -/
inductive Run (b : Backend σ) (first : Scene σ n) : List (Happening n) → Scene σ n → Prop
  | start : Run b first [] first
  | step {past : List (Happening n)} {h : Happening n} {a c : Scene σ n}
      (hrun : Run b first past a) (hstep : Scene.Step b a h c) : Run b first (h :: past) c

/-! ### The part of one call -/

/-- What one call has asked, newest first. -/
def own (i : Fin n) : List (Happening n) → List Asked
  | [] => []
  | .asked j x :: past => if j = i then x :: own i past else own i past
  | .waited _ :: past => own i past

@[simp] theorem own_nil (i : Fin n) : own i ([] : List (Happening n)) = [] := rfl

@[simp] theorem own_waited (i : Fin n) (later : Instant) (past : List (Happening n)) :
    own i (.waited later :: past) = own i past := rfl

@[simp] theorem own_asked_self (i : Fin n) (x : Asked) (past : List (Happening n)) :
    own i (.asked i x :: past) = x :: own i past := if_pos rfl

theorem own_asked_ne {i j : Fin n} (h : j ≠ i) (x : Asked) (past : List (Happening n)) :
    own i (.asked j x :: past) = own i past := if_neg h

/-- A call has asked what it is said to have asked. -/
theorem mem_own {i : Fin n} {x : Asked} {past : List (Happening n)} :
    x ∈ own i past ↔ .asked i x ∈ past := by
  induction past with
  | nil => simp
  | cons h past ih =>
    cases h with
    | waited later => simp [ih]
    | asked j y =>
      by_cases hj : j = i
      · subst hj
        simp [ih]
      · have hi : i ≠ j := fun h => hj h.symm
        simp [own_asked_ne hj, ih, hi]

/-- Where a call is after some happenings. -/
def place (s : Service) (requests : Fin n → Request) (i : Fin n) (past : List (Happening n)) :
    Place :=
  (s.rules (requests i)).reach Place.start (own i past)

variable {s : Service} {requests : Fin n → Request} {i j : Fin n} {past : List (Happening n)}

@[simp] theorem place_nil : s.place requests i [] = Place.start := rfl

@[simp] theorem place_waited (later : Instant) :
    s.place requests i (.waited later :: past) = s.place requests i past := rfl

theorem place_asked_self (x : Asked) :
    s.place requests i (.asked i x :: past) =
      (s.place requests i past).next (requests i) x.command x.reply := by
  unfold place
  rw [own_asked_self, Rules.reach_cons]
  rfl

theorem place_asked_ne (h : j ≠ i) (x : Asked) :
    s.place requests i (.asked j x :: past) = s.place requests i past := by
  unfold place
  rw [own_asked_ne h]

theorem seen_next (q : Request) (p : Place) (x : Asked) :
    (p.next q x.command x.reply).seen = x :: p.seen := by
  obtain ⟨e, reply⟩ := x
  cases e with
  | cache c => cases reply <;> rfl
  | _ => rfl

/-- The history of a place is what the call has asked. -/
theorem seen_place : (s.place requests i past).seen = own i past := by
  unfold place
  induction own i past with
  | nil => rfl
  | cons x older ih =>
    rw [Rules.reach_cons]
    exact (seen_next _ _ x).trans (by rw [ih])

/-! ### Every call follows the rules -/

/-- **In every run every call follows the rules from its place on.** -/
theorem Run.follows {b : Backend σ} {w : World σ} {a : Scene σ n}
    (hb : ∀ unit e w reply w', b.Answers unit e w reply w' → expected e reply)
    (hrun : Run b (s.opening requests w) past a) (i : Fin n) :
    (a.calls i).Follows (s.rules (requests i)) (requests i).Ends (s.place requests i past) := by
  induction hrun with
  | start => exact serve_follows s (requests i)
  | @step past h a c hrun hstep ih =>
    cases hstep with
    | waits hle => exact ih
    | @asks j e next reply w' hcall hreply =>
      show Program.Follows _ _ (if i = j then next reply else a.calls i) _
      by_cases hj : i = j
      · subst hj
        rw [if_pos rfl, place_asked_self]
        rw [hcall] at ih
        exact ih.2 reply (hb _ _ _ _ _ hreply)
      · rw [if_neg hj, place_asked_ne fun h => hj h.symm]
        exact ih

/-- A call that has returned has the answer that goes with its phase. -/
theorem Run.ends {b : Backend σ} {w : World σ} {a : Scene σ n} {answer : Answer}
    (hb : ∀ unit e w reply w', b.Answers unit e w reply w' → expected e reply)
    (hrun : Run b (s.opening requests w) past a) (hdone : a.calls i = .done answer) :
    (requests i).Ends (s.place requests i past) answer := by
  have h := hrun.follows hb i
  rw [hdone] at h
  exact h

/-! ### Every call returns -/

/-- What a program still has to do after a command is less than before. -/
theorem wellFounded_next {Command : Type} {Reply : Command → Type} {α : Type} :
    WellFounded fun later earlier : Program Command Reply α =>
      ∃ c next reply, earlier = .ask c next ∧ later = next reply := by
  refine ⟨fun p => ?_⟩
  induction p with
  | done value => exact ⟨_, fun later ⟨_, _, _, h, _⟩ => by cases h⟩
  | ask command next ih =>
    refine ⟨_, fun later ⟨_, _, reply, h, hlater⟩ => ?_⟩
    cases h
    rw [hlater]
    exact ih reply

/-- One scene comes from another one by a command of a call. -/
def Scene.Asks (b : Backend σ) (later earlier : Scene σ n) : Prop :=
  ∃ i x, Scene.Step b earlier (.asked i x) later

/-- Calls do not ask for ever, in whatever order they come and however they are answered. -/
theorem wellFounded_asks (b : Backend σ) : WellFounded (Scene.Asks (n := n) b) := by
  -- One call has less to do, and the others what they had.
  refine Subrelation.wf (fun {later earlier} h => ?_) (InvImage.wf Scene.calls
    (Pi.Lex.wellFounded (· < ·) fun _ => wellFounded_next))
  obtain ⟨i, x, hstep⟩ := h
  cases hstep with
  | @asks _ e next reply w hcall hreply =>
    refine ⟨i, fun j hj => if_neg (ne_of_lt hj), e, next, reply, hcall, if_pos rfl⟩

/-- **Every run can go on until all calls have returned**, and no time has to pass for it. -/
theorem Run.completes {b : Backend σ} {first a : Scene σ n} (hrun : Run b first past a) :
    ∃ newer c, Run b first (newer ++ past) c ∧ (∀ h ∈ newer, ∃ i x, h = .asked i x) ∧
      ∀ i, ∃ answer, c.calls i = .done answer := by
  induction a using (wellFounded_asks b).induction generalizing past with
  | _ a ih =>
    by_cases hdone : ∀ i, ∃ answer, a.calls i = .done answer
    · exact ⟨[], a, hrun, fun h hh => absurd hh List.not_mem_nil, hdone⟩
    · obtain ⟨i, hi⟩ := not_forall.mp hdone
      cases hcall : a.calls i with
      | done answer => exact absurd ⟨answer, hcall⟩ hi
      | ask e next =>
        have hstep : Scene.Step b a (.asked i ⟨e, (b.handle i e a.world).1⟩) _ :=
          .asks hcall (.handled e a.world)
        obtain ⟨newer, c, hlast, hasked, hall⟩ := ih _ ⟨i, _, hstep⟩ (hrun.step hstep)
        refine ⟨newer ++ [.asked i ⟨e, (b.handle i e a.world).1⟩], c, ?_, fun h hh => ?_, hall⟩
        · rw [List.append_assoc]
          exact hlast
        · rcases List.mem_append.mp hh with hh | hh
          · exact hasked h hh
          · exact ⟨i, _, List.mem_singleton.mp hh⟩

end Service

end SessionAuth
