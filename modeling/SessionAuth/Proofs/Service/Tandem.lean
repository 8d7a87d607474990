/-
Calls in tandem.

Two runs of the service that differ in a secret have the same surroundings, and the same befalls
them: any command to a collaborator may fail, with its effect or without one, at the same place
in both.  How far the surroundings may have come apart depends on how far the runs have come, so
the rules are about triples: two calls, what holds of the two worlds before, and what holds of
both results and of the worlds after them (`Setup.Tandem`).

An error is always the same on both sides.  After one the worlds may differ in what is stored in
the cache and in nothing else (`Setup.ButForLists`), and that is enough for a unit of work to end
in the same way (`Tandem.inUnit`).  Whatever does not ask the cache is in tandem with itself
under every relation that is kept by such requests (`Setup.Keeps`).
-/
import SessionAuth.Proofs.Deployment.Apart

namespace SessionAuth

variable {α α' β β' : Type}

/-! ### What befalls a command -/

/-- What has become of a command that may have met with a mishap. -/
def Mishap.befall {σ : Type} (mishap : Option Mishap) (w : World σ)
    (done : Except AuthError α × World σ) : Except AuthError α × World σ :=
  match mishap with
  | some m => (.error m.error, if m.isDone then done.2 else w)
  | none => done

theorem Backend.attempt_cache {σ : Type} (b : Backend σ) (unit : Nat) (mishap : Option Mishap)
    (c : Cache.Command) (w : World σ) :
    b.attempt unit mishap (.cache c) w = Mishap.befall mishap w (b.handle unit (.cache c) w) := by
  cases mishap <;> rfl

theorem Backend.attempt_users {σ : Type} (b : Backend σ) (unit : Nat) (mishap : Option Mishap)
    (c : Users.Command) (w : World σ) :
    b.attempt unit mishap (.users c) w = Mishap.befall mishap w (b.handle unit (.users c) w) := by
  cases mishap <;> rfl

namespace Setup

/-! ### Two worlds -/

/-- The worlds differ in what is stored at the keys of the cache and in nothing that counts else. -/
structure ButForLists (x : Setup) (unit : Nat) (w w' : World x.Store) : Prop where
  now : w'.now = w.now
  entropy : w'.entropy = w.entropy
  events : w'.events = w.events
  front : x.view.front w'.store = x.view.front w.store
  isOpen : x.view.isOpen unit w'.store = x.view.isOpen unit w.store

variable {x : Setup} {unit : Nat} {mishaps : Nat → Option Mishap} {w w' : World x.Store}

theorem ButForLists.refl (w : World x.Store) : x.ButForLists unit w w := ⟨rfl, rfl, rfl, rfl, rfl⟩

/-- Requests to others than the cache are replied the same, and keep what holds of two worlds. -/
structure Keeps (x : Setup) (unit : Nat) (P : World x.Store → World x.Store → Prop) : Prop where
  request : ∀ e, (∀ c, e ≠ .cache c) → ∀ w w', P w w' →
    (x.deployment.handle unit e w').1 = (x.deployment.handle unit e w).1 ∧
      P (x.deployment.handle unit e w).2 (x.deployment.handle unit e w').2
  butForLists : ∀ w w', P w w' → x.ButForLists unit w w'

/-- What such requests come to does not depend on what is stored in the cache. -/
theorem ButForLists.keeps : x.Keeps unit (x.ButForLists unit) := by
  refine ⟨?_, fun _ _ h => h⟩
  rintro e huncached ⟨store, now, entropy, events⟩ ⟨store', _, _, _⟩ ⟨rfl, rfl, rfl, hfront, hopen⟩
  cases e with
  | cache c => exact absurd rfl (huncached c)
  | users c =>
    obtain ⟨hreply, hopen'⟩ := x.fits.users_congr unit c store store' hfront hopen
    exact ⟨hreply, rfl, rfl, rfl, (x.fits.front_users unit c _).trans
      (hfront.trans (x.fits.front_users unit c _).symm), hopen'⟩
  | clock => exact ⟨rfl, rfl, rfl, rfl, hfront, hopen⟩
  | random count => exact ⟨rfl, rfl, rfl, rfl, hfront, hopen⟩
  | log event => exact ⟨rfl, rfl, rfl, rfl, hfront, hopen⟩

/-! ### Triples -/

/-- Two calls have ended: with results of which something holds, or with the same error. -/
inductive Ends (x : Setup) (unit : Nat) (Q : α → α' → World x.Store → World x.Store → Prop) :
    Except AuthError α × World x.Store × Nat → Except AuthError α' × World x.Store × Nat → Prop
  | ok {value : α} {value' : α'} {w w' : World x.Store} {n : Nat} (h : Q value value' w w') :
    Ends x unit Q (.ok value, w, n) (.ok value', w', n)
  | error {e : AuthError} {w w' : World x.Store} {n : Nat} (h : x.ButForLists unit w w') :
    Ends x unit Q (.error e, w, n) (.error e, w', n)

/-- From two worlds of which something holds the two calls end after as many requests. -/
def Tandem (x : Setup) (unit : Nat) (mishaps : Nat → Option Mishap)
    (P : World x.Store → World x.Store → Prop) (call : Call α) (call' : Call α')
    (Q : α → α' → World x.Store → World x.Store → Prop) : Prop :=
  ∀ w w' n, P w w' → x.Ends unit Q
    (Program.run (x.deployment.attempts unit mishaps) call.run (w, n))
    (Program.run (x.deployment.attempts unit mishaps) call'.run (w', n))

/-- The results are the same, and something holds of the two worlds. -/
def Same (P : World x.Store → World x.Store → Prop) (value value' : α) (w w' : World x.Store) :
    Prop := value' = value ∧ P w w'

namespace Tandem

variable {P P' : World x.Store → World x.Store → Prop}
  {Q Q' : α → α' → World x.Store → World x.Store → Prop}
  {R : β → β' → World x.Store → World x.Store → Prop} {call : Call α} {call' : Call α'}
  {f : α → Call β} {f' : α' → Call β'}

/-- The two runs, by how they end. -/
theorem runs (h : x.Tandem unit mishaps P call call' Q) (hw : P w w') (n : Nat) :
    (∃ value value' later later' m,
      Program.run (x.deployment.attempts unit mishaps) call.run (w, n) = (.ok value, later, m) ∧
      Program.run (x.deployment.attempts unit mishaps) call'.run (w', n) =
        (.ok value', later', m) ∧ Q value value' later later') ∨
    ∃ e later later' m,
      Program.run (x.deployment.attempts unit mishaps) call.run (w, n) = (.error e, later, m) ∧
      Program.run (x.deployment.attempts unit mishaps) call'.run (w', n) = (.error e, later', m) ∧
      x.ButForLists unit later later' := by
  have hends := h w w' n hw
  generalize Program.run (x.deployment.attempts unit mishaps) call.run (w, n) = last at hends ⊢
  generalize Program.run (x.deployment.attempts unit mishaps) call'.run (w', n) = last' at hends ⊢
  cases hends with
  | ok hvalue => exact Or.inl ⟨_, _, _, _, _, rfl, rfl, hvalue⟩
  | error hworlds => exact Or.inr ⟨_, _, _, _, rfl, rfl, hworlds⟩

/-! ### Sequences -/

theorem run_bind_of_ok {τ : Type} {handler : (e : Effect) → τ → e.Reply × τ} {call : Call α}
    {f : α → Call β} {state later : τ} {value : α}
    (h : Program.run handler call.run state = (.ok value, later)) :
    Program.run handler (call >>= f).run state = Program.run handler (f value).run later := by
  rw [ExceptT.run_bind, Program.bind_eq, Program.run_bind, h]

theorem run_bind_of_error {τ : Type} {handler : (e : Effect) → τ → e.Reply × τ} {call : Call α}
    {f : α → Call β} {state later : τ} {e : AuthError}
    (h : Program.run handler call.run state = (.error e, later)) :
    Program.run handler (call >>= f).run state = (.error e, later) := by
  rw [ExceptT.run_bind, Program.bind_eq, Program.run_bind, h]
  rfl

/-- A sequence has to be looked at further after two results only. -/
theorem bind (h : x.Tandem unit mishaps P call call' Q)
    (hrest : ∀ value value', x.Tandem unit mishaps (Q value value') (f value) (f' value') R) :
    x.Tandem unit mishaps P (call >>= f) (call' >>= f') R := by
  intro w w' n hw
  rcases h.runs hw n with ⟨value, value', _, _, _, hrun, hrun', hvalue⟩ |
    ⟨_, _, _, _, hrun, hrun', hworlds⟩
  · rw [run_bind_of_ok hrun, run_bind_of_ok hrun']
    exact hrest value value' _ _ _ hvalue
  · rw [run_bind_of_error hrun, run_bind_of_error hrun']
    exact .error hworlds

/-- After results that are the same, the same rest is looked at on both sides. -/
theorem bind_same {call' : Call α} {f' : α → Call β'}
    (h : x.Tandem unit mishaps P call call' (Same P'))
    (hrest : ∀ value, x.Tandem unit mishaps P' (f value) (f' value) R) :
    x.Tandem unit mishaps P (call >>= f) (call' >>= f') R := by
  refine h.bind ?_
  rintro value value' w w' n ⟨rfl, hw⟩
  exact hrest _ _ _ _ hw

theorem pre (h : x.Tandem unit mishaps P' call call' Q) (himp : ∀ w w', P w w' → P' w w') :
    x.Tandem unit mishaps P call call' Q := fun w w' n hw => h w w' n (himp w w' hw)

theorem post (h : x.Tandem unit mishaps P call call' Q)
    (himp : ∀ value value' w w', Q value value' w w' → Q' value value' w w') :
    x.Tandem unit mishaps P call call' Q' := by
  intro w w' n hw
  rcases h.runs hw n with ⟨_, _, _, _, _, hrun, hrun', hvalue⟩ | ⟨_, _, _, _, hrun, hrun', hworlds⟩
  · rw [hrun, hrun']
    exact .ok (himp _ _ _ _ hvalue)
  · rw [hrun, hrun']
    exact .error hworlds

/-! ### Results that are known -/

theorem pure {value : α} {value' : α'} (h : ∀ w w', P w w' → Q value value' w w') :
    x.Tandem unit mishaps P (Pure.pure value) (Pure.pure value') Q :=
  fun w w' _ hw => .ok (h w w' hw)

/-- What is made of the same results is the same. -/
theorem map {call' : Call α} (h : x.Tandem unit mishaps P call call' (Same P')) (g : α → β) :
    x.Tandem unit mishaps P (g <$> call) (g <$> call') (Same P') := by
  have hmap : ∀ call : Call α, g <$> call = call >>= fun value => Pure.pure (g value) :=
    fun _ => rfl
  rw [hmap, hmap]
  exact h.bind_same fun value => .pure fun _ _ hw => ⟨rfl, hw⟩

theorem throw (hP : ∀ w w', P w w' → x.ButForLists unit w w') (e : AuthError) :
    x.Tandem unit mishaps P (MonadExcept.throw e) (MonadExcept.throw e) Q :=
  fun w w' _ hw => .error (hP w w' hw)

theorem ofExcept (hP : ∀ w w', P w w' → x.ButForLists unit w w') (result : Except AuthError α) :
    x.Tandem unit mishaps P (Call.ofExcept result) (Call.ofExcept result) (Same P) := by
  cases result with
  | ok value => exact fun w w' _ hw => .ok ⟨rfl, hw⟩
  | error e => exact fun w w' _ hw => .error (hP w w' hw)

/-! ### Requests -/

/-- A command that is answered in tandem is so when something befalls it. -/
theorem of_befall {call : Call α} {call' : Call α'}
    {done : World x.Store → Except AuthError α × World x.Store}
    {done' : World x.Store → Except AuthError α' × World x.Store}
    (hrun : ∀ w n, Program.run (x.deployment.attempts unit mishaps) call.run (w, n) =
      ((Mishap.befall (mishaps n) w (done w)).1, (Mishap.befall (mishaps n) w (done w)).2, n + 1))
    (hrun' : ∀ w n, Program.run (x.deployment.attempts unit mishaps) call'.run (w, n) =
      ((Mishap.befall (mishaps n) w (done' w)).1, (Mishap.befall (mishaps n) w (done' w)).2, n + 1))
    (hP : ∀ w w', P w w' → x.ButForLists unit w w')
    (hQ : ∀ value value' w w', Q value value' w w' → x.ButForLists unit w w')
    (h : ∀ w w', P w w' → ∀ n,
      x.Ends unit Q ((done w).1, (done w).2, n) ((done' w').1, (done' w').2, n)) :
    x.Tandem unit mishaps P call call' Q := by
  intro w w' n hw
  rw [hrun, hrun']
  have hdone := h w w' hw (n + 1)
  generalize hfirst : done w = first at hdone
  generalize hfirst' : done' w' = first' at hdone
  obtain ⟨reply, later⟩ := first
  obtain ⟨reply', later'⟩ := first'
  have hlater : x.ButForLists unit later later' := by
    cases hdone with
    | ok hvalue => exact hQ _ _ _ _ hvalue
    | error hworlds => exact hworlds
  unfold Mishap.befall
  cases mishaps n with
  | none => exact hdone
  | some m =>
    obtain ⟨e, isDone⟩ := m
    cases isDone with
    | true => exact .error hlater
    | false => exact .error (hP w w' hw)

theorem cache (c c' : Cache.Command) {Q : c.Reply → c'.Reply → World x.Store → World x.Store → Prop}
    (hP : ∀ w w', P w w' → x.ButForLists unit w w')
    (hQ : ∀ value value' w w', Q value value' w w' → x.ButForLists unit w w')
    (h : ∀ w w', P w w' → ∀ n, x.Ends unit Q
      ((x.deployment.cache w.now c w.store).1, (x.deployment.handle unit (.cache c) w).2, n)
      ((x.deployment.cache w'.now c' w'.store).1, (x.deployment.handle unit (.cache c') w').2, n)) :
    x.Tandem unit mishaps P (Call.cache c) (Call.cache c') Q := by
  have hrun : ∀ (c : Cache.Command) (w : World x.Store) (n : Nat),
      Program.run (x.deployment.attempts unit mishaps) (Call.cache c).run (w, n) =
        ((Mishap.befall (mishaps n) w (x.deployment.handle unit (.cache c) w)).1,
          (Mishap.befall (mishaps n) w (x.deployment.handle unit (.cache c) w)).2, n + 1) := by
    intro c w n
    rw [← Backend.attempt_cache]
    rfl
  exact of_befall (hrun c) (hrun c') hP hQ h

theorem lookUp {c : Users.Command} {Q : c.Reply → c.Reply → World x.Store → World x.Store → Prop}
    (hP : ∀ w w', P w w' → x.ButForLists unit w w')
    (hQ : ∀ value value' w w', Q value value' w w' → x.ButForLists unit w w')
    (h : ∀ w w', P w w' → ∀ n, x.Ends unit Q
      ((x.deployment.users unit c w.store).1, (x.deployment.handle unit (.users c) w).2, n)
      ((x.deployment.users unit c w'.store).1, (x.deployment.handle unit (.users c) w').2, n)) :
    x.Tandem unit mishaps P (Call.users c) (Call.users c) Q := by
  have hrun : ∀ (w : World x.Store) (n : Nat),
      Program.run (x.deployment.attempts unit mishaps) (Call.users c).run (w, n) =
        ((Mishap.befall (mishaps n) w (x.deployment.handle unit (.users c) w)).1,
          (Mishap.befall (mishaps n) w (x.deployment.handle unit (.users c) w)).2, n + 1) := by
    intro w n
    rw [← Backend.attempt_users]
    rfl
  exact of_befall hrun hrun hP hQ h

section Keeps

variable (hP : x.Keeps unit P)
include hP

theorem users (c : Users.Command) :
    x.Tandem unit mishaps P (Call.users c) (Call.users c) (Same P) := by
  refine lookUp hP.butForLists (fun _ _ w w' h => hP.butForLists w w' h.2) ?_
  intro w w' hw n
  obtain ⟨hreply, hafter⟩ := hP.request (.users c) (fun _ => nofun) w w' hw
  have hreply : (x.deployment.users unit c w'.store).1 = (x.deployment.users unit c w.store).1 :=
    hreply
  rw [hreply]
  generalize (x.deployment.users unit c w.store).1 = reply
  cases reply with
  | ok value => exact .ok ⟨rfl, hafter⟩
  | error e => exact .error (hP.butForLists _ _ hafter)

theorem clock : x.Tandem unit mishaps P Call.clock Call.clock (Same P) := by
  intro w w' n hw
  obtain ⟨hreply, hafter⟩ := hP.request .clock (fun _ => nofun) w w' hw
  exact .ok ⟨hreply, hafter⟩

theorem random (bits : Nat) :
    x.Tandem unit mishaps P (Call.random bits) (Call.random bits) (Same P) := by
  intro w w' n hw
  obtain ⟨hreply, hafter⟩ := hP.request (.random bits) (fun _ => nofun) w w' hw
  exact .ok ⟨hreply, hafter⟩

theorem log (event : Event) :
    x.Tandem unit mishaps P (Call.log event) (Call.log event) (Same P) := by
  intro w w' n hw
  exact .ok ⟨rfl, (hP.request (.log event) (fun _ => nofun) w w' hw).2⟩

end Keeps

/-! ### Units of work -/

/-- Calls whose failure is taken as a result do not fail. -/
theorem lift {call' : Call α} (h : x.Tandem unit mishaps P call call' (Same (x.ButForLists unit))) :
    x.Tandem unit mishaps P (ExceptT.lift call.run) (ExceptT.lift call'.run)
      (Same (x.ButForLists unit)) := by
  have hlift : ∀ (call : Call α) (w : World x.Store) (n : Nat),
      Program.run (x.deployment.attempts unit mishaps)
          (ExceptT.lift call.run : Call (Except AuthError α)).run (w, n) =
        (.ok (Program.run (x.deployment.attempts unit mishaps) call.run (w, n)).1,
          (Program.run (x.deployment.attempts unit mishaps) call.run (w, n)).2) := by
    intro call w n
    show Program.run _ (Program.bind call.run _) _ = _
    rw [Program.run_bind]
    rfl
  intro w w' n hw
  rw [hlift, hlift]
  rcases h.runs hw n with ⟨_, _, _, _, _, hrun, hrun', hvalue⟩ | ⟨_, _, _, _, hrun, hrun', hworlds⟩
  · rw [hrun, hrun']
    exact .ok ⟨congrArg Except.ok hvalue.1, hvalue.2⟩
  · rw [hrun, hrun']
    exact .ok ⟨rfl, hworlds⟩

/-- The same work is ended in the same way, whatever is stored in the cache. -/
theorem finish (result : Except AuthError α) :
    x.Tandem unit mishaps (x.ButForLists unit) (Call.finish result) (Call.finish result)
      (Same (x.ButForLists unit)) := by
  cases result with
  | ok value =>
    exact (users ButForLists.keeps .commit).bind_same fun _ => .pure fun _ _ h => ⟨rfl, h⟩
  | error e =>
    refine (lift (users ButForLists.keeps .rollback)).bind_same fun rolledBack => ?_
    cases rolledBack with
    | ok done => exact .throw (fun _ _ h => h) e
    | error cause =>
      exact (log ButForLists.keeps (.rollbackFailed cause)).bind_same fun _ =>
        .throw (fun _ _ h => h) e

/-- **Operations are in tandem when their work is.** -/
theorem inUnit {call' : Call α} (hP : x.Keeps unit P)
    (h : x.Tandem unit mishaps P call call' (Same (x.ButForLists unit))) :
    x.Tandem unit mishaps P (Call.inUnit call) (Call.inUnit call') (Same (x.ButForLists unit)) :=
  (users hP .begin).bind_same fun _ => h.lift.bind_same finish

end Tandem

end Setup

end SessionAuth
