/-
The discipline of transactions.

Every operation begins a transaction, works in it and ends it (`call_eq`).  The work only looks
users up (`work_meets`), so what becomes of the transaction is decided by three commands: the
one that begins it, and the one that ends it, which is the commit after a result and the
rollback after an error.  `called_of_begun` puts the whole call together from these and the
work, over any backend.

What remains is what the two stores of users make of the commands.  A database receives the
statements one by one and refuses what it was told to refuse; a table in memory refuses
nothing and counts.  The cache may be anything.  Only for one thing does it matter what it
replies: that nobody is told that the transaction has not started, which no cache says.
-/
import SessionAuth.Proofs.Cache.Remote
import SessionAuth.Proofs.Service.Operation
import SessionAuth.Proofs.Service.Schedule
import SessionAuth.Proofs.Users.Statements

namespace SessionAuth

/-- A cache and a store of users that have nothing to do with each other. -/
def Backend.paired {κ υ : Type} (cache : Instant → (c : Cache.Command) → κ → c.Outcome × κ)
    (users : Nat → (c : Users.Command) → υ → c.Outcome × υ) : Backend (κ × υ) where
  cache now c st := ((cache now c st.1).1, (cache now c st.1).2, st.2)
  users unit c st := ((users unit c st.2).1, st.1, (users unit c st.2).2)

namespace Service

/-! ### The call around the work -/

section Calls

variable {σ : Type} (b : Backend σ) (s : Service) (op : Operation) (unit : Nat) (w : World σ)

/-- What the work comes to after the transaction has begun, and the world that it leaves. -/
def worked : Except AuthError op.Reply × World σ :=
  Program.run (b.handle unit) (s.work op).run (b.handle unit (.users .begin) w).2

/-- What the whole operation comes to. -/
def called : Except AuthError op.Reply × World σ :=
  Program.run (b.handle unit) (s.call op).run w

/-- What the operation asks, oldest first. -/
def askedBy : List Asked := (s.call op).run.record (b.handle unit) w

variable {b s op unit w}

/-- When no transaction begins, that is the end of it. -/
theorem called_of_refused {e : AuthError}
    (h : (b.handle unit (.users .begin) w).1 = .error e) :
    called b s op unit w = (.error e, (b.handle unit (.users .begin) w).2) ∧
      askedBy b s op unit w = [⟨.users .begin, .error e⟩] := by
  unfold called askedBy
  rw [call_eq]
  unfold Call.inUnit
  constructor
  · show Program.run (b.handle unit) (Program.ask (.users .begin) _) w = _
    unfold Program.run
    dsimp only
    rw [h]
    rfl
  · show Program.record (b.handle unit) (Program.ask (.users .begin) _) w = _
    unfold Program.record
    dsimp only
    rw [h]
    rfl

/-- When one has begun, the work is done and finished. -/
theorem called_of_begun (h : (b.handle unit (.users .begin) w).1 = .ok ()) :
    called b s op unit w = Program.run (b.handle unit)
      (Call.finish (worked b s op unit w).1).run (worked b s op unit w).2 := by
  unfold called worked
  rw [call_eq]
  unfold Call.inUnit
  show Program.run (b.handle unit) (Program.ask (.users .begin) _) w = _
  rw [Program.run]
  dsimp only
  rw [h]
  show Program.run (b.handle unit) (Program.bind (Program.bind (s.work op).run
    fun result => Program.done (Except.ok result)) _) _ = _
  rw [Program.run_bind, Program.run_bind]
  rfl

/-- A result is committed, and lost if the commit fails. -/
theorem called_of_ok {value : op.Reply} (h : (b.handle unit (.users .begin) w).1 = .ok ())
    (hwork : (worked b s op unit w).1 = .ok value) :
    called b s op unit w =
      (((b.handle unit (.users .commit) (worked b s op unit w).2).1).map fun _ => value,
        (b.handle unit (.users .commit) (worked b s op unit w).2).2) := by
  rw [called_of_begun h, hwork]
  show Program.run (b.handle unit) (Program.ask (.users .commit) _) _ = _
  unfold Program.run
  dsimp only
  cases (b.handle unit (.users .commit) (worked b s op unit w).2).1 <;> rfl

/-- After an error the transaction is rolled back, and the error stays what it was. -/
theorem called_of_error {e : AuthError} (h : (b.handle unit (.users .begin) w).1 = .ok ())
    (hwork : (worked b s op unit w).1 = .error e) :
    (called b s op unit w).1 = .error e ∧ (called b s op unit w).2.store =
      (b.handle unit (.users .rollback) (worked b s op unit w).2).2.store := by
  rw [called_of_begun h, hwork]
  unfold Call.finish
  show (Program.run (b.handle unit) (Program.ask (.users .rollback) _) _).1 = _ ∧
    (Program.run (b.handle unit) (Program.ask (.users .rollback) _) _).2.store = _
  unfold Program.run
  dsimp only
  cases (b.handle unit (.users .rollback) (worked b s op unit w).2).1 <;> exact ⟨rfl, rfl⟩

/-- The work asks the users for nothing but look-ups. -/
theorem isLookUp_of_worked {x : Asked} {c : Users.Command}
    (hx : x ∈ (s.work op).run.record (b.handle unit) w) (hc : x.command = .users c) :
    IsLookUp c := by
  obtain ⟨older, newer, hrecord⟩ := List.append_of_mem hx
  have hmay := Program.Meets.record_asks (work_meets s op fun _ _ => List.not_mem_nil) hrecord
  rw [hc] at hmay
  exact hmay

/-- An error of the work has somebody to blame. -/
theorem accounts_work (s : Service) (op : Operation) (w : World σ) :
    Accounts s op ((s.work op).run.record (b.handle unit) w).reverse
      (Program.run (b.handle unit) (s.work op).run w).1 := by
  have haccounts : Accounts s op
      (((s.work op).run.record (b.handle unit) w).reverse ++ [])
      (Program.run (b.handle unit) (s.work op).run w).1 :=
    Program.Meets.record_ends (work_meets s op fun _ _ => List.not_mem_nil) w
  rwa [List.append_nil] at haccounts

end Calls

/-! ### The work, over stores of users that look-ups leave alone -/

section Work

variable {κ υ : Type} {cache : Instant → (c : Cache.Command) → κ → c.Outcome × κ}
  {users : Nat → (c : Users.Command) → υ → c.Outcome × υ} {s : Service} {op : Operation}
  {unit : Nat} {w : World (κ × υ)}

/-- No reply of the cache is that a transaction has not started. -/
def NoTransactions (cache : Instant → (c : Cache.Command) → κ → c.Outcome × κ) : Prop :=
  ∀ now c st, (cache now c st).1 ≠ .error Users.notStarted

/-- This was not answered with the transaction not having started. -/
def Started (x : Asked) : Prop :=
  (∀ c, x ≠ ⟨.cache c, .error Users.notStarted⟩) ∧ ∀ c, x ≠ ⟨.users c, .error Users.notStarted⟩

theorem started_cache {c : Cache.Command} {reply : c.Outcome}
    (h : reply ≠ .error Users.notStarted) : Started ⟨.cache c, reply⟩ := by
  refine ⟨?_, nofun⟩
  intro c' heq
  cases heq
  exact h rfl

theorem started_users {c : Users.Command} {reply : c.Outcome}
    (h : reply ≠ .error Users.notStarted) : Started ⟨.users c, reply⟩ := by
  refine ⟨nofun, ?_⟩
  intro c' heq
  cases heq
  exact h rfl

variable (Inv : υ → Prop)

/-- **The work leaves true what its look-ups leave true.** -/
theorem worked_keeps (hinv : Inv (users unit .begin w.store.2).2)
    (hlookUp : ∀ c m, IsLookUp c → Inv m → Inv (users unit c m).2) :
    Inv (worked (.paired cache users) s op unit w).2.store.2 := by
  refine Program.run_keeps (fun now : World (κ × υ) => Inv now.store.2) hinv ?_
  intro x hx now hnow
  have hlook := fun c => isLookUp_of_worked (c := c) hx
  obtain ⟨e, reply⟩ := x
  cases e with
  | users c => exact hlookUp c now.store.2 (hlook c rfl) hnow
  | cache c | clock | random count | log event => exact hnow

/-- When no look-up finds the transaction missing, the work does not say that it is. -/
theorem worked_started (hcache : NoTransactions cache)
    (hinv : Inv (users unit .begin w.store.2).2)
    (hlookUp : ∀ c m, IsLookUp c → Inv m → Inv (users unit c m).2)
    (hstarted : ∀ c m, IsLookUp c → Inv m → (users unit c m).1 ≠ .error Users.notStarted) :
    (worked (.paired cache users) s op unit w).1 ≠ .error Users.notStarted := by
  have hstep : ∀ x ∈ (s.work op).run.record ((Backend.paired cache users).handle unit)
      ((Backend.paired cache users).handle unit (.users .begin) w).2, ∀ now : World (κ × υ),
      Inv now.store.2 →
        Started ⟨x.command, ((Backend.paired cache users).handle unit x.command now).1⟩ ∧
          Inv ((Backend.paired cache users).handle unit x.command now).2.store.2 := by
    intro x hx now hnow
    have hlook := fun c => isLookUp_of_worked (c := c) hx
    obtain ⟨e, reply⟩ := x
    cases e with
    | cache c => exact ⟨started_cache (hcache now.now c now.store.1), hnow⟩
    | users c =>
      exact ⟨started_users (hstarted c now.store.2 (hlook c rfl) hnow),
        hlookUp c now.store.2 (hlook c rfl) hnow⟩
    | clock | random count | log event => exact ⟨⟨nofun, nofun⟩, hnow⟩
  have hall := Program.forall_record (fun now : World (κ × υ) => Inv now.store.2) hinv hstep
  intro hfailed
  rcases (accounts_work s op _).2 _ hfailed with hown | ⟨c, hmem⟩ | ⟨c, hmem⟩
  · exact hown
  · exact (hall _ (List.mem_reverse.mp hmem)).1 c rfl
  · exact (hall _ (List.mem_reverse.mp hmem)).2 c rfl

end Work

/-! ### Over a database -/

section Relational

variable {κ : Type} {cache : Instant → (c : Cache.Command) → κ → c.Outcome × κ} {s : Service}
  {op : Operation} {unit : Nat}

/-- A cache and a database. -/
abbrev overDatabase (cache : Instant → (c : Cache.Command) → κ → c.Outcome × κ) :
    Backend (κ × Users.Relational) :=
  .paired cache fun unit c d => Users.Relational.perform unit c d

/-- A cache and a table of users in memory. -/
abbrev overTable (cache : Instant → (c : Cache.Command) → κ → c.Outcome × κ) :
    Backend (κ × Users.Memory) :=
  .paired cache fun unit c m => Users.Memory.perform unit c m

example : overDatabase (fun now c server => Cache.Remote.perform now c server) =
    Deployment.remote.toBackend := rfl

example : overTable (fun now c m => Cache.Memory.perform now c m) =
    Deployment.inMemory.toBackend := rfl

/--
What an operation makes of the transaction of a database.  The verdicts are what becomes of
the statements that begin and end it.
-/
structure Transacts (cache : Instant → (c : Cache.Command) → κ → c.Outcome × κ) (s : Service)
    (op : Operation) (unit : Nat) (w : World (κ × Users.Relational)) : Prop where
  /-- If the first statement is refused nothing else is sent, and the cache is not asked. -/
  refused : ∀ e, w.store.2.verdict .begin = .error e →
    (called (overDatabase cache) s op unit w).1 = .error e ∧
      askedBy (overDatabase cache) s op unit w = [⟨.users .begin, .error e⟩] ∧
      (called (overDatabase cache) s op unit w).2.store.2.received =
        w.store.2.received ++ [.begin]
  /-- Otherwise there is a result exactly if the work has one and it is committed. -/
  succeeds : w.store.2.verdict .begin = .ok () → ∀ value,
    (called (overDatabase cache) s op unit w).1 = .ok value ↔
      (worked (overDatabase cache) s op unit w).1 = .ok value ∧
        w.store.2.verdict .commit = .ok ()
  committed : w.store.2.verdict .begin = .ok () → ∀ value,
    (worked (overDatabase cache) s op unit w).1 = .ok value →
      (∀ e, w.store.2.verdict .commit = .error e →
        (called (overDatabase cache) s op unit w).1 = .error e) ∧
      ∃ looks, (∀ statement ∈ looks, Users.Relational.IsLookUp statement) ∧
        (called (overDatabase cache) s op unit w).2.store.2.received = w.store.2.received ++
          .begin :: (looks ++ Users.Relational.ending .commit (w.store.2.verdict .commit))
  /-- A rollback that fails does not change the error. -/
  rolledBack : w.store.2.verdict .begin = .ok () → ∀ e,
    (worked (overDatabase cache) s op unit w).1 = .error e →
      (called (overDatabase cache) s op unit w).1 = .error e ∧
      ∃ looks, (∀ statement ∈ looks, Users.Relational.IsLookUp statement) ∧
        (called (overDatabase cache) s op unit w).2.store.2.received = w.store.2.received ++
          .begin :: (looks ++ Users.Relational.ending .rollback (w.store.2.verdict .rollback))
  started : NoTransactions cache →
    (called (overDatabase cache) s op unit w).1 ≠ .error Users.notStarted

open Users.Relational (Looked)

theorem isOpen_of_looked {begun d : Users.Relational} (hopen : begun.units.isOpen unit = true)
    (h : Looked begun d) : d.units.isOpen unit = true := by
  obtain ⟨looks, _, rfl⟩ := h
  exact hopen

/-- In an open transaction look-ups are sent, and nothing else happens. -/
theorem looked_perform {begun d : Users.Relational} {c : Users.Command} (hc : IsLookUp c)
    (hopen : begun.units.isOpen unit = true) (h : Looked begun d) :
    Looked begun (d.perform unit c).2 := by
  rcases hc with ⟨login, rfl⟩ | ⟨id, rfl⟩
  · exact h.select (Or.inl ⟨login, rfl⟩) _ (isOpen_of_looked hopen h)
  · exact h.select (Or.inr ⟨id, rfl⟩) _ (isOpen_of_looked hopen h)

/-- None of them finds the transaction missing. -/
theorem lookUp_ne_notStarted {d : Users.Relational} {c : Users.Command} (hc : IsLookUp c)
    (hopen : d.units.isOpen unit = true) : (d.perform unit c).1 ≠ .error Users.notStarted := by
  rcases hc with ⟨login, rfl⟩ | ⟨id, rfl⟩
  · exact Users.Relational.select_ne_notStarted hopen
  · exact Users.Relational.select_ne_notStarted hopen

theorem verdict_ne_notStarted (d : Users.Relational) (kind : Users.StatementKind) :
    d.verdict kind ≠ .error Users.notStarted := by
  unfold Users.Relational.verdict
  split <;> nofun

/-- What a database is like after the work of an operation in its transaction. -/
structure Working (unit : Nat) (before d : Users.Relational) (looks : List Users.Statement) :
    Prop where
  isOpen : d.units.isOpen unit = true
  faults : d.faults = before.faults
  lookUps : ∀ statement ∈ looks, Users.Relational.IsLookUp statement
  received : d.received = before.received ++ .begin :: looks

theorem Working.verdict {before d : Users.Relational} {looks : List Users.Statement}
    (h : Working unit before d looks) (kind : Users.StatementKind) :
    d.verdict kind = before.verdict kind :=
  Users.Relational.verdict_congr h.faults kind

theorem Working.commit {before d : Users.Relational} {looks : List Users.Statement}
    (h : Working unit before d looks) :
    (d.perform unit .commit).1 = before.verdict .commit ∧
      (d.perform unit .commit).2.received = before.received ++
        .begin :: (looks ++ Users.Relational.ending .commit (before.verdict .commit)) := by
  constructor
  · rw [Users.Relational.fst_perform, ← h.verdict]
    exact if_pos h.isOpen
  · rw [Users.Relational.received_commit h.isOpen, h.received, h.verdict, List.append_assoc]
    rfl

theorem Working.rollback {before d : Users.Relational} {looks : List Users.Statement}
    (h : Working unit before d looks) :
    (d.perform unit .rollback).2.received = before.received ++
      .begin :: (looks ++ Users.Relational.ending .rollback (before.verdict .rollback)) := by
  rw [Users.Relational.received_rollback h.isOpen, h.received, h.verdict, List.append_assoc]
  rfl

theorem isOpen_begun_relational (unit : Nat) {d : Users.Relational}
    (h : d.verdict .begin = .ok ()) :
    (d.perform unit .begin).2.units.isOpen unit = true :=
  (Users.Relational.isOpen_of_begin ((Users.Relational.fst_perform unit .begin d).trans h)).2

/-- The work of an operation sends look-ups in its transaction. -/
theorem worked_relational (s : Service) (op : Operation) {w : World (κ × Users.Relational)}
    (hclosed : w.store.2.units.isOpen unit = false) (hbegin : w.store.2.verdict .begin = .ok ()) :
    ∃ looks, Working unit w.store.2 (worked (overDatabase cache) s op unit w).2.store.2 looks := by
  have hopen := isOpen_begun_relational unit hbegin
  have hfaults : (w.store.2.perform unit .begin).2.faults = w.store.2.faults :=
    (Users.Relational.alike_perform unit .begin w.store.2).faults
  have hreceived : (w.store.2.perform unit .begin).2.received = w.store.2.received ++ [.begin] :=
    Users.Relational.received_begin hclosed
  have hlooked : Looked (w.store.2.perform unit .begin).2
      (worked (overDatabase cache) s op unit w).2.store.2 :=
    worked_keeps (Looked (w.store.2.perform unit .begin).2) (.refl _)
      fun _ _ hc h => looked_perform hc hopen h
  obtain ⟨looks, hlooks, hafter⟩ := hlooked
  refine ⟨looks, ?_, ?_, hlooks, ?_⟩
  · rw [hafter]
    exact hopen
  · rw [hafter]
    exact hfaults
  · rw [hafter]
    show (w.store.2.perform unit .begin).2.received ++ looks = _
    rw [hreceived, List.append_assoc]
    rfl

/-- **Over a database every operation keeps the discipline of transactions.** -/
theorem transacts (s : Service) (op : Operation) {w : World (κ × Users.Relational)}
    (hclosed : w.store.2.units.isOpen unit = false) :
    Transacts cache s op unit w := by
  have hreply : ((overDatabase cache).handle unit (.users .begin) w).1 =
      w.store.2.verdict .begin := Users.Relational.fst_perform unit .begin w.store.2
  have hrefused : ∀ e, w.store.2.verdict .begin = .error e →
      ((overDatabase cache).handle unit (.users .begin) w).1 = .error e := by
    intro e he
    exact hreply.trans he
  have hcommit : w.store.2.verdict .begin = .ok () → ∀ value,
      (worked (overDatabase cache) s op unit w).1 = .ok value →
        (called (overDatabase cache) s op unit w).1 =
          (w.store.2.verdict .commit).map fun _ => value := by
    intro hbegin value hvalue
    obtain ⟨looks, hworking⟩ := worked_relational s op hclosed hbegin
    rw [called_of_ok (hreply.trans hbegin) hvalue]
    exact congrArg (Except.map fun _ => value) hworking.commit.1
  have hrollback : w.store.2.verdict .begin = .ok () → ∀ e,
      (worked (overDatabase cache) s op unit w).1 = .error e →
        (called (overDatabase cache) s op unit w).1 = .error e := by
    intro hbegin e he
    exact (called_of_error (hreply.trans hbegin) he).1
  constructor
  case refused =>
    intro e he
    have hcalled : called (overDatabase cache) s op unit w =
        (.error e, ((overDatabase cache).handle unit (.users .begin) w).2) :=
      (called_of_refused (hrefused e he)).1
    have hasked : askedBy (overDatabase cache) s op unit w = [⟨.users .begin, .error e⟩] :=
      (called_of_refused (hrefused e he)).2
    refine ⟨congrArg Prod.fst hcalled, hasked, ?_⟩
    rw [hcalled]
    exact Users.Relational.received_begin hclosed
  case succeeds =>
    intro hbegin value
    cases hwork : (worked (overDatabase cache) s op unit w).1 with
    | ok found =>
      rw [hcommit hbegin found hwork]
      cases w.store.2.verdict .commit <;> simp [Except.map]
    | error e =>
      rw [hrollback hbegin e hwork]
      simp
  case committed =>
    intro hbegin value hvalue
    obtain ⟨looks, hworking⟩ := worked_relational s op hclosed hbegin
    refine ⟨?_, looks, hworking.lookUps, ?_⟩
    · intro e he
      rw [hcommit hbegin value hvalue, he]
      rfl
    · rw [called_of_ok (hreply.trans hbegin) hvalue]
      exact hworking.commit.2
  case rolledBack =>
    intro hbegin e he
    obtain ⟨looks, hworking⟩ := worked_relational s op hclosed hbegin
    obtain ⟨hresult, hstore⟩ := called_of_error (hreply.trans hbegin) he
    refine ⟨hresult, looks, hworking.lookUps, ?_⟩
    rw [hstore]
    exact hworking.rollback
  case started =>
    intro hcache
    cases hbegin : w.store.2.verdict .begin with
    | error e =>
      rw [(called_of_refused (hrefused e hbegin)).1]
      intro hmissing
      exact verdict_ne_notStarted _ _ (hbegin.trans (congrArg _ (Except.error.inj hmissing)))
    | ok _ =>
      have hopen := isOpen_begun_relational unit hbegin
      have hstarted : (worked (overDatabase cache) s op unit w).1 ≠ .error Users.notStarted :=
        worked_started (Looked (w.store.2.perform unit .begin).2) hcache (.refl _)
          (fun _ _ hc h => looked_perform hc hopen h)
          fun _ _ hc h => lookUp_ne_notStarted hc (isOpen_of_looked hopen h)
      cases hwork : (worked (overDatabase cache) s op unit w).1 with
      | ok value =>
        rw [hcommit hbegin value hwork]
        cases hverdict : w.store.2.verdict .commit with
        | ok _ => nofun
        | error e =>
          intro hmissing
          exact verdict_ne_notStarted _ _ (hverdict.trans (congrArg _ (Except.error.inj hmissing)))
      | error e =>
        rw [hrollback hbegin e hwork]
        rwa [hwork] at hstarted

end Relational

/-! ### Over a table in memory -/

section Memory

variable {κ : Type} {cache : Instant → (c : Cache.Command) → κ → c.Outcome × κ} {s : Service}
  {op : Operation} {unit : Nat}

/-- What an operation makes of the transaction of a table in memory, which counts. -/
structure Counts (cache : Instant → (c : Cache.Command) → κ → c.Outcome × κ) (s : Service)
    (op : Operation) (unit : Nat) (w : World (κ × Users.Memory)) : Prop where
  /-- Nothing is refused, so the operation comes to what its work comes to. -/
  result : (called (overTable cache) s op unit w).1 = (worked (overTable cache) s op unit w).1
  committed : ∀ value, (called (overTable cache) s op unit w).1 = .ok value →
    (called (overTable cache) s op unit w).2.store.2.counters = { w.store.2.counters with
      begun := w.store.2.counters.begun + 1
      committed := w.store.2.counters.committed + 1 }
  rolledBack : ∀ e, (called (overTable cache) s op unit w).1 = .error e →
    (called (overTable cache) s op unit w).2.store.2.counters = { w.store.2.counters with
      begun := w.store.2.counters.begun + 1
      rolledBack := w.store.2.counters.rolledBack + 1 }
  started : NoTransactions cache →
    (called (overTable cache) s op unit w).1 ≠ .error Users.notStarted

/-- Look-ups in an open transaction are answered, and change nothing. -/
theorem lookUp_table {m : Users.Memory} {c : Users.Command} (hc : IsLookUp c)
    (hopen : m.units.isOpen unit = true) :
    (m.perform unit c).1 ≠ .error Users.notStarted ∧ (m.perform unit c).2 = m := by
  obtain ⟨hlogins, hids⟩ := Users.Memory.exists_ok_of_isOpen hopen
  rcases hc with ⟨login, rfl⟩ | ⟨id, rfl⟩
  · obtain ⟨found, hfound⟩ := hlogins login
    refine ⟨?_, Users.Memory.perform_findByLogin _ _ _⟩
    rw [hfound]
    nofun
  · obtain ⟨found, hfound⟩ := hids id
    refine ⟨?_, Users.Memory.perform_findById _ _ _⟩
    rw [hfound]
    nofun

/-- **Over a table in memory every operation begins one transaction, and ends it once.** -/
theorem counts (s : Service) (op : Operation) {w : World (κ × Users.Memory)}
    (hclosed : w.store.2.units.isOpen unit = false) : Counts cache s op unit w := by
  have hopen : (w.store.2.perform unit .begin).2.units.isOpen unit = true :=
    Users.Memory.isOpen_perform_self unit .begin w.store.2
  have hcounters := Users.Memory.counters_begin hclosed
  have hkeeps : ∀ c m, IsLookUp c → m = (w.store.2.perform unit .begin).2 →
      (m.perform unit c).2 = (w.store.2.perform unit .begin).2 := by
    rintro c m hc rfl
    exact (lookUp_table hc hopen).2
  have hstore : (worked (overTable cache) s op unit w).2.store.2 =
      (w.store.2.perform unit .begin).2 :=
    worked_keeps (fun m => m = (w.store.2.perform unit .begin).2) rfl hkeeps
  have hopen' : (worked (overTable cache) s op unit w).2.store.2.units.isOpen unit = true := by
    rw [hstore]
    exact hopen
  have hcounters' : (worked (overTable cache) s op unit w).2.store.2.counters =
      { w.store.2.counters with begun := w.store.2.counters.begun + 1 } := by
    rw [hstore]
    exact hcounters
  cases hwork : (worked (overTable cache) s op unit w).1 with
  | ok value =>
    have hcalled := called_of_ok rfl hwork
    have hresult : (called (overTable cache) s op unit w).1 = .ok value := congrArg Prod.fst hcalled
    refine ⟨hresult.trans hwork.symm, ?_, ?_, ?_⟩
    · intro _ _
      rw [hcalled]
      refine (Users.Memory.counters_commit hopen').trans ?_
      rw [hcounters']
    · intro e he
      cases hresult.symm.trans he
    · intro _
      rw [hresult]
      nofun
  | error e =>
    obtain ⟨hresult, hafter⟩ := called_of_error rfl hwork
    refine ⟨hresult.trans hwork.symm, ?_, ?_, ?_⟩
    · intro value hvalue
      cases hresult.symm.trans hvalue
    · intro _ _
      rw [hafter]
      refine (Users.Memory.counters_rollback hopen').trans ?_
      rw [hcounters']
    · intro hcache
      have hstarted : (worked (overTable cache) s op unit w).1 ≠ .error Users.notStarted := by
        refine worked_started (fun m => m = (w.store.2.perform unit .begin).2) hcache rfl hkeeps ?_
        rintro c m hc rfl
        exact (lookUp_table hc hopen).1
      rw [hresult]
      rwa [hwork] at hstarted

end Memory

/-! ### All operations -/

theorem noTransactions_memory : NoTransactions fun now c m => Cache.Memory.perform now c m := by
  intro now c m
  cases c <;> nofun

theorem noTransactions_remote : NoTransactions fun now c server =>
    Cache.Remote.perform now c server := by
  intro now c server h
  have herror : Cache.Remote.IsError Users.notStarted := Cache.Remote.isError_perform h
  generalize hsame : Users.notStarted = e at herror
  cases herror with
  | fault fault => cases hsame
  | ttl => exact absurd (AuthError.internal.inj hsame) (by decide)

/--
**Every operation keeps the discipline of transactions**, whatever it is asked with and
whatever the cache replies, over a database that refuses what it likes as well as over a table
in memory.  The number of its unit must not be that of a transaction which is still open.
-/
theorem transactions_kept (s : Service) (op : Operation) (unit : Nat) :
    (∀ (κ : Type) (cache : Instant → (c : Cache.Command) → κ → c.Outcome × κ)
      (w : World (κ × Users.Relational)), w.store.2.units.isOpen unit = false →
        Transacts cache s op unit w) ∧
    (∀ (κ : Type) (cache : Instant → (c : Cache.Command) → κ → c.Outcome × κ)
      (w : World (κ × Users.Memory)), w.store.2.units.isOpen unit = false →
        Counts cache s op unit w) ∧
    NoTransactions (fun now c m => Cache.Memory.perform now c m) ∧
    NoTransactions (fun now c server => Cache.Remote.perform now c server) :=
  ⟨fun _ _ _ hclosed => transacts s op hclosed, fun _ _ _ hclosed => counts s op hclosed,
    noTransactions_memory, noTransactions_remote⟩

namespace Sample

/-- The database refuses to commit and to roll back, and the list server to read lists. -/
def refusing : World (Cache.ListServer × Users.Relational) :=
  let server : Cache.ListServer := { faults := .ofList [("LRANGE", "ERR no")] }
  let database : Users.Relational :=
    { users := [ada], faults := .ofList [(.commit, "no commit"), (.rollback, "no rollback")] }
  ⟨(server, database), .ofSeconds 0, ⟨[], 0⟩, []⟩

def evesLogin : Operation := .login "eve" ⟨"swordfish"⟩ fingerprint

end Sample

/-- Eve is not in the table, and learns no more than that from the refusals. -/
theorem transactions_kept_stranger : Sample.refusing.store.2.units.isOpen 0 = false ∧
    (called (overDatabase fun now c server => Cache.Remote.perform now c server)
      (Sample.service 3) Sample.evesLogin 0 Sample.refusing).1 = .error .invalidCredentials ∧
    ∃ looks, (∀ statement ∈ looks, Users.Relational.IsLookUp statement) ∧
      (called (overDatabase fun now c server => Cache.Remote.perform now c server)
        (Sample.service 3) Sample.evesLogin 0 Sample.refusing).2.store.2.received =
          .begin :: (looks ++ [.rollback, .rollback]) := by
  have hkept := (transactions_kept (Sample.service 3) Sample.evesLogin 0).1 _
    (fun now c server => Cache.Remote.perform now c server) Sample.refusing rfl
  have hwork : (worked (overDatabase fun now c server => Cache.Remote.perform now c server)
      (Sample.service 3) Sample.evesLogin 0 Sample.refusing).1 = .error .invalidCredentials := by
    rfl
  obtain ⟨hresult, looks, hlooks, hreceived⟩ := hkept.rolledBack rfl _ hwork
  exact ⟨rfl, hresult, looks, hlooks, hreceived⟩

end Service

end SessionAuth
