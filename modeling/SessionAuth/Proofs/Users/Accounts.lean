/-
The transactions of a table in memory, unit by unit.

The counters of a table tell nothing of single units.  Here an account is kept of every unit of
work: the commands that it was given, and by how much the counters moved at these.  A number may
serve for several units, one after the other; each of them has an account of its own, and there is
one at most that is not over (`Audit.InOrder`).

What a command moves depends on its unit alone, so that no account can come to more than one
transaction begun and one ended, whatever other units are told in between (`Account.Fits`).  Every
command is entered in one account; so they add up to the counters.
-/
import SessionAuth.Proofs.Users.Balance

namespace SessionAuth.Users

/-! ### Steps -/

/-- A step on a table of users in memory: on the table, or on one of its units. -/
inductive Memory.Step
  | insert (user : User)
  | remove (id : UserId)
  | unit (n : Nat) (c : Command)

namespace Memory

/-- The table after a step. -/
def after (m : Memory) : Step → Memory
  | .insert user => m.insert user
  | .remove id => m.remove id
  | .unit n c => (m.perform n c).2

/-- The table after some steps. -/
def run (steps : List Step) (m : Memory) : Memory := steps.foldl after m

/-- The step takes out the users with an id. -/
def Step.takesOut (id : UserId) : Step → Bool
  | .remove other => id == other
  | _ => false

/-- The users that are inserted in some steps and not taken out later, in the order of insertion. -/
def inserted : List Step → List User
  | [] => []
  | .insert user :: later =>
    if later.any (·.takesOut user.id) then inserted later else user :: inserted later
  | _ :: later => inserted later

/-- Who is in the table: those who were there before, then those who were inserted, in order. -/
theorem users_run (steps : List Step) (m : Memory) : (run steps m).users =
    (m.users.filter fun u => !steps.any (·.takesOut u.id)) ++ inserted steps := by
  induction steps generalizing m with
  | nil => exact (List.filter_eq_self.mpr fun _ _ => rfl).symm.trans (List.append_nil _).symm
  | cons step later ih =>
    show (run later (m.after step)).users = _
    rw [ih]
    cases step with
    | insert user =>
      show (m.users ++ [user]).filter _ ++ _ = m.users.filter _ ++ if _ then _ else _
      rw [List.filter_append, List.append_assoc]
      cases h : later.any (·.takesOut user.id) with
      | true => rw [List.filter_cons_of_neg (by rw [h]; decide)]; rfl
      | false => rw [List.filter_cons_of_pos (by rw [h]; decide)]; rfl
    | remove id =>
      show (m.users.filter fun u => u.id != id).filter _ ++ inserted later = _
      rw [List.filter_filter]
      refine congrArg (· ++ inserted later) (List.filter_congr fun u _ => ?_)
      rw [List.any_cons, Bool.not_or, Bool.and_comm]
      rfl
    | unit n c =>
      show (m.perform n c).2.users.filter _ ++ inserted later = _
      rw [users_perform]
      rfl

/-- A run keeps the balance. -/
theorem Balanced.run {m : Memory} (h : m.Balanced) (steps : List Step) :
    (Memory.run steps m).Balanced := by
  induction steps generalizing m with
  | nil => exact h
  | cons step later ih =>
    refine ih (m := m.after step) ?_
    cases step with
    | insert user => exact ⟨h.apart, h.begun⟩
    | remove id => exact ⟨h.apart, h.begun⟩
    | unit n c => exact h.perform n c

end Memory

/-! ### Accounts -/

/--
What is known of a unit: its number, the commands that it was given, latest first, and by how much
the counters moved at these.
-/
structure Account where
  number : Nat
  given : List Command := []
  moved : Counters := {}

namespace Account

/-- The unit has ended. -/
def isOver (x : Account) : Bool := x.given.any Command.ends

/-- The transaction of the unit was opened. -/
def wasOpened (x : Account) : Bool := x.given.any Command.opens

/-- The last command to the unit was to commit. -/
def wasCommitted (x : Account) : Bool := x.given.head?.any fun c => c.verdict? == some true

/-- The account is that of the living unit with a number. -/
def isLiveAt (n : Nat) (x : Account) : Bool := x.number == n && !x.isOver

/-- The account with one more command. -/
def tell (c : Command) (moved : Counters) (x : Account) : Account :=
  { x with given := c :: x.given, moved := x.moved + moved }

/-- The movements are those of one transaction at most, and no command came after the end. -/
structure Fits (x : Account) : Prop where
  last : ∀ c ∈ x.given.tail, c.ends = false
  moved : x.moved = {
    begun := x.wasOpened.toNat
    committed := (x.wasOpened && x.wasCommitted).toNat
    rolledBack := (x.wasOpened && (x.isOver && !x.wasCommitted)).toNat }

variable {x : Account} {c : Command} {n : Nat}

theorem isLiveAt_eq_true_iff : x.isLiveAt n = true ↔ x.number = n ∧ x.isOver = false := by
  unfold isLiveAt
  rw [Bool.and_eq_true, beq_iff_eq, Bool.not_eq_true']

theorem wasCommitted_of_live (h : x.isOver = false) : x.wasCommitted = false := by
  unfold isOver at h
  unfold wasCommitted
  cases hgiven : x.given with
  | nil => rfl
  | cons c cs =>
    rw [hgiven, List.any_cons, Bool.or_eq_false_iff] at h
    have hends : c.verdict?.isSome = false := h.1
    cases hverdict : c.verdict? with
    | none => simp [hverdict]
    | some verdict => rw [hverdict] at hends; cases hends

/-- A command to a living unit moves the counters as one transaction may. -/
theorem Fits.tell (h : x.Fits) (hlive : x.isOver = false)
    (hnew : c.replaces = true → x.wasOpened = false) :
    (x.tell c (c.moves x.wasOpened)).Fits where
  last := fun d hd => by
    unfold isOver at hlive
    exact Bool.eq_false_iff.mpr fun hends => List.any_eq_false.mp hlive d hd hends
  moved := by
    have hmoved : x.moved = { begun := x.wasOpened.toNat } := by
      rw [h.moved, wasCommitted_of_live hlive, hlive, Bool.false_and, Bool.and_false]
      rfl
    have hopened : (x.tell c (c.moves x.wasOpened)).wasOpened = (c.opens || x.wasOpened) := rfl
    have hover : (x.tell c (c.moves x.wasOpened)).isOver = (c.ends || x.isOver) := rfl
    have hcommitted : (x.tell c (c.moves x.wasOpened)).wasCommitted =
      (c.verdict? == some true) := rfl
    show x.moved + c.moves x.wasOpened = _
    rw [hopened, hover, hcommitted, hmoved, hlive]
    cases c with
    | fresh => rw [hnew rfl]; rfl
    | begin => rw [hnew rfl]; rfl
    | _ => cases x.wasOpened <;> rfl

end Account

/--
Enters what a command moved in the account of the unit with a number; a unit that has none yet gets
one behind the others.
-/
def enter (n : Nat) (c : Command) (moved : Counters) : List Account → List Account
  | [] => [({ number := n } : Account).tell c moved]
  | x :: others =>
    if x.isLiveAt n then x.tell c moved :: others else x :: enter n c moved others

section Enter

variable {n : Nat} {c : Command} {moved : Counters}

theorem isLiveAt_tell_of_ne {k : Nat} (h : k ≠ n) {x : Account} (hx : x.isLiveAt n = true) :
    (x.tell c moved).isLiveAt k = false ∧ x.isLiveAt k = false := by
  have hnumber : (x.number == k) = false :=
    beq_eq_false_iff_ne.mpr fun hk => h (hk.symm.trans (Account.isLiveAt_eq_true_iff.mp hx).1)
  unfold Account.isLiveAt
  show (x.number == k && _) = false ∧ _
  rw [hnumber]
  exact ⟨rfl, rfl⟩

/-- A command is entered in the account of a living unit, or in a new account if there is none. -/
theorem mem_enter {accounts : List Account} {y : Account} (h : y ∈ enter n c moved accounts) :
    y ∈ accounts ∨ (∃ x ∈ accounts, x.isLiveAt n = true ∧ y = x.tell c moved) ∨
      y = ({ number := n } : Account).tell c moved ∧ ∀ x ∈ accounts, x.isLiveAt n = false := by
  induction accounts with
  | nil => exact .inr (.inr ⟨List.mem_singleton.mp h, List.forall_mem_nil _⟩)
  | cons x others ih =>
    unfold enter at h
    split at h
    · rename_i hx
      rcases List.mem_cons.mp h with rfl | h
      · exact .inr (.inl ⟨x, List.mem_cons_self, hx, rfl⟩)
      · exact .inl (List.mem_cons_of_mem x h)
    · rename_i hx
      rcases List.mem_cons.mp h with rfl | h
      · exact .inl List.mem_cons_self
      · rcases ih h with h | ⟨z, hz, hlive, rfl⟩ | ⟨rfl, hnone⟩
        · exact .inl (List.mem_cons_of_mem x h)
        · exact .inr (.inl ⟨z, List.mem_cons_of_mem x hz, hlive, rfl⟩)
        · exact .inr (.inr ⟨rfl, List.forall_mem_cons.mpr ⟨Bool.eq_false_iff.mpr hx, hnone⟩⟩)

theorem total_enter (accounts : List Account) :
    Counters.total ((enter n c moved accounts).map (·.moved)) =
      Counters.total (accounts.map (·.moved)) + moved := by
  induction accounts with
  | nil =>
    show ({} + moved : Counters) + {} = {} + moved
    rw [Counters.add_zero]
  | cons x others ih =>
    unfold enter
    split
    · exact Counters.add_right_comm x.moved moved _
    · rw [List.map_cons, Counters.total, ih, ← Counters.add_assoc]
      rfl

/-- The accounts of living units with other numbers stay as they are. -/
theorem filter_enter_ne {k : Nat} (h : k ≠ n) (accounts : List Account) :
    (enter n c moved accounts).filter (·.isLiveAt k) = accounts.filter (·.isLiveAt k) := by
  induction accounts with
  | nil =>
    have hnumber : (n == k) = false := beq_eq_false_iff_ne.mpr h.symm
    refine List.filter_cons_of_neg fun htold => ?_
    have hnumber' : (n == k && _) = true := htold
    rw [hnumber] at hnumber'
    cases hnumber'
  | cons x others ih =>
    unfold enter
    split
    · rename_i hx
      have hdead : (x.tell c moved).isLiveAt k = false ∧ x.isLiveAt k = false :=
        isLiveAt_tell_of_ne h hx
      obtain ⟨htold, hbefore⟩ := hdead
      rw [List.filter_cons_of_neg (by rw [htold]; decide),
        List.filter_cons_of_neg (by rw [hbefore]; decide)]
    · rw [List.filter_cons, List.filter_cons, ih]

/-- The accounts of living units with the number are those that it was entered in. -/
theorem filter_enter_self (accounts : List Account) :
    (enter n c moved accounts).filter (·.isLiveAt n) =
      (enter n c moved (accounts.filter (·.isLiveAt n))).filter (·.isLiveAt n) := by
  induction accounts with
  | nil => rfl
  | cons x others ih =>
    cases hx : x.isLiveAt n with
    | true =>
      rw [List.filter_cons_of_pos hx]
      unfold enter
      rw [if_pos hx, if_pos hx, List.filter_cons, List.filter_cons, List.filter_filter]
      simp only [Bool.and_self]
    | false =>
      have hne : ¬ x.isLiveAt n = true := by rw [hx]; decide
      rw [List.filter_cons_of_neg hne, ← ih, enter, if_neg hne, List.filter_cons_of_neg hne]

end Enter

/-! ### Keeping accounts of a run -/

/-- A table of users in memory and the accounts of its units, in the order in which they came. -/
structure Audit where
  memory : Memory
  accounts : List Account := []

namespace Audit

/-- The accounts have one more command, and what it moved the counters by. -/
def act (a : Audit) (n : Nat) (c : Command) : Audit :=
  let memory := (a.memory.perform n c).2
  ⟨memory, enter n c (memory.counters.since a.memory.counters) a.accounts⟩

/-- A step with the accounts kept; whatever a new unit takes the place of is abandoned before. -/
def after (a : Audit) : Memory.Step → Audit
  | .insert user => { a with memory := a.memory.insert user }
  | .remove id => { a with memory := a.memory.remove id }
  | .unit n c =>
    if c.replaces && a.accounts.any (·.isLiveAt n) then (a.act n .abandon).act n c else a.act n c

/-- A run with the accounts kept. -/
def run (steps : List Memory.Step) (a : Audit) : Audit := steps.foldl after a

/-- Keeping accounts changes nothing. -/
theorem memory_after (a : Audit) (step : Memory.Step) :
    (a.after step).memory = a.memory.after step := by
  cases step with
  | insert user => rfl
  | remove id => rfl
  | unit n c =>
    unfold after
    dsimp only
    split
    · rename_i h
      exact Memory.perform_abandon n c (Bool.and_eq_true_iff.mp h).1
    · rfl

theorem memory_run (steps : List Memory.Step) (a : Audit) :
    (run steps a).memory = Memory.run steps a.memory := by
  induction steps generalizing a with
  | nil => rfl
  | cons step later ih => exact (ih _).trans (congrArg (Memory.run later) (memory_after a step))

/--
The living units with a number, of whose transaction it is known whether it is open: there is one
at most, and what is not there is not open.
-/
def Seats (isOpen : Bool) (living : List Account) : Prop :=
  living = [] ∧ isOpen = false ∨ ∃ x, living = [x] ∧ isOpen = x.wasOpened

/-- What is known of the accounts at every moment. -/
structure InOrder (a : Audit) : Prop where
  total : a.memory.counters = Counters.total (a.accounts.map (·.moved))
  fits : ∀ x ∈ a.accounts, x.Fits
  seats : ∀ n, Seats (a.memory.units.isOpen n) (a.accounts.filter (·.isLiveAt n))

variable {a : Audit} {n : Nat} {c : Command}

theorem act_eq (a : Audit) (n : Nat) (c : Command) : a.act n c =
    ⟨(a.memory.perform n c).2, enter n c (c.moves (a.memory.units.isOpen n)) a.accounts⟩ := by
  show (⟨_, enter n c ((a.memory.perform n c).2.counters.since _) _⟩ : Audit) = _
  rw [Memory.counters_perform, Counters.since_add]

/-- The account of a living unit tells whether its transaction is open. -/
theorem InOrder.isOpen_eq (h : a.InOrder) {x : Account} (hx : x ∈ a.accounts)
    (hlive : x.isLiveAt n = true) : a.memory.units.isOpen n = x.wasOpened := by
  have hmem : x ∈ a.accounts.filter (·.isLiveAt n) := List.mem_filter.mpr ⟨hx, hlive⟩
  rcases h.seats n with ⟨hnone, _⟩ | ⟨y, hy, hopen⟩
  · rw [hnone] at hmem
    cases hmem
  · rw [hy] at hmem
    rw [hopen, List.mem_singleton.mp hmem]

theorem InOrder.isOpen_eq_false (h : a.InOrder)
    (hnone : ∀ x ∈ a.accounts, x.isLiveAt n = false) : a.memory.units.isOpen n = false := by
  rcases h.seats n with ⟨_, hclosed⟩ | ⟨y, hy, _⟩
  · exact hclosed
  · obtain ⟨hmem, hlive⟩ := List.mem_filter.mp (hy ▸ List.mem_singleton_self y)
    exact absurd hlive (by rw [hnone y hmem]; decide)

/-- Whether the transaction of a unit is open after a command is what its account says then. -/
theorem seats_told {x : Account} (hx : x.isLiveAt n = true)
    (hnew : c.replaces = true → x.wasOpened = false) :
    Seats (c.leavesOpen x.wasOpened)
      ([x.tell c (c.moves x.wasOpened)].filter (·.isLiveAt n)) := by
  obtain ⟨hnumber, hlive⟩ := Account.isLiveAt_eq_true_iff.mp hx
  have hover : (x.tell c (c.moves x.wasOpened)).isOver = c.ends := by
    show (c.ends || x.isOver) = c.ends
    rw [hlive, Bool.or_false]
  have hopened : (x.tell c (c.moves x.wasOpened)).wasOpened = (c.opens || x.wasOpened) := rfl
  cases hends : c.ends with
  | true =>
    refine .inl ⟨List.filter_cons_of_neg fun htold => ?_, Command.leavesOpen_of_ends hends _⟩
    have hlive' := (Account.isLiveAt_eq_true_iff.mp htold).2
    rw [hover, hends] at hlive'
    cases hlive'
  | false =>
    refine .inr ⟨_, List.filter_cons_of_pos (Account.isLiveAt_eq_true_iff.mpr ⟨hnumber, ?_⟩), ?_⟩
    · rw [hover, hends]
    · rw [hopened]
      cases c with
      | fresh => rw [hnew rfl]; rfl
      | begin | create | findByLogin _ | findById _ => rfl
      | commit | rollback | abandon => cases hends

/-- Whoever is told a command is the living unit with the number, or a new one. -/
theorem InOrder.exists_told (h : a.InOrder) (n : Nat) (c : Command) :
    ∃ x : Account, x.isLiveAt n = true ∧ x.wasOpened = a.memory.units.isOpen n ∧
      (x ∈ a.accounts ∨ x = { number := n }) ∧
      (a.act n c).accounts.filter (·.isLiveAt n) =
        [x.tell c (c.moves x.wasOpened)].filter (·.isLiveAt n) := by
  rw [act_eq, filter_enter_self]
  rcases h.seats n with ⟨hnone, hopen⟩ | ⟨x, hx, hopen⟩
  · refine ⟨{ number := n }, Account.isLiveAt_eq_true_iff.mpr ⟨rfl, rfl⟩, hopen.symm, .inr rfl, ?_⟩
    rw [hnone, hopen]
    rfl
  · obtain ⟨hmem, hlive⟩ := List.mem_filter.mp (hx ▸ List.mem_singleton_self x)
    refine ⟨x, hlive, hopen.symm, .inl hmem, ?_⟩
    rw [hx, hopen, enter, if_pos hlive]

/-- **A command keeps the accounts in order,** if a new unit takes nobody's place. -/
theorem InOrder.act (h : a.InOrder)
    (hfree : c.replaces = true → ∀ x ∈ a.accounts, x.isLiveAt n = false) :
    (a.act n c).InOrder where
  total := by
    rw [act_eq, total_enter, ← h.total]
    exact Memory.counters_perform n c a.memory
  fits := fun y hy => by
    rw [act_eq] at hy
    rcases mem_enter hy with hy | ⟨x, hx, hlive, rfl⟩ | ⟨rfl, hnone⟩
    · exact h.fits y hy
    · rw [h.isOpen_eq hx hlive]
      refine (h.fits x hx).tell (Account.isLiveAt_eq_true_iff.mp hlive).2 fun hreplaces => ?_
      exact absurd hlive (by rw [hfree hreplaces x hx]; decide)
    · have hempty : ({ number := n } : Account).Fits := ⟨List.forall_mem_nil _, rfl⟩
      rw [h.isOpen_eq_false hnone]
      exact hempty.tell rfl fun _ => rfl
  seats := fun k => by
    by_cases hk : k = n
    · subst hk
      obtain ⟨x, hlive, hopen, hx, htold⟩ := h.exists_told k c
      rw [htold]
      show Seats ((a.memory.perform k c).2.units.isOpen k) _
      rw [Memory.isOpen_perform_self, ← hopen]
      refine seats_told hlive fun hreplaces => ?_
      rcases hx with hx | rfl
      · exact absurd hlive (by rw [hfree hreplaces x hx]; decide)
      · rfl
    · rw [act_eq]
      show Seats ((a.memory.perform n c).2.units.isOpen k) _
      rw [Memory.isOpen_perform_ne n c a.memory hk, filter_enter_ne hk]
      exact h.seats k

/-- Nobody lives under the number of a unit that was abandoned. -/
theorem InOrder.act_abandon (h : a.InOrder) (n : Nat) :
    ∀ x ∈ (a.act n .abandon).accounts, x.isLiveAt n = false := by
  obtain ⟨x, _, _, _, htold⟩ := h.exists_told n .abandon
  have hover : (x.tell .abandon (Command.abandon.moves x.wasOpened)).isLiveAt n = false :=
    Bool.and_false _
  rw [List.filter_cons_of_neg (by rw [hover]; decide)] at htold
  exact fun y hy => Bool.eq_false_iff.mpr (List.filter_eq_nil_iff.mp htold y hy)

/-- **A step keeps the accounts in order.** -/
theorem InOrder.after (h : a.InOrder) (step : Memory.Step) : (a.after step).InOrder := by
  cases step with
  | insert user => exact ⟨h.total, h.fits, h.seats⟩
  | remove id => exact ⟨h.total, h.fits, h.seats⟩
  | unit n c =>
    unfold Audit.after
    dsimp only
    split
    · exact (h.act fun hreplaces => by cases hreplaces).act fun _ => h.act_abandon n
    · rename_i hfree
      refine h.act fun hreplaces x hx => ?_
      rw [hreplaces, Bool.true_and, Bool.not_eq_true, List.any_eq_false] at hfree
      exact Bool.eq_false_iff.mpr (hfree x hx)

theorem InOrder.run (h : a.InOrder) (steps : List Memory.Step) : (Audit.run steps a).InOrder := by
  induction steps generalizing a with
  | nil => exact h
  | cons step later ih => exact ih (h.after step)

end Audit

namespace Account.Fits

variable {x : Account}

/-- A unit begins one transaction at most, and ends one at most. -/
theorem moved_le (h : x.Fits) : x.moved.begun ≤ 1 ∧ x.moved.committed + x.moved.rolledBack ≤ 1 := by
  rw [h.moved]
  cases x.wasOpened <;> cases x.wasCommitted <;> cases x.isOver <;> decide

theorem committed_iff (h : x.Fits) :
    x.moved.committed = 1 ↔ x.wasOpened = true ∧ x.wasCommitted = true := by
  rw [h.moved]
  show (x.wasOpened && x.wasCommitted).toNat = 1 ↔ _
  cases x.wasOpened <;> cases x.wasCommitted <;> decide

theorem moved_of_not_opened (h : x.Fits) (hclosed : x.wasOpened = false) : x.moved = {} := by
  rw [h.moved, hclosed]
  rfl

end Account.Fits

/--
**The transactions of a table in memory are accounted for.**  After any steps on a table and on any
number of its units, whatever was begun was committed, was rolled back, or is open.  The counters
are the sum of what the single units moved them by.  A unit begins one transaction at most and ends
one at most; it commits one exactly if it was opened and its last command was to commit, and moves
nothing if it was never opened; to end it a second time counts nothing.  A user is found in an open
transaction only: the first one that matches of those who are in the table at that moment, in the
order in which they were inserted.
-/
theorem transactions_accounted (users : List User) (steps : List Memory.Step) :
    let m := Memory.run steps { users := users }
    let accounts := (Audit.run steps ⟨{ users := users }, []⟩).accounts
    m.counters.begun = m.counters.committed + m.counters.rolledBack + m.units.openCount ∧
    m.counters = Counters.total (accounts.map (·.moved)) ∧
    (∀ x ∈ accounts, x.moved.begun ≤ 1 ∧ x.moved.committed + x.moved.rolledBack ≤ 1 ∧
      (x.moved.committed = 1 ↔ x.wasOpened = true ∧ x.wasCommitted = true) ∧
      (x.wasOpened = false → x.moved = {})) ∧
    (∀ (n : Nat) (c : Command) (verdict : Bool) (again : List Bool), c.verdict? = some verdict →
      (m.perform n c).2.counters =
        ((verdict :: again).foldl Marks.finish (⟨m.units.isOpen n, false⟩, m.counters)).2) ∧
    (∀ n, m.units.isOpen n = true ↔
      ∃ x ∈ accounts, x.number = n ∧ x.isOver = false ∧ x.wasOpened = true) ∧
    m.users = (users.filter fun u => !steps.any (·.takesOut u.id)) ++ Memory.inserted steps ∧
    ∀ n, if m.units.isOpen n then
        (∀ login, m.perform n (.findByLogin login) = (.ok (m.users.find? (·.hasLogin login)), m)) ∧
          ∀ id, m.perform n (.findById id) = (.ok (m.users.find? (·.id == id)), m)
      else
        (∀ login, m.perform n (.findByLogin login) =
            (.error (.internal "Transaction not started"), m)) ∧
          ∀ id, m.perform n (.findById id) = (.error (.internal "Transaction not started"), m) := by
  intro m accounts
  have hstart : ({ users := users } : Memory).Balanced := ⟨List.nodup_nil, rfl⟩
  have hbalanced : m.Balanced := hstart.run steps
  have horder : (Audit.run steps ⟨{ users := users }, []⟩).InOrder :=
    Audit.InOrder.run ⟨rfl, List.forall_mem_nil _, fun n => .inl ⟨rfl, rfl⟩⟩ steps
  have hmemory : (Audit.run steps ⟨{ users := users }, []⟩).memory = m := Audit.memory_run steps _
  refine ⟨hbalanced.begun, hmemory ▸ horder.total, fun x hx => ?_,
    fun n c verdict again h => Memory.counters_of_ends n h again m, fun n => ?_,
    Memory.users_run steps _, fun n => ?_⟩
  · have hfits := horder.fits x hx
    exact ⟨hfits.moved_le.1, hfits.moved_le.2, hfits.committed_iff, hfits.moved_of_not_opened⟩
  · rw [← hmemory]
    constructor
    · intro hopen
      rcases horder.seats n with ⟨_, hclosed⟩ | ⟨x, hx, hopened⟩
      · rw [hclosed] at hopen
        cases hopen
      · obtain ⟨hmem, hlive⟩ := List.mem_filter.mp (hx ▸ List.mem_singleton_self x)
        obtain ⟨hnumber, hlive⟩ := Account.isLiveAt_eq_true_iff.mp hlive
        exact ⟨x, hmem, hnumber, hlive, hopened.symm.trans hopen⟩
    · rintro ⟨x, hx, hnumber, hlive, hopened⟩
      rw [horder.isOpen_eq hx (Account.isLiveAt_eq_true_iff.mpr ⟨hnumber, hlive⟩), hopened]
  · unfold Memory.perform
    dsimp only
    cases m.units.isOpen n with
    | true => exact ⟨fun _ => rfl, fun _ => rfl⟩
    | false => exact ⟨fun _ => rfl, fun _ => rfl⟩

/-- Steps of three units, one in between the other: the first is told twice to open. -/
def mixedSteps : List Memory.Step :=
  [.unit 0 .fresh, .unit 1 .begin, .unit 0 .create, .unit 2 .fresh, .unit 0 .create,
    .unit 1 .abandon, .unit 0 .commit, .unit 2 .commit]

/-- Of three units the first commits, the second rolls back, and the third moves nothing. -/
theorem transactions_accounted_mixed :
    let accounts := (Audit.run mixedSteps ⟨{}, []⟩).accounts
    (Memory.run mixedSteps {}).counters = ⟨2, 1, 1⟩ ∧
      (∃ x ∈ accounts, x.number = 0 ∧ x.moved.committed = 1) ∧
      (∃ x ∈ accounts, x.number = 1 ∧ x.moved.committed ≠ 1) ∧
      ∃ x ∈ accounts, x.number = 2 ∧ x.wasCommitted = true ∧ x.moved = {} := by
  intro accounts
  obtain ⟨_, _, hunits, _⟩ := transactions_accounted [] mixedSteps
  have hmem : ∀ i (h : i < accounts.length), accounts[i] ∈ accounts := fun i h =>
    List.getElem_mem h
  refine ⟨rfl, ⟨accounts[0], hmem 0 (by decide), rfl, ?_⟩, ⟨accounts[1], hmem 1 (by decide), rfl, ?_⟩,
    ⟨accounts[2], hmem 2 (by decide), rfl, rfl, ?_⟩⟩
  · exact (hunits _ (hmem 0 (by decide))).2.2.1.mpr ⟨rfl, rfl⟩
  · exact fun h => nomatch ((hunits _ (hmem 1 (by decide))).2.2.1.mp h).2
  · exact (hunits _ (hmem 2 (by decide))).2.2.2 rfl

end SessionAuth.Users
