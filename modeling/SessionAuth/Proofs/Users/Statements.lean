/-
The statements behind the commands of a unit of work.

A command to a relational database comes to one statement at most, and what becomes of that
decides about the reply: `verdict` says it by the refusals alone, and `reply` puts every
command in these terms (`fst_perform`).  Together with whether the transaction stays open
(`isOpen_perform_self`) that is all that a reply depends on (`perform_congr`).

The second half keeps account of the statements themselves.  Beginning sends one, a look-up
one more, and the end of a transaction sends a second one, a rollback, when the first is
refused.
-/
import SessionAuth.Proofs.Users.Memory
import SessionAuth.Proofs.Users.Relational

namespace SessionAuth.Users.Relational

variable {d d' : Relational} {n : Nat}

/-! ### What a reply depends on -/

/-- What becomes of a statement of this kind. -/
def verdict (d : Relational) (kind : StatementKind) : Except AuthError Unit :=
  match d.faults.get? kind with
  | some text => .error (.database (.reported text))
  | none => .ok ()

/-- The reply to a command, by the refusals, the users and the transaction of the unit. -/
def reply (n : Nat) (d : Relational) : (c : Command) → c.Outcome
  | .fresh | .abandon => .ok ()
  | .begin => d.verdict .begin
  | .create => if d.units.isOpen n then .ok () else d.verdict .begin
  | .findByLogin login =>
    if d.units.isOpen n then (d.verdict .select).map fun _ => d.users.find? (·.hasLogin login)
    else .error notStarted
  | .findById id =>
    if d.units.isOpen n then (d.verdict .select).map fun _ => d.users.find? (·.id == id)
    else .error notStarted
  | .commit => if d.units.isOpen n then d.verdict .commit else .ok ()
  | .rollback => if d.units.isOpen n then d.verdict .rollback else .ok ()

theorem fst_send (kind : StatementKind) (statement : Statement) (d : Relational) :
    (d.send kind statement).1 = d.verdict kind := by
  unfold send verdict
  dsimp only
  split <;> simp_all

theorem fst_select (statement : Statement) (wanted : User → Bool) (n : Nat) (d : Relational) :
    (d.select statement wanted n).1 = if d.units.isOpen n then
      (d.verdict .select).map fun _ => d.users.find? wanted else .error notStarted := by
  have hverdict := fst_send .select statement d
  unfold select
  split
  · rw [← hverdict]
    cases hsend : d.send .select statement with
    | mk outcome after =>
      cases outcome with
      | error e => rfl
      | ok _ =>
        obtain ⟨_, rfl⟩ := send_eq_ok hsend
        rfl
  · rfl

theorem fst_finish {statement : Relational → Except AuthError Unit × Relational} (n : Nat)
    (d : Relational) :
    (d.finish n statement).1 = if d.units.isOpen n then (statement d).1 else .ok () := by
  unfold finish
  split
  · cases statement d with
    | mk outcome after => cases outcome <;> rfl
  · rfl

theorem fst_sendBegin (d : Relational) : d.sendBegin.1 = d.verdict .begin := by
  rw [← fst_send .begin .begin]
  unfold sendBegin
  cases d.send .begin .begin with
  | mk outcome after => cases outcome <;> rfl

theorem fst_sendCommit (d : Relational) : d.sendCommit.1 = d.verdict .commit := by
  rw [← fst_send .commit .commit]
  unfold sendCommit
  cases d.send .commit .commit with
  | mk outcome after => cases outcome <;> rfl

theorem fst_sendRollback (d : Relational) : d.sendRollback.1 = d.verdict .rollback := by
  rw [← fst_send .rollback .rollback]
  unfold sendRollback
  cases d.send .rollback .rollback with
  | mk outcome after => cases outcome <;> rfl

/-- **Every command is replied what its statement comes to.** -/
theorem fst_perform (n : Nat) (c : Command) (d : Relational) : (d.perform n c).1 = d.reply n c := by
  cases c with
  | fresh => rfl
  | begin =>
    unfold perform reply
    dsimp only
    rw [← fst_sendBegin]
    cases d.sendBegin with
    | mk outcome after => cases outcome <;> rfl
  | create =>
    unfold perform reply
    dsimp only
    rw [← fst_sendBegin]
    cases d.units.isOpen n with
    | true => rfl
    | false =>
      cases d.sendBegin with
      | mk outcome after => cases outcome <;> rfl
  | findByLogin login => exact fst_select _ _ n d
  | findById id => exact fst_select _ _ n d
  | commit => exact (fst_finish n d).trans (by rw [fst_sendCommit]; rfl)
  | rollback => exact (fst_finish n d).trans (by rw [fst_sendRollback]; rfl)
  | abandon => rfl

/-- Whether the transaction of a unit is open after a command to it. -/
def leavesOpen (n : Nat) (d : Relational) : Command → Bool
  | .begin | .create => d.units.isOpen n || (d.verdict .begin).isOk
  | c => c.leavesOpen (d.units.isOpen n)

theorem units_send (kind : StatementKind) (statement : Statement) (d : Relational) :
    (d.send kind statement).2.units = d.units := by
  unfold send
  dsimp only
  split <;> rfl

theorem units_sendBegin (d : Relational) : d.sendBegin.2.units = d.units := by
  cases hfault : d.faults.get? .begin <;> simp [sendBegin, send, hfault]

theorem units_sendCommit (d : Relational) : d.sendCommit.2.units = d.units := by
  cases hfault : d.faults.get? .commit <;> simp [sendCommit, send, hfault]

theorem units_sendRollback (d : Relational) : d.sendRollback.2.units = d.units := by
  cases hfault : d.faults.get? .rollback <;> simp [sendRollback, send, hfault]

theorem isOpen_abandon (n : Nat) (d : Relational) : (d.abandon n).units.isOpen n = false :=
  Units.isOpen_erase_self

theorem units_select (statement : Statement) (wanted : User → Bool) (n : Nat) (d : Relational) :
    (d.select statement wanted n).2.units = d.units := by
  have hsend := units_send .select statement d
  unfold select
  split
  · cases hafter : d.send .select statement with
    | mk outcome after =>
      rw [hafter] at hsend
      cases outcome <;> exact hsend
  · rfl

theorem isOpen_finish {statement : Relational → Except AuthError Unit × Relational} (n : Nat)
    (d : Relational) : (d.finish n statement).2.units.isOpen n = false := by
  unfold finish
  split
  · cases statement d with
    | mk outcome after =>
      cases outcome with
      | ok _ => exact Units.isOpen_erase_self
      | error e => exact isOpen_abandon n after
  · exact Units.isOpen_erase_self

theorem isOpen_perform_self (n : Nat) (c : Command) (d : Relational) :
    (d.perform n c).2.units.isOpen n = d.leavesOpen n c := by
  have hbegin := fst_sendBegin d
  have hunits := units_sendBegin d
  cases c with
  | fresh => exact Units.isOpen_put_self
  | begin =>
    unfold perform leavesOpen
    dsimp only
    rw [← hbegin]
    cases hafter : d.sendBegin with
    | mk outcome after =>
      rw [hafter] at hunits
      cases outcome with
      | ok _ => exact Units.isOpen_put_self.trans (Bool.or_true _).symm
      | error e => exact (congrArg (Units.isOpen · n) hunits).trans (Bool.or_false _).symm
  | create =>
    unfold perform leavesOpen
    dsimp only
    rw [← hbegin]
    split
    · rename_i hopen
      rw [hopen, Bool.true_or]
    · cases hafter : d.sendBegin with
      | mk outcome after =>
        rw [hafter] at hunits
        cases outcome with
        | ok _ => exact Units.isOpen_put_self.trans (Bool.or_true _).symm
        | error e => exact (congrArg (Units.isOpen · n) hunits).trans (Bool.or_false _).symm
  | findByLogin login => exact congrArg (Units.isOpen · n) (units_select _ _ n d)
  | findById id => exact congrArg (Units.isOpen · n) (units_select _ _ n d)
  | commit => exact isOpen_finish n d
  | rollback => exact isOpen_finish n d
  | abandon => exact isOpen_abandon n d

/-- What becomes of a statement depends on what is refused. -/
theorem verdict_congr (h : d'.faults = d.faults) (kind : StatementKind) :
    d'.verdict kind = d.verdict kind := by
  unfold verdict
  rw [h]

/-- A reply depends on the users, the refusals and the transaction of the unit. -/
theorem perform_congr (h : Alike d d') (hopen : d'.units.isOpen n = d.units.isOpen n)
    (c : Command) : (d'.perform n c).1 = (d.perform n c).1 ∧
      (d'.perform n c).2.units.isOpen n = (d.perform n c).2.units.isOpen n := by
  have hverdict := verdict_congr h.faults
  rw [fst_perform, fst_perform, isOpen_perform_self, isOpen_perform_self]
  unfold reply leavesOpen
  constructor
  · cases c with
    | begin => exact hverdict .begin
    | _ => simp only [hopen, hverdict, h.users]
  · cases c <;> simp only [hopen, hverdict]

/-- In a transaction that has begun whoever is there is found, unless look-ups are refused. -/
theorem find_begun (h : d.verdict .begin = .ok ()) (n : Nat) :
    (∀ login, ((d.perform n .begin).2.perform n (.findByLogin login)).1 =
        (d.verdict .select).map fun _ => d.users.find? (·.hasLogin login)) ∧
      ∀ id, ((d.perform n .begin).2.perform n (.findById id)).1 =
        (d.verdict .select).map fun _ => d.users.find? (·.id == id) := by
  have halike := alike_perform n .begin d
  have hopen : (d.perform n .begin).2.units.isOpen n = true :=
    (isOpen_of_begin ((fst_perform n .begin d).trans h)).2
  have hselect := verdict_congr halike.faults .select
  constructor
  · intro login
    rw [fst_perform]
    refine (if_pos hopen).trans ?_
    rw [hselect, halike.users]
    rfl
  · intro id
    rw [fst_perform]
    refine (if_pos hopen).trans ?_
    rw [hselect, halike.users]
    rfl

/-! ### The statements that are sent -/

/-- A statement that looks somebody up. -/
def IsLookUp (statement : Statement) : Prop :=
  (∃ login, statement = .byLogin login) ∨ ∃ id, statement = .byId id

theorem snd_send (kind : StatementKind) (statement : Statement) (d : Relational) :
    (d.send kind statement).2 = { d with received := d.received ++ [statement] } := by
  unfold send
  dsimp only
  split <;> rfl

/-- A look-up in an open transaction sends its statement, and that is all. -/
theorem snd_select {statement : Statement} {wanted : User → Bool} (h : d.units.isOpen n = true) :
    (d.select statement wanted n).2 = { d with received := d.received ++ [statement] } := by
  have hsend := snd_send .select statement d
  unfold select
  rw [if_pos h]
  cases hafter : d.send .select statement with
  | mk outcome after =>
    rw [hafter] at hsend
    cases outcome <;> exact hsend

/-- Since then the database has received nothing but look-ups, and nothing else has changed. -/
def Looked (begun d : Relational) : Prop :=
  ∃ looks, (∀ statement ∈ looks, IsLookUp statement) ∧
    d = { begun with received := begun.received ++ looks }

theorem Looked.refl (d : Relational) : Looked d d :=
  ⟨[], nofun, by rw [List.append_nil]⟩

theorem Looked.select {begun : Relational} {statement : Statement} (h : Looked begun d)
    (hstatement : IsLookUp statement) (wanted : User → Bool) (hopen : d.units.isOpen n = true) :
    Looked begun (d.select statement wanted n).2 := by
  obtain ⟨looks, hlooks, hd⟩ := h
  refine ⟨looks ++ [statement], ?_, ?_⟩
  · intro statement' hmem
    rcases List.mem_append.mp hmem with hold | hnew
    · exact hlooks statement' hold
    · rw [List.mem_singleton.mp hnew]
      exact hstatement
  · rw [snd_select hopen, hd, List.append_assoc]

theorem received_sendBegin (d : Relational) : d.sendBegin.2.received = d.received ++ [.begin] := by
  cases hfault : d.faults.get? .begin <;> simp [sendBegin, send, hfault]

theorem received_sendCommit (d : Relational) :
    d.sendCommit.2.received = d.received ++ [.commit] := by
  cases hfault : d.faults.get? .commit <;> simp [sendCommit, send, hfault]

theorem received_sendRollback (d : Relational) :
    d.sendRollback.2.received = d.received ++ [.rollback] := by
  cases hfault : d.faults.get? .rollback <;> simp [sendRollback, send, hfault]

/-- A unit that is abandoned rolls back what is open. -/
theorem received_abandon (n : Nat) (d : Relational) : (d.abandon n).received =
    d.received ++ if d.units.isOpen n then [.rollback] else [] := by
  unfold abandon
  cases d.units.isOpen n with
  | true => exact received_sendRollback d
  | false => exact (List.append_nil _).symm

/-- Beginning sends one statement when the unit has no open transaction. -/
theorem received_begin (h : d.units.isOpen n = false) :
    (d.perform n .begin).2.received = d.received ++ [.begin] := by
  have hreceived := received_sendBegin d
  have hunits := units_sendBegin d
  unfold perform
  dsimp only
  cases hafter : d.sendBegin with
  | mk outcome after =>
    rw [hafter] at hreceived hunits
    cases outcome with
    | ok _ =>
      have hclosed : after.units.isOpen n = false := by rw [hunits, h]
      show (after.abandon n).received = _
      rw [received_abandon, hclosed, hreceived]
      exact List.append_nil _
    | error e => exact hreceived

/-- The statements that end a transaction; if the one that should is refused, it is rolled back. -/
def ending (statement : Statement) : Except AuthError Unit → List Statement
  | .ok _ => [statement]
  | .error _ => [statement, .rollback]

theorem received_finish {statement : Relational → Except AuthError Unit × Relational}
    {sent : Statement} (h : d.units.isOpen n = true)
    (hunits : (statement d).2.units = d.units)
    (hreceived : (statement d).2.received = d.received ++ [sent]) :
    (d.finish n statement).2.received = d.received ++ ending sent (statement d).1 := by
  unfold finish
  rw [if_pos h]
  cases hafter : statement d with
  | mk outcome after =>
    rw [hafter] at hunits hreceived
    cases outcome with
    | ok _ => exact hreceived
    | error e =>
      have hopen : after.units.isOpen n = true := by rw [hunits, h]
      show (after.abandon n).received = _
      rw [received_abandon, hopen, hreceived, List.append_assoc]
      rfl

theorem received_commit (h : d.units.isOpen n = true) :
    (d.perform n .commit).2.received = d.received ++ ending .commit (d.verdict .commit) := by
  rw [← fst_sendCommit]
  exact received_finish h (units_sendCommit d) (received_sendCommit d)

theorem received_rollback (h : d.units.isOpen n = true) :
    (d.perform n .rollback).2.received = d.received ++ ending .rollback (d.verdict .rollback) := by
  rw [← fst_sendRollback]
  exact received_finish h (units_sendRollback d) (received_sendRollback d)

end SessionAuth.Users.Relational
