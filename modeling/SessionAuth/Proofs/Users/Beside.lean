/-
Databases side by side.

Two databases with the same users and the same transactions may still differ in two ways: in the
texts with which they refuse statements, and in the statements they have received.  Which texts
and which statements may stand side by side is left open.  Whatever they are, a command that is
given to both comes to results or to refusals on both sides, and the databases stay side by side
(`Beside.perform`); so do look-ups of two different logins (`Beside.findByLogin`).
-/
import SessionAuth.Proofs.Service.Coupled
import SessionAuth.Users.Relational

namespace SessionAuth.Users.Relational

variable {E : AuthError → AuthError → Prop} {T : String → String → Prop}
  {S : Statement → Statement → Prop} {d d' : Relational} {α α' : Type} {R : α → α' → Prop}

/-- The databases differ in the texts of refusals and in what they have received only. -/
structure Beside (T : String → String → Prop) (S : Statement → Statement → Prop)
    (d d' : Relational) : Prop where
  users : d'.users = d.users
  units : d'.units = d.units
  counters : d'.counters = d.counters
  faults : ∀ kind, Option.Rel T (d.faults.get? kind) (d'.faults.get? kind)
  received : List.Forall₂ S d.received d'.received

/-- Refusals with texts that may stand side by side are errors that may. -/
structure Conveys (T : String → String → Prop) (E : AuthError → AuthError → Prop) : Prop where
  reported : ∀ text text', T text text' →
    E (.database (.reported text)) (.database (.reported text'))
  notStarted : E notStarted notStarted

/-- A statement was sent to both, with outcomes that belong together. -/
def Sent (E : AuthError → AuthError → Prop) (R : α → α' → Prop) (T : String → String → Prop)
    (S : Statement → Statement → Prop) (x : Except AuthError α × Relational)
    (x' : Except AuthError α' × Relational) : Prop :=
  Matched E R x.1 x'.1 ∧ Beside T S x.2 x'.2

/-- A database beside itself. -/
theorem Beside.refl (hT : ∀ text, T text text) (hS : ∀ statement, S statement statement)
    (d : Relational) : Beside T S d d := by
  refine ⟨rfl, rfl, rfl, ?_, ?_⟩
  · intro kind
    cases d.faults.get? kind with
    | none => exact .none
    | some text => exact .some (hT text)
  · exact List.forall₂_same.mpr fun statement _ => hS statement

theorem Beside.erase (h : Beside T S d d') (n : Nat) :
    Beside T S { d with units := d.units.erase n } { d' with units := d'.units.erase n } :=
  ⟨h.users, congrArg (Units.erase · n) h.units, h.counters, h.faults, h.received⟩

theorem Beside.put (h : Beside T S d d') (n : Nat) (isOpen : Bool) :
    Beside T S { d with units := d.units.put n isOpen }
      { d' with units := d'.units.put n isOpen } :=
  ⟨h.users, congrArg (Units.put · n isOpen) h.units, h.counters, h.faults, h.received⟩

/-! ### Statements -/

theorem Beside.send (hE : Conveys T E) (h : Beside T S d d') (kind : StatementKind)
    {statement statement' : Statement} (hS : S statement statement') :
    Sent E Eq T S (d.send kind statement) (d'.send kind statement') := by
  have hafter : Beside T S { d with received := d.received ++ [statement] }
      { d' with received := d'.received ++ [statement'] } :=
    ⟨h.users, h.units, h.counters, h.faults, List.rel_append h.received (.cons hS .nil)⟩
  have hfault := h.faults kind
  unfold Relational.send Sent
  dsimp only
  generalize d.faults.get? kind = fault at hfault
  generalize d'.faults.get? kind = fault' at hfault
  cases hfault with
  | none => exact ⟨.ok rfl, hafter⟩
  | some htext => exact ⟨.error (hE.reported _ _ htext), hafter⟩

/-- A statement that succeeded is counted. -/
def tally (count : Counters → Counters) :
    Except AuthError Unit × Relational → Except AuthError Unit × Relational
  | (.ok (), d) => (.ok (), { d with counters := count d.counters })
  | (.error e, d) => (.error e, d)

/-- Both succeeded or both failed, and the databases are still side by side. -/
theorem Sent.cases {x : Except AuthError α × Relational} {x' : Except AuthError α' × Relational}
    (h : Sent E R T S x x') :
    (∃ value value' after after', x = (.ok value, after) ∧ x' = (.ok value', after') ∧
        R value value' ∧ Beside T S after after') ∨
      ∃ e e' after after', x = (.error e, after) ∧ x' = (.error e', after') ∧ E e e' ∧
        Beside T S after after' := by
  obtain ⟨reply, after⟩ := x
  obtain ⟨reply', after'⟩ := x'
  obtain ⟨hreply, hafter⟩ := h
  cases hreply with
  | ok hvalue => exact Or.inl ⟨_, _, _, _, rfl, rfl, hvalue, hafter⟩
  | error he => exact Or.inr ⟨_, _, _, _, rfl, rfl, he, hafter⟩

theorem Sent.tally {x x' : Except AuthError Unit × Relational} (h : Sent E Eq T S x x')
    (count : Counters → Counters) :
    Sent E Eq T S (Relational.tally count x) (Relational.tally count x') := by
  rcases h.cases with ⟨_, _, _, _, rfl, rfl, _, hafter⟩ | ⟨_, _, _, _, rfl, rfl, he, hafter⟩
  · exact ⟨.ok rfl, hafter.users, hafter.units, congrArg count hafter.counters, hafter.faults,
      hafter.received⟩
  · exact ⟨.error he, hafter⟩

section Commands

variable (hE : Conveys T E) (hS : ∀ statement, S statement statement) (h : Beside T S d d') (n : Nat)
include hE hS h

theorem Beside.sendBegin : Sent E Eq T S d.sendBegin d'.sendBegin :=
  (h.send hE .begin (hS .begin)).tally fun c => { c with begun := c.begun + 1 }

theorem Beside.sendCommit : Sent E Eq T S d.sendCommit d'.sendCommit :=
  (h.send hE .commit (hS .commit)).tally fun c => { c with committed := c.committed + 1 }

theorem Beside.sendRollback : Sent E Eq T S d.sendRollback d'.sendRollback :=
  (h.send hE .rollback (hS .rollback)).tally fun c => { c with rolledBack := c.rolledBack + 1 }

/-! ### Commands -/

theorem Beside.abandon : Beside T S (d.abandon n) (d'.abandon n) := by
  unfold Relational.abandon
  rw [congrArg (Units.isOpen · n) h.units]
  split
  · exact (h.sendRollback hE hS).2.erase n
  · exact h.erase n

theorem Beside.finish {statement : Relational → Except AuthError Unit × Relational}
    (hstatement : Sent E Eq T S (statement d) (statement d')) :
    Sent E Eq T S (d.finish n statement) (d'.finish n statement) := by
  unfold Relational.finish
  rw [congrArg (Units.isOpen · n) h.units]
  split
  · rcases hstatement.cases with ⟨_, _, _, _, hx, hx', _, hafter⟩ | ⟨_, _, _, _, hx, hx', he, hafter⟩
    · rw [hx, hx']
      exact ⟨.ok rfl, hafter.erase n⟩
    · rw [hx, hx']
      exact ⟨.error he, hafter.abandon hE hS n⟩
  · exact ⟨.ok rfl, h.erase n⟩

omit hS in
/-- Two look-ups find whom they look for, each in the same users. -/
theorem Beside.select {statement statement' : Statement} (hS : S statement statement')
    (wanted wanted' : User → Bool) :
    Sent E (fun found found' => found = d.users.find? wanted ∧ found' = d.users.find? wanted') T S
      (d.select statement wanted n) (d'.select statement' wanted' n) := by
  have husers : (d.send .select statement).2.users = d.users := by
    unfold Relational.send
    dsimp only
    split <;> rfl
  unfold Relational.select
  rw [congrArg (Units.isOpen · n) h.units]
  split
  · rcases (h.send hE .select hS).cases with
      ⟨_, _, _, _, hx, hx', _, hafter⟩ | ⟨_, _, _, _, hx, hx', he, hafter⟩
    · rw [hx] at husers ⊢
      rw [hx']
      refine ⟨.ok ⟨congrArg (List.find? wanted) husers, ?_⟩, hafter⟩
      exact congrArg (List.find? wanted') (hafter.users.trans husers)
    · rw [hx, hx']
      exact ⟨.error he, hafter⟩
  · exact ⟨.error hE.notStarted, h⟩

/-- **A command that is given to both leaves them side by side.** -/
theorem Beside.perform (c : Command) : Sent E Eq T S (d.perform n c) (d'.perform n c) := by
  have hfound : ∀ (statement : Statement) (wanted : User → Bool),
      Sent E Eq T S (d.select statement wanted n) (d'.select statement wanted n) := by
    intro statement wanted
    obtain ⟨hreply, hafter⟩ := h.select hE n (hS statement) wanted wanted
    exact ⟨hreply.mono fun _ _ hsame => hsame.1.trans hsame.2.symm, hafter⟩
  cases c with
  | fresh => exact ⟨.ok rfl, (h.abandon hE hS n).put n false⟩
  | begin =>
    unfold Relational.perform
    dsimp only
    rcases (h.sendBegin hE hS).cases with
      ⟨_, _, _, _, hx, hx', _, hafter⟩ | ⟨_, _, _, _, hx, hx', he, hafter⟩
    · rw [hx, hx']
      exact ⟨.ok rfl, (hafter.abandon hE hS n).put n true⟩
    · rw [hx, hx']
      exact ⟨.error he, hafter⟩
  | create =>
    unfold Relational.perform
    dsimp only
    rw [congrArg (Units.isOpen · n) h.units]
    split
    · exact ⟨.ok rfl, h⟩
    · rcases (h.sendBegin hE hS).cases with
        ⟨_, _, _, _, hx, hx', _, hafter⟩ | ⟨_, _, _, _, hx, hx', he, hafter⟩
      · rw [hx, hx']
        exact ⟨.ok rfl, hafter.put n true⟩
      · rw [hx, hx']
        exact ⟨.error he, hafter⟩
  | findByLogin login => exact hfound _ _
  | findById id => exact hfound _ _
  | commit => exact h.finish hE hS n (h.sendCommit hE hS)
  | rollback => exact h.finish hE hS n (h.sendRollback hE hS)
  | abandon => exact ⟨.ok rfl, h.abandon hE hS n⟩

end Commands

/-- Look-ups of two logins find whom they look for. -/
theorem Beside.findByLogin (hE : Conveys T E) (h : Beside T S d d') (n : Nat)
    {login login' : String} (hS : S (.byLogin login) (.byLogin login')) :
    Sent E (fun found found' => found = d.users.find? (·.hasLogin login) ∧
        found' = d.users.find? (·.hasLogin login')) T S
      (d.perform n (.findByLogin login)) (d'.perform n (.findByLogin login')) :=
  h.select hE n hS _ _

end SessionAuth.Users.Relational
