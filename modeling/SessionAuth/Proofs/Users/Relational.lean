/-
What a unit of work does to a relational database.

No command of a unit changes the table of users, and none changes which statements are
refused (`alike_perform`).  Beyond that only the replies matter: a transaction begins, a
look-up in an open transaction is answered and a transaction is committed unless the
statement is refused, and then the refusal is what the caller gets.
-/
import SessionAuth.Users.Relational

namespace SessionAuth.Users.Relational

variable {d d' : Relational} {n : Nat}

/-- The users and the refusals of two states are the same. -/
structure Alike (d d' : Relational) : Prop where
  users : d'.users = d.users
  faults : d'.faults = d.faults

theorem Alike.refl (d : Relational) : Alike d d := ⟨rfl, rfl⟩

theorem Alike.trans {d'' : Relational} (h : Alike d d') (h' : Alike d' d'') : Alike d d'' :=
  ⟨h'.users.trans h.users, h'.faults.trans h.faults⟩

/-! ### Statements -/

theorem send_eq_ok {kind : StatementKind} {statement : Statement}
    (h : d.send kind statement = (.ok (), d')) :
    d.faults.get? kind = none ∧ d' = { d with received := d.received ++ [statement] } := by
  unfold send at h
  dsimp only at h
  split at h
  · cases h
  · rename_i hfault
    cases h
    exact ⟨hfault, rfl⟩

theorem send_eq_error {kind : StatementKind} {statement : Statement} {e : AuthError}
    (h : d.send kind statement = (.error e, d')) :
    (∃ text, d.faults.get? kind = some text ∧ e = .database (.reported text)) ∧
      d' = { d with received := d.received ++ [statement] } := by
  unfold send at h
  dsimp only at h
  split at h
  · rename_i text hfault
    cases h
    exact ⟨⟨text, hfault, rfl⟩, rfl⟩
  · cases h

theorem alike_send (kind : StatementKind) (statement : Statement) (d : Relational) :
    Alike d (d.send kind statement).2 := by
  unfold send
  dsimp only
  split <;> exact ⟨rfl, rfl⟩

theorem alike_sendBegin (d : Relational) : Alike d d.sendBegin.2 := by
  cases hfault : d.faults.get? .begin <;> constructor <;> simp [sendBegin, send, hfault]

theorem alike_sendRollback (d : Relational) : Alike d d.sendRollback.2 := by
  cases hfault : d.faults.get? .rollback <;> constructor <;> simp [sendRollback, send, hfault]

theorem alike_sendCommit (d : Relational) : Alike d d.sendCommit.2 := by
  cases hfault : d.faults.get? .commit <;> constructor <;> simp [sendCommit, send, hfault]

/-! ### Units -/

theorem alike_abandon (n : Nat) (d : Relational) : Alike d (d.abandon n) := by
  unfold abandon
  dsimp only
  split
  · exact ⟨(alike_sendRollback d).users, (alike_sendRollback d).faults⟩
  · exact ⟨rfl, rfl⟩

theorem alike_finish {statement : Relational → Except AuthError Unit × Relational}
    (h : ∀ d, Alike d (statement d).2) (n : Nat) (d : Relational) :
    Alike d (d.finish n statement).2 := by
  have hstatement := h d
  unfold finish
  split
  · split
    · rename_i heq
      rw [heq] at hstatement
      exact ⟨hstatement.users, hstatement.faults⟩
    · rename_i heq
      rw [heq] at hstatement
      exact hstatement.trans (alike_abandon n _)
  · exact ⟨rfl, rfl⟩

theorem alike_select (statement : Statement) (wanted : User → Bool) (n : Nat) (d : Relational) :
    Alike d (d.select statement wanted n).2 := by
  have hsend := alike_send .select statement d
  unfold select
  split
  · split
    all_goals
      rename_i heq
      rw [heq] at hsend
      exact hsend
  · exact .refl d

/-- **No command changes the users or what is refused.** -/
theorem alike_perform (n : Nat) (c : Command) (d : Relational) : Alike d (d.perform n c).2 := by
  have hbegin := alike_sendBegin d
  cases c with
  | fresh => exact (alike_abandon n d).trans ⟨rfl, rfl⟩
  | begin =>
    simp only [perform]
    split
    · rename_i heq
      rw [heq] at hbegin
      exact hbegin.trans ((alike_abandon n _).trans ⟨rfl, rfl⟩)
    · rename_i heq
      rw [heq] at hbegin
      exact hbegin
  | create =>
    simp only [perform]
    split
    · exact .refl d
    · split
      all_goals
        rename_i heq
        rw [heq] at hbegin
        exact ⟨hbegin.users, hbegin.faults⟩
  | findByLogin login => exact alike_select _ _ n d
  | findById id => exact alike_select _ _ n d
  | commit => exact alike_finish alike_sendCommit n d
  | rollback => exact alike_finish alike_sendRollback n d
  | abandon => exact alike_abandon n d

/-! ### Replies -/

/-- The error is the refusal of a kind of statement. -/
def IsRefusal (d : Relational) (kind : StatementKind) (e : AuthError) : Prop :=
  ∃ text, d.faults.get? kind = some text ∧ e = .database (.reported text)

/-- A transaction that begins is open, and beginning was not refused. -/
theorem isOpen_of_begin (h : (d.perform n .begin).1 = .ok ()) :
    d.faults.get? .begin = none ∧ (d.perform n .begin).2.units.isOpen n = true := by
  simp only [perform, sendBegin] at h ⊢
  cases hsend : d.send .begin .begin with
  | mk reply after =>
    rw [hsend] at h
    cases reply with
    | error e => cases h
    | ok _ =>
      refine ⟨(send_eq_ok hsend).1, ?_⟩
      simp [Units.isOpen, Units.isOpen?, Units.put]

theorem isRefusal_of_begin {e : AuthError} (h : (d.perform n .begin).1 = .error e) :
    d.IsRefusal .begin e := by
  simp only [perform, sendBegin] at h
  cases hsend : d.send .begin .begin with
  | mk reply after =>
    rw [hsend] at h
    cases reply with
    | ok _ => cases h
    | error e' =>
      cases h
      exact (send_eq_error hsend).1

/-- A look-up in an open transaction finds the first such user, unless it is refused. -/
theorem select_of_isOpen {statement : Statement} {wanted : User → Bool}
    (h : d.units.isOpen n = true) :
    (d.faults.get? .select = none ∧
        (d.select statement wanted n).1 = .ok (d.users.find? wanted)) ∨
      ∃ e, d.IsRefusal .select e ∧ (d.select statement wanted n).1 = .error e := by
  unfold select
  rw [if_pos h]
  cases hsend : d.send .select statement with
  | mk reply after =>
    cases reply with
    | ok _ =>
      obtain ⟨hfault, rfl⟩ := send_eq_ok hsend
      exact Or.inl ⟨hfault, rfl⟩
    | error e => exact Or.inr ⟨e, (send_eq_error hsend).1, rfl⟩

/-- A look-up that is answered was not refused. -/
theorem select_eq_ok {statement : Statement} {wanted : User → Bool} {found : Option User}
    (h : (d.select statement wanted n).1 = .ok found) : d.faults.get? .select = none := by
  unfold select at h
  split at h
  · cases hsend : d.send .select statement with
    | mk reply after =>
      rw [hsend] at h
      cases reply with
      | ok _ => exact (send_eq_ok hsend).1
      | error e => cases h
  · cases h

/-- Whoever is found is the first such user. -/
theorem find?_of_select {statement : Statement} {wanted : User → Bool} {user : User}
    (h : (d.select statement wanted n).1 = .ok (some user)) : d.users.find? wanted = some user := by
  unfold select at h
  split at h
  · cases hsend : d.send .select statement with
    | mk reply after =>
      rw [hsend] at h
      cases reply with
      | ok _ =>
        obtain ⟨_, rfl⟩ := send_eq_ok hsend
        exact Except.ok.inj h
      | error e => cases h
  · cases h

/-- A look-up fails without an open transaction, or when it is refused. -/
theorem select_eq_error {statement : Statement} {wanted : User → Bool} {e : AuthError}
    (h : (d.select statement wanted n).1 = .error e) :
    e = notStarted ∨ d.IsRefusal .select e := by
  unfold select at h
  split at h
  · cases hsend : d.send .select statement with
    | mk reply after =>
      rw [hsend] at h
      cases reply with
      | ok _ => cases h
      | error e' =>
        cases h
        exact Or.inr (send_eq_error hsend).1
  · cases h
    exact Or.inl rfl

/-- In an open transaction nobody is told that it has not started. -/
theorem select_ne_notStarted {statement : Statement} {wanted : User → Bool}
    (h : d.units.isOpen n = true) : (d.select statement wanted n).1 ≠ .error notStarted := by
  intro hmissing
  rcases select_of_isOpen h with ⟨_, hfound⟩ | ⟨e, ⟨text, _, rfl⟩, hfailed⟩
  · cases hfound.symm.trans hmissing
  · cases hfailed.symm.trans hmissing

/-- A transaction is committed unless that is refused. -/
theorem isRefusal_of_commit {e : AuthError} (h : (d.perform n .commit).1 = .error e) :
    d.IsRefusal .commit e := by
  simp only [perform, finish] at h
  split at h
  · unfold sendCommit at h
    cases hsend : d.send .commit .commit with
    | mk reply after =>
      rw [hsend] at h
      cases reply with
      | ok _ => cases h
      | error e' =>
        cases h
        exact (send_eq_error hsend).1
  · cases h

end SessionAuth.Users.Relational
