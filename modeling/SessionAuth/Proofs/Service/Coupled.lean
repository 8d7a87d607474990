/-
Calls side by side.

A call comes to a result or to an error, and two calls in step come to two results or to two
errors (`Matched`).  Which results belong together changes from call to call; which errors do
stays the same throughout, so the rules for calls carry it along, and the rest of a sequence
only has to be looked at after two results (`Call.Coupled.bind`).

The call around the work of an operation is in step when the work is (`Coupled.inUnit`).  All
that it takes is that transactions begin and end side by side and that a rollback that fails
may be reported on both sides (`Coupling.Framed`).
-/
import SessionAuth.Proofs.Program.Coupled
import SessionAuth.Service

namespace SessionAuth

variable {α α' β β' : Type} {E : AuthError → AuthError → Prop} {R : α → α' → Prop}
  {S : β → β' → Prop}

/-- Two outcomes belong together: they are results that do, or errors that do. -/
inductive Matched (E : AuthError → AuthError → Prop) (R : α → α' → Prop) :
    Except AuthError α → Except AuthError α' → Prop
  | ok {value : α} {value' : α'} (h : R value value') : Matched E R (.ok value) (.ok value')
  | error {e e' : AuthError} (h : E e e') : Matched E R (.error e) (.error e')

theorem Matched.mono {R' : α → α' → Prop} {result : Except AuthError α}
    {result' : Except AuthError α'} (h : Matched E R result result')
    (himp : ∀ value value', R value value' → R' value value') : Matched E R' result result' := by
  cases h with
  | ok h => exact .ok (himp _ _ h)
  | error h => exact .error h

theorem Matched.map {result result' : Except AuthError α} (h : Matched E Eq result result')
    (f : α → β) : Matched E Eq (result.map f) (result'.map f) := by
  cases h with
  | ok h => exact .ok (congrArg f h)
  | error h => exact .error h

/-- Outcomes that are the same belong together, where equal errors do. -/
theorem Matched.refl (hE : ∀ e, E e e) (result : Except AuthError α) :
    Matched E Eq result result := by
  cases result with
  | ok value => exact .ok rfl
  | error e => exact .error (hE e)

/-- Where only equal outcomes belong together, they are equal. -/
theorem Matched.eq {result result' : Except AuthError α} (h : Matched Eq Eq result result') :
    result' = result := by
  cases h with
  | ok h => rw [h]
  | error h => rw [h]

/-- Transactions begin and end side by side, and a rollback that fails may be reported. -/
structure Coupling.Framed (k : Coupling Effect Effect.Reply)
    (E : AuthError → AuthError → Prop) : Prop where
  begins : k.asks (.users .begin) (.users .begin)
  commits : k.asks (.users .commit) (.users .commit)
  rollsBack : k.asks (.users .rollback) (.users .rollback)
  begun : ∀ reply reply' : Except AuthError Unit,
    k.replies (.users .begin) (.users .begin) reply reply' → Matched E Eq reply reply'
  committed : ∀ reply reply' : Except AuthError Unit,
    k.replies (.users .commit) (.users .commit) reply reply' → Matched E Eq reply reply'
  rolledBack : ∀ reply reply' : Except AuthError Unit,
    k.replies (.users .rollback) (.users .rollback) reply reply' → Matched E Eq reply reply'
  reports : ∀ e e', E e e' → k.asks (.log (.rollbackFailed e)) (.log (.rollbackFailed e'))

namespace Call

variable {k : Coupling Effect Effect.Reply}

/-- The calls keep in step, and come to outcomes that belong together. -/
def Coupled (k : Coupling Effect Effect.Reply) (E : AuthError → AuthError → Prop)
    (R : α → α' → Prop) (call : Call α) (call' : Call α') : Prop :=
  Program.Coupled k (Matched E R) call.run call'.run

namespace Coupled

variable {call : Call α} {call' : Call α'} {f : α → Call β} {f' : α' → Call β'}

theorem ofExcept {result : Except AuthError α} {result' : Except AuthError α'}
    (h : Matched E R result result') :
    Coupled k E R (Call.ofExcept result) (Call.ofExcept result') := h

theorem pure {value : α} {value' : α'} (h : R value value') :
    Coupled k E R (Pure.pure value : Call α) (Pure.pure value') := Matched.ok h

theorem throw {e e' : AuthError} (h : E e e') :
    Coupled k E R (MonadExcept.throw e : Call α) (MonadExcept.throw e') := Matched.error h

/-- A sequence has to be looked at further after two results only. -/
theorem bind (h : Coupled k E R call call')
    (hrest : ∀ value value', R value value' → Coupled k E S (f value) (f' value')) :
    Coupled k E S (call >>= f) (call' >>= f') := by
  unfold Coupled at *
  rw [ExceptT.run_bind, ExceptT.run_bind]
  refine Program.Coupled.bind h ?_
  intro result result' hmatched
  cases hmatched with
  | ok hvalue => exact hrest _ _ hvalue
  | error he => exact Matched.error he

/-- After results that are the same, the same rest is looked at on both sides. -/
theorem bind_eq {call' : Call α} {f' : α → Call β'} (h : Coupled k E Eq call call')
    (hrest : ∀ value, Coupled k E S (f value) (f' value)) :
    Coupled k E S (call >>= f) (call' >>= f') := by
  refine h.bind ?_
  rintro value _ rfl
  exact hrest value

/-- Calls whose failure is taken as a result do not fail. -/
theorem lift (h : Coupled k E R call call') :
    Coupled k E (Matched E R) (ExceptT.lift call.run) (ExceptT.lift call'.run) := by
  unfold Coupled at h
  refine Program.Coupled.bind h ?_
  intro result result' hmatched
  exact Matched.ok hmatched

theorem users {c c' : Users.Command} {R : c.Reply → c'.Reply → Prop}
    (hasks : k.asks (.users c) (.users c'))
    (hreplies : ∀ reply reply', k.replies (.users c) (.users c') reply reply' →
      Matched E R reply reply') : Coupled k E R (Call.users c) (Call.users c') :=
  ⟨hasks, hreplies⟩

theorem cache {c c' : Cache.Command} {R : c.Reply → c'.Reply → Prop}
    (hasks : k.asks (.cache c) (.cache c'))
    (hreplies : ∀ reply reply', k.replies (.cache c) (.cache c') reply reply' →
      Matched E R reply reply') : Coupled k E R (Call.cache c) (Call.cache c') :=
  ⟨hasks, hreplies⟩

theorem log {event event' : Event} (hasks : k.asks (.log event) (.log event')) :
    Coupled k E Eq (Call.log event) (Call.log event') :=
  ⟨hasks, fun _ _ _ => Matched.ok rfl⟩

/-- Work in step ends its transactions in step. -/
theorem finish {result : Except AuthError α} {result' : Except AuthError α'} (hk : k.Framed E)
    (h : Matched E R result result') : Coupled k E R (Call.finish result) (Call.finish result') := by
  cases h with
  | ok hvalue => exact (users hk.commits hk.committed).bind_eq fun _ => .pure hvalue
  | error he =>
    refine (lift (users hk.rollsBack hk.rolledBack)).bind ?_
    intro reply reply' hreply
    cases hreply with
    | ok _ => exact .throw he
    | error hcause => exact (log (hk.reports _ _ hcause)).bind_eq fun _ => .throw he

/-- **Operations are in step when their work is.** -/
theorem inUnit (hk : k.Framed E) (h : Coupled k E R call call') :
    Coupled k E R (Call.inUnit call) (Call.inUnit call') :=
  (users hk.begins hk.begun).bind_eq fun _ => h.lift.bind fun _ _ hresult => finish hk hresult

end Coupled

end Call

end SessionAuth
