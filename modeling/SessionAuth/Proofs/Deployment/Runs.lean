/-
Runs of calls.

A sequence runs as its parts do, one after the other.  The rules take a run over any backend
apart where the parts of a call meet, forwards from what is known of the first part
(`runCall_bind_of_ok`, `runCall_bind_of_error`) and backwards from a result
(`runCall_bind_eq_ok`, and for each step what follows from its own result).  Programs that keep
in step come to what belongs together, over two backends that answer in pairs (`run_coupled`).
-/
import SessionAuth.Deployment.World
import SessionAuth.Proofs.Service.Coupled

namespace SessionAuth

variable {σ α β : Type} {b : Backend σ} {w w₁ w₂ : World σ}

namespace Backend

variable {call : Call α} {f : α → Call β}

theorem runCall_bind_of_ok {value : α} (h : b.runCall call w = (.ok value, w₁)) :
    b.runCall (call >>= f) w = b.runCall (f value) w₁ := by
  unfold runCall run at *
  rw [ExceptT.run_bind, Program.bind_eq, Program.run_bind, h]

theorem runCall_bind_of_error {e : AuthError} (h : b.runCall call w = (.error e, w₁)) :
    b.runCall (call >>= f) w = (.error e, w₁) := by
  unfold runCall run at *
  rw [ExceptT.run_bind, Program.bind_eq, Program.run_bind, h]
  rfl

/-- A sequence that came to a result came to one in each of its parts. -/
theorem runCall_bind_eq_ok {value : β} (h : b.runCall (call >>= f) w = (.ok value, w₂)) :
    ∃ first w₁, b.runCall call w = (.ok first, w₁) ∧ b.runCall (f first) w₁ = (.ok value, w₂) := by
  cases hcall : b.runCall call w with
  | mk result w₁ =>
    cases result with
    | ok first => exact ⟨first, w₁, rfl, (runCall_bind_of_ok hcall).symm.trans h⟩
    | error e => cases (runCall_bind_of_error hcall).symm.trans h

theorem runCall_lift (call : Call α) (w : World σ) :
    b.runCall (ExceptT.lift call.run) w = (.ok (b.runCall call w).1, (b.runCall call w).2) := by
  unfold runCall run
  show Program.run _ (Program.bind call.run _) w = _
  rw [Program.run_bind]
  rfl

theorem run_bind (p : Action α) (f : α → Action β) (w : World σ) :
    b.run (p >>= f) w = b.run (f (b.run p w).1) (b.run p w).2 :=
  Program.run_bind _ _ _ _

/-! ### Steps that came to a result -/

/-- Nothing that is asked in a run changes what the clock shows. -/
theorem now_runCall (b : Backend σ) (call : Call α) (w : World σ) :
    (b.runCall call w).2.now = w.now := by
  refine Program.run_keeps (fun later : World σ => later.now = w.now) rfl ?_
  intro x _ later hlater
  obtain ⟨e, reply⟩ := x
  cases e <;> exact hlater

theorem cache_eq_ok {c : Cache.Command} {reply : c.Reply}
    (h : b.runCall (Call.cache c) w = (.ok reply, w₁)) :
    (b.cache w.now c w.store).1 = .ok reply ∧ (b.handle 0 (.cache c) w).2 = w₁ := Prod.mk.inj h

theorem users_eq_ok {c : Users.Command} {reply : c.Reply}
    (h : b.runCall (Call.users c) w = (.ok reply, w₁)) :
    (b.users 0 c w.store).1 = .ok reply ∧ (b.handle 0 (.users c) w).2 = w₁ := Prod.mk.inj h

theorem log_eq_ok {event : Event} {done : Unit}
    (h : b.runCall (Call.log event) w = (.ok done, w₁)) :
    (b.handle 0 (.log event) w).2 = w₁ := (Prod.mk.inj h).2

theorem ofExcept_eq_ok {result : Except AuthError α} {value : α}
    (h : b.runCall (Call.ofExcept result) w = (.ok value, w₁)) : result = .ok value ∧ w = w₁ :=
  Prod.mk.inj h

theorem pure_eq_ok {value value' : α} (h : b.runCall (pure value) w = (.ok value', w₁)) :
    value = value' ∧ w = w₁ := by
  obtain ⟨hvalue, hworld⟩ := Prod.mk.inj h
  exact ⟨Except.ok.inj hvalue, hworld⟩

theorem throw_ne_ok {e : AuthError} {value : α} (h : b.runCall (throw e) w = (.ok value, w₁)) :
    False := by
  cases (Prod.mk.inj h).1

/-! ### Two runs -/

/-- Programs in step, over two backends that answer in pairs. -/
theorem run_coupled {σ' : Type} {b' : Backend σ'} {w' : World σ'} {k : Coupling Effect Effect.Reply}
    {ends : α → β → Prop} {Agree : World σ → World σ' → Prop} {p : Action α} {p' : Action β}
    (h : Program.Coupled k ends p p')
    (hanswers : Program.Answers k (b.handle 0) (b'.handle 0) Agree) (hstart : Agree w w') :
    ends (b.run p w).1 (b'.run p' w').1 ∧ Agree (b.run p w).2 (b'.run p' w').2 := by
  unfold run
  exact h.run hanswers hstart

end Backend

end SessionAuth
