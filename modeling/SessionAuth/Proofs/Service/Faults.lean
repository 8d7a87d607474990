/-
Faults of the configuration.

A call reports a fault of the configuration only for a token that it could not make: its
collaborators report none (`Backend.Plain`), and nothing else that it does fails for such a
reason.  So while the clock shows one instant, the faults that an operation can end with are
those that making a token can end with (`confines_call`).
-/
import SessionAuth.Proofs.Cache.Remote
import SessionAuth.Proofs.Deployment.Runs
import SessionAuth.Proofs.Service.Operation
import SessionAuth.Proofs.Users.Relational

namespace SessionAuth

open Session (Registry Entry Fingerprint)

variable {σ α β : Type} {b : Backend σ} {now : Instant} {P : String → Prop} {s : Service}

namespace Backend

/-- The collaborators report no fault of the configuration. -/
structure Plain (b : Backend σ) : Prop where
  cache : ∀ now c store message, (b.cache now c store).1 ≠ .error (.configuration message)
  users : ∀ unit c store message, (b.users unit c store).1 ≠ .error (.configuration message)

/-- While the clock shows this, the call ends with no other faults of the configuration. -/
def Confines (b : Backend σ) (now : Instant) (P : String → Prop) (call : Call α) : Prop :=
  ∀ w message, w.now = now → (b.runCall call w).1 = .error (.configuration message) → P message

theorem Confines.pure (value : α) : b.Confines now P (Pure.pure value : Call α) :=
  fun _ _ _ h => by cases h

theorem Confines.throw {e : AuthError} (h : ∀ message, e = .configuration message → P message) :
    b.Confines now P (throw e : Call α) :=
  fun _ message _ hthrown => h message (Except.error.inj hthrown)

theorem Confines.bind {call : Call α} {f : α → Call β} (h : b.Confines now P call)
    (h' : ∀ value, b.Confines now P (f value)) : b.Confines now P (call >>= f) := by
  intro w message hnow hfault
  have hlater := b.now_runCall call w
  cases hcall : b.runCall call w with
  | mk result w₁ =>
    rw [hcall] at hlater
    cases result with
    | ok value =>
      rw [runCall_bind_of_ok hcall] at hfault
      exact h' value w₁ message (hlater.trans hnow) hfault
    | error e =>
      rw [runCall_bind_of_error hcall] at hfault
      exact h w message hnow (by rw [hcall]; exact congrArg _ (Except.error.inj hfault))

theorem Confines.cache (hplain : b.Plain) (c : Cache.Command) :
    b.Confines now P (Call.cache c) :=
  fun w message _ h => absurd h (hplain.cache w.now c w.store message)

theorem Confines.users (hplain : b.Plain) (c : Users.Command) :
    b.Confines now P (Call.users c) :=
  fun w message _ h => absurd h (hplain.users 0 c w.store message)

theorem Confines.clock : b.Confines now P Call.clock := fun _ _ _ h => by cases h

theorem Confines.log (event : Event) : b.Confines now P (Call.log event) :=
  fun _ _ _ h => by cases h

/-! ### Units of work -/

/-- What a unit of work comes to is what its work came to, or a collaborator has failed. -/
theorem Confines.finish (hplain : b.Plain) {result : Except AuthError α}
    (h : ∀ message, result = .error (.configuration message) → P message) :
    b.Confines now P (Call.finish result) := by
  unfold Call.finish
  cases result with
  | ok value => exact .bind (.users hplain _) fun _ => .pure _
  | error e =>
    have hthrow : b.Confines now P (MonadExcept.throw e : Call α) :=
      .throw fun message he => h message (congrArg Except.error he)
    refine .bind ?_ fun rolledBack => ?_
    · intro w message _ hfault
      rw [runCall_lift] at hfault
      cases hfault
    · cases rolledBack with
      | ok _ => exact hthrow
      | error cause => exact .bind (.log _) fun _ => hthrow

theorem Confines.inUnit (hplain : b.Plain) {work : Call α} (h : b.Confines now P work) :
    b.Confines now P (Call.inUnit work) := by
  unfold Call.inUnit
  refine .bind (.users hplain _) fun _ => ?_
  intro w message hnow hfault
  rw [runCall_bind_of_ok (runCall_lift work w)] at hfault
  exact Confines.finish hplain (fun message hwork => h w message hnow hwork) _ message
    ((b.now_runCall work w).trans hnow) hfault

/-! ### The parts of an operation -/

theorem Confines.decode (codec : Token.Codec) (token : String) :
    b.Confines now P (codec.decode token) := by
  unfold Token.Codec.decode Token.Codec.decodeWith
  refine .bind .clock fun shown => ?_
  split
  · exact .pure _
  · exact .bind (.log _) fun _ => .throw (by simp)

theorem Confines.resolve (hplain : b.Plain) (s : Service) (token : String) (kind : Token.Kind) :
    b.Confines now P (s.resolve token kind) := by
  unfold Service.resolve
  refine .bind (.decode _ _) fun payload => .bind ?_ fun id => ?_
  · intro w message _ hfault
    have huser : payload.user = .error (.configuration message) := hfault
    unfold Token.Payload.user at huser
    split at huser <;> cases huser
  · refine .bind (.users hplain _) fun found => ?_
    cases found with
    | none => exact .throw (by simp)
    | some user =>
      dsimp only
      split
      · exact .pure _
      · exact .throw (by simp)

theorem Confines.credentials (hplain : b.Plain) (s : Service) (login : String)
    (password : Password.ClearText) : b.Confines now P (s.credentials login password) := by
  unfold Service.credentials
  refine .bind (.users hplain _) fun found => ?_
  cases found with
  | none => exact .throw (by simp)
  | some user =>
    dsimp only
    split
    · exact .pure _
    · exact .throw (by simp)

theorem Confines.register (hplain : b.Plain) (r : Registry) (user : UserId)
    (fingerprint token : String) (ttl : Nat) :
    b.Confines now P (r.register user fingerprint token ttl) := by
  have hadd : b.Confines now P (do
      Call.pushTo (Registry.key user) (Entry.encode ⟨fingerprint, token⟩) ttl
      Call.log (.sessionRegistered user)) :=
    .bind (.cache hplain _) fun _ => .log _
  unfold Registry.register
  refine .bind (.cache hplain _) fun entries => ?_
  split
  · exact .bind (.log _) fun _ => .bind (.cache hplain _) fun _ => hadd
  · exact hadd

theorem Confines.consume (hplain : b.Plain) (user : UserId) (fingerprint token : String) :
    b.Confines now P (Registry.consume user fingerprint token) := by
  have hdrop : b.Confines now P (do
      Call.dropList (Registry.key user)
      return false) :=
    .bind (.cache hplain _) fun _ => .pure _
  unfold Registry.consume
  refine .bind (.cache hplain _) fun entries => ?_
  split
  · exact .pure _
  · split
    · refine .bind (.cache hplain _) fun removed => ?_
      split
      · exact .pure _
      · exact .bind (.log _) fun _ => hdrop
    · exact .bind (.log _) fun _ => hdrop

theorem Confines.revoke (hplain : b.Plain) (user : UserId) (token : String) :
    b.Confines now P (Registry.revoke user token) := by
  unfold Registry.revoke
  refine .bind (.cache hplain _) fun entries => ?_
  split
  · exact .cache hplain _
  · exact .pure _

section Issue

variable (hplain : b.Plain)
  (hencode : ∀ subject kind, b.Confines now P (s.codec.encode subject kind))
include hplain hencode

theorem confines_issue (user : UserId) (fingerprint : Fingerprint) :
    b.Confines now P (s.issue user fingerprint) := by
  unfold Service.issue
  refine .bind (hencode _ _) fun _ => .bind (hencode _ _) fun _ => .bind .clock fun _ => ?_
  exact .bind (.register hplain _ _ _ _ _) fun _ => .pure _

/--
**An operation ends with no fault of the configuration but those that making a token ends
with.**
-/
theorem confines_call (op : Service.Operation) : b.Confines now P (s.call op) := by
  rw [Service.call_eq]
  refine .inUnit hplain ?_
  cases op with
  | login login password fingerprint =>
    refine .bind (.credentials hplain _ _ _) fun user => ?_
    exact .bind (confines_issue hplain hencode _ _) fun _ => .bind (.log _) fun _ => .pure _
  | refresh fingerprint token =>
    refine .bind (.resolve hplain _ _ _) fun user => .bind (.consume hplain _ _ _) fun used => ?_
    split
    · exact .bind (confines_issue hplain hencode _ _) fun _ => .bind (.log _) fun _ => .pure _
    · exact .throw (by simp)
  | logout token =>
    refine .bind (.resolve hplain _ _ _) fun user => .bind (.revoke hplain _ _) fun found => ?_
    split
    · exact .log _
    · exact .throw (by simp)
  | authenticate token expected => exact .resolve hplain _ _ _

end Issue

end Backend

/-! ### A list server and a database -/

/-- A command to a database fails when a statement is refused, or outside of a transaction. -/
theorem Users.Relational.perform_eq_error {d : Relational} {n : Nat} {c : Command} {e : AuthError}
    (h : (d.perform n c).1 = .error e) : e = notStarted ∨ ∃ kind, d.IsRefusal kind e := by
  cases c with
  | fresh => cases h
  | begin => exact Or.inr ⟨_, isRefusal_of_begin h⟩
  | create =>
    simp only [perform] at h
    split at h
    · cases h
    · refine Or.inr ⟨_, isRefusal_of_begin (n := n) ?_⟩
      simp only [perform]
      cases hsend : d.sendBegin with
      | mk reply after =>
        rw [hsend] at h
        cases reply with
        | ok _ => cases h
        | error e' => exact h
  | findByLogin login => exact (select_eq_error h).imp_right fun hselect => ⟨_, hselect⟩
  | findById id => exact (select_eq_error h).imp_right fun hselect => ⟨_, hselect⟩
  | commit => exact Or.inr ⟨_, isRefusal_of_commit h⟩
  | rollback =>
    simp only [perform, finish] at h
    split at h
    · unfold sendRollback at h
      cases hsend : d.send .rollback .rollback with
      | mk reply after =>
        rw [hsend] at h
        cases reply with
        | ok _ => cases h
        | error e' =>
          cases h
          exact Or.inr ⟨_, (send_eq_error hsend).1⟩
    · cases h
  | abandon => cases h

theorem plain_remote : Deployment.remote.toBackend.Plain where
  cache now c store message h := by
    have herror : (Cache.Remote.perform now c store.1).1 = .error (.configuration message) := h
    cases Cache.Remote.isError_perform herror
  users unit c store message h := by
    have herror : (store.2.perform unit c).1 = .error (.configuration message) := h
    rcases Users.Relational.perform_eq_error herror with hmissing | ⟨_, _, _, hrefused⟩
    · cases hmissing
    · cases hrefused

end SessionAuth
