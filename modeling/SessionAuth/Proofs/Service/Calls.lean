/-
Calls under a contract.

A call of the service is a program that may end in an error, and what it meets is read
off that program.  A sequence ends where a part of it fails, so the rule for sequences
(`Call.Meets.bind`) has two conclusions to draw from its first part: what follows a
result, and what is left to be said after an error.

The clock, the source of randomness and the log say nothing of users and sessions.  An
invariant that they do not disturb (`Contract.Undisturbed`) therefore holds throughout
reading a token (`decode_meets`) and making one (`encode_meets`).
-/
import SessionAuth.Proofs.Program.Contract
import SessionAuth.Service.Tokens

namespace SessionAuth

variable {σ α β : Type} {contract : Contract Effect Effect.Reply σ} {state : σ}

/-! ### Calls -/

namespace Call

/-- The call keeps to the contract from a state on, and ends well. -/
def Meets (contract : Contract Effect Effect.Reply σ) (call : Call α)
    (ends : σ → Except AuthError α → Prop) (state : σ) : Prop :=
  (call.run : Action (Except AuthError α)).Meets contract ends state

@[simp] theorem meets_pure {value : α} {ends : σ → Except AuthError α → Prop} :
    Meets contract (pure value : Call α) ends state ↔ ends state (.ok value) := Iff.rfl

@[simp] theorem meets_throw {e : AuthError} {ends : σ → Except AuthError α → Prop} :
    Meets contract (throw e : Call α) ends state ↔ ends state (.error e) := Iff.rfl

@[simp] theorem meets_ofExcept {result : Except AuthError α}
    {ends : σ → Except AuthError α → Prop} :
    Meets contract (ofExcept result) ends state ↔ ends state result := Iff.rfl

theorem meets_bind {call : Call α} {f : α → Call β} {ends : σ → Except AuthError β → Prop} :
    Meets contract (call >>= f) ends state ↔
      Meets contract call (fun later result =>
        match result with
        | .ok value => Meets contract (f value) ends later
        | .error e => ends later (.error e)) state := by
  unfold Meets
  rw [ExceptT.run_bind, Program.bind_eq, Program.meets_bind]
  constructor
  all_goals
    intro h
    refine h.mono ?_
    intro later result h'
    cases result <;> exact h'

theorem meets_map {call : Call α} {f : α → β} {ends : σ → Except AuthError β → Prop} :
    Meets contract (f <$> call) ends state ↔
      Meets contract call (fun later result => ends later (result.map f)) state := by
  show Program.Meets contract ends (Program.bind call.run _) state ↔ _
  rw [Program.meets_bind]
  constructor
  all_goals
    intro h
    refine h.mono ?_
    intro later result h'
    cases result <;> exact h'

/-- A call whose failure is taken as a result. -/
theorem meets_lift {call : Call α}
    {ends : σ → Except AuthError (Except AuthError α) → Prop} :
    Meets contract (ExceptT.lift call.run) ends state ↔
      Meets contract call (fun later result => ends later (.ok result)) state := by
  show Program.Meets contract ends (Program.bind call.run _) state ↔ _
  rw [Program.meets_bind]
  exact Iff.rfl

theorem Meets.mono {call : Call α} {ends ends' : σ → Except AuthError α → Prop}
    (h : Meets contract call ends state)
    (himp : ∀ later result, ends later result → ends' later result) :
    Meets contract call ends' state :=
  Program.Meets.mono h himp

/-- A sequence goes on with what its first part came to, and ends where it failed. -/
theorem Meets.bind {call : Call α} {f : α → Call β} {mid : σ → Except AuthError α → Prop}
    {ends : σ → Except AuthError β → Prop} (h : Meets contract call mid state)
    (hok : ∀ later value, mid later (.ok value) → Meets contract (f value) ends later)
    (herror : ∀ later e, mid later (.error e) → ends later (.error e)) :
    Meets contract (call >>= f) ends state := by
  refine meets_bind.2 (h.mono ?_)
  intro later result hmid
  cases result with
  | ok value => exact hok later value hmid
  | error e => exact herror later e hmid

/-! ### Commands -/

theorem meets_cache {c : Cache.Command} {ends : σ → Except AuthError c.Reply → Prop}
    (hasks : contract.asks state (.cache c))
    (hends : ∀ reply later, contract.answers (.cache c) state reply later → ends later reply) :
    Meets contract (cache c) ends state :=
  ⟨hasks, hends⟩

theorem meets_users {c : Users.Command} {ends : σ → Except AuthError c.Reply → Prop}
    (hasks : contract.asks state (.users c))
    (hends : ∀ reply later, contract.answers (.users c) state reply later → ends later reply) :
    Meets contract (users c) ends state :=
  ⟨hasks, hends⟩

end Call

/-! ### The surroundings -/

/--
The clock, randomness and the log may be asked for and do not disturb an invariant.  What
the clock shows is known to be among some readings; responses are not for a call to log.
-/
structure Contract.Undisturbed (contract : Contract Effect Effect.Reply σ) (Inv : σ → Prop)
    (Reading : Instant → Prop) : Prop where
  asks_clock : ∀ state, Inv state → contract.asks state .clock
  asks_random : ∀ state count, Inv state → contract.asks state (.random count)
  asks_log : ∀ state event, Inv state → (∀ cause, event ≠ .responded cause) →
    contract.asks state (.log event)
  clock : ∀ state now later, Inv state → contract.answers .clock state now later →
    Reading now ∧ Inv later
  random : ∀ state count bits later, Inv state →
    contract.answers (.random count) state bits later → Inv later
  log : ∀ state event reply later, Inv state →
    contract.answers (.log event) state reply later → Inv later

section Undisturbed

variable {Inv : σ → Prop} {Reading : Instant → Prop}

theorem meets_clock {ends : σ → Except AuthError Instant → Prop}
    (h : contract.Undisturbed Inv Reading) (hinv : Inv state)
    (hends : ∀ now later, Reading now → Inv later → ends later (.ok now)) :
    Call.Meets contract Call.clock ends state := by
  refine ⟨h.asks_clock state hinv, ?_⟩
  intro now later hanswer
  obtain ⟨hreading, hlater⟩ := h.clock state now later hinv hanswer
  exact hends now later hreading hlater

theorem meets_random {count : Nat} {ends : σ → Except AuthError (BitVec count) → Prop}
    (h : contract.Undisturbed Inv Reading) (hinv : Inv state)
    (hends : ∀ bits later, Inv later → ends later (.ok bits)) :
    Call.Meets contract (Call.random count) ends state :=
  ⟨h.asks_random state count hinv, fun bits later hanswer =>
    hends bits later (h.random state count bits later hinv hanswer)⟩

theorem meets_log {event : Event} {ends : σ → Except AuthError Unit → Prop}
    (h : contract.Undisturbed Inv Reading) (hinv : Inv state)
    (hevent : ∀ cause, event ≠ .responded cause) (hends : ∀ later, Inv later → ends later (.ok ())) :
    Call.Meets contract (Call.log event) ends state :=
  ⟨h.asks_log state event hinv hevent, fun reply later hanswer =>
    hends later (h.log state event reply later hinv hanswer)⟩

/-- Reading a token: whether it is accepted depends on what the clock shows. -/
theorem decode_meets {codec : Token.Codec} {token : String}
    {ends : σ → Except AuthError Token.Payload → Prop} (h : contract.Undisturbed Inv Reading)
    (hinv : Inv state)
    (hok : ∀ now payload later, Reading now → Inv later →
      Token.Codec.open? codec.verificationKey codec.algorithm now token = some payload →
      ends later (.ok payload))
    (hbad : ∀ now later, Reading now → Inv later →
      Token.Codec.open? codec.verificationKey codec.algorithm now token = none →
      ends later (.error .tokenInvalid)) :
    Call.Meets contract (codec.decode token) ends state := by
  unfold Token.Codec.decode Token.Codec.decodeWith
  refine Call.meets_bind.2 (meets_clock h hinv ?_)
  intro now later hnow hlater
  simp only [Option.getD_none]
  split
  · rename_i payload hopen
    exact hok now payload later hnow hlater hopen
  · rename_i hopen
    refine Call.meets_bind.2 (meets_log h hlater (fun _ => by simp) ?_)
    intro last hlast
    exact hbad now last hnow hlast hopen

/-- Making a token, with a time that the clock shows and any random bits. -/
theorem encode_meets {codec : Token.Codec} {subject : String} {kind : Token.Kind}
    {ends : σ → Except AuthError (Instant × String) → Prop} (h : contract.Undisturbed Inv Reading)
    (hinv : Inv state)
    (hends : ∀ now id noise later, Reading now → Inv later →
      ends later (codec.mint now id noise subject (some kind) {})) :
    Call.Meets contract (codec.encode subject kind) ends state := by
  unfold Token.Codec.encode Token.Codec.encodeWith
  simp only [Option.isNone_some, Bool.and_false, Bool.false_eq_true, if_false]
  refine Call.meets_bind.2 (meets_clock h hinv ?_)
  intro now later hnow hlater
  refine Call.meets_bind.2 (meets_random h hlater ?_)
  intro id later hlater
  refine Call.meets_bind.2 (meets_random h hlater ?_)
  intro noise later hlater
  exact hends now (.ofRandom id) noise later hnow hlater

end Undisturbed

end SessionAuth
