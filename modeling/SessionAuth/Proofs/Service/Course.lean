/-
What a call has asked on its way.

Not everything that a call has done can be seen in what it leaves.  A list that was read twice
is the same as one that was read once, and a token does not tell who drew the bits for it.  So a
call may be carried out with a record of what it asks beside the state (`Contract.recorded`), and
two things are taken from it: what the call was answered whenever it read a list (`readings`), and
which tokens it has made itself (`Minted`).
-/
import SessionAuth.Proofs.Program.Record
import SessionAuth.Proofs.Service.Calls
import SessionAuth.Proofs.Service.Conduct

namespace SessionAuth.Service

/-! ### Readings of lists -/

/-- What a call was answered when it read a list, newest first. -/
def readings : List Asked → List (Except AuthError (List String))
  | [] => []
  | ⟨.cache (.get _), reply⟩ :: older => reply :: readings older
  | _ :: older => readings older

/-- A command that reads no list. -/
def ReadsNothing (e : Effect) : Prop := ∀ key, e ≠ .cache (.get key)

theorem readings_cons {x : Asked} {older : List Asked} (h : ReadsNothing x.command) :
    readings (x :: older) = readings older := by
  obtain ⟨e, reply⟩ := x
  cases e with
  | cache command =>
    cases command with
    | get key => exact absurd rfl (h key)
    | _ => rfl
  | _ => rfl

/-! ### Tokens of one's own -/

variable {σ : Type} {contract : Contract Effect Effect.Reply σ}
  {Inv : Course Effect Effect.Reply σ → Prop} {Reading : Instant → Prop}
  {c : Course Effect Effect.Reply σ}

theorem recorded_clock {ends : Course Effect Effect.Reply σ → Except AuthError Instant → Prop}
    (h : contract.recorded.Undisturbed Inv Reading) (hinv : Inv c)
    (hends : ∀ now later, Reading now → Inv later → later.asked = ⟨.clock, now⟩ :: c.asked →
      ends later (.ok now)) : Call.Meets contract.recorded Call.clock ends c := by
  refine ⟨h.asks_clock c hinv, ?_⟩
  intro now later hanswer
  obtain ⟨hreading, hlater⟩ := h.clock c now later hinv hanswer
  exact hends now later hreading hlater hanswer.2

theorem recorded_random {count : Nat}
    {ends : Course Effect Effect.Reply σ → Except AuthError (BitVec count) → Prop}
    (h : contract.recorded.Undisturbed Inv Reading) (hinv : Inv c)
    (hends : ∀ bits later, Inv later → later.asked = ⟨.random count, bits⟩ :: c.asked →
      ends later (.ok bits)) : Call.Meets contract.recorded (Call.random count) ends c := by
  refine ⟨h.asks_random c count hinv, ?_⟩
  intro bits later hanswer
  exact hends bits later (h.random c count bits later hinv hanswer) hanswer.2

/-- Making a refresh token: the time and the bits for it are on record. -/
theorem encode_minted {s : Service} {user : UserId}
    {ends : Course Effect Effect.Reply σ → Except AuthError (Instant × String) → Prop}
    (h : contract.recorded.Undisturbed Inv Reading) (hinv : Inv c)
    (hends : ∀ now id noise later, Reading now → Inv later →
      (∀ expiry token, s.codec.mint now id noise user.toHex (some .refresh) {} =
        .ok (expiry, token) → s.Minted user later.asked token) →
      ends later (s.codec.mint now id noise user.toHex (some .refresh) {})) :
    Call.Meets contract.recorded (s.codec.encode user.toHex .refresh) ends c := by
  unfold Token.Codec.encode Token.Codec.encodeWith
  simp only [Option.isNone_some, Bool.and_false, Bool.false_eq_true, if_false]
  refine Call.meets_bind.2 (recorded_clock h hinv ?_)
  intro now c₁ hnow h₁ hclock
  refine Call.meets_bind.2 (recorded_random h h₁ ?_)
  intro id c₂ h₂ hid
  refine Call.meets_bind.2 (recorded_random h h₂ ?_)
  intro noise c₃ h₃ hnoise
  refine hends now (.ofRandom id) noise c₃ hnow h₃ ?_
  intro expiry token hmint
  refine ⟨now, id, noise, expiry, ?_, ?_, ?_, hmint⟩ <;> simp [hnoise, hid, hclock]

end SessionAuth.Service
