/-
Programs under a contract.

Whoever carries out a program answers its commands, and the answers may depend on a
state, may change it, and need not be determined by it: another program may have come in
between, or a collaborator may have refused.  A contract says which commands the program
may ask in a state and which answers it has to reckon with.  `Meets` is the statement
that the program asks nothing else, whatever it is answered, and that it ends well.

`Meets` is defined by recursion on the program, so what a sequence meets is what its
parts meet (`meets_bind`).  A program that meets a contract ends well when it is carried
out by a handler that answers as the contract says (`Meets.run`), and what the commands
it may ask leave alone stays as it was (`Meets.run_keeps`).
-/
import SessionAuth.Program

namespace SessionAuth

/-- What a program may ask in a state, and how it may be answered. -/
structure Contract (Command : Type) (Reply : Command → Type) (σ : Type) where
  /-- The command may be asked in this state. -/
  asks : σ → Command → Prop
  /-- The command may be answered like this, and the state become like that. -/
  answers : (command : Command) → σ → Reply command → σ → Prop

namespace Program

variable {Command : Type} {Reply : Command → Type} {α β σ : Type}
  {contract : Contract Command Reply σ}

/-- The program keeps to the contract from a state on, and ends well. -/
def Meets (contract : Contract Command Reply σ) (ends : σ → α → Prop) :
    Program Command Reply α → σ → Prop
  | done value, state => ends state value
  | ask command next, state =>
    contract.asks state command ∧ ∀ reply later, contract.answers command state reply later →
      Meets contract ends (next reply) later

@[simp] theorem meets_done {ends : σ → α → Prop} {state : σ} {value : α} :
    (done value : Program Command Reply α).Meets contract ends state ↔ ends state value := Iff.rfl

@[simp] theorem meets_ask {ends : σ → α → Prop} {state : σ} {command : Command}
    {next : Reply command → Program Command Reply α} :
    (ask command next).Meets contract ends state ↔
      contract.asks state command ∧ ∀ reply later, contract.answers command state reply later →
        (next reply).Meets contract ends later := Iff.rfl

/-- A sequence meets a contract when its first part does and leaves a good start for the rest. -/
theorem meets_bind {ends : σ → β → Prop} {p : Program Command Reply α}
    {f : α → Program Command Reply β} {state : σ} :
    (bind p f).Meets contract ends state ↔
      p.Meets contract (fun state value => (f value).Meets contract ends state) state := by
  induction p generalizing state with
  | done value => exact Iff.rfl
  | ask command next ih =>
    rw [bind_ask, meets_ask, meets_ask]
    refine and_congr_right fun _ => forall_congr' fun reply => forall_congr' ?_
    intro later
    exact imp_congr_right fun _ => ih reply

/-- What ends well in a strong sense ends well in a weaker one. -/
theorem Meets.mono {ends ends' : σ → α → Prop} {p : Program Command Reply α} {state : σ}
    (h : p.Meets contract ends state) (himp : ∀ state value, ends state value → ends' state value) :
    p.Meets contract ends' state := by
  induction p generalizing state with
  | done value => exact himp state value h
  | ask command next ih =>
    obtain ⟨hasks, hnext⟩ := h
    exact ⟨hasks, fun reply later hreply => ih reply (hnext reply later hreply)⟩

/-- What the commands that may be asked do not disturb holds at the end. -/
theorem Meets.keeps {P : σ → Prop} {ends : σ → α → Prop} {p : Program Command Reply α} {state : σ}
    (h : p.Meets contract ends state)
    (hkeeps : ∀ command state reply later, contract.asks state command →
      contract.answers command state reply later → P state → P later)
    (hstart : P state) : p.Meets contract (fun state value => P state ∧ ends state value) state := by
  induction p generalizing state with
  | done value => exact ⟨hstart, h⟩
  | ask command next ih =>
    obtain ⟨hasks, hnext⟩ := h
    exact ⟨hasks, fun reply later hreply => ih reply (hnext reply later hreply)
      (hkeeps command state reply later hasks hreply hstart)⟩

/-! ### Carrying a program out -/

section Run

variable {handler : (command : Command) → σ → Reply command × σ} {ends : σ → α → Prop}
  {p : Program Command Reply α} {state : σ}

/-- Under a handler that answers as the contract says, the program ends well. -/
theorem Meets.run (h : p.Meets contract ends state)
    (hanswers : ∀ command state,
      contract.answers command state (handler command state).1 (handler command state).2) :
    ends (Program.run handler p state).2 (Program.run handler p state).1 := by
  induction p generalizing state with
  | done value => exact h
  | ask command next ih => exact ih _ (h.2 _ _ (hanswers command state))

/-- What the commands that may be asked leave as it was, the program leaves as it was. -/
theorem Meets.run_keeps {P : σ → Prop} (h : p.Meets contract ends state)
    (hanswers : ∀ command state,
      contract.answers command state (handler command state).1 (handler command state).2)
    (hkeeps : ∀ command state, contract.asks state command → P state →
      P (handler command state).2)
    (hstart : P state) : P (Program.run handler p state).2 := by
  induction p generalizing state with
  | done value => exact hstart
  | ask command next ih =>
    exact ih _ (h.2 _ _ (hanswers command state)) (hkeeps command state h.1 hstart)

end Run

end Program

end SessionAuth
