/-
Two programs side by side.

Whether an onlooker can tell two runs apart is a question about both of them, so the two are
carried out next to each other.  A coupling says which command of the one may stand against
which command of the other, and which pairs of replies have to be reckoned with when it does.
`Coupled` is the statement that two programs keep in step as long as the replies come in such
pairs, and that what they come to belongs together.

`Coupled` is defined by recursion on both programs, so sequences are in step when their parts
are (`Coupled.bind`).  Nothing is said of handlers until the end.  Two handlers whose states
belong together, and that answer commands in such pairs, leave states that belong together
(`Coupled.run`), and what they have been asked stands side by side as well (`Coupled.record`).
-/
import Mathlib.Data.List.Forall2
import SessionAuth.Proofs.Program.Record

namespace SessionAuth

/-- What stands side by side when two programs are carried out next to each other. -/
structure Coupling (Command : Type) (Reply : Command → Type) where
  /-- The one command may be asked when the other one is. -/
  asks : Command → Command → Prop
  /-- The two may then be replied like this. -/
  replies : (c c' : Command) → Reply c → Reply c' → Prop

/-- The exchanges stand side by side. -/
def Coupling.Pairs {Command : Type} {Reply : Command → Type} (k : Coupling Command Reply)
    (x x' : Exchange Command Reply) : Prop :=
  k.asks x.command x'.command ∧ k.replies x.command x'.command x.reply x'.reply

namespace Program

variable {Command : Type} {Reply : Command → Type} {α α' β β' σ σ' : Type}
  {k : Coupling Command Reply}

/-- The programs keep in step, and what they come to belongs together. -/
def Coupled (k : Coupling Command Reply) (ends : α → α' → Prop) :
    Program Command Reply α → Program Command Reply α' → Prop
  | done value, done value' => ends value value'
  | ask c next, ask c' next' =>
    k.asks c c' ∧ ∀ reply reply', k.replies c c' reply reply' →
      Coupled k ends (next reply) (next' reply')
  | _, _ => False

variable {ends : α → α' → Prop} {p : Program Command Reply α} {p' : Program Command Reply α'}

/-- Sequences keep in step when their first parts do and the rests do after each pair of values. -/
theorem Coupled.bind {last : β → β' → Prop} {f : α → Program Command Reply β}
    {f' : α' → Program Command Reply β'} (h : Coupled k ends p p')
    (hrest : ∀ value value', ends value value' → Coupled k last (f value) (f' value')) :
    Coupled k last (Program.bind p f) (Program.bind p' f') := by
  induction p generalizing p' with
  | done value =>
    cases p' with
    | done value' => exact hrest value value' h
    | ask c' next' => exact h.elim
  | ask c next ih =>
    cases p' with
    | done value' => exact h.elim
    | ask c' next' =>
      exact ⟨h.1, fun reply reply' hreply => ih reply (h.2 reply reply' hreply)⟩

section Run

variable {handler : (c : Command) → σ → Reply c × σ} {handler' : (c : Command) → σ' → Reply c × σ'}
  {Agree : σ → σ' → Prop} {state : σ} {state' : σ'}

/--
The handlers answer in pairs.  Commands that stand side by side are replied side by side in
states that belong together, and such states are left.
-/
def Answers (k : Coupling Command Reply) (handler : (c : Command) → σ → Reply c × σ)
    (handler' : (c : Command) → σ' → Reply c × σ') (Agree : σ → σ' → Prop) : Prop :=
  ∀ c c' state state', k.asks c c' → Agree state state' →
    k.replies c c' (handler c state).1 (handler' c' state').1 ∧
      Agree (handler c state).2 (handler' c' state').2

/-- **Programs in step come to what belongs together, and leave states that do.** -/
theorem Coupled.run (h : Coupled k ends p p') (hanswers : Answers k handler handler' Agree)
    (hstart : Agree state state') :
    ends (Program.run handler p state).1 (Program.run handler' p' state').1 ∧
      Agree (Program.run handler p state).2 (Program.run handler' p' state').2 := by
  induction p generalizing p' state state' with
  | done value =>
    cases p' with
    | done value' => exact ⟨h, hstart⟩
    | ask c' next' => exact h.elim
  | ask c next ih =>
    cases p' with
    | done value' => exact h.elim
    | ask c' next' =>
      obtain ⟨hreply, hlater⟩ := hanswers c c' state state' h.1 hstart
      have hrest := ih _ (h.2 _ _ hreply) hlater
      exact hrest

/-- What programs in step have asked stands side by side. -/
theorem Coupled.record (h : Coupled k ends p p') (hanswers : Answers k handler handler' Agree)
    (hstart : Agree state state') :
    List.Forall₂ k.Pairs (p.record handler state) (p'.record handler' state') := by
  induction p generalizing p' state state' with
  | done value =>
    cases p' with
    | done value' => exact .nil
    | ask c' next' => exact h.elim
  | ask c next ih =>
    cases p' with
    | done value' => exact h.elim
    | ask c' next' =>
      obtain ⟨hreply, hlater⟩ := hanswers c c' state state' h.1 hstart
      exact .cons ⟨h.1, hreply⟩ (ih _ (h.2 _ _ hreply) hlater)

end Run

end Program

end SessionAuth
