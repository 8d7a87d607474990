/-
Programs that ask for what they cannot do themselves.

The service reads and writes through collaborators: a cache, a table of users, a
clock, a source of randomness, a log.  A program is a tree: it is done with a value,
or it asks one command and has a continuation for every reply.  Nothing in it says
how a command is carried out, so the same program runs over any collaborators, and
several programs can be interleaved command by command.

`run` carries a program out with a handler that keeps a state.
-/
namespace SessionAuth

/-- A computation that asks commands, each with its own type of reply. -/
inductive Program (Command : Type) (Reply : Command → Type) (α : Type) : Type
  | done (value : α)
  | ask (command : Command) (next : Reply command → Program Command Reply α)

namespace Program

variable {Command : Type} {Reply : Command → Type} {α β γ : Type}

/-- Goes on with the value of a program. -/
def bind : Program Command Reply α → (α → Program Command Reply β) → Program Command Reply β
  | done value, f => f value
  | ask command next, f => ask command fun reply => bind (next reply) f

instance : Monad (Program Command Reply) where
  pure := done
  bind := bind

/-- Asks one command and is done with its reply. -/
def perform (command : Command) : Program Command Reply (Reply command) :=
  ask command done

/-- Carries a program out; the handler says how a command replies and changes the state. -/
def run {σ : Type} (handler : (command : Command) → σ → Reply command × σ) :
    Program Command Reply α → σ → α × σ
  | done value, state => (value, state)
  | ask command next, state =>
    let (reply, state) := handler command state
    run handler (next reply) state

/-! ### Laws -/

@[simp] theorem pure_eq (value : α) : (pure value : Program Command Reply α) = done value := rfl

@[simp] theorem bind_eq (p : Program Command Reply α) (f : α → Program Command Reply β) :
    p >>= f = bind p f := rfl

@[simp] theorem bind_done (value : α) (f : α → Program Command Reply β) :
    bind (done value) f = f value := rfl

@[simp] theorem bind_ask (command : Command) (next : Reply command → Program Command Reply α)
    (f : α → Program Command Reply β) :
    bind (ask command next) f = ask command fun reply => bind (next reply) f := rfl

/-- Ending with the value as it is changes nothing. -/
theorem bind_done_right (p : Program Command Reply α) : bind p done = p := by
  induction p with
  | done value => rfl
  | ask command next ih => simp [bind, ih]

/-- A program followed by its continuation runs as one after the other. -/
theorem run_bind {σ : Type} (handler : (command : Command) → σ → Reply command × σ)
    (p : Program Command Reply α) (f : α → Program Command Reply β) (state : σ) :
    run handler (bind p f) state =
      run handler (f (run handler p state).1) (run handler p state).2 := by
  induction p generalizing state with
  | done value => rfl
  | ask command next ih => exact ih _ _

end Program

end SessionAuth
