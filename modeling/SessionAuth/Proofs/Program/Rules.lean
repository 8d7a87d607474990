/-
Programs that keep to rules.

A program that runs among others sees replies that it cannot foresee, so what can be
said of it in advance is which commands it asks after which replies.  `Rules` says
that: a place to stand in, the commands allowed there, the replies that are to be
expected, and the place that a reply leads to.  `Follows` is the statement that a
program keeps to the rules from a place on, whatever replies come, and that it stands
well when it is done.

`Follows` is defined by recursion on the program, so following a sequence is following
its parts (`follows_bind`), and every operation of the service is checked by itself.
-/
import SessionAuth.Program

namespace SessionAuth

/-- A command and the reply it got. -/
structure Exchange (Command : Type) (Reply : Command → Type) where
  command : Command
  reply : Reply command

/-- What a program may ask, and where the replies lead. -/
structure Rules (Command : Type) (Reply : Command → Type) (Place : Type) where
  /-- The command may be asked at this place. -/
  allows : Place → Command → Prop
  /-- The reply is one that may come. -/
  expects : (command : Command) → Reply command → Prop
  /-- The place after a reply. -/
  next : Place → (command : Command) → Reply command → Place

namespace Rules

variable {Command : Type} {Reply : Command → Type} {Place : Type}

/-- The place after some exchanges, of which the newest stands first. -/
def reach (rules : Rules Command Reply Place) (start : Place) :
    List (Exchange Command Reply) → Place
  | [] => start
  | x :: past => rules.next (rules.reach start past) x.command x.reply

@[simp] theorem reach_nil (rules : Rules Command Reply Place) (start : Place) :
    rules.reach start [] = start := rfl

@[simp] theorem reach_cons (rules : Rules Command Reply Place) (start : Place)
    (x : Exchange Command Reply) (past : List (Exchange Command Reply)) :
    rules.reach start (x :: past) = rules.next (rules.reach start past) x.command x.reply := rfl

end Rules

namespace Program

variable {Command : Type} {Reply : Command → Type} {Place α β : Type}
  {rules : Rules Command Reply Place}

/-- The program keeps to the rules from a place on, and ends well. -/
def Follows (rules : Rules Command Reply Place) (ends : Place → α → Prop) :
    Program Command Reply α → Place → Prop
  | done value, place => ends place value
  | ask command next, place =>
    rules.allows place command ∧ ∀ reply, rules.expects command reply →
      Follows rules ends (next reply) (rules.next place command reply)

@[simp] theorem follows_done {ends : Place → α → Prop} {place : Place} {value : α} :
    (done value : Program Command Reply α).Follows rules ends place ↔ ends place value := Iff.rfl

@[simp] theorem follows_ask {ends : Place → α → Prop} {place : Place} {command : Command}
    {next : Reply command → Program Command Reply α} :
    (ask command next).Follows rules ends place ↔
      rules.allows place command ∧ ∀ reply, rules.expects command reply →
        (next reply).Follows rules ends (rules.next place command reply) := Iff.rfl

/-- A sequence follows the rules when its first part does and leaves a good start for the rest. -/
theorem follows_bind {ends : Place → β → Prop} {p : Program Command Reply α}
    {f : α → Program Command Reply β} {place : Place} :
    (bind p f).Follows rules ends place ↔
      p.Follows rules (fun place value => (f value).Follows rules ends place) place := by
  induction p generalizing place with
  | done value => exact Iff.rfl
  | ask command next ih =>
    rw [bind_ask, follows_ask, follows_ask]
    exact and_congr_right fun _ => forall_congr' fun reply => imp_congr_right fun _ => ih reply

/-- What ends well in a strong sense ends well in a weaker one. -/
theorem Follows.mono {ends ends' : Place → α → Prop} {p : Program Command Reply α} {place : Place}
    (h : p.Follows rules ends place) (himp : ∀ place value, ends place value → ends' place value) :
    p.Follows rules ends' place := by
  induction p generalizing place with
  | done value => exact himp place value h
  | ask command next ih =>
    obtain ⟨hallowed, hnext⟩ := h
    exact ⟨hallowed, fun reply hreply => ih reply (hnext reply hreply)⟩

end Program

end SessionAuth
