/-
What a program has asked.

Carrying a program out leaves a record: the commands in the order in which they were asked,
each with the reply it got.  What is said of a program as a whole, that it begins with one
command or never asks another one, is said of its record, and the record of a sequence is
the records of its parts one behind the other (`record_bind`).

What a run leaves alone is read off its record (`run_keeps`), and so is what the run depends
on: two states that no command on record can tell apart give the same record (`run_congr`).

A contract whose state is nothing but what has been asked so far puts no bounds on the
replies.  A program that meets one asks what it may, and ends as it should, under every
handler (`Meets.record_asks`, `Meets.record_ends`).  Any other contract can be given a record
beside its state (`Contract.recorded`), so that the end of a program may be told by what was
asked on the way to it.  The record binds nobody, and it only grows (`Meets.remembering`).
-/
import SessionAuth.Proofs.Program.Contract
import SessionAuth.Proofs.Program.Rules

namespace SessionAuth

variable {Command : Type} {Reply : Command → Type} {α β σ : Type}

/-- A state, and what has been asked on the way to it, newest first. -/
structure Course (Command : Type) (Reply : Command → Type) (σ : Type) where
  state : σ
  asked : List (Exchange Command Reply) := []

/-- The contract with a record beside the state, which has no say in what may be asked. -/
def Contract.recorded (contract : Contract Command Reply σ) :
    Contract Command Reply (Course Command Reply σ) where
  asks c command := contract.asks c.state command
  answers command c reply later :=
    contract.answers command c.state reply later.state ∧ later.asked = ⟨command, reply⟩ :: c.asked

/-- A contract about what was asked before, newest first; every reply has to be reckoned with. -/
def Contract.ofHistory (asks : List (Exchange Command Reply) → Command → Prop) :
    Contract Command Reply (List (Exchange Command Reply)) where
  asks := asks
  answers command seen reply later := later = ⟨command, reply⟩ :: seen

namespace Program

/-- What a program asks when it is carried out, oldest first, with the replies. -/
def record (handler : (command : Command) → σ → Reply command × σ) :
    Program Command Reply α → σ → List (Exchange Command Reply)
  | done _, _ => []
  | ask command next, state =>
    let (reply, later) := handler command state
    ⟨command, reply⟩ :: record handler (next reply) later

variable {handler : (command : Command) → σ → Reply command × σ}

/-- A sequence asks what its first part asks, and then what the rest asks. -/
theorem record_bind (p : Program Command Reply α) (f : α → Program Command Reply β) (state : σ) :
    (bind p f).record handler state = p.record handler state ++
      (f (run handler p state).1).record handler (run handler p state).2 := by
  induction p generalizing state with
  | done value => rfl
  | ask command next ih => exact congrArg (List.cons _) (ih _ _)

/-! ### What a run leaves alone, and what it depends on -/

variable {p : Program Command Reply α}

/-- What the commands that are asked preserve is true afterwards as well. -/
theorem run_keeps (Inv : σ → Prop) {state : σ} (hinv : Inv state)
    (h : ∀ x ∈ p.record handler state, ∀ now, Inv now → Inv (handler x.command now).2) :
    Inv (run handler p state).2 := by
  induction p generalizing state with
  | done value => exact hinv
  | ask command next ih =>
    refine ih (handler command state).1 (h _ List.mem_cons_self state hinv) ?_
    intro x hx
    exact h x (List.mem_cons_of_mem _ hx)

/-- So is, of every reply on record, what follows from it. -/
theorem forall_record {Good : Exchange Command Reply → Prop} (Inv : σ → Prop) {state : σ}
    (hinv : Inv state)
    (h : ∀ x ∈ p.record handler state, ∀ now, Inv now →
      Good ⟨x.command, (handler x.command now).1⟩ ∧ Inv (handler x.command now).2) :
    ∀ x ∈ p.record handler state, Good x := by
  induction p generalizing state with
  | done value => nofun
  | ask command next ih =>
    obtain ⟨hgood, hlater⟩ := h _ List.mem_cons_self state hinv
    intro x hx
    rcases List.mem_cons.mp hx with rfl | hx
    · exact hgood
    · exact ih _ hlater (fun x hx => h x (List.mem_cons_of_mem _ hx)) x hx

/--
**Two states which no command can tell apart.**  When the commands that are asked in the one
are replied the same in both, and still cannot be told apart afterwards, then the same is
asked in the other, with the same result.
-/
theorem run_congr {Agree : σ → σ → Prop} {state state' : σ} (hagree : Agree state state')
    (h : ∀ x ∈ p.record handler state, ∀ now now', Agree now now' →
      (handler x.command now').1 = (handler x.command now).1 ∧
        Agree (handler x.command now).2 (handler x.command now').2) :
    p.record handler state' = p.record handler state ∧
      (run handler p state').1 = (run handler p state).1 ∧
      Agree (run handler p state).2 (run handler p state').2 := by
  induction p generalizing state state' with
  | done value => exact ⟨rfl, rfl, hagree⟩
  | ask command next ih =>
    have hfirst : (⟨command, (handler command state).1⟩ : Exchange Command Reply) ∈
        (ask command next).record handler state := List.mem_cons_self
    obtain ⟨hreply, hlater⟩ := h _ hfirst state state' hagree
    obtain ⟨hrecord, hresult, hlast⟩ := ih (handler command state).1 hlater
      fun x hx => h x (List.mem_cons_of_mem _ hx)
    unfold record run
    dsimp only at hreply hlater hrecord ⊢
    rw [hreply]
    exact ⟨congrArg (List.cons _) hrecord, hresult, hlast⟩

/-! ### What it may ask -/

variable {asks : List (Exchange Command Reply) → Command → Prop}
  {ends : List (Exchange Command Reply) → α → Prop}
  {seen : List (Exchange Command Reply)}

/-- **A program that meets a contract about the past ends well under every handler.** -/
theorem Meets.record_ends (h : p.Meets (.ofHistory asks) ends seen) (state : σ) :
    ends ((p.record handler state).reverse ++ seen) (Program.run handler p state).1 := by
  induction p generalizing seen state with
  | done value => exact h
  | ask command next ih =>
    have hrest := ih _ (h.2 (handler command state).1 _ rfl) (handler command state).2
    unfold Program.record
    rw [List.reverse_cons, List.append_assoc]
    exact hrest

/-- **Whatever it asks, it may ask after what it has asked before.** -/
theorem Meets.record_asks (h : p.Meets (.ofHistory asks) ends seen) {state : σ}
    {older newer : List (Exchange Command Reply)} {x : Exchange Command Reply}
    (hrecord : p.record handler state = older ++ x :: newer) :
    asks (older.reverse ++ seen) x.command := by
  induction p generalizing seen state older with
  | done value =>
    have hnil : ([] : List (Exchange Command Reply)) = older ++ x :: newer := hrecord
    simp at hnil
  | ask command next ih =>
    unfold Program.record at hrecord
    cases older with
    | nil =>
      obtain rfl := (List.cons.inj hrecord).1
      exact h.1
    | cons first older =>
      obtain ⟨rfl, hrest⟩ := List.cons.inj hrecord
      have hlater := ih _ (h.2 _ _ rfl) hrest
      rw [List.reverse_cons, List.append_assoc]
      exact hlater

/-- What may be asked more freely is met as well. -/
theorem Meets.imp {contract contract' : Contract Command Reply σ} {ends : σ → α → Prop} {state : σ}
    (h : p.Meets contract ends state)
    (hasks : ∀ state command, contract.asks state command → contract'.asks state command)
    (hanswers : ∀ command state reply later, contract'.answers command state reply later →
      contract.answers command state reply later) : p.Meets contract' ends state := by
  induction p generalizing state with
  | done value => exact h
  | ask command next ih =>
    exact ⟨hasks _ _ h.1, fun reply later hreply => ih reply (h.2 _ _ (hanswers _ _ _ _ hreply))⟩

/-! ### A record beside the state -/

section Recorded

variable {contract : Contract Command Reply σ} {ends : Course Command Reply σ → α → Prop}
  {c : Course Command Reply σ}

/-- What has been asked is still on record at the end. -/
theorem Meets.remembering
    (h : p.Meets contract.recorded
      (fun later value => c.asked ⊆ later.asked → ends later value) c) :
    p.Meets contract.recorded ends c := by
  have hgrows : ∀ command (state : Course Command Reply σ) reply later,
      contract.recorded.asks state command →
      contract.recorded.answers command state reply later → c.asked ⊆ state.asked →
      c.asked ⊆ later.asked := by
    intro command state reply later _ hanswer hsub
    rw [hanswer.2]
    exact List.Subset.trans hsub (List.subset_cons_self _ _)
  refine (h.keeps (P := fun later => c.asked ⊆ later.asked) hgrows (List.Subset.refl _)).mono ?_
  intro later value hends
  exact hends.2 hends.1

/-- An end that is told without the record is met without it. -/
theorem Meets.of_recorded {ends : σ → α → Prop} {state : σ} {seen : List (Exchange Command Reply)}
    (h : p.Meets contract.recorded (fun later value => ends later.state value) ⟨state, seen⟩) :
    p.Meets contract ends state := by
  induction p generalizing state seen with
  | done value => exact h
  | ask command next ih =>
    refine ⟨h.1, ?_⟩
    intro reply later hanswer
    exact ih reply (h.2 reply ⟨later, ⟨command, reply⟩ :: seen⟩ ⟨hanswer, rfl⟩)

end Recorded

end Program

end SessionAuth
