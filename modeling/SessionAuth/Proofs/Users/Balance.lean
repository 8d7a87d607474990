/-
Counting transactions.

A table in memory counts how many transactions were begun, committed and rolled back.  What a
command moves the counters by depends on nothing but whether the transaction of its unit is open
(`counters_perform`), and it makes up for the transactions that are open after it but were not
before.  So whatever was begun is open or has been ended, once (`Balanced`).
-/
import SessionAuth.Proofs.Users.Memory

namespace SessionAuth.Users

/-! ### Counters -/

namespace Counters

instance : Add Counters :=
  ⟨fun a b => ⟨a.begun + b.begun, a.committed + b.committed, a.rolledBack + b.rolledBack⟩⟩

/-- By how much the counters have moved since an earlier moment. -/
def since (later earlier : Counters) : Counters :=
  ⟨later.begun - earlier.begun, later.committed - earlier.committed,
    later.rolledBack - earlier.rolledBack⟩

/-- What several movements come to. -/
def total : List Counters → Counters
  | [] => {}
  | c :: cs => c + total cs

variable (a b c : Counters)

theorem add_def : a + b =
    ⟨a.begun + b.begun, a.committed + b.committed, a.rolledBack + b.rolledBack⟩ := rfl

theorem add_assoc : a + b + c = a + (b + c) := by
  simp only [add_def, Nat.add_assoc]

theorem add_right_comm : a + b + c = a + c + b := by
  simp only [add_def, Nat.add_right_comm]

@[simp] theorem add_zero : a + {} = a := rfl

@[simp] theorem since_add : (a + b).since a = b := by
  simp only [add_def, since, Nat.add_sub_cancel_left]

end Counters

/-! ### What a command moves -/

namespace Command

/-- How the command ends its unit, if it does: with a commit, or by rolling back. -/
def verdict? : Command → Option Bool
  | commit => some true
  | rollback | abandon => some false
  | _ => none

/-- The command ends its unit. -/
def ends (c : Command) : Bool := c.verdict?.isSome

/-- The command opens the transaction of its unit. -/
def opens : Command → Bool
  | begin | create => true
  | _ => false

/-- The command puts a new unit in the place of the one with its number. -/
def replaces : Command → Bool
  | fresh | begin => true
  | _ => false

/-- What a command moves the counters by if the transaction of its unit was open, or was not. -/
def moves (isOpen : Bool) : Command → Counters
  | fresh => { rolledBack := isOpen.toNat }
  | begin => { begun := 1, rolledBack := isOpen.toNat }
  | create => { begun := (!isOpen).toNat }
  | findByLogin _ | findById _ => {}
  | commit => { committed := isOpen.toNat }
  | rollback | abandon => { rolledBack := isOpen.toNat }

theorem leavesOpen_of_ends {c : Command} (h : c.ends = true) (before : Bool) :
    c.leavesOpen before = false := by
  cases c <;> first | rfl | cases h

end Command

namespace Units

variable {us : Units}

theorem erase_erase (n : Nat) : Units.erase (us.erase n) n = us.erase n := by
  unfold erase
  rw [List.filter_filter]
  simp only [Bool.and_self]

end Units

namespace Memory

variable {m : Memory} (n : Nat) (c : Command)

theorem counters_abandon (m : Memory) : (m.abandon n).counters =
    m.counters + { rolledBack := (m.units.isOpen n).toNat } := by
  unfold abandon
  cases m.units.isOpen n <;> rfl

theorem counters_ended (m : Memory) : (m.commit n).counters =
    m.counters + { committed := (m.units.isOpen n).toNat } := by
  unfold commit
  cases m.units.isOpen n <;> rfl

/-- **What a command moves depends on whether the transaction of its unit is open.** -/
theorem counters_perform (m : Memory) :
    (m.perform n c).2.counters = m.counters + c.moves (m.units.isOpen n) := by
  cases c with
  | fresh => exact counters_abandon n m
  | begin =>
    show (m.countBegin.abandon n).counters = _
    rw [counters_abandon]
    show m.countBegin.counters + { rolledBack := (m.units.isOpen n).toNat } = _
    simp only [countBegin, Command.moves, Counters.add_def, Nat.add_zero]
  | create =>
    unfold perform
    dsimp only
    cases m.units.isOpen n <;> rfl
  | findByLogin login => rw [perform_findByLogin]; rfl
  | findById id => rw [perform_findById]; rfl
  | commit => exact counters_ended n m
  | rollback => exact counters_abandon n m
  | abandon => exact counters_abandon n m

theorem eq_of_parts {m m' : Memory} (husers : m.users = m'.users) (hunits : m.units = m'.units)
    (hcounters : m.counters = m'.counters) : m = m' := by
  cases m
  cases m'
  cases husers
  cases hunits
  cases hcounters
  rfl

/-- The units after a command that puts a new one in the place of another. -/
theorem units_perform_of_replaces (h : c.replaces = true) (m : Memory) :
    (m.perform n c).2.units = (m.units.erase n).put n (c.leavesOpen false) := by
  cases c with
  | fresh => exact units_replace n m false
  | begin => exact units_replace n m.countBegin true
  | _ => cases h

/-- To put a unit in the place of another is to abandon that one before. -/
theorem perform_abandon (h : c.replaces = true) :
    ((m.perform n .abandon).2.perform n c).2 = (m.perform n c).2 := by
  have hclosed : (m.perform n .abandon).2.units.isOpen n = false :=
    isOpen_perform_self n .abandon m
  have hunits : (m.perform n .abandon).2.units = m.units.erase n := units_abandon n m
  refine eq_of_parts ?_ ?_ ?_
  · rw [users_perform, users_perform, users_perform]
  · rw [units_perform_of_replaces n c h, units_perform_of_replaces n c h, hunits, Units.erase_erase]
  · rw [counters_perform, counters_perform, counters_perform, hclosed]
    cases c with
    | fresh => rfl
    | begin => rfl
    | _ => cases h

end Memory

/-! ### Ending a unit twice

Whoever ends a unit gives it up, and what is given up is ended once more.  Two marks keep that from
being counted: that a transaction was opened, and that it was ended.
-/

/-- The marks of a unit. -/
structure Marks where
  isOpen : Bool
  isOver : Bool := false

/-- Ends a unit with these marks and counts it, unless there is nothing to end any more. -/
def Marks.finish (s : Marks × Counters) (committed : Bool) : Marks × Counters :=
  ({ s.1 with isOver := true },
    if s.1.isOpen && !s.1.isOver then
      s.2 + { committed := committed.toNat, rolledBack := (!committed).toNat }
    else s.2)

/-- What is over is not counted again. -/
theorem Marks.counters_finish (s : Marks × Counters) (h : s.1.isOver = true)
    (verdicts : List Bool) : (verdicts.foldl finish s).2 = s.2 := by
  induction verdicts generalizing s with
  | nil => rfl
  | cons verdict verdicts ih =>
    rw [List.foldl_cons, ih _ rfl]
    unfold finish
    rw [h, Bool.not_true, Bool.and_false]
    rfl

/-- To end a unit counts what its first end counts, however often it is ended again. -/
theorem Memory.counters_of_ends (n : Nat) {c : Command} {verdict : Bool}
    (h : c.verdict? = some verdict) (again : List Bool) (m : Memory) :
    (m.perform n c).2.counters =
      ((verdict :: again).foldl Marks.finish (⟨m.units.isOpen n, false⟩, m.counters)).2 := by
  rw [List.foldl_cons, Marks.counters_finish _ rfl, counters_perform]
  unfold Marks.finish
  cases c with
  | commit => cases h; cases m.units.isOpen n <;> rfl
  | rollback | abandon => cases h; cases m.units.isOpen n <;> rfl
  | _ => cases h

/-! ### What was begun is open or was ended -/

namespace Units

variable {us : Units} (n : Nat)

theorem nodup_erase (h : (us.map Prod.fst).Nodup) : ((us.erase n).map Prod.fst).Nodup :=
  h.sublist (List.filter_sublist.map Prod.fst)

theorem nodup_put (h : (us.map Prod.fst).Nodup) (isOpen : Bool) :
    ((us.put n isOpen).map Prod.fst).Nodup := by
  refine List.nodup_cons.mpr ⟨fun hmem => ?_, nodup_erase n h⟩
  obtain ⟨u, hu, hn⟩ := List.mem_map.mp hmem
  exact absurd hn (bne_iff_ne.mp (List.mem_filter.mp hu).2)

/-- Without one of them there is one less open, if that one was. -/
theorem openCount_erase (h : (us.map Prod.fst).Nodup) :
    us.openCount = Units.openCount (us.erase n) + (us.isOpen n).toNat := by
  induction us with
  | nil => rfl
  | cons u us ih =>
    obtain ⟨k, isOpen⟩ := u
    obtain ⟨hk, hus⟩ := List.nodup_cons.mp h
    by_cases hkn : k = n
    · subst hkn
      have herase : Units.erase ((k, isOpen) :: us) k = us := by
        unfold erase
        rw [List.filter_cons_of_neg (by simp), List.filter_eq_self]
        intro u hu
        exact bne_iff_ne.mpr fun hu' => hk (List.mem_map.mpr ⟨u, hu, hu'⟩)
      rw [herase]
      unfold openCount Units.isOpen isOpen?
      rw [List.countP_cons, List.lookup_cons_self]
      cases isOpen <;> rfl
    · have herase : Units.erase ((k, isOpen) :: us) n = (k, isOpen) :: Units.erase us n :=
        List.filter_cons_of_pos (by simpa using hkn)
      have hother : Units.isOpen ((k, isOpen) :: us) n = Units.isOpen us n := by
        have hne : (n == k) = false := beq_eq_false_iff_ne.mpr (Ne.symm hkn)
        unfold Units.isOpen isOpen?
        rw [List.lookup_cons, hne]
      rw [herase, hother]
      have hrest := ih hus
      unfold openCount at hrest ⊢
      rw [List.countP_cons, List.countP_cons]
      omega

theorem openCount_put (h : (us.map Prod.fst).Nodup) (isOpen : Bool) :
    Units.openCount (us.put n isOpen) + (us.isOpen n).toNat = us.openCount + isOpen.toNat := by
  have hadded : Units.openCount (us.put n isOpen) = Units.openCount (us.erase n) + isOpen.toNat := by
    unfold put openCount
    rw [List.countP_cons]
    cases isOpen <;> rfl
  rw [hadded, openCount_erase n h]
  omega

end Units

/-- What a command moves makes up for what it opens and what it ends. -/
theorem Command.moves_balanced (c : Command) (isOpen : Bool) :
    (c.moves isOpen).begun + isOpen.toNat =
      (c.moves isOpen).committed + (c.moves isOpen).rolledBack + (c.leavesOpen isOpen).toNat := by
  cases c <;> cases isOpen <;> rfl

namespace Memory

variable {m : Memory} (n : Nat) (c : Command)

/-- The units after a command are the old ones, or those without one, with it put back or not. -/
theorem units_perform_cases (m : Memory) :
    (m.perform n c).2.units = m.units ∧ c.leavesOpen (m.units.isOpen n) = m.units.isOpen n ∨
      (m.perform n c).2.units = m.units.erase n ∧ c.leavesOpen (m.units.isOpen n) = false ∨
      ∃ isOpen, c.leavesOpen (m.units.isOpen n) = isOpen ∧
        ((m.perform n c).2.units = m.units.put n isOpen ∨
          (m.perform n c).2.units = (m.units.erase n).put n isOpen) := by
  cases c with
  | fresh => exact .inr (.inr ⟨false, rfl, .inr (units_perform_of_replaces n .fresh rfl m)⟩)
  | begin => exact .inr (.inr ⟨true, rfl, .inr (units_perform_of_replaces n .begin rfl m)⟩)
  | create =>
    unfold perform
    dsimp only
    cases hopen : m.units.isOpen n with
    | true => exact .inl ⟨rfl, rfl⟩
    | false => exact .inr (.inr ⟨true, rfl, .inl rfl⟩)
  | findByLogin login => exact .inl ⟨by rw [perform_findByLogin], rfl⟩
  | findById id => exact .inl ⟨by rw [perform_findById], rfl⟩
  | commit => exact .inr (.inl ⟨units_commit n m, rfl⟩)
  | rollback => exact .inr (.inl ⟨units_abandon n m, rfl⟩)
  | abandon => exact .inr (.inl ⟨units_abandon n m, rfl⟩)

/-- Every number stands for one unit at most, and what was begun is open or was ended. -/
structure Balanced (m : Memory) : Prop where
  apart : (m.units.map Prod.fst).Nodup
  begun : m.counters.begun = m.counters.committed + m.counters.rolledBack + m.units.openCount

theorem Balanced.nodup_perform (h : m.Balanced) :
    ((m.perform n c).2.units.map Prod.fst).Nodup := by
  rcases units_perform_cases n c m with ⟨hsame, _⟩ | ⟨herased, _⟩ | ⟨isOpen, _, hput | hput⟩
  · rw [hsame]
    exact h.apart
  · rw [herased]
    exact Units.nodup_erase n h.apart
  · rw [hput]
    exact Units.nodup_put n h.apart isOpen
  · rw [hput]
    exact Units.nodup_put n (Units.nodup_erase n h.apart) isOpen

/-- The open units become more or fewer as the unit of the command is opened or ended. -/
theorem Balanced.openCount_perform (h : m.Balanced) :
    (m.perform n c).2.units.openCount + (m.units.isOpen n).toNat =
      m.units.openCount + (c.leavesOpen (m.units.isOpen n)).toNat := by
  rcases units_perform_cases n c m with ⟨hsame, hopen⟩ | ⟨herased, hopen⟩ | ⟨_, rfl, hput | hput⟩
  · rw [hsame, hopen]
  · rw [herased, hopen]
    exact (Units.openCount_erase n h.apart).symm
  · rw [hput]
    exact Units.openCount_put n h.apart _
  · have hadded := Units.openCount_put n (Units.nodup_erase n h.apart)
      (c.leavesOpen (m.units.isOpen n))
    have herased := Units.openCount_erase n h.apart
    rw [Units.isOpen_erase_self] at hadded
    rw [hput, herased]
    exact (congrArg (· + (m.units.isOpen n).toNat) hadded).trans (Nat.add_right_comm _ _ _)

/-- **A command keeps the balance.** -/
theorem Balanced.perform (h : m.Balanced) : (m.perform n c).2.Balanced where
  apart := h.nodup_perform n c
  begun := by
    have hbegun := h.begun
    have hopened := h.openCount_perform n c
    have hmoved := c.moves_balanced (m.units.isOpen n)
    rw [counters_perform]
    simp only [Counters.add_def]
    omega

end Memory

end SessionAuth.Users
