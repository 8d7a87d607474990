/-
What the commands make of a unit of work in memory.

No command changes who the users are, and a command to one unit leaves the transactions
of all others alone.  So whoever has begun a unit of work can look users up until it
ends it, whatever others do meanwhile.
-/
import SessionAuth.Users.Memory

namespace SessionAuth.Users

/-- Whether the transaction of a unit is open after a command to it, if it was so before. -/
def Command.leavesOpen (before : Bool) : Command → Bool
  | begin | create => true
  | findByLogin _ | findById _ => before
  | fresh | commit | rollback | abandon => false

namespace Units

variable {us : Units} {unit other : Nat} {isOpen : Bool}

@[simp] theorem isOpen_erase_self : Units.isOpen (us.erase unit) unit = false := by
  have hnone : (us.erase unit).lookup unit = none := by
    rw [List.lookup_eq_none_iff]
    intro u hu
    have hne : u.1 ≠ unit := bne_iff_ne.mp (List.mem_filter.mp hu).2
    exact bne_iff_ne.mpr hne.symm
  unfold Units.isOpen isOpen?
  rw [hnone]
  rfl

theorem isOpen_erase_ne (h : other ≠ unit) :
    Units.isOpen (us.erase unit) other = Units.isOpen us other := by
  have hsame : (us.erase unit).lookup other = us.lookup other := by
    induction us with
    | nil => rfl
    | cons u us ih =>
      obtain ⟨k, b⟩ := u
      unfold erase at ih ⊢
      by_cases hk : k = unit
      · have hko : (other == k) = false := by simpa [hk] using h
        rw [List.filter_cons_of_neg (by simp [hk]), List.lookup_cons, hko]
        exact ih
      · rw [List.filter_cons_of_pos (by simpa using hk), List.lookup_cons, List.lookup_cons, ih]
  unfold Units.isOpen isOpen?
  rw [hsame]

@[simp] theorem isOpen_put_self : Units.isOpen (us.put unit isOpen) unit = isOpen := by
  unfold Units.isOpen isOpen? put
  rw [List.lookup_cons_self]
  rfl

theorem isOpen_put_ne (h : other ≠ unit) :
    Units.isOpen (us.put unit isOpen) other = Units.isOpen us other := by
  have hne : (other == unit) = false := by simpa using h
  have hput : Units.isOpen (us.put unit isOpen) other = Units.isOpen (us.erase unit) other := by
    unfold Units.isOpen isOpen? put
    rw [List.lookup_cons, hne]
  rw [hput, isOpen_erase_ne h]

end Units

namespace Memory

variable (unit : Nat) (c : Command) (m : Memory)

theorem users_abandon : (m.abandon unit).users = m.users := by
  unfold abandon
  dsimp only
  split <;> rfl

theorem users_commit : (m.commit unit).users = m.users := by
  unfold commit
  dsimp only
  split <;> rfl

theorem users_replace (isOpen : Bool) : (m.replace unit isOpen).users = m.users :=
  users_abandon unit m

theorem units_abandon : (m.abandon unit).units = m.units.erase unit := by
  unfold abandon
  dsimp only
  split <;> rfl

theorem units_commit : (m.commit unit).units = m.units.erase unit := by
  unfold commit
  dsimp only
  split <;> rfl

theorem units_replace (isOpen : Bool) :
    (m.replace unit isOpen).units = (m.units.erase unit).put unit isOpen :=
  congrArg (Units.put · unit isOpen) (units_abandon unit m)

/-- Looking a user up changes nothing. -/
theorem perform_findByLogin (login : String) : (m.perform unit (.findByLogin login)).2 = m := by
  unfold perform
  dsimp only
  split <;> rfl

theorem perform_findById (id : UserId) : (m.perform unit (.findById id)).2 = m := by
  unfold perform
  dsimp only
  split <;> rfl

/-- The users stay who they are. -/
theorem users_perform : (m.perform unit c).2.users = m.users := by
  cases c with
  | fresh => exact users_replace unit m false
  | begin => exact users_replace unit m.countBegin true
  | create =>
    unfold perform
    dsimp only
    split <;> rfl
  | findByLogin login => rw [perform_findByLogin]
  | findById id => rw [perform_findById]
  | commit => exact users_commit unit m
  | rollback => exact users_abandon unit m
  | abandon => exact users_abandon unit m

/-- A command opens and ends the transaction of its unit. -/
theorem isOpen_perform_self :
    (m.perform unit c).2.units.isOpen unit = c.leavesOpen (m.units.isOpen unit) := by
  cases c with
  | fresh =>
    show Units.isOpen (m.replace unit false).units unit = false
    rw [units_replace, Units.isOpen_put_self]
  | begin =>
    show Units.isOpen (m.countBegin.replace unit true).units unit = true
    rw [units_replace, Units.isOpen_put_self]
  | create =>
    unfold perform
    dsimp only
    split
    · assumption
    · exact Units.isOpen_put_self
  | findByLogin login =>
    rw [perform_findByLogin]
    rfl
  | findById id =>
    rw [perform_findById]
    rfl
  | commit =>
    show Units.isOpen (m.commit unit).units unit = false
    rw [units_commit, Units.isOpen_erase_self]
  | rollback | abandon =>
    show Units.isOpen (m.abandon unit).units unit = false
    rw [units_abandon, Units.isOpen_erase_self]

/-- The transactions of other units stay as they are. -/
theorem isOpen_perform_ne {other : Nat} (h : other ≠ unit) :
    (m.perform unit c).2.units.isOpen other = m.units.isOpen other := by
  have hreplace : ∀ (m : Memory) (isOpen : Bool),
      (m.replace unit isOpen).units.isOpen other = m.units.isOpen other := by
    intro m isOpen
    rw [units_replace, Units.isOpen_put_ne h, Units.isOpen_erase_ne h]
  cases c with
  | fresh => exact hreplace m false
  | begin => exact hreplace m.countBegin true
  | create =>
    unfold perform
    dsimp only
    split
    · rfl
    · exact Units.isOpen_put_ne h
  | findByLogin login => rw [perform_findByLogin]
  | findById id => rw [perform_findById]
  | commit =>
    show Units.isOpen (m.commit unit).units other = _
    rw [units_commit, Units.isOpen_erase_ne h]
  | rollback | abandon =>
    show Units.isOpen (m.abandon unit).units other = _
    rw [units_abandon, Units.isOpen_erase_ne h]

/-- A reply depends on who the users are, and on the transaction of the unit. -/
theorem perform_congr {m' : Memory} (h : m'.users = m.users)
    (hopen : m'.units.isOpen unit = m.units.isOpen unit) :
    (m'.perform unit c).1 = (m.perform unit c).1 := by
  cases c with
  | create =>
    unfold perform
    dsimp only
    split <;> split <;> rfl
  | findByLogin login =>
    unfold perform
    dsimp only
    rw [h, hopen]
    split <;> rfl
  | findById id =>
    unfold perform
    dsimp only
    rw [h, hopen]
    split <;> rfl
  | fresh | begin | commit | rollback | abandon => rfl

/-- Whoever is found is the first such user. -/
theorem find?_of_findById {id : UserId} {user : User}
    (h : (m.perform unit (.findById id)).1 = .ok (some user)) :
    m.users.find? (·.id == id) = some user := by
  unfold perform at h
  dsimp only at h
  split at h
  · exact Except.ok.inj h
  · cases h

theorem find?_of_findByLogin {login : String} {user : User}
    (h : (m.perform unit (.findByLogin login)).1 = .ok (some user)) :
    m.users.find? (·.hasLogin login) = some user := by
  unfold perform at h
  dsimp only at h
  split at h
  · exact Except.ok.inj h
  · cases h

/-! ### How transactions begin and end -/

variable {unit m}

theorem counters_begin (h : m.units.isOpen unit = false) : (m.perform unit .begin).2.counters =
    { m.counters with begun := m.counters.begun + 1 } := by
  have hclosed : m.countBegin.units.isOpen unit = false := h
  show (m.countBegin.abandon unit).counters = _
  unfold abandon
  rw [hclosed]
  rfl

theorem counters_commit (h : m.units.isOpen unit = true) : (m.perform unit .commit).2.counters =
    { m.counters with committed := m.counters.committed + 1 } := by
  show (m.commit unit).counters = _
  unfold commit
  rw [h]
  rfl

theorem counters_rollback (h : m.units.isOpen unit = true) : (m.perform unit .rollback).2.counters =
    { m.counters with rolledBack := m.counters.rolledBack + 1 } := by
  show (m.abandon unit).counters = _
  unfold abandon
  rw [h]
  rfl

/-- In an open transaction whoever is in the table is found. -/
theorem find_of_isOpen (h : m.units.isOpen unit = true) :
    (∀ login, (m.perform unit (.findByLogin login)).1 = .ok (m.users.find? (·.hasLogin login))) ∧
      ∀ id, (m.perform unit (.findById id)).1 = .ok (m.users.find? (·.id == id)) := by
  unfold perform
  dsimp only
  rw [h]
  exact ⟨fun login => rfl, fun id => rfl⟩

/-- A look-up in an open transaction is answered. -/
theorem exists_ok_of_isOpen (h : m.units.isOpen unit = true) :
    (∀ login, ∃ found, (m.perform unit (.findByLogin login)).1 = .ok found) ∧
      ∀ id, ∃ found, (m.perform unit (.findById id)).1 = .ok found :=
  ⟨fun login => ⟨_, (find_of_isOpen h).1 login⟩, fun id => ⟨_, (find_of_isOpen h).2 id⟩⟩

end Memory

end SessionAuth.Users
