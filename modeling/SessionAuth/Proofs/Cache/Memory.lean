/-
What the commands make of a list in memory.

A list that has expired is still stored, so the table itself is not what a client sees.
What it sees is `live?`, and everything here is said about that: what each command
leaves at its own key, that it leaves the other keys alone, and that time only takes
away.  `values` is the part of it that the service reads.
-/
import SessionAuth.Cache.Memory

namespace SessionAuth.Cache

theorem nanosPerSecond_pos : 0 < nanosPerSecond := by decide

/-- Some seconds later it is later. -/
theorem lt_after (now : Instant) {seconds : Nat} (h : 1 ≤ seconds) :
    now.nanos < (after now seconds).nanos := by
  have hpos : 0 < (seconds : Int) * (nanosPerSecond : Int) :=
    Int.mul_pos (by omega) (by exact_mod_cast nanosPerSecond_pos)
  show now.nanos < now.nanos + seconds * nanosPerSecond
  omega

namespace Held

/-- A list that counts later counts now. -/
theorem isLive_mono {now later : Instant} (hle : now.nanos ≤ later.nanos) {h : Held}
    (hlive : h.isLive later = true) : h.isLive now = true := by
  unfold isLive at *
  split at hlive
  · rfl
  · simp only [decide_eq_true_eq] at hlive ⊢
    omega

/-- A list that was given some time counts at once. -/
theorem isLive_after {now : Instant} {values : List String} {seconds : Nat} (h : 1 ≤ seconds) :
    (Held.mk values (some (after now seconds))).isLive now = true :=
  decide_eq_true (lt_after now h)

end Held

namespace Memory

variable {m : Memory} {now later : Instant} {key other value : String} {seconds : Nat}

/-- Whatever is live counts at this instant. -/
theorem isLive_of_live? {held : Held} (h : m.live? now key = some held) :
    held.isLive now = true :=
  (Option.filter_eq_some_iff.mp h).2

/-- Time only takes away. -/
theorem live?_later (hle : now.nanos ≤ later.nanos) :
    m.live? later key = (m.live? now key).filter (Held.isLive later) := by
  unfold live?
  cases hget : m.lists.get? key with
  | none => rfl
  | some held =>
    simp only [Option.filter_some]
    by_cases hlater : held.isLive later = true
    · rw [if_pos hlater, if_pos (Held.isLive_mono hle hlater), Option.filter_some, if_pos hlater]
    · rw [if_neg hlater]
      split
      · rw [Option.filter_some, if_neg hlater]
      · rfl

/-! ### At the key of the command -/

/-- A list that something was pushed to stays as it is then until its time is over. -/
theorem live?_push_until (h : later.nanos < (after now seconds).nanos) :
    (m.push now key value (some seconds)).live? later key =
      some ⟨value :: m.values now key, some (after now seconds)⟩ := by
  have hvalues : ((m.live? now key).getD ⟨[], none⟩).values = m.values now key := by
    unfold values
    cases m.live? now key <;> rfl
  unfold push
  show ((m.lists.insert key _).get? key).filter _ = _
  rw [Table.get?_insert, if_pos rfl, Option.filter_some, hvalues]
  exact if_pos (decide_eq_true h)

theorem live?_push_self (h : 1 ≤ seconds) :
    (m.push now key value (some seconds)).live? now key =
      some ⟨value :: m.values now key, some (after now seconds)⟩ :=
  live?_push_until (lt_after now h)

theorem live?_remove_self :
    (m.remove now key value).2.live? now key = (m.live? now key).bind fun held =>
      if (held.values.filter (· != value)).isEmpty then none
      else some ⟨held.values.filter (· != value), held.expires⟩ := by
  unfold remove
  cases hlive : m.live? now key with
  | none =>
    show ((m.lists.erase key).get? key).filter _ = _
    rw [Table.get?_erase, if_pos rfl]
    rfl
  | some held =>
    simp only [Option.bind_some]
    split
    · show ((m.lists.erase key).get? key).filter _ = _
      rw [Table.get?_erase, if_pos rfl]
      rfl
    · show ((m.lists.insert key _).get? key).filter _ = _
      rw [Table.get?_insert, if_pos rfl, Option.filter_some]
      exact if_pos (isLive_of_live? hlive)

theorem live?_erase_self : (Memory.mk (m.lists.erase key)).live? now key = none := by
  show ((m.lists.erase key).get? key).filter _ = _
  rw [Table.get?_erase, if_pos rfl]
  rfl

/-! ### At other keys -/

theorem live?_push_ne {ttl : Option Nat} (h : other ≠ key) :
    (m.push now key value ttl).live? now other = m.live? now other := by
  unfold push live?
  simp only [Table.get?_insert, if_neg h]

theorem live?_remove_ne (h : other ≠ key) :
    (m.remove now key value).2.live? now other = m.live? now other := by
  unfold remove
  split
  · unfold live?
    simp only [Table.get?_erase, if_neg h]
  · unfold live?
    simp only
    split
    · rw [Table.get?_erase, if_neg h]
    · rw [Table.get?_insert, if_neg h]

theorem live?_erase_ne (h : other ≠ key) :
    (Memory.mk (m.lists.erase key)).live? now other = m.live? now other := by
  unfold live?
  simp only [Table.get?_erase, if_neg h]

/-! ### The values -/

theorem values_push_until (h : later.nanos < (after now seconds).nanos) :
    (m.push now key value (some seconds)).values later key = value :: m.values now key := by
  conv => lhs; unfold values
  rw [live?_push_until h]
  rfl

theorem values_push_self (h : 1 ≤ seconds) :
    (m.push now key value (some seconds)).values now key = value :: m.values now key :=
  values_push_until (lt_after now h)

theorem values_remove_self :
    (m.remove now key value).2.values now key = (m.values now key).filter (· != value) := by
  unfold values
  rw [live?_remove_self]
  cases m.live? now key with
  | none => rfl
  | some held =>
    simp only [Option.bind_some, Option.map_some, Option.getD_some]
    split
    · rename_i hempty
      exact (List.isEmpty_iff.mp hempty).symm
    · rfl

/-- A removal says whether the value was there. -/
theorem remove_fst : (m.remove now key value).1 = decide (value ∈ m.values now key) := by
  unfold remove values
  cases m.live? now key with
  | none => simp
  | some held =>
    simp only [Option.map_some, Option.getD_some, decide_eq_decide]
    rw [List.length_filter_lt_length_iff_exists]
    simp

theorem values_erase_self : (Memory.mk (m.lists.erase key)).values now key = [] := by
  unfold values
  rw [live?_erase_self]
  rfl

theorem values_later (hle : now.nanos ≤ later.nanos) :
    m.values later key = m.values now key ∨ m.values later key = [] := by
  unfold values
  rw [live?_later hle]
  cases m.live? now key with
  | none => exact Or.inl rfl
  | some held =>
    rw [Option.filter_some]
    split
    · exact Or.inl rfl
    · exact Or.inr rfl

/-- What stays live stays as it is. -/
theorem values_later_of_isLive (hle : now.nanos ≤ later.nanos)
    (h : ∀ held, m.live? now key = some held → held.isLive later = true) :
    m.values later key = m.values now key := by
  unfold values
  rw [live?_later hle]
  cases hlive : m.live? now key with
  | none => rfl
  | some held => rw [Option.filter_some, if_pos (h held hlive)]

/-! ### What is stored

Here the lists that have expired and still lie in the table are counted as well.
-/

/-- A command leaves what is stored at other keys. -/
theorem get?_perform_ne {c : Command} (h : key ≠ c.key) :
    (perform now c m).2.lists.get? key = m.lists.get? key := by
  cases c with
  | get k => rfl
  | push k value ttl => exact if_neg h
  | remove k value =>
    show (m.remove now k value).2.lists.get? key = _
    unfold remove
    split
    · exact if_neg h
    · dsimp only
      split
      · exact if_neg h
      · exact if_neg h
  | delete k => exact if_neg h

/-- Behind what was pushed stands what was stored before. -/
theorem stored_push {held : Held}
    (h : (m.push now key value (some seconds)).lists.get? key = some held) :
    held.expires = some (after now seconds) ∧ ∀ raw ∈ held.values,
      raw = value ∨ ∃ before, m.lists.get? key = some before ∧ raw ∈ before.values := by
  unfold push at h
  dsimp only at h
  rw [Table.get?_insert, if_pos rfl] at h
  cases h
  refine ⟨rfl, ?_⟩
  intro raw hraw
  rcases List.mem_cons.mp hraw with hnew | hold
  · exact Or.inl hnew
  · right
    cases hlive : m.live? now key with
    | none =>
      rw [hlive] at hold
      cases hold
    | some before =>
      rw [hlive] at hold
      exact ⟨before, (Option.filter_eq_some_iff.mp hlive).1, hold⟩

/-- A command that pushes nothing adds nothing to what is stored and leaves its expiry. -/
theorem stored_perform {c : Command} {held : Held} (hpush : ∀ k value ttl, c ≠ .push k value ttl)
    (h : (perform now c m).2.lists.get? key = some held) :
    ∃ before, m.lists.get? key = some before ∧ held.expires = before.expires ∧
      held.values ⊆ before.values := by
  by_cases hkey : key = c.key
  · cases c with
    | get k => exact ⟨held, h, rfl, List.Subset.refl _⟩
    | push k value ttl => exact absurd rfl (hpush k value ttl)
    | remove k value =>
      obtain rfl : key = k := hkey
      change (m.remove now key value).2.lists.get? key = some held at h
      unfold remove at h
      split at h
      · rw [Table.get?_erase, if_pos rfl] at h
        cases h
      · rename_i before hlive
        dsimp only at h
        split at h
        · rw [Table.get?_erase, if_pos rfl] at h
          cases h
        · rw [Table.get?_insert, if_pos rfl] at h
          cases h
          exact ⟨before, (Option.filter_eq_some_iff.mp hlive).1, rfl,
            fun raw hraw => (List.mem_filter.mp hraw).1⟩
    | delete k =>
      obtain rfl : key = k := hkey
      change (m.lists.erase key).get? key = some held at h
      rw [Table.get?_erase, if_pos rfl] at h
      cases h
  · rw [get?_perform_ne hkey] at h
    exact ⟨held, h, rfl, List.Subset.refl _⟩

end Memory

end SessionAuth.Cache
