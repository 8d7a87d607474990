/-
Losing the way in a text, and keeping it.

A reader that goes on where another one has stopped may believe to be between two members of an
object while the outline of the text says that it is deeper down, or inside of a string.  Belief
and outline never meet again from there: deeper down the last bracket is not the one that the
reader takes it for, and what is a string for one of them is none for the other.

If the outline agrees with the belief, then the place at which the next member begins is the
only one.
-/
import SessionAuth.Proofs.Json.Members

namespace SessionAuth.Json

open Place

variable {α : Type} {r : Reader α} {p q t : Place} {bytes rest : Bytes} {b : UInt8} {d : Nat}

/-! ### Parts of values -/

/-- What has been taken is a value or a part of one. -/
def Within (bytes rest : Bytes) : Prop :=
  ∃ taken, bytes = taken ++ rest ∧ ∀ d, Stays d (outside d) taken

theorem Within.of_leads {middle : Bytes} (h : ∀ d, Leads (outside d) bytes middle (outside d))
    (hmore : Within middle rest) : Within bytes rest := by
  obtain ⟨second, rfl, hstays⟩ := hmore
  obtain ⟨first, rfl, _⟩ := h 0
  refine ⟨first ++ second, (List.append_assoc ..).symm, fun d => ?_⟩
  obtain ⟨first', hsame, hwalk⟩ := h d
  cases List.append_cancel_right hsame
  exact Stays.of_walk hwalk (hstays d)

theorem Within.refl (bytes : Bytes) : Within bytes bytes :=
  ⟨[], rfl, fun _ => stays_nil (Nat.le_refl _)⟩

theorem SpansValue.within {a : α} (h : SpansValue r) (hread : r bytes = .ok (a, rest)) :
    Within bytes rest :=
  Within.of_leads (fun d => h d bytes a rest hread) (Within.refl rest)

/-- A reader that is tried takes a value, or a part of one. -/
theorem within_of_attempt {a : Option α} (h : ∀ d, Traces d r (outside d) bytes (outside d))
    (hread : Reader.attempt r bytes = .ok (a, rest)) : Within bytes rest := by
  unfold Reader.attempt at hread
  unfold Traces at h
  cases hr : r bytes with
  | ok taken =>
    rw [hr] at hread h
    cases hread
    exact Within.of_leads h (Within.refl _)
  | error s =>
    rw [hr] at hread h
    cases hread
    obtain ⟨first, rfl, _⟩ := h 0
    refine ⟨first, rfl, fun d => ?_⟩
    obtain ⟨first', hsame, hstays⟩ := h d
    cases List.append_cancel_right hsame
    exact hstays

/-! ### Where a member ends -/

/-- The bytes behind a member. -/
def Delimits (b : UInt8) : Prop := b = code ',' ∨ b = code '\x7d'

/-- The members go on, or they end. -/
def Delimited (bytes : Bytes) : Prop :=
  ∃ b after, bytes.dropWhile isSpace = b :: after ∧ Delimits b

theorem delimited_of_members {σ : Type} {fields : List (Field σ)} {fuel : Nat} {draft draft' : σ}
    (h : members fields fuel false draft bytes = .ok (draft', rest)) : Delimited bytes := by
  cases fuel with
  | zero => cases h
  | succ fuel =>
    rcases members_eq_ok h with ⟨hend, _⟩ | ⟨_, _, _, _, _, _, hmore, _⟩
    · rcases hasMember_false hend with ⟨after, _, hbytes, hrest⟩ | ⟨_, hmore, _⟩
      · exact ⟨_, after, hbytes.trans hrest, Or.inr rfl⟩
      · cases hmore
    · rcases hasMember_false hmore with ⟨_, hmore, _⟩ | ⟨after, _, hbytes, _⟩
      · cases hmore
      · exact ⟨_, after, hbytes, Or.inl rfl⟩

/-- No bracket is open outside of strings: no member can end there. -/
theorem step_of_delimits (h : Delimits b) : (outside 0).step b = none := by
  rcases h with rfl | rfl <;> rfl

/-- A value ends in one place only. -/
theorem dropWhile_unique {next next' : Bytes} (h : Leads (outside 0) bytes next (outside 0))
    (h' : Leads (outside 0) bytes next' (outside 0)) (hend : Delimited next)
    (hend' : Delimited next') : next.dropWhile isSpace = next'.dropWhile isSpace := by
  -- The bytes between the two ends can only be spaces.
  have hbetween : ∀ (middle next : Bytes), walk (outside 0) middle = some (outside 0) →
      Delimited (middle ++ next) →
      (middle ++ next).dropWhile isSpace = next.dropWhile isSpace := by
    intro middle next hwalk hends
    induction middle with
    | nil => rfl
    | cons b middle ih =>
      by_cases hspace : isSpace b = true
      · rw [walk_cons, step_outside_space hspace] at hwalk
        rw [List.cons_append, List.dropWhile_cons_of_pos hspace]
        refine ih hwalk ?_
        unfold Delimited at hends ⊢
        rwa [List.cons_append, List.dropWhile_cons_of_pos hspace] at hends
      · obtain ⟨b', after, hbytes, hdelimits⟩ := hends
        rw [List.cons_append, List.dropWhile_cons_of_neg hspace] at hbytes
        cases hbytes
        rw [walk_cons, step_of_delimits hdelimits] at hwalk
        cases hwalk
  obtain ⟨first, rfl, hfirst⟩ := h
  obtain ⟨first', hsame, hfirst'⟩ := h'
  rcases List.append_eq_append_iff.mp hsame with ⟨middle, rfl, rfl⟩ | ⟨middle, rfl, rfl⟩
  · rw [walk_append, hfirst] at hfirst'
    exact hbetween middle next' hfirst' hend
  · rw [walk_append, hfirst'] at hfirst
    exact (hbetween middle next hfirst hend').symm

/-! ### Losing the way -/

/-- The outline is not where a reader believes to be that is between two members. -/
def Astray (p : Place) : Prop := p ≠ outside 0 ∧ p ≠ outside 1

theorem astray_raise (h : p ≠ outside 0) : Astray p.raise := by
  refine ⟨fun heq => ?_, fun heq => h (raise_injective heq)⟩
  have hdepth : p.depth + 1 = 0 := by rw [← depth_raise, heq]; rfl
  omega

/-- Words and exponents must have come to their end before a member ends. -/
theorem outside_or_inside (h : p.step b = some q) (hb : isSpace b = true ∨ Delimits b) :
    (∃ d, p = outside d) ∨ ∃ d, (p = inside d ∨ p = escaped d) ∧ q = inside d := by
  have hvalues : b = 0x20 ∨ b = 0x0a ∨ b = 0x09 ∨ b = 0x0d ∨ b = code ',' ∨ b = code '\x7d' := by
    simp only [isSpace, Bool.or_eq_true, beq_iff_eq, Delimits] at hb
    tauto
  have hword : ∀ c : Char, c.isLower = true → b ≠ code c := by
    intro c hc
    refine ne_code_of_isLower hc ?_
    rcases hvalues with rfl | rfl | rfl | rfl | rfl | rfl <;> decide
  cases p with
  | outside d => exact Or.inl ⟨d, rfl⟩
  | inside d =>
    refine Or.inr ⟨d, Or.inl rfl, ?_⟩
    have hstep : (inside d).step b = some (inside d) := by
      refine step_inside ?_ ?_ <;> rcases hvalues with h | h | h | h | h | h <;> rw [h] <;> decide
    rw [hstep] at h
    exact (Option.some.inj h).symm
  | escaped d => exact Or.inr ⟨d, Or.inr rfl, (Option.some.inj h).symm⟩
  | word d left =>
    rcases left with _ | ⟨c, _ | ⟨c', left⟩⟩
    · cases h
    all_goals
      simp only [Place.step] at h
      split at h
      · rename_i hc
        exact absurd hc.1 (hword c hc.2)
      · cases h
  | exponent d signed =>
    simp only [Place.step] at h
    have hnone : ¬ isDigit b = true ∧ ¬ (b = code '+' ∨ b = code '-') := by
      rcases hvalues with h | h | h | h | h | h <;> rw [h] <;> decide
    rw [if_neg hnone.1, if_neg fun h => hnone.2 h.1] at h
    cases h

/-- From a place in a string spaces lead to a place in the same string. -/
theorem walk_spaces_inside (h : ∀ b ∈ bytes, isSpace b = true) :
    walk (inside d) bytes = some (inside d) := by
  refine walk_of_steady fun b hb => step_inside ?_ ?_ <;> rintro rfl <;>
    exact absurd (h _ hb) (by decide)

theorem closes_inside_dropWhile (h : Closes (inside d) bytes) :
    Closes (inside d) (bytes.dropWhile isSpace) := by
  obtain ⟨spaces, hbytes, hspaces⟩ := dropWhile_isSpace bytes
  exact h.later ⟨spaces, hbytes, walk_spaces_inside hspaces⟩

/-- Where a member ends the outline is outside of strings, or it is in a string behind the end. -/
theorem closes_of_delimits {after : Bytes} (h : Closes p bytes)
    (hbytes : bytes.dropWhile isSpace = b :: after) (hb : Delimits b) :
    (∃ d, p = outside d ∧ Closes (outside d) (b :: after)) ∨ ∃ d, Closes (inside d) after := by
  -- One byte behind a place in a string, there is the same string or the end has been passed.
  have hinside : ∀ d, Closes (inside d) (b :: after) → Closes (inside d) after := by
    intro d h
    refine h.later (Leads.step (step_inside ?_ ?_) after) <;> rcases hb with rfl | rfl <;> decide
  cases bytes with
  | nil => cases hbytes
  | cons first more =>
    have hfirst : isSpace first = true ∨ Delimits first := by
      by_cases hspace : isSpace first = true
      · exact Or.inl hspace
      · rw [List.dropWhile_cons_of_neg hspace] at hbytes
        cases hbytes
        exact Or.inr hb
    obtain ⟨q, hstep, hclose⟩ := walk_cons_eq_some.mp h
    rcases outside_or_inside hstep hfirst with ⟨d, rfl⟩ | ⟨d, _, rfl⟩
    · refine Or.inl ⟨d, rfl, hbytes ▸ ?_⟩
      exact h.later (leads_dropWhile d (first :: more))
    · refine Or.inr ⟨d, ?_⟩
      by_cases hspace : isSpace first = true
      · rw [List.dropWhile_cons_of_pos hspace] at hbytes
        exact hinside d (hbytes ▸ closes_inside_dropWhile hclose)
      · rw [List.dropWhile_cons_of_neg hspace] at hbytes
        cases hbytes
        exact hclose

/-- Who has lost the way does not find the end of the text. -/
theorem not_endsObject (hastray : Astray p) (h : Closes p bytes) : ¬ EndsObject bytes := by
  rintro ⟨after, hbytes, hspaces⟩
  rcases closes_of_delimits h hbytes (Or.inr rfl) with ⟨d, rfl, hclose⟩ | ⟨d, hclose⟩
  · match d, hastray with
    | 0, hastray => exact hastray.1 rfl
    | 1, hastray => exact hastray.2 rfl
    | d + 2, _ =>
      have hafter : Closes (outside (d + 1)) after := hclose.later (Leads.step rfl after)
      unfold Closes at hafter
      rw [walk_spaces_outside hspaces] at hafter
      cases hafter
  · unfold Closes at hclose
    rw [walk_spaces_inside hspaces] at hclose
    cases hclose

/-- What has been taken of a value deeper down leads no higher up. -/
theorem Within.astray (h : Within bytes rest) (hd : 2 ≤ d) (hclose : Closes (outside d) bytes) :
    ∃ q, Astray q ∧ Closes q rest := by
  obtain ⟨taken, rfl, hstays⟩ := h
  obtain ⟨q, hwalk, hclose⟩ := walk_append_eq_some.mp hclose
  obtain ⟨k, rfl⟩ : ∃ k, d = k + 1 := ⟨d - 1, by omega⟩
  obtain ⟨t, ht, hle⟩ := hstays k q hwalk
  rw [show outside (k + 1) = (outside k).raise from rfl, walk_raise ht] at hwalk
  cases hwalk
  have hdeep : t ≠ outside 0 := by
    rintro rfl
    exact absurd hle (by simp only [depth]; omega)
  exact ⟨t.raise, astray_raise hdeep, hclose⟩

/-- What has been taken of a value ends where the value ends, or the reader has lost its way. -/
theorem Within.ends_or_astray (h : Within bytes rest) (hclose : Closes (outside 1) bytes) :
    Leads (outside 0) bytes rest (outside 0) ∨ ∃ q, Astray q ∧ Closes q rest := by
  obtain ⟨taken, rfl, hstays⟩ := h
  obtain ⟨q, hwalk, hclose⟩ := walk_append_eq_some.mp hclose
  obtain ⟨t, ht, _⟩ := hstays 0 q hwalk
  rw [show outside 1 = (outside 0).raise from rfl, walk_raise ht] at hwalk
  cases hwalk
  by_cases hsame : t = outside 0
  · subst hsame
    exact Or.inl ⟨taken, rfl, ht⟩
  · exact Or.inr ⟨t.raise, astray_raise hsame, hclose⟩

/-! ### Keys -/

/-- A string that can be gone through as if it were none stands there as it is. -/
theorem stringBytes_of_isOut (hp : p.IsOut) (h : Closes p bytes) {fuel : Nat} {done value : Bytes}
    (hread : stringBytes fuel done bytes = .ok (value, rest)) :
    ∃ plain q, value = done.reverse ++ plain ∧ walk p plain = some q := by
  induction fuel generalizing p bytes done with
  | zero => cases hread
  | succ fuel ih =>
    unfold stringBytes at hread
    cases bytes with
    | nil => cases hread
    | cons b after =>
      obtain ⟨q, hstep, hclose⟩ := walk_cons_eq_some.mp h
      change (if b = code '"' then pure done.reverse else if b = code '\\' then
        (escapeSequence >>= fun bytes => stringBytes fuel (bytes.reverse ++ done)) else
        if b < 0x20 then Reader.stop .malformed else stringBytes fuel (b :: done)
        : Reader Bytes) after = _ at hread
      rcases isOut_step hp hstep with ⟨rfl, _⟩ | ⟨hquote, hbackslash, hq⟩
      · cases hread
        exact ⟨[], p, by simp, rfl⟩
      · rw [if_neg hquote, if_neg hbackslash] at hread
        split at hread
        · cases hread
        · obtain ⟨plain, t, rfl, hwalk⟩ := ih hq hclose hread
          exact ⟨b :: plain, t, by simp, walk_cons_eq_some.mpr ⟨q, hstep, hwalk⟩⟩

/-- The same for the text of the string. -/
theorem walk_of_stringBody (hp : p.IsOut) (h : Closes p bytes) {key : String}
    (hread : stringBody bytes = .ok (key, rest)) : ∃ q, walk p (Bytes.ofText key) = some q := by
  unfold stringBody at hread
  obtain ⟨_, _, hrest, hread⟩ := bind_eq_ok hread
  cases hrest
  obtain ⟨value, middle, hvalue, hread⟩ := bind_eq_ok hread
  obtain ⟨plain, q, hplain, hwalk⟩ := stringBytes_of_isOut hp h hvalue
  cases htext : Bytes.toText? value with
  | some text =>
    simp only [htext] at hread
    cases hread
    exact ⟨q, by rw [Bytes.ofText_of_toText? htext, hplain]; exact hwalk⟩
  | none => simp only [htext] at hread; cases hread

end SessionAuth.Json
