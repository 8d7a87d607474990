/-
Cutting at a mark.

A text is cut if and only if the mark occurs in it, and it is cut where the mark ends for
the first time (`cutAt?_eq_some_iff`).  A mark of several characters may begin in the first
side and end behind it; so the first side must be free of the mark together with all of the
mark but its last character.  A text that was put together with a mark of one character is
taken apart at the same place, provided that the mark does not stand in the side that is
looked at first.  A text that is split at every occurrence is put together from its fields again
(`splitAt_eq_iff`).
-/
import Mathlib.Data.List.Infix
import SessionAuth.Text.Cut

namespace SessionAuth.Text

/-! ### Marks of any length -/

section Marks

variable {mark text before after : List Char}

/-- What stands behind a beginning is the rest of the text. -/
theorem behind?_eq_some_iff : behind? mark text = some after ↔ mark ++ after = text := by
  refine ⟨append_of_behind?, ?_⟩
  rintro rfl
  exact behind?_append mark after

theorem behind?_eq_none_iff : behind? mark text = none ↔ ¬ mark <+: text := by
  rw [Option.eq_none_iff_forall_ne_some]
  simp only [ne_eq, behind?_eq_some_iff, List.IsPrefix, not_exists]

/-- A text is cut if and only if the mark occurs in it. -/
theorem cutAt?_eq_none_iff : cutAt? mark text = none ↔ ¬ mark <:+: text := by
  induction text with
  | nil =>
    rw [List.infix_nil]
    cases mark <;> simp [cutAt?]
  | cons c rest ih =>
    rw [List.infix_cons_iff, not_or, ← ih, ← behind?_eq_none_iff, cutAt?]
    cases behind? mark (c :: rest) <;> simp

/-- The first side and all of the mark but its last character begin the text. -/
theorem isPrefix_append_dropLast (mark before after : List Char) :
    before ++ mark.dropLast <+: before ++ mark ++ after := by
  have hmark : mark.dropLast <+: mark := List.dropLast_prefix mark
  rw [List.append_assoc, List.prefix_append_right_inj]
  exact hmark.trans (List.prefix_append mark after)

/-- Where the text begins with the mark, the mark ends for the first time behind nothing. -/
theorem eq_nil_of_prefix (hmark : mark ≠ []) (hbegins : mark <+: text)
    (htext : before ++ mark ++ after = text) (hfirst : ¬ mark <:+: before ++ mark.dropLast) :
    before = [] := by
  cases before with
  | nil => rfl
  | cons b bs =>
    refine absurd (List.IsPrefix.isInfix ?_) hfirst
    refine List.prefix_of_prefix_length_le hbegins ?_ ?_
    · rw [← htext]
      exact isPrefix_append_dropLast mark (b :: bs) after
    · have hpos := List.length_pos_iff.mpr hmark
      rw [List.length_append, List.length_cons, List.length_dropLast]
      omega

/--
A text is cut where the mark ends for the first time: the mark does not occur in the first
side and all of the mark but its last character.
-/
theorem cutAt?_eq_some_iff (hmark : mark ≠ []) :
    cutAt? mark text = some (before, after) ↔
      before ++ mark ++ after = text ∧ ¬ mark <:+: before ++ mark.dropLast := by
  induction text generalizing before with
  | nil => simp [cutAt?, hmark]
  | cons c rest ih =>
    rw [cutAt?]
    cases hbehind : behind? mark (c :: rest) with
    | some tail =>
      have htext : mark ++ tail = c :: rest := append_of_behind? hbehind
      dsimp only
      rw [Option.some.injEq, Prod.mk.injEq]
      constructor
      · rintro ⟨rfl, rfl⟩
        refine ⟨htext, fun hin => ?_⟩
        have hle := hin.length_le
        have hpos := List.length_pos_iff.mpr hmark
        rw [List.nil_append, List.length_dropLast] at hle
        omega
      · rintro ⟨hparts, hfirst⟩
        obtain rfl := eq_nil_of_prefix hmark ⟨tail, htext⟩ hparts hfirst
        exact ⟨rfl, List.append_cancel_left (htext.trans hparts.symm)⟩
    | none =>
      have hnot : ¬ mark <+: c :: rest := behind?_eq_none_iff.mp hbehind
      dsimp only
      rw [Option.map_eq_some_iff]
      constructor
      · rintro ⟨⟨before', after'⟩, hcut, heq⟩
        obtain ⟨rfl, rfl⟩ := Prod.mk.inj heq
        obtain ⟨rfl, hfirst⟩ := ih.mp hcut
        refine ⟨rfl, ?_⟩
        rw [List.cons_append, List.infix_cons_iff, not_or]
        refine ⟨fun hbegins => ?_, hfirst⟩
        exact hnot (hbegins.trans (isPrefix_append_dropLast mark (c :: before') after'))
      · rintro ⟨hparts, hfirst⟩
        cases before with
        | nil => exact absurd ⟨after, hparts⟩ hnot
        | cons b bs =>
          obtain ⟨rfl, hrest⟩ := List.cons.inj hparts
          rw [List.cons_append, List.infix_cons_iff, not_or] at hfirst
          exact ⟨(bs, after), ih.mpr ⟨hrest, hfirst.2⟩, rfl⟩

end Marks

/-! ### A single character -/

variable {mark : Char} {before after : List Char}

/-- A text is cut at the only place before which the mark does not stand. -/
theorem cutAt?_singleton_eq_some_iff {text : List Char} :
    cutAt? [mark] text = some (before, after) ↔ before ++ mark :: after = text ∧ mark ∉ before := by
  rw [cutAt?_eq_some_iff (List.cons_ne_nil mark []), List.append_assoc]
  show _ ∧ ¬ [mark] <:+: before ++ [] ↔ _
  rw [List.append_nil, List.singleton_infix_iff]
  rfl

/-- The first occurrence is where the mark was put, if it was not there before. -/
theorem cutAt?_append_cons (h : mark ∉ before) :
    cutAt? [mark] (before ++ mark :: after) = some (before, after) :=
  cutAt?_singleton_eq_some_iff.mpr ⟨rfl, h⟩

/-- The last occurrence is where the mark was put, if it does not come afterwards. -/
theorem cutAtLast?_append_cons (h : mark ∉ after) :
    cutAtLast? mark (before ++ mark :: after) = some (before, after) := by
  have hreverse : (before ++ mark :: after).reverse = after.reverse ++ mark :: before.reverse := by
    simp
  unfold cutAtLast?
  rw [hreverse, cutAt?_append_cons (by simpa using h)]
  simp

/-- A text tells at most one way of putting the last mark into it. -/
theorem append_cons_inj {before' after' : List Char} (h : mark ∉ after) (h' : mark ∉ after')
    (heq : before ++ mark :: after = before' ++ mark :: after') :
    before = before' ∧ after = after' := by
  have hcut : cutAtLast? mark (before ++ mark :: after) = some (before, after) :=
    cutAtLast?_append_cons h
  rw [heq, cutAtLast?_append_cons h'] at hcut
  simpa [eq_comm] using hcut

/-- Splitting is what the core library calls so. -/
theorem splitAt_eq_splitOn (mark : Char) (text : List Char) :
    splitAt mark text = text.splitOn mark := by
  unfold List.splitOn
  induction text with
  | nil => rfl
  | cons c rest ih =>
    rw [List.splitOnP_cons_eq_if_modifyHead, splitAt, ih]
    by_cases hc : c = mark
    · rw [if_pos hc, if_pos (beq_iff_eq.mpr hc)]
    · rw [if_neg hc, if_neg fun h => hc (beq_iff_eq.mp h)]
      cases hsplit : rest.splitOnP (· == mark) with
      | nil => exact absurd hsplit (List.splitOnP_ne_nil _ rest)
      | cons first others => rfl

theorem notMem_of_mem_splitAt {text field : List Char} (h : field ∈ splitAt mark text) :
    mark ∉ field := by
  induction text generalizing field with
  | nil => exact List.mem_singleton.mp h ▸ List.not_mem_nil
  | cons c rest ih =>
    rw [splitAt] at h
    split at h
    · rcases List.mem_cons.mp h with rfl | h
      · exact List.not_mem_nil
      · exact ih h
    · rename_i hc
      have hne : mark ≠ c := fun heq => hc heq.symm
      split at h
      · rw [List.mem_singleton.mp h]
        exact List.not_mem_cons_of_ne_of_not_mem hne List.not_mem_nil
      · rename_i first others hrest
        rw [hrest] at ih
        rcases List.mem_cons.mp h with rfl | h
        · exact List.not_mem_cons_of_ne_of_not_mem hne (ih List.mem_cons_self)
        · exact ih (List.mem_cons_of_mem _ h)

/-- A text is split into the fields that it is joined from, if the mark is in none of them. -/
theorem splitAt_eq_iff {text : List Char} {fields : List (List Char)} :
    splitAt mark text = fields ↔
      fields ≠ [] ∧ text = [mark].intercalate fields ∧ ∀ field ∈ fields, mark ∉ field := by
  constructor
  · rintro rfl
    refine ⟨?_, ?_, fun field => notMem_of_mem_splitAt⟩
    · rw [splitAt_eq_splitOn]
      exact List.splitOn_ne_nil mark text
    · rw [splitAt_eq_splitOn, List.intercalate_splitOn]
  · rintro ⟨hsome, rfl, hfields⟩
    rw [splitAt_eq_splitOn, List.splitOn_intercalate mark hfields hsome]

theorem eq_or_mem_of_mem_intercalate {c : Char} {fields : List (List Char)}
    (h : c ∈ [mark].intercalate fields) : c = mark ∨ ∃ field ∈ fields, c ∈ field := by
  induction fields with
  | nil => cases h
  | cons field fields ih =>
    cases fields with
    | nil =>
      rw [List.intercalate_singleton] at h
      exact .inr ⟨field, List.mem_cons_self, h⟩
    | cons next more =>
      rw [List.intercalate_cons_cons, List.mem_append, List.mem_append, List.mem_singleton] at h
      rcases h with (h | h) | h
      · exact .inr ⟨field, List.mem_cons_self, h⟩
      · exact .inl h
      · exact (ih h).imp_right fun ⟨f, hf, hc⟩ => ⟨f, List.mem_cons_of_mem _ hf, hc⟩

/-- Behind an empty field every other one has the mark in front. -/
theorem intercalate_nil_cons (mark : Char) (fields : List (List Char)) :
    [mark].intercalate ([] :: fields) = fields.flatMap (mark :: ·) := by
  induction fields with
  | nil => rfl
  | cons field fields ih =>
    have hfirst : [mark].intercalate (field :: fields) =
        field ++ [mark].intercalate ([] :: fields) := by
      cases fields with
      | nil => simp
      | cons next more => simp [List.intercalate_cons_cons]
    rw [List.intercalate_cons_cons, hfirst, ih]
    rfl

end SessionAuth.Text
