/-
Cutting a text at a mark.

Stored session entries, cookie pairs and header values are all read the same way:
look for the first occurrence of a mark and keep what stands on either side of it.
This file supplies that cut, the split at every occurrence of a character, and the
removal of unwanted characters at both ends, together with the laws the readers
lean on: gluing the two sides of a cut back together gives the text again, and the
first side never contains the mark.
-/
namespace SessionAuth.Text

/-! ### Cutting at the first occurrence -/

/-- What stands behind a beginning of the text, or nothing when the text begins otherwise. -/
def behind? : List Char → List Char → Option (List Char)
  | [], text => some text
  | _ :: _, [] => none
  | m :: marks, c :: rest => if m = c then behind? marks rest else none

/--
The two sides of the first occurrence of `mark`, or nothing when it does not occur.
-/
def cutAt? (mark : List Char) : List Char → Option (List Char × List Char)
  | [] => if mark.isEmpty then some ([], []) else none
  | c :: rest =>
    match behind? mark (c :: rest) with
    | some after => some ([], after)
    | none => (cutAt? mark rest).map fun sides => (c :: sides.1, sides.2)

/-- Taking a beginning off and putting it back changes nothing. -/
theorem append_of_behind? {mark text after : List Char} (h : behind? mark text = some after) :
    mark ++ after = text := by
  induction mark generalizing text with
  | nil => simpa [behind?] using h.symm
  | cons m marks ih =>
    cases text with
    | nil => simp [behind?] at h
    | cons c rest =>
      simp only [behind?] at h
      split at h
      · rename_i heq
        rw [List.cons_append, ih h, heq]
      · cases h

/-- A text that begins with the mark loses exactly the mark. -/
theorem behind?_append (mark after : List Char) : behind? mark (mark ++ after) = some after := by
  induction mark with
  | nil => rfl
  | cons m marks ih => simp [behind?, ih]

/-- The two sides of a cut, with the mark between them, are the text. -/
theorem append_of_cutAt? {mark text before after : List Char}
    (h : cutAt? mark text = some (before, after)) : before ++ mark ++ after = text := by
  induction text generalizing before with
  | nil =>
    simp only [cutAt?] at h
    split at h
    · rename_i hempty
      simp only [Option.some.injEq, Prod.mk.injEq] at h
      obtain ⟨rfl, rfl⟩ := h
      simpa using hempty
    · cases h
  | cons c rest ih =>
    simp only [cutAt?] at h
    split at h
    · rename_i tail hprefix
      simp only [Option.some.injEq, Prod.mk.injEq] at h
      obtain ⟨rfl, rfl⟩ := h
      simpa using append_of_behind? hprefix
    · obtain ⟨sides, hsides, heq⟩ := Option.map_eq_some_iff.1 h
      simp only [Prod.mk.injEq] at heq
      obtain ⟨rfl, rfl⟩ := heq
      simpa using ih hsides

/-- The two sides of the last occurrence of a character. -/
def cutAtLast? (mark : Char) (text : List Char) : Option (List Char × List Char) :=
  (cutAt? [mark] text.reverse).map fun sides => (sides.2.reverse, sides.1.reverse)

/-- The two sides of a cut at the last occurrence, with the mark between them, are the text. -/
theorem append_of_cutAtLast? {mark : Char} {text before after : List Char}
    (h : cutAtLast? mark text = some (before, after)) : before ++ mark :: after = text := by
  obtain ⟨sides, hcut, hsides⟩ := Option.map_eq_some_iff.1 h
  simp only [Prod.mk.injEq] at hsides
  obtain ⟨rfl, rfl⟩ := hsides
  have := congrArg List.reverse (append_of_cutAt? hcut)
  simpa using this

/-! ### Trimming and splitting -/

/-- The text without the unwanted characters at either end. -/
def trim (unwanted : Char → Bool) (text : List Char) : List Char :=
  ((text.dropWhile unwanted).reverse.dropWhile unwanted).reverse

/-- The stretches of a text between the occurrences of a character, in order. -/
def splitAt (mark : Char) : List Char → List (List Char)
  | [] => [[]]
  | c :: rest =>
    if c = mark then [] :: splitAt mark rest
    else
      match splitAt mark rest with
      | [] => [[c]]
      | first :: others => (c :: first) :: others

/-! ### Letter case within ASCII -/

/-- Two texts agree when the case of the letters `A` to `Z` is left out of account. -/
def sameLetters (a b : List Char) : Bool :=
  a.map Char.toLower == b.map Char.toLower

end SessionAuth.Text
