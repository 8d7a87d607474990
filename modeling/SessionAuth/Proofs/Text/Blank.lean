/-
Taking blanks off.

What is taken off both ends of a text is all that is unwanted there; so nothing that is added at
an end is seen any more (`trim_padded`).  Letter case has no part in this: no letter is blank,
whether it is a capital or not.
-/
import Mathlib.Data.List.DropRight
import Mathlib.Data.List.TakeWhile
import SessionAuth.Text.Blank

namespace SessionAuth.Text

section Trim

variable {unwanted : Char → Bool} {front core back : List Char}

/-- Nothing is left of a text if and only if all of it is unwanted. -/
theorem trim_eq_nil_iff {text : List Char} :
    trim unwanted text = [] ↔ ∀ c ∈ text, unwanted c = true := by
  show (text.dropWhile unwanted).rdropWhile unwanted = [] ↔ _
  rw [List.rdropWhile_eq_nil_iff, ← List.dropWhile_eq_nil_iff (l := text)]
  refine ⟨fun hall => ?_, fun hnone => hnone ▸ List.forall_mem_nil _⟩
  cases hrest : text.dropWhile unwanted with
  | nil => rfl
  | cons c cs =>
    have hwanted := List.head?_dropWhile_not unwanted text
    rw [hrest] at hall hwanted
    have hc : unwanted c = false := hwanted
    rw [hall c List.mem_cons_self] at hc
    cases hc

/-- What is unwanted at the ends makes no difference. -/
theorem trim_padded (hfront : ∀ c ∈ front, unwanted c = true)
    (hback : ∀ c ∈ back, unwanted c = true) :
    trim unwanted (front ++ core ++ back) = trim unwanted core := by
  unfold trim
  rw [List.append_assoc, List.dropWhile_append_of_pos hfront, List.dropWhile_append]
  split
  · rename_i hcore
    rw [List.isEmpty_iff.mp hcore, List.dropWhile_eq_nil_iff.mpr hback]
  · have hreverse : ∀ c ∈ back.reverse, unwanted c = true := fun c hc =>
      hback c (List.mem_reverse.mp hc)
    rw [List.reverse_append, List.dropWhile_append_of_pos hreverse]

/-- It does not matter whether characters are changed before or afterwards, if the change makes
nothing wanted or unwanted. -/
theorem trim_map {f : Char → Char} (h : ∀ c, unwanted (f c) = unwanted c) (text : List Char) :
    trim unwanted (text.map f) = (trim unwanted text).map f := by
  have hf : unwanted ∘ f = unwanted := funext h
  unfold trim
  rw [List.dropWhile_map, hf, ← List.map_reverse, List.dropWhile_map, hf, List.map_reverse]

end Trim

theorem isBlank_toLower (c : Char) : isBlank c.toLower = isBlank c := by
  have hcapital : ∀ n < 91, 65 ≤ n →
      isBlank (Char.ofNat n).toLower = isBlank (Char.ofNat n) := by decide
  by_cases h : 65 ≤ c.toNat ∧ c.toNat < 91
  · have hletter := hcapital c.toNat h.2 h.1
    rwa [Char.ofNat_toNat] at hletter
  · have hsame : c.toLower = c := by
      refine dif_neg fun hc => h ?_
      have hlow : 65 ≤ c.toNat := UInt32.le_iff_toNat_le.mp hc.1
      have hhigh : c.toNat ≤ 90 := UInt32.le_iff_toNat_le.mp hc.2
      omega
    rw [hsame]

end SessionAuth.Text
