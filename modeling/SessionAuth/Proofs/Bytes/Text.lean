/-
Texts as bytes.

A reader of texts goes through their bytes.  Characters below 128 are single bytes, and
all others are made of bytes that stand for no such character; so a reader that looks for
characters below 128 never mistakes a part of another one for it.
-/
import SessionAuth.Bytes.Basic

namespace SessionAuth.Bytes

variable {c : Char} {b : UInt8}

@[simp] theorem ofText_append (s t : String) : ofText (s ++ t) = ofText s ++ ofText t := by
  simp [ofText, String.toByteArray_append]

theorem ofText_ofList (cs : List Char) :
    ofText (String.ofList cs) = cs.flatMap String.utf8EncodeChar := by
  simp [ofText, List.utf8Encode]

theorem ofText_eq_flatMap (t : String) : ofText t = t.toList.flatMap String.utf8EncodeChar := by
  rw [← ofText_ofList, String.ofList_toList]

/-- The bytes of a text are read as the text. -/
theorem toText?_ofText (t : String) : toText? (ofText t) = some t := by
  have hbytes : (⟨(ofText t).toArray⟩ : ByteArray) = t.toByteArray := by
    simp [ofText]
  unfold toText?
  rw [hbytes, String.fromUTF8?, dif_pos t.isValidUTF8]
  rfl

theorem ofText_injective : Function.Injective ofText := by
  intro s t h
  have hread := toText?_ofText s
  rw [h, toText?_ofText] at hread
  exact (Option.some.inj hread).symm

/-- The bytes that are read as a text are those of the text. -/
theorem ofText_of_toText? {bytes : Bytes} {t : String} (h : toText? bytes = some t) :
    ofText t = bytes := by
  unfold toText? String.fromUTF8? at h
  split at h
  · cases h
    rfl
  · cases h

/-! ### Bytes of characters -/

theorem utf8EncodeChar_of_lt (h : c.toNat < 128) :
    String.utf8EncodeChar c = [UInt8.ofNat c.toNat] := by
  unfold String.utf8EncodeChar
  exact if_pos (by rw [Char.toNat] at h; omega)

/-- Characters of ASCII are bytes. -/
theorem ofText_of_ascii {text : String} (h : ∀ c ∈ text.toList, c.toNat < 128) :
    ofText text = text.toList.map fun c => UInt8.ofNat c.toNat := by
  rw [ofText_eq_flatMap]
  generalize text.toList = cs at h
  induction cs with
  | nil => rfl
  | cons c cs ih =>
    rw [List.flatMap_cons, utf8EncodeChar_of_lt (h c List.mem_cons_self),
      ih fun c' hc' => h c' (List.mem_cons_of_mem _ hc')]
    rfl

theorem length_ofText_of_ascii {text : String} (h : ∀ c ∈ text.toList, c.toNat < 128) :
    (ofText text).length = text.toList.length := by
  rw [ofText_of_ascii h, List.length_map]

/-- No byte of a character above 127 is below 128. -/
theorem le_of_mem_utf8EncodeChar (h : 128 ≤ c.toNat) (hb : b ∈ String.utf8EncodeChar c) :
    128 ≤ b.toNat := by
  unfold String.utf8EncodeChar at hb
  rw [Char.toNat] at h
  dsimp only at hb
  rw [if_neg (by omega)] at hb
  have hbyte : ∀ n, 128 ≤ n → n < 256 → 128 ≤ (UInt8.ofNat n).toNat := by
    intro n hle hlt
    rw [UInt8.toNat_ofNat', Nat.mod_eq_of_lt hlt]
    exact hle
  split at hb
  · simp only [List.mem_cons, List.not_mem_nil, or_false] at hb
    rcases hb with rfl | rfl <;> exact hbyte _ (by omega) (by omega)
  · split at hb
    · simp only [List.mem_cons, List.not_mem_nil, or_false] at hb
      rcases hb with rfl | rfl | rfl <;> exact hbyte _ (by omega) (by omega)
    · simp only [List.mem_cons, List.not_mem_nil, or_false] at hb
      rcases hb with rfl | rfl | rfl | rfl <;> exact hbyte _ (by omega) (by omega)

end SessionAuth.Bytes
