/-
What may stand in a header.

A header that is read holds visible ASCII, blanks and tabs (`IsPlain`); one that is written may
hold more, but no other control characters (`IsWritable`).  A text of visible ASCII and blanks
may be written, and what is read is the text (`readable?_ofText`).
-/
import SessionAuth.Cookie
import SessionAuth.Proofs.Json.Written
import SessionAuth.Proofs.Token.Characters

namespace SessionAuth.Http

/-- A text is written in visible characters and blanks. -/
def AllPrintable (text : String) : Prop := ∀ c ∈ text.toList, 32 ≤ c.toNat ∧ c.toNat ≤ 126

theorem AllPrintable.of_visible {text : String} (h : AllVisible text) : AllPrintable text :=
  fun c hc => ⟨Nat.le_of_succ_le (h c hc).1, (h c hc).2⟩

theorem AllPrintable.append {text more : String} (h : AllPrintable text) (h' : AllPrintable more) :
    AllPrintable (text ++ more) := by
  intro c hc
  rw [String.toList_append] at hc
  exact (List.mem_append.mp hc).elim (h c) (h' c)

/-- Its bytes are its characters. -/
theorem AllPrintable.ascii {text : String} (h : AllPrintable text) :
    ∀ c ∈ text.toList, c.toNat < 128 := by
  intro c hc
  have hrange := h c hc
  omega

/-! ### Reading -/

/-- Visible ASCII, the blank and the tab. -/
def IsPlain (b : UInt8) : Prop := 32 ≤ b.toNat ∧ b.toNat ≤ 126 ∨ b.toNat = 9

instance : DecidablePred IsPlain := fun _ => inferInstanceAs (Decidable (_ ∨ _))

theorem isReadable_iff {b : UInt8} : HeaderValue.isReadable b = true ↔ IsPlain b := by
  unfold HeaderValue.isReadable IsPlain
  simp only [Bool.or_eq_true, Bool.and_eq_true, decide_eq_true_eq, beq_iff_eq,
    UInt8.le_iff_toNat_le, UInt8.lt_iff_toNat_lt, ← UInt8.toNat_inj]
  show (32 ≤ b.toNat ∧ b.toNat < 127) ∨ b.toNat = 9 ↔ _
  omega

theorem readable?_eq_some_iff {value : Bytes} {text : List Char} :
    HeaderValue.readable? value = some text ↔
      (∀ b ∈ value, IsPlain b) ∧ value.map (fun b => Char.ofNat b.toNat) = text := by
  unfold HeaderValue.readable?
  simp only [Option.ite_none_right_eq_some, List.all_eq_true, isReadable_iff, Option.some.injEq]

/-- A text of visible characters and blanks is read as it was written. -/
theorem readable?_ofText {text : String} (h : AllPrintable text) :
    HeaderValue.readable? (Bytes.ofText text) = some text.toList := by
  refine readable?_eq_some_iff.mpr ⟨?_, Bytes.chars_ofText h.ascii⟩
  intro b hb
  rw [Bytes.ofText_of_ascii h.ascii] at hb
  obtain ⟨c, hc, rfl⟩ := List.mem_map.mp hb
  have hrange := h c hc
  unfold IsPlain
  rw [UInt8.toNat_ofNat', Nat.mod_eq_of_lt (by omega)]
  exact Or.inl hrange

/-! ### Writing -/

/-- The bytes of a text may all stand in a header. -/
def IsWritable (text : String) : Prop := (Bytes.ofText text).all HeaderValue.isAllowed = true

instance : DecidablePred IsWritable := fun _ => inferInstanceAs (Decidable (_ = true))

theorem IsWritable.append {text more : String} (h : IsWritable text) (h' : IsWritable more) :
    IsWritable (text ++ more) := by
  unfold IsWritable at *
  rw [Bytes.ofText_append, List.all_append, h, h']
  rfl

theorem isWritable_of_printable {text : String} (h : AllPrintable text) : IsWritable text := by
  unfold IsWritable
  rw [List.all_eq_true, Bytes.ofText_of_ascii h.ascii]
  intro byte hbyte
  obtain ⟨c, hc, rfl⟩ := List.mem_map.mp hbyte
  have hallowed : ∀ n < 127, 32 ≤ n → HeaderValue.isAllowed (UInt8.ofNat n) = true := by decide
  exact hallowed _ (Nat.lt_succ_of_le (h c hc).2) (h c hc).1

theorem isWritable_toString (n : Nat) : IsWritable (toString n) := by
  have hdigit : ∀ k < 256, Json.isDigit (UInt8.ofNat k) = true →
      HeaderValue.isAllowed (UInt8.ofNat k) = true := by decide +kernel
  unfold IsWritable
  rw [List.all_eq_true]
  intro byte hbyte
  have hallowed := hdigit byte.toNat byte.toNat_lt
  rw [UInt8.ofNat_toNat] at hallowed
  exact hallowed (Json.isDigit_of_mem_decimals hbyte)

end SessionAuth.Http
