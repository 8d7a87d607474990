/-
Reading what was written in base64.

The bits of a byte string are written as digits, and a variant says what the last two digits look
like and whether the text is filled up to groups of four.  In a variant whose two digits cannot be
taken for others (`Variant.Distinct`), reading gives back the bytes that were written, and it reads
nothing but what is written so: every byte string has one spelling (`decodeChars?_eq_some_iff`).

Of the alphabet of tokens one thing more is needed: its characters are letters, digits and two
marks (`IsUrlSafe`), so that no dot can stand in a part.
-/
import SessionAuth.Bytes.Base64

namespace SessionAuth

namespace Base64

/-- The last two digits are read as what they are, and padding is no digit. -/
class Variant.Distinct (v : Variant) : Prop where
  char62 : value? v v.char62 = some 62
  char63 : value? v v.char63 = some 63
  pad : value? v '=' = none

instance : standard.Distinct := ⟨by decide, by decide, by decide⟩

instance : urlSafe.Distinct := ⟨by decide, by decide, by decide⟩

/-! ### Digits -/

section Digits

variable {v : Variant} {n : Nat} {c : Char}

/-- A digit is a letter or a numeral, or one of the two that the variant says. -/
theorem digit_cases (v : Variant) (n : Nat) :
    (digit v n).isAlphanum = true ∨ digit v n = v.char62 ∨ digit v n = v.char63 := by
  have hletters : ∀ k < 26, (Char.ofNat ('A'.toNat + k)).isAlphanum = true ∧
      (Char.ofNat ('a'.toNat + k)).isAlphanum = true := by decide
  have hnumerals : ∀ k < 10, (Char.ofNat ('0'.toNat + k)).isAlphanum = true := by decide
  unfold digit
  split
  · rename_i h
    exact .inl (hletters n h).1
  · split
    · exact .inl (hletters (n - 26) (by omega)).2
    · split
      · exact .inl (hnumerals (n - 52) (by omega))
      · split
        · exact .inr (.inl rfl)
        · exact .inr (.inr rfl)

theorem value?_digit [hv : v.Distinct] (h : n < 64) : value? v (digit v n) = some n := by
  have hupper : ∀ k < 26, ('A' ≤ Char.ofNat ('A'.toNat + k) ∧ Char.ofNat ('A'.toNat + k) ≤ 'Z') ∧
      (Char.ofNat ('A'.toNat + k)).toNat - 'A'.toNat = k := by decide
  have hlower : ∀ k < 26,
      ¬ ('A' ≤ Char.ofNat ('a'.toNat + k) ∧ Char.ofNat ('a'.toNat + k) ≤ 'Z') ∧
      ('a' ≤ Char.ofNat ('a'.toNat + k) ∧ Char.ofNat ('a'.toNat + k) ≤ 'z') ∧
      (Char.ofNat ('a'.toNat + k)).toNat - 'a'.toNat + 26 = k + 26 := by decide
  have hnumeral : ∀ k < 10,
      ¬ ('A' ≤ Char.ofNat ('0'.toNat + k) ∧ Char.ofNat ('0'.toNat + k) ≤ 'Z') ∧
      ¬ ('a' ≤ Char.ofNat ('0'.toNat + k) ∧ Char.ofNat ('0'.toNat + k) ≤ 'z') ∧
      ('0' ≤ Char.ofNat ('0'.toNat + k) ∧ Char.ofNat ('0'.toNat + k) ≤ '9') ∧
      (Char.ofNat ('0'.toNat + k)).toNat - '0'.toNat + 52 = k + 52 := by decide
  unfold digit
  by_cases h26 : n < 26
  · obtain ⟨hin, hback⟩ := hupper n h26
    rw [if_pos h26, value?, if_pos hin, hback]
  · rw [if_neg h26]
    by_cases h52 : n < 52
    · obtain ⟨hout, hin, hback⟩ := hlower (n - 26) (by omega)
      rw [if_pos h52, value?, if_neg hout, if_pos hin, hback, Nat.sub_add_cancel (by omega)]
    · rw [if_neg h52]
      by_cases h62 : n < 62
      · obtain ⟨hout, hout', hin, hback⟩ := hnumeral (n - 52) (by omega)
        rw [if_pos h62, value?, if_neg hout, if_neg hout', if_pos hin, hback,
          Nat.sub_add_cancel (by omega)]
      · rw [if_neg h62]
        by_cases hn : n = 62
        · rw [if_pos hn, hn]
          exact hv.char62
        · obtain rfl : n = 63 := by omega
          exact hv.char63

/-- Padding is no digit. -/
theorem digit_ne_pad [hv : v.Distinct] (h : n < 64) : digit v n ≠ '=' := by
  intro heq
  have hvalue := value?_digit (v := v) h
  rw [heq, hv.pad] at hvalue
  cases hvalue

/-- A character that stands for a number is the digit of it. -/
theorem eq_digit_of_value? (h : value? v c = some n) : n < 64 ∧ c = digit v n := by
  have hrange : ∀ first last : Char, first ≤ c ∧ c ≤ last →
      first.toNat ≤ c.toNat ∧ c.toNat ≤ last.toNat :=
    fun first last h => ⟨UInt32.le_iff_toNat_le.mp h.1, UInt32.le_iff_toNat_le.mp h.2⟩
  have hchar : ∀ {k : Nat}, k = c.toNat → c = Char.ofNat k := by
    rintro k rfl
    exact (Char.ofNat_toNat c).symm
  unfold value? at h
  unfold digit
  split at h
  · rename_i hupper
    obtain ⟨hlow, hhigh⟩ := hrange 'A' 'Z' hupper
    have : 'A'.toNat = 65 := rfl
    have : 'Z'.toNat = 90 := rfl
    cases h
    refine ⟨by omega, ?_⟩
    rw [if_pos (by omega)]
    exact hchar (by omega)
  · split at h
    · rename_i hlower
      obtain ⟨hlow, hhigh⟩ := hrange 'a' 'z' hlower
      have : 'a'.toNat = 97 := rfl
      have : 'z'.toNat = 122 := rfl
      cases h
      refine ⟨by omega, ?_⟩
      rw [if_neg (by omega), if_pos (by omega)]
      exact hchar (by omega)
    · split at h
      · rename_i hdigit
        obtain ⟨hlow, hhigh⟩ := hrange '0' '9' hdigit
        have : '0'.toNat = 48 := rfl
        have : '9'.toNat = 57 := rfl
        cases h
        refine ⟨by omega, ?_⟩
        rw [if_neg (by omega), if_neg (by omega), if_pos (by omega)]
        exact hchar (by omega)
      · split at h
        · rename_i hc
          cases h
          exact ⟨by decide, hc⟩
        · split at h
          · rename_i hc
            cases h
            exact ⟨by decide, hc⟩
          · cases h

end Digits

/-- A byte is known by its number. -/
theorem ofNat_eq_of_toNat {x : UInt8} {n : Nat} (h : n = x.toNat) : UInt8.ofNat n = x := by
  rw [h]
  exact UInt8.ofNat_toNat

theorem toNat_ofNat_of_lt {n : Nat} (h : n < 256) : (UInt8.ofNat n).toNat = n := by
  rw [UInt8.toNat_ofNat', Nat.mod_eq_of_lt h]

/-! ### Groups -/

section Groups

variable {v : Variant} {w x y z : Char} {rest : List Char} {bytes : Bytes}

/-- The last group is filled up with padding. -/
def Variant.EndsPadded (v : Variant) (z : Char) (rest : List Char) : Prop :=
  v.padded = true ∧ rest = [] ∧ z = '='

theorem decodeChars?_padded (hv : v.padded = true) :
    decodeChars? v [w, x, y, '='] = if y = '=' then lastOne? v w x else lastTwo? v w x y := by
  rw [decodeChars?, hv]
  simp

/-- Four characters in front give their three bytes in front, if they can be read. -/
theorem decodeChars?_cons (h : ¬ v.EndsPadded z rest) : decodeChars? v (w :: x :: y :: z :: rest) =
    (group? v w x y z).bind fun bytes => (decodeChars? v rest).map fun more => bytes ++ more := by
  have hpadded : ¬ (v.padded && rest.isEmpty && z == '=') = true := by
    rw [Bool.and_eq_true, Bool.and_eq_true, List.isEmpty_iff, beq_iff_eq, and_assoc]
    exact h
  rw [decodeChars?, if_neg hpadded]
  cases group? v w x y z <;> cases decodeChars? v rest <;> rfl

end Groups

/-! ### Reading back -/

section Reading

variable {v : Variant} [v.Distinct] {w x y z : Char} {bytes : Bytes}

theorem group?_digits (a b c : UInt8) : group? v (digit v (a.toNat / 4))
    (digit v (a.toNat % 4 * 16 + b.toNat / 16)) (digit v (b.toNat % 16 * 4 + c.toNat / 64))
    (digit v (c.toNat % 64)) = some [a, b, c] := by
  have ha := a.toNat_lt
  have hb := b.toNat_lt
  have hc := c.toNat_lt
  unfold group?
  rw [value?_digit (by omega), value?_digit (by omega), value?_digit (by omega),
    value?_digit (by omega)]
  simp only [Option.some.injEq, List.cons.injEq, and_true]
  exact ⟨ofNat_eq_of_toNat (by omega), ofNat_eq_of_toNat (by omega), ofNat_eq_of_toNat (by omega)⟩

theorem lastTwo?_digits (a b : UInt8) : lastTwo? v (digit v (a.toNat / 4))
    (digit v (a.toNat % 4 * 16 + b.toNat / 16)) (digit v (b.toNat % 16 * 4)) = some [a, b] := by
  have ha := a.toNat_lt
  have hb := b.toNat_lt
  unfold lastTwo?
  rw [value?_digit (by omega), value?_digit (by omega), value?_digit (by omega)]
  simp only
  rw [if_pos (by omega)]
  simp only [Option.some.injEq, List.cons.injEq, and_true]
  exact ⟨ofNat_eq_of_toNat (by omega), ofNat_eq_of_toNat (by omega)⟩

theorem lastOne?_digits (a : UInt8) : lastOne? v (digit v (a.toNat / 4))
    (digit v (a.toNat % 4 * 16)) = some [a] := by
  have ha := a.toNat_lt
  unfold lastOne?
  rw [value?_digit (by omega), value?_digit (by omega)]
  simp only
  rw [if_pos (by omega)]
  simp only [Option.some.injEq, List.cons.injEq, and_true]
  exact ofNat_eq_of_toNat (by omega)

/-- Reading gives back the bytes that were written. -/
theorem decodeChars?_encodeChars (bytes : Bytes) :
    decodeChars? v (encodeChars v bytes) = some bytes := by
  induction bytes using encodeChars.induct with
  | case1 a b c rest ih =>
    have hc := c.toNat_lt
    have hpad : ¬ v.EndsPadded (digit v (c.toNat % 64)) (encodeChars v rest) :=
      fun h => digit_ne_pad (by omega) h.2.2
    rw [encodeChars, decodeChars?_cons hpad, group?_digits, ih]
    rfl
  | case2 a b =>
    unfold encodeChars padding
    cases hv : v.padded with
    | true =>
      have hpad : digit v (b.toNat % 16 * 4) ≠ '=' := digit_ne_pad (by omega)
      exact (decodeChars?_padded hv).trans ((if_neg hpad).trans (lastTwo?_digits a b))
    | false =>
      show decodeChars? v [_, _, _] = _
      rw [decodeChars?, hv]
      exact lastTwo?_digits a b
  | case3 a =>
    unfold encodeChars padding
    cases hv : v.padded with
    | true => exact (decodeChars?_padded hv).trans ((if_pos rfl).trans (lastOne?_digits a))
    | false =>
      show decodeChars? v [_, _] = _
      rw [decodeChars?, hv]
      exact lastOne?_digits a
  | case4 => rfl

end Reading

/-! ### One way of writing -/

section Spelling

variable {v : Variant} {w x y z : Char} {bytes : Bytes}

/-- The last two characters of a text are those of the byte that they give. -/
theorem encodeChars_lastOne (h : lastOne? v w x = some bytes) :
    encodeChars v bytes = [w, x] ++ padding v 2 := by
  unfold lastOne? at h
  split at h
  · rename_i a b ha hb
    obtain ⟨ha, rfl⟩ := eq_digit_of_value? ha
    obtain ⟨hb, rfl⟩ := eq_digit_of_value? hb
    split at h
    · rename_i hspare
      cases h
      have hfirst : (a * 4 + b / 16) / 4 = a := by omega
      have hsecond : (a * 4 + b / 16) % 4 * 16 = b := by omega
      rw [encodeChars, toNat_ofNat_of_lt (by omega), hfirst, hsecond]
    · cases h
  · cases h

/-- The same for the last three characters and their two bytes. -/
theorem encodeChars_lastTwo (h : lastTwo? v w x y = some bytes) :
    encodeChars v bytes = [w, x, y] ++ padding v 3 := by
  unfold lastTwo? at h
  split at h
  · rename_i a b c ha hb hc
    obtain ⟨ha, rfl⟩ := eq_digit_of_value? ha
    obtain ⟨hb, rfl⟩ := eq_digit_of_value? hb
    obtain ⟨hc, rfl⟩ := eq_digit_of_value? hc
    split at h
    · rename_i hspare
      cases h
      have hfirst : (a * 4 + b / 16) / 4 = a := by omega
      have hsecond : (a * 4 + b / 16) % 4 * 16 + (b % 16 * 16 + c / 4) / 16 = b := by omega
      have hthird : (b % 16 * 16 + c / 4) % 16 * 4 = c := by omega
      rw [encodeChars, toNat_ofNat_of_lt (by omega), toNat_ofNat_of_lt (by omega), hfirst, hsecond,
        hthird]
    · cases h
  · cases h

/-- Four characters are those of the three bytes that they give. -/
theorem encodeChars_group (h : group? v w x y z = some bytes) (more : Bytes) :
    encodeChars v (bytes ++ more) = w :: x :: y :: z :: encodeChars v more := by
  unfold group? at h
  split at h
  · rename_i a b c d ha hb hc hd
    obtain ⟨ha, rfl⟩ := eq_digit_of_value? ha
    obtain ⟨hb, rfl⟩ := eq_digit_of_value? hb
    obtain ⟨hc, rfl⟩ := eq_digit_of_value? hc
    obtain ⟨hd, rfl⟩ := eq_digit_of_value? hd
    cases h
    have hfirst : (a * 4 + b / 16) / 4 = a := by omega
    have hsecond : (a * 4 + b / 16) % 4 * 16 + (b % 16 * 16 + c / 4) / 16 = b := by omega
    have hthird : (b % 16 * 16 + c / 4) % 16 * 4 + (c % 4 * 64 + d) / 64 = c := by omega
    have hfourth : (c % 4 * 64 + d) % 64 = d := by omega
    show digit v _ :: digit v _ :: digit v _ :: digit v _ :: _ = _
    rw [toNat_ofNat_of_lt (by omega), toNat_ofNat_of_lt (by omega), toNat_ofNat_of_lt (by omega),
      hfirst, hsecond, hthird, hfourth]
    rfl
  · cases h

/-- What can be read has been written in the only way in which it can be written. -/
theorem eq_encodeChars_of_decodeChars? {cs : List Char} {bytes : Bytes}
    (h : decodeChars? v cs = some bytes) : cs = encodeChars v bytes := by
  match cs with
  | [] => cases h; rfl
  | [_] => cases h
  | [w, x] =>
    cases hv : v.padded with
    | true => rw [decodeChars?, hv] at h; cases h
    | false =>
      rw [decodeChars?, hv] at h
      rw [encodeChars_lastOne h, padding, hv]
      rfl
  | [w, x, y] =>
    cases hv : v.padded with
    | true => rw [decodeChars?, hv] at h; cases h
    | false =>
      rw [decodeChars?, hv] at h
      rw [encodeChars_lastTwo h, padding, hv]
      rfl
  | w :: x :: y :: z :: rest =>
    by_cases hpad : v.EndsPadded z rest
    · obtain ⟨hv, rfl, rfl⟩ := hpad
      rw [decodeChars?_padded hv] at h
      split at h
      · rename_i hy
        rw [encodeChars_lastOne h, padding, hv, hy]
        rfl
      · rw [encodeChars_lastTwo h, padding, hv]
        rfl
    · rw [decodeChars?_cons hpad] at h
      obtain ⟨bytes, hgroup, h⟩ := Option.bind_eq_some_iff.mp h
      obtain ⟨more, hmore, rfl⟩ := Option.map_eq_some_iff.mp h
      rw [encodeChars_group hgroup, ← eq_encodeChars_of_decodeChars? hmore]

variable [v.Distinct]

/-- **A text is read as some bytes if and only if it is what is written for them.** -/
theorem decodeChars?_eq_some_iff {cs : List Char} :
    decodeChars? v cs = some bytes ↔ cs = encodeChars v bytes := by
  refine ⟨eq_encodeChars_of_decodeChars?, ?_⟩
  rintro rfl
  exact decodeChars?_encodeChars bytes

theorem encodeChars_injective : Function.Injective (encodeChars v) := by
  intro bytes bytes' h
  have hread := decodeChars?_encodeChars (v := v) bytes
  rw [h, decodeChars?_encodeChars] at hread
  exact (Option.some.inj hread).symm

end Spelling

/-! ### Characters -/

theorem padding_eq_nil {v : Variant} (hv : v.padded = false) (used : Nat) :
    padding v used = [] := by
  rw [padding, hv]
  rfl

/-- What is written without padding consists of digits. -/
theorem eq_digit_of_mem {v : Variant} (hv : v.padded = false) {bytes : Bytes} {c : Char}
    (h : c ∈ encodeChars v bytes) : ∃ n, c = digit v n := by
  induction bytes using encodeChars.induct with
  | case1 x y z rest ih =>
    simp only [encodeChars, List.mem_cons] at h
    rcases h with rfl | rfl | rfl | rfl | h
    · exact ⟨_, rfl⟩
    · exact ⟨_, rfl⟩
    · exact ⟨_, rfl⟩
    · exact ⟨_, rfl⟩
    · exact ih h
  | case2 x y =>
    simp only [encodeChars, padding_eq_nil hv, List.append_nil, List.mem_cons, List.not_mem_nil,
      or_false] at h
    rcases h with rfl | rfl | rfl <;> exact ⟨_, rfl⟩
  | case3 x =>
    simp only [encodeChars, padding_eq_nil hv, List.append_nil, List.mem_cons, List.not_mem_nil,
      or_false] at h
    rcases h with rfl | rfl <;> exact ⟨_, rfl⟩
  | case4 => cases h

/-- Four characters stand for three bytes, and two or three for what is left. -/
theorem length_encodeChars {v : Variant} (hv : v.padded = false) (bytes : Bytes) :
    (encodeChars v bytes).length = (4 * bytes.length + 2) / 3 := by
  induction bytes using encodeChars.induct with
  | case1 x y z rest ih =>
    simp only [encodeChars, List.length_cons, ih]
    omega
  | case2 x y => simp [encodeChars, padding_eq_nil hv]
  | case3 x => simp [encodeChars, padding_eq_nil hv]
  | case4 => rfl

end Base64

/-- The characters of base64 in addresses. -/
def IsUrlSafe (c : Char) : Prop := c.isAlphanum = true ∨ c = '-' ∨ c = '_'

instance (c : Char) : Decidable (IsUrlSafe c) := inferInstanceAs (Decidable (_ ∨ _))

namespace Base64

theorem isUrlSafe_of_mem {bytes : Bytes} {c : Char} (h : c ∈ encodeChars urlSafe bytes) :
    IsUrlSafe c := by
  obtain ⟨n, rfl⟩ := eq_digit_of_mem rfl h
  exact digit_cases urlSafe n

theorem dot_notMem_encodeChars (bytes : Bytes) : '.' ∉ encodeChars urlSafe bytes :=
  fun h => absurd (isUrlSafe_of_mem h) (by decide)

/-- No text that begins with a colon is read. -/
theorem decodeChars?_colon (rest : List Char) : decodeChars? urlSafe (':' :: rest) = none := by
  rw [Option.eq_none_iff_forall_ne_some]
  intro bytes hread
  have hmem : ':' ∈ encodeChars urlSafe bytes := by
    rw [← eq_encodeChars_of_decodeChars? hread]
    exact List.mem_cons_self
  exact absurd (isUrlSafe_of_mem hmem) (by decide)

end Base64

end SessionAuth
