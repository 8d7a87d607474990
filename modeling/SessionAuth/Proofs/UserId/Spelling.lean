/-
The spellings of a user id.

People write ids in four forms and in any letter case.  `IsSpelled` says what the spellings of
an id are without any reading: its digits in whatever case, bare, or in five groups joined by
hyphens, and these in braces or behind a name prefix.  Exactly these are read as the id
(`parse?_eq_some_iff`).  So a text spells one id at most, and whatever the spelling, the id is
written in one way, as 32 digits in lower case (`digits_eq`).
-/
import SessionAuth.Proofs.UserId
import Mathlib.Data.List.Induction

namespace SessionAuth

namespace UserId

/-! ### Spellings -/

/-- Five groups of 8, 4, 4, 4 and the remaining digits, joined by hyphens. -/
def hyphenated (ds : List Char) : List Char :=
  List.intercalate ['-']
    [ds.take 8, (ds.drop 8).take 4, (ds.drop 12).take 4, (ds.drop 16).take 4, ds.drop 20]

/-- The text is one of the spellings of the id. -/
def IsSpelled (id : UserId) (text : String) : Prop :=
  ∃ ds, Text.sameLetters ds id.digits = true ∧
    (text.toList = ds ∨ text.toList = hyphenated ds ∨
      text.toList = '\x7b' :: hyphenated ds ++ ['\x7d'] ∨
      ∃ name, Text.sameLetters name urnPrefix = true ∧ text.toList = name ++ hyphenated ds)

end UserId

/-! ### Digits in either case -/

namespace Text

theorem sameLetters_iff {a b : List Char} :
    sameLetters a b = true ↔ a.map Char.toLower = b.map Char.toLower := beq_iff_eq

theorem length_of_sameLetters {a b : List Char} (h : sameLetters a b = true) :
    a.length = b.length := by
  have hlength := congrArg List.length (sameLetters_iff.mp h)
  rwa [List.length_map, List.length_map] at hlength

/-- Reading a digit leaves its letter case out of account. -/
theorem hexDigit?_eq_some_iff {c : Char} {n : Nat} :
    hexDigit? c = some n ↔ n < 16 ∧ c.toLower = Bytes.hexDigit n := by
  have htable : ∀ k < 128, ∀ n < 16, hexDigit? (Char.ofNat k) = some n ↔
      (Char.ofNat k).toLower = Bytes.hexDigit n := by decide +kernel
  have hrange : ∀ k < 128, (hexDigit? (Char.ofNat k)).all (· < 16) = true := by decide
  have hdigit : ∀ n < 16, (Bytes.hexDigit n).toNat < 128 := by decide
  have htable' : c.toNat < 128 → n < 16 →
      (hexDigit? c = some n ↔ c.toLower = Bytes.hexDigit n) := by
    intro hc hn
    have hentry := htable c.toNat hc n hn
    rwa [Char.ofNat_toNat] at hentry
  constructor
  · intro h
    have hc : c.toNat < 128 := by
      have hle : ∀ top : Char, top.toNat < 128 → c ≤ top → c.toNat < 128 :=
        fun top htop hle => Nat.lt_of_le_of_lt hle htop
      unfold hexDigit? at h
      split at h
      · rename_i hrange
        exact hle '9' (by decide) hrange.2
      · split at h
        · rename_i hrange
          exact hle 'f' (by decide) hrange.2
        · split at h
          · rename_i hrange
            exact hle 'F' (by decide) hrange.2
          · cases h
    have hn : n < 16 := by
      have hentry := hrange c.toNat hc
      rw [Char.ofNat_toNat, h] at hentry
      simpa using hentry
    exact ⟨hn, (htable' hc hn).mp h⟩
  · rintro ⟨hn, h⟩
    have hc : c.toNat < 128 := by
      unfold Char.toLower at h
      split at h
      · rename_i hupper
        exact Nat.lt_of_le_of_lt (show c.toNat ≤ 'Z'.toNat from hupper.2) (by decide)
      · rw [h]
        exact hdigit n hn
    exact (htable' hc hn).mpr h

end Text

namespace Bytes

theorem toHexChars_cons (b : UInt8) (bytes : Bytes) : toHexChars (b :: bytes) =
    hexDigit (b.toNat / 16) :: hexDigit (b.toNat % 16) :: toHexChars bytes := rfl

/-- The first byte is read from the first two digits. -/
theorem ofHexChars?_cons_cons {a b : Char} {rest : List Char} {byte : UInt8} {bytes : Bytes} :
    ofHexChars? (a :: b :: rest) = some (byte :: bytes) ↔
      Text.hexDigit? a = some (byte.toNat / 16) ∧ Text.hexDigit? b = some (byte.toNat % 16) ∧
        ofHexChars? rest = some bytes := by
  have hbyte : byte.toNat < 256 := byte.toNat_lt
  constructor
  · intro h
    unfold ofHexChars? at h
    split at h
    · rename_i high low more hhigh hlow hmore
      obtain ⟨hfirst, rfl⟩ := List.cons.inj (Option.some.inj h)
      have hhigh' : high < 16 := (Text.hexDigit?_eq_some_iff.mp hhigh).1
      have hlow' : low < 16 := (Text.hexDigit?_eq_some_iff.mp hlow).1
      have hvalue : byte.toNat = 16 * high + low := by
        rw [← hfirst, UInt8.toNat_ofNat']
        omega
      refine ⟨hhigh.trans (congrArg some ?_), hlow.trans (congrArg some ?_), hmore⟩ <;> omega
    · cases h
  · rintro ⟨hhigh, hlow, hmore⟩
    have hwhole : UInt8.ofNat (16 * (byte.toNat / 16) + byte.toNat % 16) = byte := by
      rw [Nat.div_add_mod]
      exact UInt8.ofNat_toNat
    unfold ofHexChars?
    rw [hhigh, hlow, hmore]
    simp only [hwhole]

/-- Bytes are read from their digits in either case, and from nothing else. -/
theorem ofHexChars?_eq_some_iff {cs : List Char} {bytes : Bytes} :
    ofHexChars? cs = some bytes ↔ cs.map Char.toLower = toHexChars bytes := by
  induction bytes generalizing cs with
  | nil =>
    rcases cs with _ | ⟨a, _ | ⟨b, rest⟩⟩
    · simp [ofHexChars?, toHexChars]
    · simp [ofHexChars?, toHexChars]
    · have hne : ofHexChars? (a :: b :: rest) ≠ some [] := by
        intro h
        unfold ofHexChars? at h
        split at h <;> cases h
      simp [hne, toHexChars]
  | cons byte bytes ih =>
    have hbyte : byte.toNat < 256 := byte.toNat_lt
    rcases cs with _ | ⟨a, _ | ⟨b, rest⟩⟩
    · simp [ofHexChars?, toHexChars_cons]
    · simp [ofHexChars?, toHexChars_cons]
    · have hhigh : byte.toNat / 16 < 16 := by omega
      have hlow : byte.toNat % 16 < 16 := by omega
      rw [ofHexChars?_cons_cons, Text.hexDigit?_eq_some_iff, Text.hexDigit?_eq_some_iff, ih,
        toHexChars_cons]
      simp [hhigh, hlow]

/-! ### Numbers -/

theorem toNat_lt (bytes : Bytes) : toNat bytes < 256 ^ bytes.length := by
  induction bytes using List.reverseRecOn with
  | nil => simp [toNat]
  | append_singleton bytes b ih =>
    have hb : b.toNat < 256 := b.toNat_lt
    rw [toNat_append_singleton, List.length_append, List.length_singleton, Nat.pow_succ]
    omega

/-- The bytes of the number that bytes write are the bytes. -/
theorem ofNat_toNat (bytes : Bytes) : ofNat bytes.length (toNat bytes) = bytes := by
  induction bytes using List.reverseRecOn with
  | nil => rfl
  | append_singleton bytes b ih =>
    have hb : b.toNat < 256 := b.toNat_lt
    have hrest : (256 * toNat bytes + b.toNat) / 256 = toNat bytes := by omega
    have hlast : (256 * toNat bytes + b.toNat) % 256 = b.toNat := by omega
    rw [toNat_append_singleton, List.length_append, List.length_singleton, ofNat, hrest, hlast, ih,
      UInt8.ofNat_toNat]

/-- The digits are written in lower case. -/
theorem map_toLower_toHexChars (bytes : Bytes) :
    (toHexChars bytes).map Char.toLower = toHexChars bytes :=
  ofHexChars?_eq_some_iff.mp (ofHexChars?_toHexChars bytes)

/-- The digits of a number, each by its place. -/
theorem toHexChars_ofNat (count n : Nat) : toHexChars (ofNat count n) =
    (List.range (2 * count)).map fun place => hexDigit (n / 16 ^ (2 * count - 1 - place) % 16) := by
  induction count generalizing n with
  | zero => rfl
  | succ count ih =>
    have hbyte : (UInt8.ofNat (n % 256)).toNat = n % 256 := by
      rw [UInt8.toNat_ofNat']
      omega
    have hchars : toHexChars (ofNat (count + 1) n) = toHexChars (ofNat count (n / 256)) ++
        [hexDigit (n % 256 / 16), hexDigit (n % 256 % 16)] := by
      rw [ofNat, toHexChars, List.flatMap_append, List.flatMap_singleton, hbyte]
      rfl
    have hplaces : List.range (2 * (count + 1)) =
        List.range (2 * count) ++ [2 * count, 2 * count + 1] := by
      rw [Nat.mul_succ, List.range_succ, List.range_succ, List.append_assoc]
      rfl
    have hhigh : n % 256 / 16 = n / 16 ^ (2 * (count + 1) - 1 - 2 * count) % 16 := by
      rw [show 2 * (count + 1) - 1 - 2 * count = 1 by omega, Nat.pow_one]
      omega
    have hlow : n % 256 % 16 = n / 16 ^ (2 * (count + 1) - 1 - (2 * count + 1)) % 16 := by
      rw [show 2 * (count + 1) - 1 - (2 * count + 1) = 0 by omega, Nat.pow_zero]
      omega
    rw [hchars, ih, hplaces, List.map_append, hhigh, hlow]
    refine congrArg (· ++ _) (List.map_congr_left ?_)
    intro place hplace
    have hpower : 256 * 16 ^ (2 * count - 1 - place) = 16 ^ (2 * (count + 1) - 1 - place) := by
      have hexponent : 2 * (count + 1) - 1 - place = 2 + (2 * count - 1 - place) := by
        have := List.mem_range.mp hplace
        omega
      rw [hexponent, Nat.pow_add]
    rw [Nat.div_div_eq_div_mul, hpower]

end Bytes

namespace UserId

/-! ### Writing -/

/-- An id is written as its 32 hexadecimal digits in lower case, each by its place. -/
theorem digits_eq (id : UserId) : id.digits = (List.range 32).map fun place =>
    Bytes.hexDigit (id.bits.toNat / 16 ^ (31 - place) % 16) :=
  Bytes.toHexChars_ofNat 16 id.bits.toNat

/-! ### Reading -/

/-- An id is read from its digits in either case, and from nothing else. -/
theorem ofDigits?_eq_some_iff {cs : List Char} {id : UserId} :
    ofDigits? cs = some id ↔ Text.sameLetters cs id.digits = true := by
  rw [Text.sameLetters_iff, digits, Bytes.map_toLower_toHexChars, ← Bytes.ofHexChars?_eq_some_iff]
  constructor
  · intro h
    unfold ofDigits? at h
    split at h
    · rename_i hlength
      obtain ⟨bytes, hbytes, rfl⟩ := Option.map_eq_some_iff.mp h
      have hcount : bytes.length = 16 := by
        have hlengths := congrArg List.length (Bytes.ofHexChars?_eq_some_iff.mp hbytes)
        rw [List.length_map, hlength, Bytes.length_toHexChars] at hlengths
        omega
      have hvalue : (BitVec.ofNat 128 (Bytes.toNat bytes)).toNat = Bytes.toNat bytes := by
        have hlt := Bytes.toNat_lt bytes
        rw [hcount] at hlt
        exact Nat.mod_eq_of_lt hlt
      have hwhole := Bytes.ofNat_toNat bytes
      rw [hcount] at hwhole
      rw [hvalue, hwhole, hbytes]
    · cases h
  · intro h
    have hlength : cs.length = 32 := by
      have hlengths := congrArg List.length (Bytes.ofHexChars?_eq_some_iff.mp h)
      rwa [List.length_map, Bytes.length_toHexChars, Bytes.length_ofNat] at hlengths
    have hdigits := ofDigits?_digits id
    unfold ofDigits? at hdigits ⊢
    rw [if_pos id.length_digits, digits, Bytes.ofHexChars?_toHexChars] at hdigits
    rw [if_pos hlength, h]
    exact hdigits

/-- A digit is no hyphen. -/
theorem hyphen_notMem {ds : List Char} {id : UserId} (h : Text.sameLetters ds id.digits = true) :
    '-' ∉ ds := by
  intro hmem
  have hlower : '-' ∈ id.digits := by
    have hmap : Char.toLower '-' ∈ ds.map Char.toLower := List.mem_map_of_mem hmem
    rw [Text.sameLetters_iff.mp h, digits, Bytes.map_toLower_toHexChars] at hmap
    exact hmap
  rw [digits_eq] at hlower
  obtain ⟨place, _, hplace⟩ := List.mem_map.mp hlower
  have hdigit : ∀ n < 16, Bytes.hexDigit n ≠ '-' := by decide
  exact hdigit _ (Nat.mod_lt _ (by decide)) hplace

/-! Groups of digits. -/

section Groups

variable {a b c d e : List Char}

theorem hyphenated_append (ha : a.length = 8) (hb : b.length = 4) (hc : c.length = 4)
    (hd : d.length = 4) : hyphenated (a ++ (b ++ (c ++ (d ++ e)))) =
      a ++ '-' :: (b ++ '-' :: (c ++ '-' :: (d ++ '-' :: e))) := by
  unfold hyphenated
  simp [List.intercalate, List.drop_append, List.drop_eq_nil_of_le, ha, hb, hc, hd]

/-- Thirty-two digits fall into the five groups. -/
theorem exists_groups {ds : List Char} (h : ds.length = 32) : ∃ a b c d e : List Char,
    a.length = 8 ∧ b.length = 4 ∧ c.length = 4 ∧ d.length = 4 ∧ e.length = 12 ∧
      ds = a ++ (b ++ (c ++ (d ++ e))) := by
  refine ⟨ds.take 8, (ds.drop 8).take 4, ((ds.drop 8).drop 4).take 4,
    (((ds.drop 8).drop 4).drop 4).take 4, (((ds.drop 8).drop 4).drop 4).drop 4, ?_⟩
  simp only [List.take_append_drop, List.length_take, List.length_drop, h]
  decide

theorem length_hyphenated {ds : List Char} (h : ds.length = 32) : (hyphenated ds).length = 36 := by
  obtain ⟨a, b, c, d, e, ha, hb, hc, hd, he, rfl⟩ := exists_groups h
  rw [hyphenated_append ha hb hc hd]
  simp [ha, hb, hc, hd, he]

theorem cons_drop_of_getElem? {cs : List Char} {i : Nat} (h : cs[i]? = some '-') :
    cs.drop i = '-' :: cs.drop (i + 1) := by
  obtain ⟨hi, hvalue⟩ := List.getElem?_eq_some_iff.mp h
  rw [List.drop_eq_getElem_cons hi, hvalue]

/-- So does a text with hyphens between them. -/
theorem exists_groups_of_hyphens {cs : List Char} (hlength : cs.length = 36)
    (hhyphens : ∀ i ∈ [8, 13, 18, 23], cs[i]? = some '-') : ∃ a b c d e : List Char,
    a.length = 8 ∧ b.length = 4 ∧ c.length = 4 ∧ d.length = 4 ∧ e.length = 12 ∧
      cs = a ++ '-' :: (b ++ '-' :: (c ++ '-' :: (d ++ '-' :: e))) := by
  have hcut : ∀ i, i ∈ [8, 13, 18, 23] → cs.drop i = '-' :: cs.drop (i + 1) :=
    fun i hi => cons_drop_of_getElem? (hhyphens i hi)
  have hgroup : ∀ i, (cs.drop i).take 4 ++ cs.drop (i + 4) = cs.drop i := by
    intro i
    rw [← List.drop_drop]
    exact List.take_append_drop 4 _
  refine ⟨cs.take 8, (cs.drop 9).take 4, (cs.drop 14).take 4, (cs.drop 19).take 4, cs.drop 24, ?_⟩
  simp only [List.length_take, List.length_drop, hlength]
  refine ⟨by decide, by decide, by decide, by decide, by decide, ?_⟩
  rw [← hcut 23 (by decide), hgroup 19, ← hcut 18 (by decide), hgroup 14, ← hcut 13 (by decide),
    hgroup 9, ← hcut 8 (by decide), List.take_append_drop]

/-- When as many are left without the hyphens as the groups have, there are no other hyphens. -/
theorem filter_groups (h : ((a ++ '-' :: (b ++ '-' :: (c ++ '-' :: (d ++ '-' :: e)))).filter
      (· != '-')).length = a.length + b.length + c.length + d.length + e.length) :
    (a ++ '-' :: (b ++ '-' :: (c ++ '-' :: (d ++ '-' :: e)))).filter (· != '-') =
      a ++ (b ++ (c ++ (d ++ e))) := by
  have hsplit : (a ++ '-' :: (b ++ '-' :: (c ++ '-' :: (d ++ '-' :: e)))).filter (· != '-') =
      (a ++ (b ++ (c ++ (d ++ e)))).filter (· != '-') := by
    simp
  rw [hsplit] at h ⊢
  refine List.filter_eq_self.mpr (List.length_filter_eq_length_iff.mp ?_)
  rw [h]
  simp only [List.length_append]
  omega

end Groups

theorem ofHyphenated?_eq_some_iff {cs : List Char} {id : UserId} :
    ofHyphenated? cs = some id ↔
      ∃ ds, Text.sameLetters ds id.digits = true ∧ cs = hyphenated ds := by
  constructor
  · intro h
    unfold ofHyphenated? at h
    split at h
    · rename_i hform
      obtain ⟨hlength, hhyphens⟩ := hform
      have hdigits := ofDigits?_eq_some_iff.mp h
      have hcount := (Text.length_of_sameLetters hdigits).trans id.length_digits
      obtain ⟨a, b, c, d, e, ha, hb, hc, hd, he, rfl⟩ := exists_groups_of_hyphens hlength
        fun i hi => beq_iff_eq.mp (List.all_eq_true.mp hhyphens i hi)
      have hfilter := filter_groups (hcount.trans (by rw [ha, hb, hc, hd, he]))
      rw [hfilter] at hdigits
      exact ⟨_, hdigits, (hyphenated_append ha hb hc hd).symm⟩
    · cases h
  · rintro ⟨ds, hdigits, rfl⟩
    obtain ⟨a, b, c, d, e, ha, hb, hc, hd, he, rfl⟩ :=
      exists_groups ((Text.length_of_sameLetters hdigits).trans id.length_digits)
    rw [hyphenated_append ha hb hc hd]
    have hform : (a ++ '-' :: (b ++ '-' :: (c ++ '-' :: (d ++ '-' :: e)))).length = 36 ∧
        [8, 13, 18, 23].all (fun i =>
          (a ++ '-' :: (b ++ '-' :: (c ++ '-' :: (d ++ '-' :: e))))[i]? == some '-') = true := by
      constructor
      · simp [ha, hb, hc, hd, he]
      · simp [List.getElem?_append, List.getElem?_cons, ha, hb, hc, hd]
    have hkept : (a ++ '-' :: (b ++ '-' :: (c ++ '-' :: (d ++ '-' :: e)))).filter (· != '-') =
        a ++ (b ++ (c ++ (d ++ e))) := by
      have hnone := hyphen_notMem hdigits
      have hkeep : (a ++ (b ++ (c ++ (d ++ e)))).filter (· != '-') =
          a ++ (b ++ (c ++ (d ++ e))) := by
        refine List.filter_eq_self.mpr ?_
        intro x hx
        refine bne_iff_ne.mpr ?_
        rintro rfl
        exact hnone hx
      rw [← hkeep]
      simp
    unfold ofHyphenated?
    rw [if_pos hform, hkept]
    exact ofDigits?_eq_some_iff.mpr hdigits

/-- A text in braces is what is between them, in braces. -/
theorem eq_of_braces {cs : List Char} (hlength : 2 ≤ cs.length) (hfirst : cs.head? = some '\x7b')
    (hlast : cs.getLast? = some '\x7d') : cs = '\x7b' :: (cs.drop 1).dropLast ++ ['\x7d'] := by
  cases cs with
  | nil => cases hfirst
  | cons c rest =>
    obtain rfl : c = '\x7b' := Option.some.inj hfirst
    have hrest : rest ≠ [] := by
      rintro rfl
      simp at hlength
    have hlast' : rest.getLast hrest = '\x7d' := by
      rw [List.getLast?_cons_of_ne_nil hrest, List.getLast?_eq_some_getLast hrest] at hlast
      exact Option.some.inj hlast
    have hwhole := List.dropLast_concat_getLast hrest
    rw [hlast'] at hwhole
    show '\x7b' :: rest = '\x7b' :: (rest.dropLast ++ ['\x7d'])
    rw [hwhole]

/-- **Exactly the spellings of an id are read as the id.** -/
theorem parse?_eq_some_iff {text : String} {id : UserId} :
    parse? text = some id ↔ id.IsSpelled text := by
  unfold parse? IsSpelled
  generalize text.toList = cs
  dsimp only
  constructor
  · intro h
    split at h
    · exact ⟨cs, ofDigits?_eq_some_iff.mp h, Or.inl rfl⟩
    · obtain ⟨ds, hdigits, hcs⟩ := ofHyphenated?_eq_some_iff.mp h
      exact ⟨ds, hdigits, Or.inr (Or.inl hcs)⟩
    · split at h
      · rename_i hbraces
        obtain ⟨ds, hdigits, hcs⟩ := ofHyphenated?_eq_some_iff.mp h
        refine ⟨ds, hdigits, Or.inr (Or.inr (Or.inl ?_))⟩
        rw [← hcs]
        exact eq_of_braces (by omega) hbraces.1 hbraces.2
      · cases h
    · split at h
      · rename_i hname
        obtain ⟨ds, hdigits, hcs⟩ := ofHyphenated?_eq_some_iff.mp h
        refine ⟨ds, hdigits, Or.inr (Or.inr (Or.inr ⟨cs.take 9, hname, ?_⟩))⟩
        rw [← hcs, List.take_append_drop]
      · cases h
    · cases h
  · rintro ⟨ds, hdigits, hform⟩
    have hcount : ds.length = 32 := (Text.length_of_sameLetters hdigits).trans id.length_digits
    have hlength : (hyphenated ds).length = 36 := length_hyphenated hcount
    have hread : ofHyphenated? (hyphenated ds) = some id :=
      ofHyphenated?_eq_some_iff.mpr ⟨ds, hdigits, rfl⟩
    rcases hform with rfl | rfl | rfl | ⟨name, hname, rfl⟩
    · rw [hcount]
      exact ofDigits?_eq_some_iff.mpr hdigits
    · rw [hlength]
      exact hread
    · have hbraces : ('\x7b' :: hyphenated ds ++ ['\x7d']).length = 38 := by simp [hlength]
      have hlast : ('\x7b' :: (hyphenated ds ++ ['\x7d'])).getLast? = some '\x7d' := by
        rw [← List.cons_append, List.getLast?_append]
        rfl
      rw [hbraces]
      simpa [hlast] using hread
    · have hcount' : name.length = 9 := (Text.length_of_sameLetters hname).trans rfl
      have hname' : (name ++ hyphenated ds).length = 45 := by simp [hcount', hlength]
      rw [hname']
      simpa [hcount', hname] using hread

end UserId

end SessionAuth
