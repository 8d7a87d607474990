/-
Reading what was written.
-/
import SessionAuth.Json.Reader
import SessionAuth.Json.Written
import SessionAuth.Proofs.Bytes.Text
import SessionAuth.Proofs.UserId

namespace SessionAuth.Json

variable {α β σ : Type} {bytes rest : Bytes} {b : UInt8} {c : Char}

/-! ### Readers -/

/-- A sequence goes on where its first reader stopped. -/
theorem bind_of_ok {r : Reader α} {f : α → Reader β} {a : α} (h : r bytes = .ok (a, rest)) :
    (r >>= f) bytes = f a rest := by
  show (r bytes >>= fun p => f p.1 p.2) = _
  rw [h]
  rfl

theorem peek_cons (h : isSpace b = false) : peek (b :: rest) = .ok (b, b :: rest) := by
  unfold peek
  have hpeek : peek? (b :: rest) = .ok (some b, b :: rest) := by
    unfold peek?
    rw [List.dropWhile_cons_of_neg (by simp [h])]
    rfl
  rw [bind_of_ok hpeek]
  rfl

theorem expect_cons {c : Char} (h : isSpace (code c) = false) :
    expect c (code c :: rest) = .ok ((), rest) := by
  unfold expect
  rw [bind_of_ok (peek_cons h), if_pos rfl]
  rfl

/-- A body with its closing behind it is read as the body. -/
theorem closing_of_ok {finish : Reader Unit} {body : Reader α} {a : α} {middle : Bytes}
    (h : body bytes = .ok (a, middle)) (h' : finish middle = .ok ((), rest)) :
    Reader.closing finish body bytes = .ok (a, rest) := by
  unfold Reader.closing
  rw [h]
  dsimp only
  rw [h']

/-! ### Strings -/

/-- The bytes of a character inside a written string. -/
def written (c : Char) : Bytes := (escape c).flatMap String.utf8EncodeChar

/-- A byte that stands for itself inside a string. -/
def IsPlain (b : UInt8) : Prop := b ≠ code '"' ∧ b ≠ code '\\' ∧ ¬ b < 0x20

theorem stringBytes_plain (fuel : Nat) (done : Bytes) (h : IsPlain b) :
    stringBytes (fuel + 1) done (b :: rest) = stringBytes fuel (b :: done) rest := by
  have hstep : stringBytes (fuel + 1) done (b :: rest) =
      (if b = code '"' then (pure done.reverse : Reader Bytes)
        else if b = code '\\' then do
          let bytes ← escapeSequence
          stringBytes fuel (bytes.reverse ++ done)
        else if b < 0x20 then Reader.stop .malformed
        else stringBytes fuel (b :: done)) rest := rfl
  rw [hstep, if_neg h.1, if_neg h.2.1, if_neg h.2.2]

theorem stringBytes_plains (fuel : Nat) (done : Bytes) (h : ∀ b ∈ bytes, IsPlain b) :
    stringBytes (fuel + bytes.length) done (bytes ++ rest) =
      stringBytes fuel (bytes.reverse ++ done) rest := by
  induction bytes generalizing done with
  | nil => rfl
  | cons b more ih =>
    have hmore : ∀ b ∈ more, IsPlain b := fun b hb => h b (List.mem_cons_of_mem _ hb)
    rw [List.length_cons, List.cons_append, ← Nat.add_assoc,
      stringBytes_plain _ _ (h b List.mem_cons_self), ih _ hmore,
      List.reverse_cons, List.append_assoc, List.singleton_append]

theorem stringBytes_escape (fuel : Nat) (done : Bytes) {escaped value : Bytes}
    (h : escapeSequence (escaped ++ rest) = .ok (value, rest)) :
    stringBytes (fuel + 1) done (code '\\' :: escaped ++ rest) =
      stringBytes fuel (value.reverse ++ done) rest := by
  have hstep : stringBytes (fuel + 1) done (code '\\' :: escaped ++ rest) =
      (escapeSequence >>= fun bytes => stringBytes fuel (bytes.reverse ++ done)) (escaped ++ rest) :=
    rfl
  rw [hstep, bind_of_ok h]

/-- Two digits after two zeros are the number that they write. -/
theorem hex4_digits {n : Nat} (h : n < 256) (rest : Bytes) :
    hex4 ((['0', '0', Bytes.hexDigit (n / 16), Bytes.hexDigit (n % 16)].flatMap
      String.utf8EncodeChar) ++ rest) = .ok (n, rest) := by
  have hdigit : ∀ k < 16, ∃ d : UInt8, String.utf8EncodeChar (Bytes.hexDigit k) = [d] ∧
      Text.hexDigit? (Char.ofNat d.toNat) = some k := by
    intro k hk
    have hall : ∀ k < 16, (Bytes.hexDigit k).toNat < 128 ∧
        Text.hexDigit? (Char.ofNat (UInt8.ofNat (Bytes.hexDigit k).toNat).toNat) = some k := by
      decide
    exact ⟨_, Bytes.utf8EncodeChar_of_lt (hall k hk).1, (hall k hk).2⟩
  obtain ⟨high, hhigh, hhigh'⟩ := hdigit (n / 16) (by omega)
  obtain ⟨low, hlow, hlow'⟩ := hdigit (n % 16) (by omega)
  obtain ⟨zero, hzero, hzero'⟩ := hdigit 0 (by omega)
  have hzero : String.utf8EncodeChar '0' = [zero] := hzero
  simp only [List.flatMap_cons, List.flatMap_nil, List.append_nil, hhigh, hlow, hzero,
    List.cons_append, List.nil_append]
  have hvalue : ((0 * 16 + 0) * 16 + n / 16) * 16 + n % 16 = n := by omega
  unfold hex4
  rw [bind_of_ok (r := Reader.rest) rfl]
  simp only [hzero', hhigh', hlow', hvalue]
  rfl

/-- A control character is read from its code. -/
theorem escapeSequence_code (h : c.toNat < 0x20) :
    escapeSequence ((['u', '0', '0', Bytes.hexDigit (c.toNat / 16),
      Bytes.hexDigit (c.toNat % 16)].flatMap String.utf8EncodeChar) ++ rest) =
        .ok (String.utf8EncodeChar c, rest) := by
  have hread := hex4_digits (n := c.toNat) (by omega) rest
  have hstep : escapeSequence ((['u', '0', '0', Bytes.hexDigit (c.toNat / 16),
      Bytes.hexDigit (c.toNat % 16)].flatMap String.utf8EncodeChar) ++ rest) =
      unicodeEscape ((['0', '0', Bytes.hexDigit (c.toNat / 16),
        Bytes.hexDigit (c.toNat % 16)].flatMap String.utf8EncodeChar) ++ rest) := rfl
  rw [hstep, unicodeEscape, bind_of_ok hread, if_neg (by omega), if_pos (Or.inl (by omega))]
  have hbytes : utf8 c.toNat = String.utf8EncodeChar c := by
    unfold utf8
    rw [Char.ofNat_toNat, Bytes.ofText_eq_flatMap]
    simp
  rw [hbytes]
  rfl

/-- A character that is not escaped has none of the bytes that mean something inside a string. -/
theorem isPlain_of_mem (hquote : c ≠ '"') (hbackslash : c ≠ '\\') (hplain : ¬ c.toNat < 0x20) :
    ∀ b ∈ String.utf8EncodeChar c, IsPlain b := by
  intro b hb
  by_cases hlt : c.toNat < 128
  · rw [Bytes.utf8EncodeChar_of_lt hlt, List.mem_singleton] at hb
    subst hb
    have hbyte : (UInt8.ofNat c.toNat).toNat = c.toNat := by
      rw [UInt8.toNat_ofNat', Nat.mod_eq_of_lt (by omega)]
    refine ⟨fun h => hquote ?_, fun h => hbackslash ?_, fun h => hplain ?_⟩
    · exact Char.toNat_inj.mp (hbyte.symm.trans (congrArg UInt8.toNat h))
    · exact Char.toNat_inj.mp (hbyte.symm.trans (congrArg UInt8.toNat h))
    · rw [UInt8.lt_iff_toNat_lt, hbyte] at h
      exact h
  · have hle := Bytes.le_of_mem_utf8EncodeChar (by omega) hb
    refine ⟨?_, ?_, ?_⟩
    · rintro rfl
      exact absurd hle (by decide)
    · rintro rfl
      exact absurd hle (by decide)
    · intro h
      rw [UInt8.lt_iff_toNat_lt] at h
      exact absurd (Nat.lt_of_lt_of_le h (by decide : (0x20 : UInt8).toNat ≤ 128)) (by omega)

/-- Every character is read as it was written. -/
theorem stringBytes_written (c : Char) (fuel : Nat) (done rest : Bytes) :
    ∃ spared, stringBytes (fuel + (written c).length) done (written c ++ rest) =
      stringBytes (fuel + spared) ((String.utf8EncodeChar c).reverse ++ done) rest := by
  unfold written escape
  split
  · exact ⟨1, stringBytes_escape _ _ rfl⟩
  · exact ⟨1, stringBytes_escape _ _ rfl⟩
  · exact ⟨1, stringBytes_escape _ _ rfl⟩
  · exact ⟨1, stringBytes_escape _ _ rfl⟩
  · exact ⟨1, stringBytes_escape _ _ rfl⟩
  · exact ⟨1, stringBytes_escape _ _ rfl⟩
  · exact ⟨1, stringBytes_escape _ _ rfl⟩
  · split
    · rename_i hcontrol
      have hbytes : (['\\', 'u', '0', '0', Bytes.hexDigit (c.toNat / 16),
          Bytes.hexDigit (c.toNat % 16)].flatMap String.utf8EncodeChar) =
          code '\\' :: (['u', '0', '0', Bytes.hexDigit (c.toNat / 16),
            Bytes.hexDigit (c.toNat % 16)].flatMap String.utf8EncodeChar) := rfl
      rw [hbytes, List.length_cons, ← Nat.add_assoc]
      exact ⟨_, stringBytes_escape _ _ (escapeSequence_code hcontrol)⟩
    · rename_i hquote hbackslash _ _ _ _ _ hplain
      refine ⟨0, ?_⟩
      rw [List.flatMap_singleton]
      exact stringBytes_plains fuel done (isPlain_of_mem hquote hbackslash hplain)

/-- The characters of a string are read up to its closing quote. -/
theorem stringBytes_closed (cs : List Char) (fuel : Nat) (done rest : Bytes)
    (hfuel : (cs.flatMap written).length < fuel) :
    stringBytes fuel done (cs.flatMap written ++ code '"' :: rest) =
      .ok (done.reverse ++ cs.flatMap String.utf8EncodeChar, rest) := by
  induction cs generalizing fuel done with
  | nil =>
    obtain ⟨fuel, rfl⟩ : ∃ k, fuel = k + 1 := ⟨fuel - 1, by simp at hfuel; omega⟩
    rw [List.flatMap_nil, List.flatMap_nil, List.append_nil]
    rfl
  | cons c cs ih =>
    rw [List.flatMap_cons, List.length_append] at hfuel
    obtain ⟨spared, hread⟩ := stringBytes_written c (fuel - (written c).length) done
      (cs.flatMap written ++ code '"' :: rest)
    rw [Nat.sub_add_cancel (by omega)] at hread
    rw [List.flatMap_cons, List.append_assoc, hread, ih _ _ (by omega), List.reverse_append,
      List.reverse_reverse, List.append_assoc, List.flatMap_cons]

theorem ofText_string (t : String) :
    Bytes.ofText (string t) = code '"' :: (t.toList.flatMap written ++ [code '"']) := by
  have hcomp : ∀ cs : List Char, (cs.flatMap escape).flatMap String.utf8EncodeChar =
      cs.flatMap written := by
    intro cs
    induction cs with
    | nil => rfl
    | cons c cs ih => rw [List.flatMap_cons, List.flatMap_append, ih, List.flatMap_cons, written]
  unfold string
  rw [Bytes.ofText_ofList, List.cons_append, List.flatMap_cons, List.flatMap_append, hcomp]
  rfl

/-- After its opening quote a string is read as the text that was written. -/
theorem stringBody_closed (t : String) :
    stringBody (t.toList.flatMap written ++ code '"' :: rest) = .ok (t, rest) := by
  have hread := stringBytes_closed t.toList
    ((t.toList.flatMap written ++ code '"' :: rest).length + 1) [] rest
    (by rw [List.length_append]; omega)
  rw [List.reverse_nil, List.nil_append, ← Bytes.ofText_eq_flatMap] at hread
  unfold stringBody
  rw [bind_of_ok (r := Reader.rest) rfl, bind_of_ok hread, Bytes.toText?_ofText]
  rfl

/-! ### Values -/

/-- What may follow a value in an object: a comma, or the end of the object. -/
def Ends (rest : Bytes) : Prop :=
  rest.head? = some (code ',') ∨ rest.head? = some (code '\x7d')

/-- The reader takes a written value off the front of whatever may follow it. -/
def Takes (r : Reader α) (value : String) (a : α) : Prop :=
  ∀ rest, Ends rest → r (Bytes.ofText value ++ rest) = .ok (a, rest)

theorem ofText_string_append (t : String) :
    Bytes.ofText (string t) ++ rest =
      code '"' :: (t.toList.flatMap written ++ code '"' :: rest) := by
  rw [ofText_string, List.cons_append, List.append_assoc, List.singleton_append]

theorem text_string (t : String) (rest : Bytes) :
    text (Bytes.ofText (string t) ++ rest) = .ok (t, rest) := by
  rw [ofText_string_append]
  unfold text
  rw [bind_of_ok (peek_cons (by decide)), if_pos rfl]
  exact (bind_of_ok (r := drop) rfl).trans (stringBody_closed t)

theorem takes_text (t : String) : Takes text (string t) t := fun rest _ => text_string t rest

/-- A value that does not begin like null is read where null may stand as well. -/
theorem Takes.nullable {r : Reader α} {value : String} {a : α} (h : Takes r value a)
    (hfirst : ∀ rest, Ends rest → ∃ b more, Bytes.ofText value ++ rest = b :: more ∧
      isSpace b = false ∧ b ≠ code 'n') : Takes (nullable r) value (some a) := by
  intro rest hrest
  obtain ⟨b, more, hbytes, hspace, hnull⟩ := hfirst rest hrest
  have hread := h rest hrest
  rw [hbytes] at hread ⊢
  unfold Json.nullable
  rw [bind_of_ok (peek_cons hspace), if_neg hnull, bind_of_ok hread]
  rfl

theorem takes_nullable_text (t : String) : Takes (nullable text) (string t) (some t) :=
  (takes_text t).nullable fun _ _ => ⟨_, _, ofText_string_append t, by decide, by decide⟩

/-- A name is read as what it names. -/
theorem takes_choice {ofName? : String → Option α} {name : String} {a : α}
    (h : ofName? name = some a) : Takes (choice ofName?) (string name) a := by
  intro rest hrest
  have hread := text_string name rest
  rw [ofText_string_append] at hread ⊢
  unfold choice
  rw [bind_of_ok (peek_cons (by decide)), if_pos rfl, bind_of_ok hread, h]
  rfl

theorem takes_nullable_choice {ofName? : String → Option α} {name : String} {a : α}
    (h : ofName? name = some a) : Takes (nullable (choice ofName?)) (string name) (some a) :=
  (takes_choice h).nullable fun _ _ => ⟨_, _, ofText_string_append name, by decide, by decide⟩

/-! ### Numbers -/

/-- The number that digits write behind a number. -/
def valueFrom (n : Nat) (ds : Bytes) : Nat := ds.foldl (fun n d => 10 * n + digitValue d) n

theorem le_valueFrom (n : Nat) (ds : Bytes) : n ≤ valueFrom n ds := by
  induction ds generalizing n with
  | nil => exact Nat.le_refl n
  | cons d ds ih => exact Nat.le_trans (by omega) (ih (10 * n + digitValue d))

/-- All digits of a number that fits are added up. -/
theorem accumulate_eq {n : Nat} {ds : Bytes} (h : valueFrom n ds < limit64) :
    accumulate n ds = (valueFrom n ds, ds.length) := by
  unfold accumulate
  suffices hfold : ∀ (ds : Bytes) (n used : Nat), valueFrom n ds < limit64 →
      ds.foldl (fun (state : (Nat × Nat) × Bool) d =>
        let next := 10 * state.1.1 + digitValue d
        if state.2 || next ≥ limit64 then (state.1, true) else ((next, state.1.2 + 1), false))
          ((n, used), false) = ((valueFrom n ds, used + ds.length), false) by
    rw [hfold ds n 0 h, Nat.zero_add]
  intro ds
  induction ds with
  | nil => exact fun _ _ _ => rfl
  | cons d ds ih =>
    intro n used hlt
    have hnext : 10 * n + digitValue d < limit64 :=
      Nat.lt_of_le_of_lt (le_valueFrom _ ds) hlt
    have hstep := ih (10 * n + digitValue d) (used + 1) hlt
    rw [List.foldl_cons]
    simp only [Bool.false_or, ge_iff_le, decide_eq_true_eq, if_neg (Nat.not_le.mpr hnext)]
    rw [hstep, List.length_cons]
    congr 2
    omega

/-- The digits of a number. -/
def decimals (n : Nat) : Bytes := Bytes.ofText (toString n)

/-- The byte of a digit. -/
def digitByte (n : Nat) : UInt8 := UInt8.ofNat (48 + n)

theorem digitByte_spec {n : Nat} (h : n < 10) : Bytes.ofText (.singleton (Nat.digitChar n)) =
    [digitByte n] ∧ isDigit (digitByte n) = true ∧ digitValue (digitByte n) = n ∧
      (digitByte n = code '0' → n = 0) := by
  have hall : ∀ n < 10, (Nat.digitChar n).toNat < 128 ∧
      UInt8.ofNat (Nat.digitChar n).toNat = digitByte n ∧ isDigit (digitByte n) = true ∧
      digitValue (digitByte n) = n ∧ (digitByte n = code '0' → n = 0) := by decide
  obtain ⟨hlt, hbyte, hdigit, hvalue, hzero⟩ := hall n h
  refine ⟨?_, hdigit, hvalue, hzero⟩
  rw [Bytes.ofText_eq_flatMap, String.toList_singleton, List.flatMap_singleton,
    Bytes.utf8EncodeChar_of_lt hlt, hbyte]

theorem decimals_of_lt {n : Nat} (h : n < 10) : decimals n = [digitByte n] := by
  unfold decimals
  rw [Nat.toString_eq_repr, Nat.repr_of_lt h, (digitByte_spec h).1]

theorem decimals_of_ge {n : Nat} (h : 10 ≤ n) :
    decimals n = decimals (n / 10) ++ [digitByte (n % 10)] := by
  unfold decimals
  rw [Nat.toString_eq_repr, Nat.repr_of_ge h, Bytes.ofText_append,
    (digitByte_spec (Nat.mod_lt n (by decide))).1, Nat.toString_eq_repr]

theorem isDigit_of_mem_decimals {n : Nat} (h : b ∈ decimals n) : isDigit b = true := by
  induction n using Nat.strongRecOn with
  | _ n ih =>
    by_cases hn : n < 10
    · rw [decimals_of_lt hn, List.mem_singleton] at h
      exact h ▸ (digitByte_spec hn).2.1
    · rw [decimals_of_ge (by omega), List.mem_append, List.mem_singleton] at h
      rcases h with h | rfl
      · exact ih (n / 10) (by omega) h
      · exact (digitByte_spec (Nat.mod_lt n (by decide))).2.1

theorem valueFrom_decimals (n : Nat) : valueFrom 0 (decimals n) = n := by
  induction n using Nat.strongRecOn with
  | _ n ih =>
    by_cases hn : n < 10
    · rw [decimals_of_lt hn]
      show 10 * 0 + digitValue (digitByte n) = n
      rw [(digitByte_spec hn).2.2.1]
      omega
    · have hbefore := ih (n / 10) (by omega)
      unfold valueFrom at hbefore ⊢
      rw [decimals_of_ge (by omega), List.foldl_append, hbefore]
      show 10 * (n / 10) + digitValue (digitByte (n % 10)) = n
      rw [(digitByte_spec (Nat.mod_lt n (by decide))).2.2.1]
      omega

theorem decimals_ne_nil (n : Nat) : decimals n ≠ [] := by
  by_cases hn : n < 10
  · simp [decimals_of_lt hn]
  · simp [decimals_of_ge (Nat.not_lt.mp hn)]

/-- No number but zero begins with a zero. -/
theorem eq_zero_of_decimals {n : Nat} {ds : Bytes} (h : decimals n = code '0' :: ds) : n = 0 := by
  induction n using Nat.strongRecOn generalizing ds with
  | _ n ih =>
    by_cases hn : n < 10
    · rw [decimals_of_lt hn] at h
      exact (digitByte_spec hn).2.2.2 (List.cons.inj h).1
    · rw [decimals_of_ge (by omega)] at h
      obtain ⟨first, more, hfirst⟩ := List.exists_cons_of_ne_nil (decimals_ne_nil (n / 10))
      rw [hfirst, List.cons_append] at h
      obtain rfl := (List.cons.inj h).1
      have hzero := ih (n / 10) (by omega) hfirst
      omega

/-- What may follow a value is no part of a number. -/
theorem exists_of_ends (h : Ends rest) : ∃ b more, rest = b :: more ∧ isDigit b = false ∧
    b ≠ code '.' ∧ b ≠ code 'e' ∧ b ≠ code 'E' := by
  cases rest with
  | nil => simp [Ends] at h
  | cons b more =>
    refine ⟨b, more, rfl, ?_⟩
    rcases h with h | h <;> cases h <;> decide

theorem digits_decimals (n : Nat) (h : Ends rest) :
    digits (decimals n ++ rest) = .ok (decimals n, rest) := by
  obtain ⟨b, more, rfl, hb, _⟩ := exists_of_ends h
  unfold digits
  rw [List.takeWhile_append_of_pos fun _ => isDigit_of_mem_decimals,
    List.dropWhile_append_of_pos fun _ => isDigit_of_mem_decimals,
    List.takeWhile_cons_of_neg (by simp [hb]), List.dropWhile_cons_of_neg (by simp [hb]),
    List.append_nil]

theorem not_zero_cons {n : Nat} {first : UInt8} {more : Bytes}
    (h : decimals n = first :: more) : ¬ (first = code '0' ∧ more ≠ []) := by
  rintro ⟨rfl, hmore⟩
  obtain rfl := eq_zero_of_decimals h
  rw [decimals_of_lt (by decide)] at h
  exact hmore (List.cons.inj h).2.symm

/-- A number without its sign is read as a whole number. -/
theorem unsignedNumber_decimals {n : Nat} (hn : n < limit64) (negative : Bool) (h : Ends rest) :
    unsignedNumber negative (decimals n ++ rest) = unsignedNumber.finish negative n 0 rest := by
  obtain ⟨first, more, hcons⟩ := List.exists_cons_of_ne_nil (decimals_ne_nil n)
  have hread := digits_decimals n h
  have hvalue : accumulate 0 (first :: more) = (n, (first :: more).length) := by
    rw [← hcons, accumulate_eq (by rw [valueFrom_decimals]; exact hn), valueFrom_decimals]
  obtain ⟨b, rest, rfl, _, hdot, he, hE⟩ := exists_of_ends h
  rw [hcons] at hread ⊢
  unfold unsignedNumber
  rw [bind_of_ok hread]
  simp only [if_neg (not_zero_cons hcons), hvalue, Int.sub_self]
  rw [bind_of_ok (r := Reader.rest) rfl]
  simp only [if_neg hdot, he, hE, or_self, if_false]

theorem isSpace_of_isDigit (h : isDigit b = true) : isSpace b = false := by
  rw [Bool.eq_false_iff]
  intro hspace
  simp only [isSpace, Bool.or_eq_true, beq_iff_eq] at hspace
  rcases hspace with ((rfl | rfl) | rfl) | rfl <;> exact absurd h (by decide)

theorem ne_of_isDigit (h : isDigit b = true) {other : UInt8} (hother : isDigit other = false) :
    b ≠ other := by
  rintro rfl
  exact Bool.false_ne_true (hother.symm.trans h)

/-- A number begins with a digit. -/
theorem decimals_cons (n : Nat) : ∃ first more, decimals n = first :: more ∧
    isDigit first = true := by
  obtain ⟨first, more, hcons⟩ := List.exists_cons_of_ne_nil (decimals_ne_nil n)
  exact ⟨first, more, hcons, isDigit_of_mem_decimals (hcons ▸ List.mem_cons_self)⟩

theorem number_decimals {n : Nat} (hn : n < limit64) (h : Ends rest) :
    number (decimals n ++ rest) = .ok (.whole n, rest) := by
  have hread := unsignedNumber_decimals hn false h
  obtain ⟨first, more, hcons, hdigit⟩ := decimals_cons n
  rw [hcons, List.cons_append] at hread ⊢
  unfold number
  rw [bind_of_ok (peek_cons (isSpace_of_isDigit hdigit)), if_neg (ne_of_isDigit hdigit rfl), hread]
  rfl

theorem number_negative {n : Nat} (hpos : 0 < n) (hn : n ≤ limit63) (h : Ends rest) :
    number (code '-' :: (decimals n ++ rest)) = .ok (.whole (-n), rest) := by
  have hlt : n < limit64 := by
    unfold limit63 at hn
    unfold limit64
    omega
  have hdrop : drop (code '-' :: (decimals n ++ rest)) = .ok ((), decimals n ++ rest) := rfl
  unfold number
  rw [bind_of_ok (peek_cons (by decide)), if_pos rfl,
    bind_of_ok hdrop, unsignedNumber_decimals hlt true h]
  unfold unsignedNumber.finish
  simp [hpos, hn]
  rfl

/-- A whole number is written as its digits, behind a sign if it is negative. -/
theorem ofText_int (n : Int) : Bytes.ofText (toString n) =
    if 0 ≤ n then decimals n.toNat else code '-' :: decimals n.natAbs := by
  cases n with
  | ofNat n => rfl
  | negSucc n =>
    rw [if_neg (by omega)]
    show Bytes.ofText ("-" ++ toString (n + 1)) = _
    rw [Bytes.ofText_append]
    rfl

theorem takes_integer {n : Int} (hlow : -limit63 ≤ n) (hhigh : n < limit63) :
    Takes integer (toString n) n := by
  intro rest hrest
  rw [ofText_int]
  unfold limit63 at hlow hhigh
  by_cases hn : 0 ≤ n
  · have hread := number_decimals (n := n.toNat) (by unfold limit64; omega) hrest
    obtain ⟨first, more, hcons, hdigit⟩ := decimals_cons n.toNat
    rw [if_pos hn]
    rw [hcons, List.cons_append] at hread ⊢
    unfold integer
    rw [bind_of_ok (peek_cons (isSpace_of_isDigit hdigit)), if_pos (Or.inr hdigit), bind_of_ok hread]
    rw [Int.toNat_of_nonneg hn]
    dsimp only
    rw [if_pos ⟨by unfold limit63; omega, by unfold limit63; omega⟩]
    rfl
  · have hread := number_negative (n := n.natAbs) (by omega) (by unfold limit63; omega) hrest
    rw [if_neg hn, List.cons_append]
    unfold integer
    rw [bind_of_ok (peek_cons (by decide)), if_pos (Or.inl rfl), bind_of_ok hread]
    rw [show -((n.natAbs : Nat) : Int) = n by omega]
    dsimp only
    rw [if_pos ⟨by unfold limit63; omega, by unfold limit63; omega⟩]
    rfl

/-! ### Skipped values -/

theorem skipString_plains (fuel : Nat) (h : ∀ b ∈ bytes, IsPlain b) :
    skipString (fuel + bytes.length) (bytes ++ rest) = skipString fuel rest := by
  induction bytes with
  | nil => rfl
  | cons b more ih =>
    obtain ⟨hquote, hbackslash, hcontrol⟩ := h b List.mem_cons_self
    have hstep : skipString (fuel + more.length + 1) (b :: (more ++ rest)) =
        skipString (fuel + more.length) (more ++ rest) := by
      rw [skipString, bind_of_ok (r := Reader.rest) rfl]
      simp only [if_neg hquote, if_neg hbackslash, if_neg hcontrol]
      rfl
    rw [List.length_cons, List.cons_append, ← Nat.add_assoc, hstep]
    exact ih fun b hb => h b (List.mem_cons_of_mem _ hb)

/-- Every character is skipped as it was written. -/
theorem skipString_written (c : Char) (fuel : Nat) (rest : Bytes) :
    ∃ spared, skipString (fuel + (written c).length) (written c ++ rest) =
      skipString (fuel + spared) rest := by
  unfold written escape
  split
  · exact ⟨1, rfl⟩
  · exact ⟨1, rfl⟩
  · exact ⟨1, rfl⟩
  · exact ⟨1, rfl⟩
  · exact ⟨1, rfl⟩
  · exact ⟨1, rfl⟩
  · exact ⟨1, rfl⟩
  · split
    · rename_i hcontrol
      have hread := hex4_digits (n := c.toNat) (by omega) rest
      generalize hdigits : ['0', '0', Bytes.hexDigit (c.toNat / 16),
        Bytes.hexDigit (c.toNat % 16)].flatMap String.utf8EncodeChar = ds at hread
      have hbytes : (['\\', 'u', '0', '0', Bytes.hexDigit (c.toNat / 16),
          Bytes.hexDigit (c.toNat % 16)].flatMap String.utf8EncodeChar) =
          code '\\' :: code 'u' :: ds := by
        rw [← hdigits]
        rfl
      have hstep : skipString (fuel + (ds.length + 1) + 1) (code '\\' :: code 'u' :: (ds ++ rest)) =
          (hex4 >>= fun _ => skipString (fuel + (ds.length + 1))) (ds ++ rest) := rfl
      rw [hbytes]
      exact ⟨_, hstep.trans (bind_of_ok hread)⟩
    · rename_i hquote hbackslash _ _ _ _ _ hplain
      refine ⟨0, ?_⟩
      rw [List.flatMap_singleton]
      exact skipString_plains fuel (isPlain_of_mem hquote hbackslash hplain)

theorem skipString_closed (cs : List Char) (fuel : Nat)
    (hfuel : (cs.flatMap written).length < fuel) :
    skipString fuel (cs.flatMap written ++ code '"' :: rest) = .ok ((), rest) := by
  induction cs generalizing fuel with
  | nil =>
    obtain ⟨fuel, rfl⟩ : ∃ k, fuel = k + 1 := ⟨fuel - 1, by simp at hfuel; omega⟩
    rfl
  | cons c cs ih =>
    rw [List.flatMap_cons, List.length_append] at hfuel
    obtain ⟨spared, hread⟩ := skipString_written c (fuel - (written c).length)
      (cs.flatMap written ++ code '"' :: rest)
    rw [Nat.sub_add_cancel (by omega)] at hread
    rw [List.flatMap_cons, List.append_assoc, hread, ih _ (by omega)]

/-- A value that opens no bracket is skipped by itself. -/
theorem skipValue_scalar {first : UInt8} {more : Bytes} (hspace : isSpace first = false)
    (hlist : first ≠ code '[') (hobject : first ≠ code '\x7b')
    (h : skipScalar (first :: more) = .ok ((), rest)) :
    skipValue (first :: more) = .ok ((), rest) := by
  unfold skipValue
  rw [bind_of_ok (r := Reader.rest) rfl]
  unfold skipFrom
  rw [bind_of_ok (peek_cons hspace), if_neg hlist, if_neg hobject, bind_of_ok h]
  rfl

theorem takes_skipValue_string (t : String) : Takes skipValue (string t) () := by
  intro rest hrest
  rw [ofText_string_append]
  refine skipValue_scalar (by decide) (by decide) (by decide) ?_
  unfold skipScalar
  rw [bind_of_ok (peek_cons (by decide)), if_pos rfl]
  refine (bind_of_ok (r := drop) rfl).trans ?_
  rw [bind_of_ok (r := Reader.rest) rfl]
  refine skipString_closed _ _ ?_
  rw [List.tail_cons, List.length_append]
  omega

theorem skipNumber_decimals (n : Nat) (h : Ends rest) :
    skipNumber (decimals n ++ rest) = .ok ((), rest) := by
  have hread := digits_decimals n h
  obtain ⟨first, more, hcons, hdigit⟩ := decimals_cons n
  obtain ⟨b, rest, rfl, _, hdot, he, hE⟩ := exists_of_ends h
  rw [hcons, List.cons_append] at hread ⊢
  unfold skipNumber
  rw [bind_of_ok (peek_cons (isSpace_of_isDigit hdigit)), if_neg (ne_of_isDigit hdigit rfl)]
  dsimp only
  rw [bind_of_ok hread]
  dsimp only
  rw [if_neg (not_zero_cons hcons), bind_of_ok (r := Reader.rest) rfl, if_neg (by simpa using hdot),
    bind_of_ok (r := Reader.rest) rfl, bind_of_ok (r := Reader.rest) rfl,
    if_neg (by simpa using ⟨he, hE⟩)]
  rfl

theorem skipNumber_negative (n : Nat) (h : Ends rest) :
    skipNumber (code '-' :: (decimals n ++ rest)) = .ok ((), rest) := by
  have hunsigned := skipNumber_decimals n h
  obtain ⟨first, more, hcons, hdigit⟩ := decimals_cons n
  rw [hcons, List.cons_append] at hunsigned ⊢
  unfold skipNumber at hunsigned ⊢
  rw [bind_of_ok (peek_cons (isSpace_of_isDigit hdigit)),
    if_neg (ne_of_isDigit hdigit rfl)] at hunsigned
  rw [bind_of_ok (peek_cons (by decide)), if_pos rfl]
  exact (bind_of_ok (r := drop) rfl).trans hunsigned

theorem takes_skipValue_int (n : Int) : Takes skipValue (toString n) () := by
  intro rest hrest
  rw [ofText_int]
  split
  · have hskip := skipNumber_decimals n.toNat hrest
    obtain ⟨first, more, hcons, hdigit⟩ := decimals_cons n.toNat
    rw [hcons, List.cons_append] at hskip ⊢
    refine skipValue_scalar (isSpace_of_isDigit hdigit) (ne_of_isDigit hdigit rfl)
      (ne_of_isDigit hdigit rfl) ?_
    unfold skipScalar
    rw [bind_of_ok (peek_cons (isSpace_of_isDigit hdigit)), if_neg (ne_of_isDigit hdigit rfl),
      if_neg (ne_of_isDigit hdigit rfl), if_neg (ne_of_isDigit hdigit rfl),
      if_neg (ne_of_isDigit hdigit rfl), if_pos (Or.inr hdigit)]
    exact hskip
  · refine skipValue_scalar (by decide) (by decide) (by decide) ?_
    unfold skipScalar
    rw [bind_of_ok (peek_cons (by decide)), if_neg (by decide), if_neg (by decide),
      if_neg (by decide), if_neg (by decide), if_pos (Or.inl rfl)]
    exact skipNumber_negative _ hrest

/-! ### Objects -/

/--
Reading written members one after the other takes a draft to another one: a member that
is a field is read, and every other one is skipped.
-/
inductive Fills (fields : List (Field σ)) : σ → List (String × String) → σ → Prop
  | nil (draft : σ) : Fills fields draft [] draft
  | read {f : Field σ} {draft next last : σ} {name value : String} {more : List (String × String)}
    (hfind : fields.find? (fun f => f.name == name) = some f) (hnew : f.isRead draft = false)
    (hvalue : Takes (f.read draft) value next) (hmore : Fills fields next more last) :
    Fills fields draft ((name, value) :: more) last
  | skip {draft last : σ} {name value : String} {more : List (String × String)}
    (hfind : fields.find? (fun f => f.name == name) = none) (hvalue : Takes skipValue value ())
    (hmore : Fills fields draft more last) : Fills fields draft ((name, value) :: more) last

/-- The bytes of a member. -/
def memberBytes (m : String × String) : Bytes := Bytes.ofText (string m.1 ++ ":" ++ m.2)

/-- The bytes of the members behind the first one. -/
def moreBytes (ms : List (String × String)) : Bytes :=
  ms.flatMap fun m => code ',' :: memberBytes m

theorem memberBytes_append (name value : String) : memberBytes (name, value) ++ rest =
    code '"' :: (name.toList.flatMap written ++
      code '"' :: (code ':' :: (Bytes.ofText value ++ rest))) := by
  unfold memberBytes
  rw [Bytes.ofText_append, Bytes.ofText_append, List.append_assoc, List.append_assoc,
    ofText_string_append]
  rfl

theorem ofText_intercalate (t : String) (ts : List String) :
    Bytes.ofText (String.intercalate "," (t :: ts)) =
      Bytes.ofText t ++ ts.flatMap fun t => code ',' :: Bytes.ofText t := by
  induction ts generalizing t with
  | nil => simp
  | cons u ts ih =>
    rw [String.intercalate_cons_cons, Bytes.ofText_append, Bytes.ofText_append, ih u,
      List.flatMap_cons, List.append_assoc]
    rfl

theorem ofText_object_append (m : String × String) (ms : List (String × String)) :
    Bytes.ofText (object (m :: ms)) ++ rest =
      code '\x7b' :: (memberBytes m ++ (moreBytes ms ++ code '\x7d' :: rest)) := by
  have hopen : Bytes.ofText "\x7b" = [code '\x7b'] := rfl
  have hclose : Bytes.ofText "\x7d" = [code '\x7d'] := rfl
  unfold object
  rw [Bytes.ofText_append, Bytes.ofText_append, List.map_cons, ofText_intercalate,
    List.flatMap_map, hopen, hclose]
  simp [memberBytes, moreBytes]

theorem ends_moreBytes (ms : List (String × String)) (rest : Bytes) :
    Ends (moreBytes ms ++ code '\x7d' :: rest) := by
  cases ms with
  | nil => exact Or.inr rfl
  | cons m ms => exact Or.inl rfl

theorem length_le_moreBytes (ms : List (String × String)) : ms.length ≤ (moreBytes ms).length := by
  induction ms with
  | nil => exact Nat.le_refl 0
  | cons m ms ih =>
    have hstep : moreBytes (m :: ms) = code ',' :: (memberBytes m ++ moreBytes ms) := rfl
    rw [hstep, List.length_cons, List.length_cons, List.length_append]
    omega

variable {fields : List (Field σ)} {draft last : σ}

/-- A member is read up to what follows it. -/
theorem members_member {m : String × String} {ms : List (String × String)} (fuel : Nat)
    (first : Bool) (hstart : hasMember first bytes = .ok (true, memberBytes m ++ rest))
    (hrest : Ends rest) (h : Fills fields draft (m :: ms) last) :
    ∃ next, Fills fields next ms last ∧
      members fields (fuel + 1) first draft bytes = members fields fuel false next rest := by
  obtain ⟨name, value⟩ := m
  rw [memberBytes_append] at hstart
  rw [members, bind_of_ok hstart, if_pos rfl, bind_of_ok (r := drop) rfl, List.tail_cons,
    bind_of_ok (stringBody_closed name)]
  cases h with
  | read hfind hnew hvalue hmore =>
    refine ⟨_, hmore, ?_⟩
    rw [hfind]
    dsimp only
    rw [hnew, if_neg (by decide), bind_of_ok (expect_cons (by decide)),
      bind_of_ok (hvalue rest hrest)]
  | skip hfind hvalue hmore =>
    refine ⟨_, hmore, ?_⟩
    rw [hfind]
    dsimp only
    rw [bind_of_ok (expect_cons (by decide)), bind_of_ok (hvalue rest hrest)]

theorem hasMember_first (m : String × String) :
    hasMember true (memberBytes m ++ rest) = .ok (true, memberBytes m ++ rest) := by
  rw [memberBytes_append]
  unfold hasMember
  rw [bind_of_ok (peek_cons (by decide)), if_neg (by decide), if_pos rfl, if_pos rfl]
  rfl

theorem hasMember_more (m : String × String) :
    hasMember false (code ',' :: (memberBytes m ++ rest)) = .ok (true, memberBytes m ++ rest) := by
  rw [memberBytes_append]
  unfold hasMember
  rw [bind_of_ok (peek_cons (by decide)), if_neg (by decide), if_neg (by decide), if_pos rfl,
    bind_of_ok (r := drop) rfl, List.tail_cons, bind_of_ok (peek_cons (by decide)), if_pos rfl]
  rfl

theorem members_moreBytes {ms : List (String × String)} (fuel : Nat) (hfuel : ms.length < fuel)
    (h : Fills fields draft ms last) :
    members fields fuel false draft (moreBytes ms ++ code '\x7d' :: rest) =
      .ok (last, code '\x7d' :: rest) := by
  induction ms generalizing draft fuel with
  | nil =>
    cases h
    obtain ⟨fuel, rfl⟩ : ∃ k, fuel = k + 1 := ⟨fuel - 1, by simp at hfuel; omega⟩
    have hend : hasMember false (code '\x7d' :: rest) = .ok (false, code '\x7d' :: rest) := by
      unfold hasMember
      rw [bind_of_ok (peek_cons (by decide)), if_pos rfl]
      rfl
    rw [members]
    exact bind_of_ok hend
  | cons m ms ih =>
    obtain ⟨fuel, rfl⟩ : ∃ k, fuel = k + 1 := ⟨fuel - 1, by simp at hfuel; omega⟩
    have hbytes : moreBytes (m :: ms) ++ code '\x7d' :: rest =
        code ',' :: (memberBytes m ++ (moreBytes ms ++ code '\x7d' :: rest)) := by
      simp [moreBytes]
    obtain ⟨next, hnext, hread⟩ :=
      members_member fuel false (hasMember_more m) (ends_moreBytes ms rest) h
    rw [hbytes, hread]
    exact ih fuel (by simpa using hfuel) hnext

/-- A written object is read as the record that its members fill. -/
theorem record_object {blank : σ} {finish : σ → Option α} {m : String × String}
    {ms : List (String × String)} {a : α} (h : Fills fields blank (m :: ms) last)
    (hfinish : finish last = some a) :
    record fields blank finish (Bytes.ofText (object (m :: ms)) ++ rest) = .ok (a, rest) := by
  have hfuel : ms.length < (memberBytes m ++ (moreBytes ms ++ code '\x7d' :: rest)).length := by
    have hmore := length_le_moreBytes ms
    simp only [List.length_append, List.length_cons]
    omega
  obtain ⟨next, hnext, hread⟩ := members_member
    (memberBytes m ++ (moreBytes ms ++ code '\x7d' :: rest)).length true (hasMember_first m)
    (ends_moreBytes ms rest) h
  have hmembers := hread.trans (members_moreBytes _ hfuel hnext)
  rw [ofText_object_append]
  unfold record
  rw [bind_of_ok (peek_cons (by decide)), if_neg (by decide), if_pos rfl,
    bind_of_ok (r := drop) rfl, List.tail_cons]
  refine closing_of_ok ?_ (expect_cons (by decide))
  rw [bind_of_ok (r := Reader.rest) rfl, bind_of_ok hmembers]
  dsimp only
  rw [hfinish]
  rfl

/-- With nothing behind it, a value is the whole. -/
theorem run?_whole {r : Reader α} {a : α} (h : r bytes = .ok (a, [])) :
    (whole r).run? bytes = .ok a := by
  unfold Reader.run? whole
  have hend : peek? [] = .ok (none, []) := rfl
  rw [bind_of_ok h, bind_of_ok hend]
  rfl

end SessionAuth.Json
