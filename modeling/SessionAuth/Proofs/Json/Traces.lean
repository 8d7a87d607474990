/-
Readers and the outline.

A reader that takes a value off the front of a text has gone through a stretch of its outline:
it ends at the same depth, outside of strings.  One that stops is somewhere in the middle of the
value, but never before its beginning, in terms of depth.  So it may be too deep when it goes on,
or inside of a string, and that is all that can have gone wrong.
-/
import SessionAuth.Json.Value
import SessionAuth.Proofs.Json.Outline
import SessionAuth.Proofs.Json.Written
import Mathlib.Data.List.TakeWhile

namespace SessionAuth.Json

open Place

variable {α β : Type} {r : Reader α} {f : α → Reader β} {p q t : Place} {bytes rest : Bytes}
  {b : UInt8} {floor d : Nat}

/-! ### Sequences -/

/-- A sequence stops where its first reader stops. -/
theorem bind_of_error {s : Stop} (h : r bytes = .error s) : (r >>= f) bytes = .error s := by
  show (r bytes >>= fun p => f p.1 p.2) = _
  rw [h]
  rfl

/-- A sequence that succeeds is two readers that succeed. -/
theorem bind_eq_ok {value : β} (h : (r >>= f) bytes = .ok (value, rest)) :
    ∃ a middle, r bytes = .ok (a, middle) ∧ f a middle = .ok (value, rest) := by
  cases hr : r bytes with
  | error s => rw [bind_of_error hr] at h; cases h
  | ok taken => rw [bind_of_ok hr] at h; exact ⟨taken.1, taken.2, rfl, h⟩

/-- If the reader succeeds, it has gone from one place to another. -/
def Spans (r : Reader α) (p : Place) (bytes : Bytes) (q : Place) : Prop :=
  ∀ a rest, r bytes = .ok (a, rest) → Leads p bytes rest q

/-- The reader goes from one place to another, or stops at a place of a certain depth at least. -/
def Traces (floor : Nat) (r : Reader α) (p : Place) (bytes : Bytes) (q : Place) : Prop :=
  match r bytes with
  | .ok (_, rest) => Leads p bytes rest q
  | .error s => ∃ taken, bytes = taken ++ s.rest ∧ Stays floor p taken

theorem Traces.spans (h : Traces floor r p bytes q) : Spans r p bytes q := by
  intro a rest hread
  unfold Traces at h
  rw [hread] at h
  exact h

theorem Spans.bind (h : Spans r p bytes q)
    (hnext : ∀ a rest, r bytes = .ok (a, rest) → Spans (f a) q rest t) :
    Spans (r >>= f) p bytes t := by
  intro value rest hread
  obtain ⟨a, middle, hfirst, hsecond⟩ := bind_eq_ok hread
  exact (h a middle hfirst).trans (hnext a middle hfirst value rest hsecond)

theorem Traces.bind (h : Traces floor r p bytes q)
    (hnext : ∀ a rest, r bytes = .ok (a, rest) → Traces floor (f a) q rest t) :
    Traces floor (r >>= f) p bytes t := by
  unfold Traces at h
  cases hr : r bytes with
  | error s =>
    rw [hr] at h
    unfold Traces
    rw [bind_of_error hr]
    exact h
  | ok taken =>
    obtain ⟨a, middle⟩ := taken
    rw [hr] at h
    have hthen := hnext a middle hr
    unfold Traces at hthen ⊢
    rw [bind_of_ok hr]
    obtain ⟨first, rfl, hwalk⟩ := h
    cases hf : f a middle with
    | ok taken' =>
      rw [hf] at hthen
      exact Leads.trans ⟨first, rfl, hwalk⟩ hthen
    | error s =>
      rw [hf] at hthen
      obtain ⟨second, rfl, hstays⟩ := hthen
      exact ⟨first ++ second, (List.append_assoc ..).symm, Stays.of_walk hwalk hstays⟩

theorem traces_pure (a : α) : Traces floor (pure a) p bytes p := Leads.refl p bytes

theorem traces_stop {fault : Fault} (h : floor ≤ p.depth) :
    Traces floor (Reader.stop fault : Reader α) p bytes q :=
  ⟨[], rfl, stays_nil h⟩

/-- The bytes that are left are looked at and left in place. -/
theorem Traces.of_rest {f : Bytes → Reader β} (h : Traces floor (f bytes) p bytes q) :
    Traces floor (Reader.rest >>= f) p bytes q := h

theorem Spans.of_rest {f : Bytes → Reader β} (h : Spans (f bytes) p bytes q) :
    Spans (Reader.rest >>= f) p bytes q := h

/-- Only what the reader does with these bytes matters. -/
theorem Traces.congr (r' : Reader α) (hr : r bytes = r' bytes) (h : Traces floor r' p bytes q) :
    Traces floor r p bytes q := by
  unfold Traces
  rw [hr]
  exact h

/-- A byte is taken first, whatever is done then. -/
theorem Traces.of_step {r' : Reader α} (hr : r' (b :: rest) = r rest) (hstep : p.step b = some t)
    (h : Traces floor r t rest q) : Traces floor r' p (b :: rest) q := by
  unfold Traces at h ⊢
  rw [hr]
  cases hread : r rest with
  | ok taken =>
    rw [hread] at h
    exact (Leads.step hstep rest).trans h
  | error s =>
    rw [hread] at h
    obtain ⟨taken, rfl, hstays⟩ := h
    have hwalk : walk p [b] = some t := walk_cons_eq_some.mpr ⟨t, hstep, rfl⟩
    exact ⟨b :: taken, rfl, Stays.of_walk hwalk hstays⟩

/-- A byte is dropped before the reader stops, whether it can stand there or not. -/
theorem Traces.of_dropped (fault : Fault) (hr : r (b :: rest) = .error ⟨fault, rest⟩)
    (hstep : ∀ t, p.raise.step b = some t → ∃ u, p.step b = some u ∧ floor ≤ u.depth) :
    Traces floor r p (b :: rest) q := by
  unfold Traces
  rw [hr]
  exact ⟨[b], rfl, stays_singleton hstep⟩

/-! ### Spaces -/

/-- Behind spaces there is a byte, or nothing. -/
theorem peek_cases (bytes : Bytes) :
    (∃ b more, bytes.dropWhile isSpace = b :: more ∧ isSpace b = false ∧
      peek bytes = .ok (b, b :: more)) ∨
    bytes.dropWhile isSpace = [] ∧ peek bytes = .error ⟨.malformed, []⟩ := by
  cases hbytes : bytes.dropWhile isSpace with
  | nil =>
    refine Or.inr ⟨rfl, ?_⟩
    have hpeek : peek? bytes = .ok (none, []) := by
      unfold peek?
      rw [hbytes]
      rfl
    unfold peek
    rw [bind_of_ok hpeek]
    rfl
  | cons b more =>
    have hspace : isSpace b = false := by
      have hhead := List.head?_dropWhile_not isSpace bytes
      rw [hbytes] at hhead
      simpa using hhead
    refine Or.inl ⟨b, more, rfl, hspace, ?_⟩
    have hpeek : peek? bytes = .ok (some b, b :: more) := by
      unfold peek?
      rw [hbytes]
      rfl
    unfold peek
    rw [bind_of_ok hpeek]
    rfl

/-- The byte that is seen stands in front of what is left, and it is no space. -/
theorem peek_eq_ok (h : peek bytes = .ok (b, rest)) :
    ∃ more, rest = b :: more ∧ bytes.dropWhile isSpace = b :: more ∧ isSpace b = false := by
  rcases peek_cases bytes with ⟨b', more, hbytes, hspace, hpeek⟩ | ⟨_, hpeek⟩ <;> rw [hpeek] at h
  · cases h
    exact ⟨more, rfl, hbytes, hspace⟩
  · cases h

theorem leads_dropWhile (d : Nat) (bytes : Bytes) :
    Leads (outside d) bytes (bytes.dropWhile isSpace) (outside d) :=
  ⟨bytes.takeWhile isSpace, (List.takeWhile_append_dropWhile).symm,
    walk_spaces_outside fun _ hb => List.mem_takeWhile_imp hb⟩

theorem traces_peek (h : floor ≤ d) : Traces floor peek (outside d) bytes (outside d) := by
  have hlead := leads_dropWhile d bytes
  unfold Traces
  rcases peek_cases bytes with ⟨b, more, hbytes, _, hpeek⟩ | ⟨hbytes, hpeek⟩
  · rw [hpeek, ← hbytes]
    exact hlead
  · rw [hpeek]
    obtain ⟨taken, htaken, hwalk⟩ := hlead
    rw [hbytes] at htaken
    exact ⟨taken ++ [], by simpa using htaken, Stays.of_walk hwalk (stays_nil h)⟩

/-- After a byte has been seen, a reader goes on with this byte in front. -/
theorem Traces.of_peek {f : UInt8 → Reader β} (h : floor ≤ d)
    (hnext : ∀ b more, isSpace b = false → Traces floor (f b) (outside d) (b :: more) q) :
    Traces floor (peek >>= f) (outside d) bytes q := by
  refine (traces_peek h).bind ?_
  intro b rest hpeek
  obtain ⟨more, rfl, _, hspace⟩ := peek_eq_ok hpeek
  exact hnext b more hspace

/-- The byte in front is dropped. -/
theorem Traces.of_drop {r : Reader β} (hstep : p.step b = some t) (h : Traces floor r t rest q) :
    Traces floor (drop >>= fun _ => r) p (b :: rest) q :=
  Traces.of_step rfl hstep h

theorem Traces.of_set {r : Reader β} (hstep : p.step b = some t) (h : Traces floor r t rest q) :
    Traces floor (set rest >>= fun _ => r) p (b :: rest) q :=
  Traces.of_step rfl hstep h

/-! ### Strings -/

theorem traces_hex4 : Traces d hex4 (inside d) bytes (inside d) := by
  have hdigit : ∀ b : UInt8, Text.hexDigit? (Char.ofNat b.toNat) ≠ none →
      (inside d).step b = some (inside d) := by
    intro b hb
    refine step_inside ?_ ?_ <;> rintro rfl <;> exact absurd rfl hb
  unfold hex4
  refine Traces.of_rest ?_
  split
  · rename_i a b c e after
    dsimp only
    split
    · rename_i ha hb hc he
      refine ⟨[a, b, c, e], rfl, walk_of_steady ?_⟩
      intro x hx
      simp only [List.mem_cons, List.not_mem_nil, or_false] at hx
      rcases hx with rfl | rfl | rfl | rfl
      · exact hdigit x (by rw [ha]; simp)
      · exact hdigit x (by rw [hb]; simp)
      · exact hdigit x (by rw [hc]; simp)
      · exact hdigit x (by rw [he]; simp)
    · exact traces_stop (Nat.le_refl _)
  · exact traces_stop (Nat.le_refl _)

/-- A byte in a string leads to some place at the same depth. -/
theorem depth_of_step_inside (h : p = inside d ∨ p = escaped d) (b : UInt8) :
    ∃ q, p.step b = some q ∧ q.depth = d := by
  rcases h with rfl | rfl
  · show ∃ q, (if b = code '"' then some (outside d)
      else if b = code '\\' then some (escaped d) else some (inside d)) = some q ∧ q.depth = d
    repeat' split
    all_goals exact ⟨_, rfl, rfl⟩
  · exact ⟨_, rfl, rfl⟩

/-- A certain byte must come next; any other one is dropped, too, before the reader stops. -/
theorem traces_exactly {c : Char} (hp : p = inside d ∨ p = escaped d)
    (hstep : p.step (code c) = some q) : Traces d (exactly c) p bytes q := by
  have hdepth : p.depth = d := by rcases hp with rfl | rfl <;> rfl
  unfold exactly
  refine Traces.of_rest ?_
  cases bytes with
  | nil => exact traces_stop hdepth.ge
  | cons b after =>
    by_cases hb : b = code c
    · subst hb
      exact Traces.of_step (r := pure ()) (by simp; rfl) hstep (traces_pure ())
    · obtain ⟨place, hplace, hdepth⟩ := depth_of_step_inside hp b
      exact Traces.of_step (r := Reader.stop .malformed) (by simp [hb]; rfl) hplace
        (traces_stop hdepth.ge)

theorem traces_unicodeEscape : Traces d unicodeEscape (inside d) bytes (inside d) := by
  unfold unicodeEscape
  refine traces_hex4.bind fun n rest _ => ?_
  split
  · exact traces_stop (Nat.le_refl _)
  · split
    · exact traces_pure _
    · refine (traces_exactly (Or.inl rfl) rfl).bind fun _ rest _ => ?_
      refine (traces_exactly (Or.inr rfl) rfl).bind fun _ rest _ => ?_
      refine traces_hex4.bind fun m rest _ => ?_
      split
      · exact traces_stop (Nat.le_refl _)
      · exact traces_pure _

theorem traces_escapeSequence : Traces d escapeSequence (escaped d) bytes (inside d) := by
  unfold escapeSequence
  refine Traces.of_rest ?_
  cases bytes with
  | nil => exact traces_stop (Nat.le_refl _)
  | cons b after =>
    by_cases hcode : b = code 'u'
    · exact Traces.of_step (r := unicodeEscape) (by simp [hcode]; rfl) rfl traces_unicodeEscape
    · cases hletter : letterEscape? b with
      | none =>
        exact Traces.of_step (r := Reader.stop .malformed) (by simp [hcode, hletter]; rfl) rfl
          (traces_stop (Nat.le_refl _))
      | some c =>
        exact Traces.of_step (r := pure [c]) (by simp [hcode, hletter]; rfl) rfl (traces_pure _)

/-- A string is read up to its closing quote. -/
theorem traces_stringBytes (fuel : Nat) (done : Bytes) :
    Traces d (stringBytes fuel done) (inside d) bytes (outside d) := by
  induction fuel generalizing bytes done with
  | zero => exact traces_stop (Nat.le_refl _)
  | succ fuel ih =>
    unfold stringBytes
    refine Traces.of_rest ?_
    cases bytes with
    | nil => exact traces_stop (Nat.le_refl _)
    | cons b after =>
      by_cases hquote : b = code '"'
      · subst hquote
        exact Traces.of_step (r := pure done.reverse) (by simp; rfl) rfl (traces_pure _)
      · by_cases hbackslash : b = code '\\'
        · subst hbackslash
          refine Traces.of_step (t := escaped d) (r := escapeSequence >>= fun bytes =>
            stringBytes fuel (bytes.reverse ++ done)) rfl rfl ?_
          exact traces_escapeSequence.bind fun bytes rest _ => ih _
        · have hstep : (inside d).step b = some (inside d) := step_inside hquote hbackslash
          by_cases hcontrol : b < 0x20
          · exact Traces.of_step (r := Reader.stop .malformed)
              (by simp [hquote, hbackslash, hcontrol]; rfl) hstep (traces_stop (Nat.le_refl _))
          · exact Traces.of_step (r := stringBytes fuel (b :: done))
              (by simp [hquote, hbackslash, hcontrol]; rfl) hstep (ih _)

theorem traces_stringBody : Traces d stringBody (inside d) bytes (outside d) := by
  unfold stringBody
  refine Traces.of_rest ?_
  refine (traces_stringBytes _ _).bind fun read rest _ => ?_
  split
  · exact traces_pure _
  · exact traces_stop (Nat.le_refl _)

/-! ### Words and numbers -/

/-- The letters of a word that are left. -/
theorem traces_letters {c : Char} {left : List Char} (h : ∀ x ∈ c :: left, x.isLower = true) :
    Traces d (Json.word (c :: left)) (Place.word d (c :: left)) bytes (outside d) := by
  induction left generalizing c bytes with
  | nil =>
    unfold Json.word
    refine Traces.of_rest ?_
    cases bytes with
    | nil => exact traces_stop (Nat.le_refl _)
    | cons b after =>
      have hc := h c List.mem_cons_self
      by_cases hb : b = code c
      · subst hb
        exact Traces.of_step (r := pure ()) (by simp; rfl) (if_pos ⟨rfl, hc⟩) (traces_pure ())
      · refine Traces.of_dropped .malformed (by simp [hb]; rfl) ?_
        intro t ht
        cases (if_neg fun heq => hb heq.1).symm.trans ht
  | cons c' left ih =>
    rw [Json.word]
    refine Traces.of_rest ?_
    cases bytes with
    | nil => exact traces_stop (Nat.le_refl _)
    | cons b after =>
      have hc := h c List.mem_cons_self
      by_cases hb : b = code c
      · subst hb
        exact Traces.of_step (r := Json.word (c' :: left)) (by simp; rfl) (if_pos ⟨rfl, hc⟩)
          (ih fun x hx => h x (List.mem_cons_of_mem _ hx))
      · refine Traces.of_dropped .malformed (by simp [hb]; rfl) ?_
        intro t ht
        cases (if_neg fun heq => hb heq.1).symm.trans ht

/-- A word whose first letter stands in front. -/
theorem traces_word {c c' : Char} {left : List Char}
    (hmark : Mark.of (code c) = .letter (c' :: left))
    (h : (c' :: left).all Char.isLower = true) :
    Traces d (Json.word (c :: c' :: left)) (outside d) (code c :: rest) (outside d) := by
  have hstep : (outside d).step (code c) = some (Place.word d (c' :: left)) := by
    rw [step_outside, hmark]
    rfl
  have hread : Json.word (c :: c' :: left) (code c :: rest) = Json.word (c' :: left) rest := by
    show (if code c = code c then Json.word (c' :: left) else Reader.stop .malformed) rest = _
    rw [if_pos rfl]
  exact Traces.of_step hread hstep (traces_letters (List.all_eq_true.mp h))

theorem traces_digits : Traces floor digits (outside d) bytes (outside d) :=
  ⟨bytes.takeWhile isDigit, List.takeWhile_append_dropWhile.symm,
    walk_of_steady fun _ hb => step_outside_digit (List.mem_takeWhile_imp hb)⟩

theorem traces_finishOther {significand : Nat} {exponent : Int} :
    Traces d (finishOther significand exponent) (outside d) bytes (outside d) := by
  unfold finishOther
  split
  · exact traces_stop (Nat.le_refl _)
  · exact traces_pure _

theorem traces_exponentDigits (zero negative : Bool) (fuel n : Nat) :
    Traces d (exponentDigits zero negative fuel n) (outside d) bytes (outside d) := by
  induction fuel generalizing bytes n with
  | zero => exact traces_stop (Nat.le_refl _)
  | succ fuel ih =>
    unfold exponentDigits
    refine Traces.of_rest ?_
    cases bytes with
    | nil => exact traces_pure _
    | cons b after =>
      by_cases hdigit : isDigit b = true
      · have hstep : (outside d).step b = some (outside d) := step_outside_digit hdigit
        by_cases hlarge : 10 * n + digitValue b ≥ limit31
        · by_cases hstop : (!zero && !negative) = true
          · exact Traces.of_step (r := Reader.stop .malformed)
              (by simp only [hdigit, hlarge, hstop, if_true]; rfl) hstep
              (traces_stop (Nat.le_refl _))
          · refine Traces.of_step (r := digits >>= fun _ => pure none)
              (by simp only [hdigit, hlarge, hstop, if_true]; rfl) hstep ?_
            exact traces_digits.bind fun _ _ _ => traces_pure _
        · exact Traces.of_step (r := exponentDigits zero negative fuel (10 * n + digitValue b))
            (by simp only [hdigit, hlarge, if_true, if_false]; rfl) hstep (ih _)
      · simp only [hdigit]
        exact traces_pure _

theorem traces_exponentPart {significand : Nat} {start : Int} (hmark : Mark.of b = .exponent) :
    Traces d (exponentPart significand start) (outside d) (b :: rest) (outside d) := by
  have hstep : (outside d).step b = some (exponent d false) := by
    rw [step_outside, hmark]
    rfl
  unfold exponentPart
  refine Traces.of_drop hstep (Traces.of_rest ?_)
  extract_lets behind
  -- Behind the sign there must be a digit; any other byte is dropped before the reader stops.
  have hbehind : ∀ (negative signed : Bool) (bytes : Bytes),
      Traces d (behind negative) (exponent d signed) bytes (outside d) := by
    intro negative signed bytes
    refine Traces.of_rest ?_
    cases bytes with
    | nil => exact traces_stop (Nat.le_refl _)
    | cons b after =>
      dsimp only
      by_cases hdigit : isDigit b = true
      · rw [if_pos hdigit]
        refine Traces.of_set (t := outside d) (if_pos hdigit) (Traces.of_rest ?_)
        refine (traces_exponentDigits _ _ _ _).bind fun e rest _ => ?_
        cases e with
        | none => exact traces_pure _
        | some e => exact traces_finishOther
      · rw [if_neg hdigit]
        refine Traces.of_dropped .malformed rfl ?_
        intro t ht
        simp only [Place.step, raise] at ht ⊢
        split_ifs at ht ⊢
        exact ⟨_, rfl, Nat.le_refl _⟩
  cases rest with
  | nil => exact Traces.congr (Reader.stop .malformed) rfl (traces_stop (Nat.le_refl _))
  | cons b after =>
    dsimp only
    split
    · rename_i hplus
      subst hplus
      exact Traces.of_step rfl rfl (hbehind false true after)
    · split
      · rename_i hminus
        subst hminus
        exact Traces.of_step rfl rfl (hbehind true true after)
      · exact hbehind false false (b :: after)

theorem traces_afterDigits {significand : Nat} {exponent : Int} :
    Traces d (afterDigits significand exponent) (outside d) bytes (outside d) := by
  unfold afterDigits
  refine Traces.of_rest ?_
  cases bytes with
  | nil => exact traces_finishOther
  | cons b after =>
    dsimp only
    split
    · rename_i hletter
      exact traces_exponentPart (by rcases hletter with rfl | rfl <;> rfl)
    · exact traces_finishOther

theorem traces_decimalPart {significand : Nat} {exponent : Int} :
    Traces d (decimalPart significand exponent) (outside d) (code '.' :: rest) (outside d) := by
  unfold decimalPart
  refine Traces.of_drop (t := outside d) rfl ?_
  refine traces_digits.bind fun ds rest _ => ?_
  split
  · exact traces_stop (Nat.le_refl _)
  · exact traces_afterDigits

theorem traces_unsignedNumber (negative : Bool) :
    Traces d (unsignedNumber negative) (outside d) bytes (outside d) := by
  have hfinish : ∀ significand skipped (bytes : Bytes),
      Traces d (unsignedNumber.finish negative significand skipped) (outside d) bytes
        (outside d) := by
    intro significand skipped bytes
    unfold unsignedNumber.finish
    repeat' split
    · exact traces_finishOther
    all_goals exact traces_pure _
  unfold unsignedNumber
  refine traces_digits.bind fun ds rest _ => ?_
  split
  · exact traces_stop (Nat.le_refl _)
  · split
    · exact traces_stop (Nat.le_refl _)
    · dsimp only
      refine Traces.of_rest ?_
      cases rest with
      | nil => exact hfinish _ _ _
      | cons b after =>
        dsimp only
        split
        · rename_i hdot
          subst hdot
          exact traces_decimalPart
        · split
          · rename_i hletter
            exact traces_exponentPart (by rcases hletter with rfl | rfl <;> rfl)
          · exact hfinish _ _ _

/-- A number is read, or the reader stops somewhere in it. -/
theorem traces_number : Traces d number (outside d) bytes (outside d) := by
  unfold number
  refine Traces.of_peek (Nat.le_refl _) fun b more hspace => ?_
  split
  · rename_i hminus
    subst hminus
    exact Traces.of_drop (t := outside d) rfl (traces_unsignedNumber true)
  · exact traces_unsignedNumber false

/-! ### Brackets -/

/-- What a reader leaves behind, whether it has succeeded or not. -/
def left (r : Reader α) (bytes : Bytes) : Bytes :=
  match r bytes with
  | .ok (_, rest) => rest
  | .error s => s.rest

/-- What reads the end of a list or an object. -/
structure Finishes (finish : Reader Unit) : Prop where
  closes : ∀ d bytes, Spans finish (outside (d + 1)) bytes (outside d)
  /-- Whatever is found there, one bracket is closed at most. -/
  shallow : ∀ bytes, ∃ taken, bytes = taken ++ left finish bytes ∧
    ∀ p : Place, Stays p.depth p.raise taken

/-- Spaces, one byte and spaces again close one bracket at most. -/
theorem stays_of_spaces {before after : Bytes} (hbefore : ∀ b ∈ before, isSpace b = true)
    (hafter : ∀ b ∈ after, isSpace b = true) (p : Place) :
    Stays p.depth p.raise (before ++ b :: after) := by
  refine (stays_spaces p.raise hbefore).append fun t _ hle => ?_
  rw [depth_raise] at hle
  obtain ⟨low, rfl, hlow⟩ := exists_raise (p := t) (by omega)
  have hlater : Stays low.depth low.raise ([b] ++ after) :=
    (stays_byte low b).append fun u _ hle => (stays_spaces u hafter).mono hle
  exact hlater.mono (by omega)

theorem stays_raise_spaces {spaces : Bytes} (h : ∀ b ∈ spaces, isSpace b = true) (p : Place) :
    Stays p.depth p.raise spaces :=
  (stays_spaces p.raise h).mono (by simp)

theorem traces_expect {c : Char} (h : floor ≤ d) (hstep : (outside d).step (code c) = some q) :
    Traces floor (expect c) (outside d) bytes q := by
  unfold expect
  refine Traces.of_peek h fun b more hspace => ?_
  split
  · rename_i hb
    subst hb
    exact Traces.of_step (r := pure ()) rfl hstep (traces_pure ())
  · exact traces_stop h

theorem dropWhile_isSpace (bytes : Bytes) :
    ∃ spaces, bytes = spaces ++ bytes.dropWhile isSpace ∧ ∀ b ∈ spaces, isSpace b = true :=
  ⟨bytes.takeWhile isSpace, List.takeWhile_append_dropWhile.symm,
    fun _ hb => List.mem_takeWhile_imp hb⟩

theorem finishes_endObject : Finishes endObject where
  closes d bytes := (show Traces 0 endObject (outside (d + 1)) bytes (outside d) from
    traces_expect (Nat.zero_le _) rfl).spans
  shallow bytes := by
    obtain ⟨spaces, hspaces, hall⟩ := dropWhile_isSpace bytes
    unfold left endObject expect
    rcases peek_cases bytes with ⟨b, more, hbytes, _, hpeek⟩ | ⟨hbytes, hpeek⟩
    · rw [bind_of_ok hpeek]
      by_cases hb : b = code '\x7d'
      · rw [if_pos hb]
        refine ⟨spaces ++ [b], ?_, stays_of_spaces hall (by simp)⟩
        rw [hspaces, hbytes]
        simp [drop]
      · rw [if_neg hb]
        refine ⟨spaces, ?_, stays_raise_spaces hall⟩
        rw [← hbytes]
        exact hspaces
    · rw [bind_of_error hpeek]
      refine ⟨spaces, ?_, stays_raise_spaces hall⟩
      rw [← hbytes]
      exact hspaces

theorem finishes_endList : Finishes endList where
  closes d bytes := by
    intro a rest h
    unfold endList at h
    obtain ⟨b, middle, hpeek, h⟩ := bind_eq_ok h
    obtain ⟨more, rfl, hbytes, _⟩ := peek_eq_ok hpeek
    split at h
    · rename_i hb
      subst hb
      cases h
      exact (hbytes ▸ leads_dropWhile (d + 1) bytes).trans (Leads.step rfl _)
    · split at h <;> cases h
  shallow bytes := by
    obtain ⟨spaces, hspaces, hall⟩ := dropWhile_isSpace bytes
    unfold left endList
    rcases peek_cases bytes with ⟨b, more, hbytes, _, hpeek⟩ | ⟨hbytes, hpeek⟩
    · rw [bind_of_ok hpeek]
      by_cases hb : b = code ']'
      · rw [if_pos hb]
        refine ⟨spaces ++ [b], ?_, stays_of_spaces hall (by simp)⟩
        rw [hspaces, hbytes]
        simp [drop]
      · rw [if_neg hb]
        by_cases hcomma : b = code ','
        · rw [if_pos hcomma]
          obtain ⟨spaces', hspaces', hall'⟩ := dropWhile_isSpace more
          refine ⟨spaces ++ b :: spaces', ?_, stays_of_spaces hall hall'⟩
          show bytes = (spaces ++ b :: spaces') ++ more.dropWhile isSpace
          rw [List.append_assoc, List.cons_append, ← hspaces', ← hbytes]
          exact hspaces
        · rw [if_neg hcomma]
          refine ⟨spaces, ?_, stays_raise_spaces hall⟩
          rw [← hbytes]
          exact hspaces
    · rw [bind_of_error hpeek]
      refine ⟨spaces, ?_, stays_raise_spaces hall⟩
      rw [← hbytes]
      exact hspaces

/-- A body with its end behind it closes the bracket around it. -/
theorem traces_closing {finish : Reader Unit} {body : Reader α} (hfinish : Finishes finish)
    (h : Traces (d + 1) body (outside (d + 1)) bytes (outside (d + 1))) :
    Traces d (Reader.closing finish body) (outside (d + 1)) bytes (outside d) := by
  unfold Traces at h
  unfold Traces Reader.closing
  cases hbody : body bytes with
  | ok taken =>
    obtain ⟨a, middle⟩ := taken
    rw [hbody] at h
    dsimp only at h ⊢
    obtain ⟨second, hsecond, hshallow⟩ := hfinish.shallow middle
    unfold left at hsecond
    cases hend : finish middle with
    | ok done => exact h.trans (hfinish.closes d middle _ _ hend)
    | error s =>
      rw [hend] at hsecond
      obtain ⟨first, rfl, hfirst⟩ := h
      exact ⟨first ++ second, by rw [List.append_assoc, ← hsecond],
        Stays.of_walk hfirst (hshallow (outside d))⟩
  | error s =>
    rw [hbody] at h
    dsimp only at h ⊢
    obtain ⟨first, hfirst, hstays⟩ := h
    obtain ⟨second, hsecond, hshallow⟩ := hfinish.shallow s.rest
    have hboth : Stays d (outside (d + 1)) (first ++ second) := by
      refine hstays.append fun t _ hle => ?_
      obtain ⟨low, rfl, hlow⟩ := exists_raise (p := t) (by omega)
      exact (hshallow low).mono (by omega)
    unfold left at hsecond
    cases hend : finish s.rest with
    | ok done =>
      rw [hend] at hsecond
      exact ⟨first ++ second, by rw [List.append_assoc, ← hsecond]; exact hfirst, hboth⟩
    | error t =>
      rw [hend] at hsecond
      exact ⟨first ++ second, by rw [List.append_assoc, ← hsecond]; exact hfirst, hboth⟩

/-! ### Values -/

/-- The reader takes a value, or it stops in the middle of one. -/
def TracesValue (r : Reader α) : Prop := ∀ d bytes, Traces d r (outside d) bytes (outside d)

theorem traces_hasElement (h : floor ≤ d) (hd : d ≠ 0) (first : Bool) :
    Traces floor (hasElement first) (outside d) bytes (outside d) := by
  unfold hasElement
  refine Traces.of_peek h fun b more hspace => ?_
  split
  · exact traces_pure _
  · split
    · exact traces_pure _
    · split
      · rename_i hb
        subst hb
        refine Traces.of_drop (step_between hd rfl) (Traces.of_peek h fun b more hspace => ?_)
        split
        · exact traces_stop h
        · exact traces_pure _
      · exact traces_stop h

theorem traces_hasMember (h : floor ≤ d) (hd : d ≠ 0) (first : Bool) :
    Traces floor (hasMember first) (outside d) bytes (outside d) := by
  unfold hasMember
  refine Traces.of_peek h fun b more hspace => ?_
  split
  · exact traces_pure _
  · split
    · split
      · exact traces_pure _
      · exact traces_stop h
    · split
      · rename_i hb
        subst hb
        refine Traces.of_drop (step_between hd rfl) (Traces.of_peek h fun b more hspace => ?_)
        split
        · exact traces_pure _
        · exact traces_stop h
      · exact traces_stop h

/-- Another member begins with a quote. -/
theorem hasMember_eq_true {first : Bool} (h : hasMember first bytes = .ok (true, rest)) :
    ∃ more, rest = code '"' :: more := by
  unfold hasMember at h
  obtain ⟨b, middle, hpeek, h⟩ := bind_eq_ok h
  obtain ⟨more, rfl, _⟩ := peek_eq_ok hpeek
  split at h
  · cases h
  · split at h
    · split at h
      · rename_i hquote
        cases h
        exact ⟨more, by rw [hquote]⟩
      · cases h
    · split at h
      · obtain ⟨_, _, hdrop, h⟩ := bind_eq_ok h
        cases hdrop
        obtain ⟨b', middle', hpeek', h⟩ := bind_eq_ok h
        obtain ⟨more', rfl, _⟩ := peek_eq_ok hpeek'
        split at h
        · rename_i hquote
          cases h
          exact ⟨more', by rw [hquote]⟩
        · cases h
      · cases h

theorem traces_elements {value : Reader α} (hvalue : TracesValue value) (hd : d ≠ 0) (fuel : Nat)
    (first : Bool) : Traces d (elements value fuel first) (outside d) bytes (outside d) := by
  induction fuel generalizing first bytes with
  | zero => exact traces_stop (Nat.le_refl _)
  | succ fuel ih =>
    unfold elements
    refine (traces_hasElement (Nat.le_refl _) hd first).bind fun more rest _ => ?_
    split
    · refine (hvalue d rest).bind fun a rest _ => ?_
      exact (ih false).bind fun more rest _ => traces_pure _
    · exact traces_pure _

theorem Value.traces_members {value : Reader Value} (hvalue : TracesValue value) (hd : d ≠ 0)
    (fuel : Nat) (first : Bool) :
    Traces d (Value.members value fuel first) (outside d) bytes (outside d) := by
  induction fuel generalizing first bytes with
  | zero => exact traces_stop (Nat.le_refl _)
  | succ fuel ih =>
    unfold Value.members
    refine (traces_hasMember (Nat.le_refl _) hd first).bind fun more rest hmore => ?_
    cases more with
    | false => exact traces_pure _
    | true =>
      obtain ⟨inner, rfl⟩ := hasMember_eq_true hmore
      refine Traces.of_drop (t := inside d) rfl ?_
      refine traces_stringBody.bind fun key rest _ => ?_
      refine (traces_expect (Nat.le_refl _) (step_between hd rfl)).bind fun _ rest _ => ?_
      refine (hvalue d rest).bind fun v rest _ => ?_
      exact (ih false).bind fun more rest _ => traces_pure _

/-- Behind an opening bracket stands a body and its end. -/
theorem traces_bracket {finish : Reader Unit} {body : Reader α} (hfinish : Finishes finish)
    (hopen : Mark.of b = .opening)
    (h : Traces (d + 1) body (outside (d + 1)) rest (outside (d + 1))) :
    Traces d (drop >>= fun _ => Reader.closing finish body) (outside d) (b :: rest)
      (outside d) := by
  refine Traces.of_drop (t := outside (d + 1)) ?_ (traces_closing hfinish h)
  rw [step_outside, hopen]
  rfl

theorem Value.traces_reader (depth : Nat) : TracesValue (Value.reader depth) := by
  induction depth with
  | zero => exact fun d bytes => traces_stop (Nat.le_refl _)
  | succ depth ih =>
    intro d bytes
    unfold Value.reader
    refine Traces.of_peek (Nat.le_refl _) fun b more hspace => ?_
    split
    · rename_i hb
      subst hb
      split
      · exact traces_stop (Nat.le_refl _)
      · refine traces_bracket finishes_endList rfl (Traces.of_rest ?_)
        exact (traces_elements ih (Nat.succ_ne_zero d) _ _).bind fun _ _ _ => traces_pure _
    · split
      · rename_i hb
        subst hb
        split
        · exact traces_stop (Nat.le_refl _)
        · refine traces_bracket finishes_endObject rfl (Traces.of_rest ?_)
          exact (Value.traces_members ih (Nat.succ_ne_zero d) _ _).bind fun _ _ _ => traces_pure _
      · split
        · rename_i hb
          subst hb
          refine Traces.of_drop (t := inside d) rfl ?_
          exact traces_stringBody.bind fun _ _ _ => traces_pure _
        · split
          · exact traces_number.bind fun _ _ _ => traces_pure _
          · split
            · rename_i hb
              subst hb
              exact (traces_word rfl rfl).bind fun _ _ _ => traces_pure _
            · split
              · rename_i hb
                subst hb
                exact (traces_word rfl rfl).bind fun _ _ _ => traces_pure _
              · split
                · rename_i hb
                  subst hb
                  exact (traces_word rfl rfl).bind fun _ _ _ => traces_pure _
                · exact traces_stop (Nat.le_refl _)

end SessionAuth.Json
