/-
Members of an object, one after the other.

Nothing is said here about readers that stop.  A reader that succeeds has gone through a whole
value, and so the outline is at the same place again behind it; this holds for values that are
skipped, too, although much more is let pass in them.  With that, a loop over members is taken
apart into its rounds.
-/
import SessionAuth.Proofs.Json.Traces

namespace SessionAuth.Json

open Place

variable {α β σ : Type} {r : Reader α} {p q t : Place} {bytes rest : Bytes} {b : UInt8} {d : Nat}

/-! ### Values that nobody asked for -/

/-- If the reader succeeds, it has taken a value. -/
def SpansValue (r : Reader α) : Prop := ∀ d bytes, Spans r (outside d) bytes (outside d)

theorem spans_pure (a : α) : Spans (pure a) p bytes p :=
  (show Traces 0 (pure a) p bytes p from traces_pure a).spans

theorem spans_digits : Spans digits (outside d) bytes (outside d) :=
  (show Traces 0 digits (outside d) bytes (outside d) from traces_digits).spans

theorem spans_stop {fault : Fault} : Spans (Reader.stop fault : Reader α) p bytes q := by
  rintro a rest ⟨⟩

/-- The byte in front is dropped. -/
theorem Spans.of_drop (hstep : p.step b = some t) (h : Spans r t rest q) :
    Spans (drop >>= fun _ => r) p (b :: rest) q :=
  fun a left hread => (Leads.step hstep rest).trans (h a left hread)

/-- After a byte has been seen, a reader goes on with this byte in front. -/
theorem Spans.of_peek {f : UInt8 → Reader α}
    (hnext : ∀ b more, isSpace b = false → Spans (f b) (outside d) (b :: more) q) :
    Spans (peek >>= f) (outside d) bytes q := by
  refine (traces_peek (Nat.zero_le d)).spans.bind ?_
  intro b rest hpeek
  obtain ⟨more, rfl, _, hspace⟩ := peek_eq_ok hpeek
  exact hnext b more hspace

theorem spans_skipString (fuel : Nat) : Spans (skipString fuel) (inside d) bytes (outside d) := by
  induction fuel generalizing bytes with
  | zero => exact spans_stop
  | succ fuel ih =>
    intro a rest h
    unfold skipString at h
    cases bytes with
    | nil => cases h
    | cons b after =>
      change (if b = code '"' then _ else if b = code '\\' then _ else
        if b < 0x20 then _ else skipString fuel : Reader Unit) after = _ at h
      split at h
      · rename_i hquote
        subst hquote
        cases h
        exact Leads.step rfl _
      · rename_i hquote
        split at h
        · rename_i hbackslash
          subst hbackslash
          refine (Leads.step (q := escaped d) rfl after).trans ?_
          cases after with
          | nil => cases h
          | cons e after =>
            refine (Leads.step (q := inside d) rfl after).trans ?_
            change (if e = code 'u' then (hex4 >>= fun _ => skipString fuel) else
              if (letterEscape? e).isSome then skipString fuel else Reader.stop .malformed) after
                = _ at h
            split at h
            · exact traces_hex4.spans.bind (fun _ _ _ => ih) a rest h
            · split at h
              · exact ih a rest h
              · cases h
        · rename_i hbackslash
          split at h
          · cases h
          · exact (Leads.step (step_inside hquote hbackslash) after).trans (ih a rest h)

/-- Digits lead out of an exponent, provided that there are any. -/
theorem spans_someDigits {signed : Bool} (hp : p = outside d ∨ p = exponent d signed) :
    Spans (digits >>= fun ds => if ds.isEmpty then Reader.stop .malformed else pure ()) p bytes
      (outside d) := by
  intro a rest h
  obtain ⟨ds, middle, hdigits, h⟩ := bind_eq_ok h
  cases hdigits
  split at h
  · cases h
  · rename_i hsome
    cases h
    refine ⟨bytes.takeWhile isDigit, List.takeWhile_append_dropWhile.symm, ?_⟩
    have hall : ∀ b ∈ bytes.takeWhile isDigit, isDigit b = true :=
      fun _ hb => List.mem_takeWhile_imp hb
    cases hds : bytes.takeWhile isDigit with
    | nil => rw [hds] at hsome; exact absurd rfl hsome
    | cons b more =>
      rw [hds] at hall
      have hstep : p.step b = some (outside d) := by
        rcases hp with rfl | rfl
        · exact step_outside_digit (hall b List.mem_cons_self)
        · exact if_pos (hall b List.mem_cons_self)
      have hmore : walk (outside d) more = some (outside d) :=
        walk_of_steady fun x hx => step_outside_digit (hall x (List.mem_cons_of_mem _ hx))
      exact walk_cons_eq_some.mpr ⟨outside d, hstep, hmore⟩

/-- What a number that nobody asked for may end with. -/
theorem spans_skipExponent : Spans (do
    if (← Reader.rest).head? = some (code 'e') ∨ (← Reader.rest).head? = some (code 'E') then
      drop
      if (← Reader.rest).head? = some (code '+') ∨ (← Reader.rest).head? = some (code '-') then drop
      if (← digits).isEmpty then Reader.stop .malformed) (outside d) bytes (outside d) := by
  refine Spans.of_rest (Spans.of_rest ?_)
  cases bytes with
  | nil => exact spans_pure ()
  | cons b more =>
    split
    · rename_i hletter
      have hstep : (outside d).step b = some (exponent d false) := by
        rw [List.head?_cons, Option.some.injEq, Option.some.injEq] at hletter
        rcases hletter with rfl | rfl <;> rfl
      refine Spans.of_drop hstep (Spans.of_rest (Spans.of_rest ?_))
      cases more with
      | nil => exact spans_someDigits (Or.inr rfl)
      | cons b more =>
        split
        · rename_i hsign
          have hstep : (exponent d false).step b = some (exponent d true) := by
            rw [List.head?_cons, Option.some.injEq, Option.some.injEq] at hsign
            rcases hsign with rfl | rfl <;> rfl
          exact Spans.of_drop hstep (spans_someDigits (Or.inr rfl))
        · exact spans_someDigits (Or.inr rfl)
    · exact spans_pure ()

/-- What stands behind the point, in front of what else there may be. -/
theorem spans_skipFraction {tail : Reader Unit}
    (htail : ∀ bytes, Spans tail (outside d) bytes (outside d)) : Spans (do
      if (← Reader.rest).head? = some (code '.') then
        drop
        if (← digits).isEmpty then Reader.stop .malformed
      tail) (outside d) bytes (outside d) := by
  refine Spans.of_rest ?_
  cases bytes with
  | nil => exact htail []
  | cons b more =>
    split
    · rename_i hdot
      obtain rfl : b = code '.' := by simpa using hdot
      refine Spans.of_drop (t := outside d) rfl ?_
      refine spans_digits.bind fun ds rest _ => ?_
      split
      · exact spans_stop.bind fun _ rest _ => htail rest
      · exact htail rest
    · exact htail (b :: more)

theorem spans_skipNumber : SpansValue skipNumber := by
  intro d bytes
  unfold skipNumber
  extract_lets _ _ _ unsigned
  have hunsigned : ∀ bytes, Spans (unsigned ()) (outside d) bytes (outside d) := by
    intro bytes
    refine spans_digits.bind fun ds rest _ => ?_
    cases ds with
    | nil => exact spans_stop
    | cons first more =>
      dsimp only
      split
      · exact spans_stop.bind fun _ _ _ => spans_skipFraction fun bytes => spans_skipExponent
      · exact spans_skipFraction fun bytes => spans_skipExponent
  refine Spans.of_peek fun b more hspace => ?_
  split
  · rename_i hminus
    subst hminus
    exact Spans.of_drop (t := outside d) rfl (hunsigned more)
  · exact hunsigned (b :: more)

theorem spans_expect {c : Char} (hstep : (outside d).step (code c) = some q) :
    Spans (expect c) (outside d) bytes q :=
  (traces_expect (Nat.zero_le d) hstep).spans

theorem spans_skipKey (hd : d ≠ 0) : Spans skipKey (outside d) bytes (outside d) := by
  unfold skipKey
  refine (spans_expect (q := inside d) rfl).bind fun _ rest _ => Spans.of_rest ?_
  refine (spans_skipString _).bind fun _ rest _ => ?_
  exact spans_expect (step_between hd rfl)

theorem spans_skipScalar : SpansValue skipScalar := by
  intro d bytes
  unfold skipScalar
  refine Spans.of_peek fun b more hspace => ?_
  split
  · rename_i hb
    subst hb
    exact Spans.of_drop (t := inside d) rfl (Spans.of_rest (spans_skipString _))
  · split
    · rename_i hb
      subst hb
      exact (traces_word rfl rfl).spans
    · split
      · rename_i hb
        subst hb
        exact (traces_word rfl rfl).spans
      · split
        · rename_i hb
          subst hb
          exact (traces_word rfl rfl).spans
        · split
          · exact spans_skipNumber d _
          · exact spans_stop

/-- A value inside of some brackets is skipped together with what follows it in them. -/
theorem spans_skipFrom (fuel : Nat) : ∀ nest : List Bracket,
    (∀ bytes, Spans (skipFrom fuel nest) (outside (d + nest.length)) bytes (outside d)) ∧
    ∀ bytes, Spans (skipAfter fuel nest) (outside (d + nest.length)) bytes (outside d) := by
  induction fuel with
  | zero =>
    intro nest
    refine ⟨fun bytes => spans_stop, fun bytes => ?_⟩
    cases nest with
    | nil => exact spans_pure ()
    | cons bracket nest => exact spans_stop
  | succ fuel ih =>
    intro nest
    refine ⟨fun bytes => ?_, fun bytes => ?_⟩
    · unfold skipFrom
      refine Spans.of_peek fun b more hspace => ?_
      split
      · rename_i hb
        subst hb
        refine Spans.of_drop (t := outside (d + nest.length + 1)) rfl ?_
        refine Spans.of_peek fun b more hspace => ?_
        split
        · rename_i hb
          subst hb
          exact Spans.of_drop (t := outside (d + nest.length)) rfl ((ih nest).2 more)
        · exact (ih (.list :: nest)).1 (b :: more)
      · split
        · rename_i hb
          subst hb
          refine Spans.of_drop (t := outside (d + nest.length + 1)) rfl ?_
          refine Spans.of_peek fun b more hspace => ?_
          split
          · rename_i hb
            subst hb
            exact Spans.of_drop (t := outside (d + nest.length)) rfl ((ih nest).2 more)
          · refine (spans_skipKey (Nat.succ_ne_zero _)).bind fun _ rest _ => ?_
            exact (ih (.object :: nest)).1 rest
        · exact (spans_skipScalar _ _).bind fun _ rest _ => (ih nest).2 rest
    · cases nest with
      | nil => exact spans_pure ()
      | cons bracket nest =>
        have hd : d + (nest.length + 1) ≠ 0 := by omega
        unfold skipAfter
        refine Spans.of_peek fun b more hspace => ?_
        split
        · rename_i hb
          subst hb
          refine Spans.of_drop (step_between hd rfl) ?_
          dsimp only
          split
          · exact (spans_skipKey hd).bind fun _ rest _ => (ih (bracket :: nest)).1 rest
          · exact (ih (bracket :: nest)).1 more
        · split
          · rename_i hb
            have hstep : (outside (d + (nest.length + 1))).step b =
                some (outside (d + nest.length)) := by
              rcases hb with ⟨rfl, _⟩ | ⟨rfl, _⟩ <;> rfl
            exact Spans.of_drop hstep ((ih nest).2 more)
          · exact spans_stop

theorem spans_skipValue : SpansValue skipValue := fun d _ =>
  Spans.of_rest ((spans_skipFrom (d := d) _ []).1 _)

/-! ### Wanted values -/

/-- A value of the wrong kind is never read. -/
theorem wrongKind_ne_ok {a : α} : wrongKind bytes ≠ .ok (a, rest) := by
  intro h
  unfold wrongKind at h
  obtain ⟨b, middle, _, h⟩ := bind_eq_ok h
  dsimp only at h
  repeat' split at h
  -- Whatever has been read, the last thing that each branch does is to stop.
  all_goals repeat obtain ⟨_, _, _, h⟩ := bind_eq_ok h
  all_goals cases h

theorem spans_wrongKind : Spans (wrongKind : Reader α) p bytes q := fun _ _ h =>
  absurd h wrongKind_ne_ok

theorem spans_text : SpansValue text := by
  intro d bytes
  unfold text
  refine Spans.of_peek fun b more hspace => ?_
  split
  · rename_i hb
    subst hb
    exact Spans.of_drop (t := inside d) rfl traces_stringBody.spans
  · exact spans_wrongKind

theorem spans_integer : SpansValue integer := by
  intro d bytes
  unfold integer
  refine Spans.of_peek fun b more hspace => ?_
  split
  · refine (traces_number).spans.bind fun n rest _ => ?_
    cases n with
    | whole n =>
      dsimp only
      split
      · exact spans_pure n
      · exact spans_stop
    | other => exact spans_stop
  · exact spans_wrongKind

theorem spans_null :
    Spans (Json.word ['n', 'u', 'l', 'l']) (outside d) (code 'n' :: rest) (outside d) :=
  (traces_word rfl rfl).spans

theorem SpansValue.nullable (h : SpansValue r) : SpansValue (nullable r) := by
  intro d bytes
  unfold Json.nullable
  refine Spans.of_peek fun b more hspace => ?_
  split
  · rename_i hb
    subst hb
    exact spans_null.bind fun _ rest _ => spans_pure none
  · exact (h d _).bind fun a rest _ => spans_pure (some a)

theorem spans_choice (ofName? : String → Option α) : SpansValue (choice ofName?) := by
  intro d bytes
  unfold choice
  extract_lets named
  have hnamed : SpansValue named := by
    intro d bytes
    refine (spans_text d bytes).bind fun name rest _ => ?_
    split
    · exact spans_pure _
    · exact spans_stop
  refine Spans.of_peek fun b more hspace => ?_
  dsimp only
  split
  · exact hnamed d _
  · split
    · rename_i hb
      subst hb
      refine Spans.of_drop (t := outside (d + 1)) rfl ?_
      refine (hnamed (d + 1) more).bind fun a rest _ => ?_
      refine (spans_expect (step_between (Nat.succ_ne_zero d) rfl)).bind fun _ rest _ => ?_
      refine Spans.of_peek fun b more hspace => ?_
      have hend : ∀ bytes, Spans (expect '\x7d' >>= fun _ => pure a) (outside (d + 1)) bytes
          (outside d) :=
        fun bytes => (spans_expect (q := outside d) rfl).bind fun _ rest _ => spans_pure a
      split
      · rename_i hb
        subst hb
        exact spans_null.bind fun _ rest _ => hend rest
      · exact spans_wrongKind.bind fun _ rest _ => hend rest
    · exact spans_stop

/-! ### Rounds of the loop over members -/

variable {fields : List (Field σ)} {fuel : Nat} {first : Bool} {draft draft' : σ}

/-- What the loop does with the value behind a key: it is read for a field, or it is skipped. -/
def valueOf (fields : List (Field σ)) (key : String) (draft : σ) : Reader σ :=
  match fields.find? fun f => f.name == key with
  | some f => if f.isRead draft then Reader.stop .unfit else f.read draft
  | none => skipValue >>= fun _ => pure draft

/-- A value has been read for the field of its name, or it has been skipped. -/
theorem valueOf_eq_ok {key : String} (h : valueOf fields key draft bytes = .ok (draft', rest)) :
    (∃ f ∈ fields, f.name = key ∧ f.read draft bytes = .ok (draft', rest)) ∨
    (¬ ∃ f ∈ fields, f.name = key) ∧ draft' = draft ∧ skipValue bytes = .ok ((), rest) := by
  unfold valueOf at h
  cases hfield : fields.find? fun f => f.name == key with
  | some f =>
    have hname := List.find?_some (p := fun f : Field σ => f.name == key) hfield
    rw [hfield] at h
    dsimp only at h
    split at h
    · cases h
    · exact Or.inl ⟨f, List.mem_of_find?_eq_some hfield, by simpa using hname, h⟩
  | none =>
    rw [hfield] at h
    obtain ⟨_, middle, hskip, h⟩ := bind_eq_ok h
    cases h
    refine Or.inr ⟨?_, rfl, hskip⟩
    rintro ⟨f, hf, hname⟩
    exact List.find?_eq_none.mp hfield f hf (beq_iff_eq.mpr hname)

/-- A loop over members that succeeds is at the end of the object, or it reads a member. -/
theorem members_eq_ok (h : members fields (fuel + 1) first draft bytes = .ok (draft', rest)) :
    hasMember first bytes = .ok (false, rest) ∧ draft' = draft ∨
    ∃ inner key behind value between next,
      hasMember first bytes = .ok (true, code '"' :: inner) ∧
      stringBody inner = .ok (key, behind) ∧ expect ':' behind = .ok ((), value) ∧
      valueOf fields key draft value = .ok (between, next) ∧
      members fields fuel false between next = .ok (draft', rest) := by
  unfold members at h
  obtain ⟨more, middle, hmore, h⟩ := bind_eq_ok h
  cases more with
  | false =>
    cases h
    exact Or.inl ⟨hmore, rfl⟩
  | true =>
    obtain ⟨inner, rfl⟩ := hasMember_eq_true hmore
    obtain ⟨_, _, hdrop, h⟩ := bind_eq_ok h
    cases hdrop
    obtain ⟨key, behind, hkey, h⟩ := bind_eq_ok h
    refine Or.inr ⟨inner, key, behind, ?_⟩
    unfold valueOf
    cases hfield : fields.find? fun f => f.name == key with
    | some f =>
      simp only [hfield] at h
      split at h
      · cases h
      · rename_i hread
        obtain ⟨_, value, hcolon, h⟩ := bind_eq_ok h
        obtain ⟨between, next, hvalue, h⟩ := bind_eq_ok h
        exact ⟨value, between, next, hmore, hkey, hcolon, by simpa [hread] using hvalue, h⟩
    | none =>
      simp only [hfield] at h
      obtain ⟨_, value, hcolon, h⟩ := bind_eq_ok h
      obtain ⟨_, next, hvalue, h⟩ := bind_eq_ok h
      refine ⟨value, draft, next, hmore, hkey, hcolon, ?_, h⟩
      show (skipValue >>= fun _ => pure draft) value = _
      rw [bind_of_ok hvalue]
      rfl

/-- Every field of the record takes a value. -/
def SpanFields (fields : List (Field σ)) : Prop :=
  ∀ f ∈ fields, ∀ draft, SpansValue (f.read draft)

theorem spans_valueOf (h : SpanFields fields) (key : String) (draft : σ) :
    SpansValue (valueOf fields key draft) := by
  intro d bytes draft' rest hvalue
  rcases valueOf_eq_ok hvalue with ⟨f, hf, _, hread⟩ | ⟨_, rfl, hskip⟩
  · exact h f hf draft d bytes _ _ hread
  · exact spans_skipValue d bytes _ _ hskip

variable {inner behind value : Bytes} {key : String}

/-- A key is read up to the value behind it. -/
theorem leads_behind_quote (hd : d ≠ 0) (hkey : stringBody inner = .ok (key, behind))
    (hcolon : expect ':' behind = .ok ((), value)) :
    Leads (outside d) (code '"' :: inner) value (outside d) := by
  have hquote : Leads (outside d) (code '"' :: inner) inner (inside d) := Leads.step rfl inner
  have hkeys : Leads (inside d) inner behind (outside d) := traces_stringBody.spans _ _ hkey
  have hbehind := spans_expect (step_between hd rfl) _ _ hcolon
  exact hquote.trans (hkeys.trans hbehind)

/-- The same from the end of the member before it. -/
theorem leads_key (hd : d ≠ 0) (hmore : hasMember first bytes = .ok (true, code '"' :: inner))
    (hkey : stringBody inner = .ok (key, behind)) (hcolon : expect ':' behind = .ok ((), value)) :
    Leads (outside d) bytes value (outside d) :=
  ((traces_hasMember (Nat.le_refl d) hd first).spans _ _ hmore).trans
    (leads_behind_quote hd hkey hcolon)

theorem spans_members (h : SpanFields fields) (hd : d ≠ 0) (fuel : Nat) (first : Bool)
    (draft : σ) : Spans (members fields fuel first draft) (outside d) bytes (outside d) := by
  induction fuel generalizing bytes first draft with
  | zero => exact spans_stop
  | succ fuel ih =>
    intro draft' rest hread
    rcases members_eq_ok hread with ⟨hend, _⟩ | ⟨inner, key, behind, value, between, next, hmore,
      hkey, hcolon, hvalue, hagain⟩
    · exact (traces_hasMember (Nat.le_refl d) hd first).spans _ _ hend
    · have hnext := spans_valueOf h key draft d value _ _ hvalue
      exact (leads_key hd hmore hkey hcolon).trans (hnext.trans (ih _ _ _ _ hagain))

/-! ### Where a member begins -/

/-- Spaces in front make no difference. -/
theorem bind_peek_congr {f : UInt8 → Reader α} {bytes' : Bytes}
    (h : bytes.dropWhile isSpace = bytes'.dropWhile isSpace) :
    (peek >>= f) bytes = (peek >>= f) bytes' := by
  rcases peek_cases bytes with ⟨b, more, hbytes, _, hpeek⟩ | ⟨hbytes, hpeek⟩ <;>
  rcases peek_cases bytes' with ⟨b', more', hbytes', _, hpeek'⟩ | ⟨hbytes', hpeek'⟩ <;>
  rw [h, hbytes'] at hbytes
  · cases hbytes
    rw [bind_of_ok hpeek, bind_of_ok hpeek']
  · cases hbytes
  · cases hbytes
  · rw [bind_of_error hpeek, bind_of_error hpeek']

theorem hasMember_congr {bytes' : Bytes}
    (h : bytes.dropWhile isSpace = bytes'.dropWhile isSpace) :
    hasMember first bytes = hasMember first bytes' :=
  bind_peek_congr h

/-- Behind the first member there is a comma or the end. -/
theorem hasMember_false {more : Bool} (h : hasMember false bytes = .ok (more, rest)) :
    (∃ after, more = false ∧ bytes.dropWhile isSpace = rest ∧ rest = code '\x7d' :: after) ∨
    ∃ after, more = true ∧ bytes.dropWhile isSpace = code ',' :: after ∧
      after.dropWhile isSpace = rest := by
  unfold hasMember at h
  obtain ⟨b, middle, hpeek, h⟩ := bind_eq_ok h
  obtain ⟨after, rfl, hbytes, _⟩ := peek_eq_ok hpeek
  split at h
  · rename_i hb
    cases h
    exact Or.inl ⟨after, rfl, hbytes, by rw [hb]⟩
  · rw [if_neg Bool.false_ne_true] at h
    split at h
    · rename_i hb
      obtain ⟨_, _, hdrop, h⟩ := bind_eq_ok h
      cases hdrop
      obtain ⟨b', middle', hpeek', h⟩ := bind_eq_ok h
      obtain ⟨after', rfl, hbytes', _⟩ := peek_eq_ok hpeek'
      split at h
      · cases h
        exact Or.inr ⟨after, rfl, by rw [hbytes, hb], hbytes'⟩
      · cases h
    · cases h

/-! ### Whole records -/

/-- The end of an object, and nothing but spaces behind it. -/
def EndsObject (bytes : Bytes) : Prop :=
  ∃ after, bytes.dropWhile isSpace = code '\x7d' :: after ∧ ∀ b ∈ after, isSpace b = true

theorem EndsObject.closes (h : EndsObject bytes) : Closes (outside 1) bytes := by
  obtain ⟨after, hbytes, hspaces⟩ := h
  have hlead := hbytes ▸ leads_dropWhile 1 bytes
  refine hlead.closes ((Leads.step (q := outside 0) rfl after).closes ?_)
  exact walk_spaces_outside hspaces

/-- Where no more members are found, the same end is in front of the spaces, too. -/
theorem EndsObject.of_hasMember (h : EndsObject rest)
    (hmore : hasMember false bytes = .ok (false, rest)) : EndsObject bytes := by
  rcases hasMember_false hmore with ⟨after, _, hbytes, hrest⟩ | ⟨_, hmore, _⟩
  · obtain ⟨after', hrest', hspaces⟩ := h
    have hsame : rest.dropWhile isSpace = rest := by
      rw [hrest, List.dropWhile_cons_of_neg (by decide)]
    exact ⟨after', by rw [hbytes, ← hsame, hrest'], hspaces⟩
  · cases hmore

/-- What is left of a text is nothing but spaces. -/
theorem whole_eq_ok {a : α} (h : (whole r).run? bytes = .ok a) :
    ∃ rest, r bytes = .ok (a, rest) ∧ ∀ b ∈ rest, isSpace b = true := by
  unfold Reader.run? at h
  cases hread : whole r bytes with
  | error s => rw [hread] at h; cases h
  | ok taken =>
    rw [hread] at h
    unfold whole at hread
    obtain ⟨a', rest, hvalue, hread⟩ := bind_eq_ok hread
    obtain ⟨next, left, hpeek, hread⟩ := bind_eq_ok hread
    cases next with
    | none =>
      have hnone : (rest.dropWhile isSpace).head? = none :=
        congrArg Prod.fst (Except.ok.inj hpeek)
      cases hread
      cases h
      exact ⟨rest, hvalue, List.dropWhile_eq_nil_iff.mp (List.head?_eq_none_iff.mp hnone)⟩
    | some b => cases hread

/-- A body and its end have both been read. -/
theorem closing_eq_ok {finish : Reader Unit} {a : α}
    (h : Reader.closing finish r bytes = .ok (a, rest)) :
    ∃ middle, r bytes = .ok (a, middle) ∧ finish middle = .ok ((), rest) := by
  unfold Reader.closing at h
  cases hbody : r bytes with
  | error s =>
    rw [hbody] at h
    cases hend : finish s.rest <;> simp only [hend] at h <;> cases h
  | ok taken =>
    obtain ⟨a', middle⟩ := taken
    rw [hbody] at h
    cases hend : finish middle with
    | error s => simp only [hend] at h; cases h
    | ok done => simp only [hend] at h; cases h; exact ⟨middle, rfl, hend⟩

/-- A record that is written as an object has been read member by member. -/
theorem record_eq_ok {blank : σ} {finish : σ → Option α} {a : α} {last : Bytes}
    (hread : record fields blank finish bytes = .ok (a, last))
    (hspaces : ∀ b ∈ last, isSpace b = true) :
    (∃ list, bytes.dropWhile isSpace = code '[' :: list) ∨
    ∃ body draft rest, bytes.dropWhile isSpace = code '\x7b' :: body ∧
      members fields (body.length + 1) true blank body = .ok (draft, rest) ∧ EndsObject rest ∧
      finish draft = some a := by
  unfold record at hread
  obtain ⟨b, middle, hpeek, hread⟩ := bind_eq_ok hread
  obtain ⟨body, rfl, hbytes, _⟩ := peek_eq_ok hpeek
  dsimp only at hread
  split at hread
  · rename_i hb
    exact Or.inl ⟨body, by rw [hbytes, hb]⟩
  · split at hread
    · rename_i hb
      obtain ⟨_, _, hdrop, hread⟩ := bind_eq_ok hread
      cases hdrop
      obtain ⟨middle, hbody, hend⟩ := closing_eq_ok hread
      obtain ⟨_, _, hlength, hbody⟩ := bind_eq_ok hbody
      cases hlength
      obtain ⟨draft, rest, hmembers, hfinish⟩ := bind_eq_ok hbody
      refine Or.inr ⟨body, draft, rest, by rw [hbytes, hb], hmembers, ?_⟩
      cases hdraft : finish draft with
      | none => rw [hdraft] at hfinish; cases hfinish
      | some a' =>
        rw [hdraft] at hfinish
        cases hfinish
        refine ⟨?_, rfl⟩
        obtain ⟨b', left, hpeek', hend⟩ := bind_eq_ok hend
        obtain ⟨after, rfl, hrest, _⟩ := peek_eq_ok hpeek'
        split at hend
        · rename_i hb'
          cases hend
          exact ⟨after, by rw [hrest, hb'], hspaces⟩
        · cases hend
    · exact absurd hread wrongKind_ne_ok

end SessionAuth.Json
