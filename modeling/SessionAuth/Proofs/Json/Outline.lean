/-
The outline of a text.

Where the strings of a text begin and end, and how deep its brackets nest, can be told by going
through the bytes once and remembering only the place where one is.  Whoever knows the place at
one byte knows it at all later ones.  So the outline is a common measure for readers that take
the same bytes for different things: one that has lost its way believes to be in another place
than the outline says, and from there on the two places never meet again.

Words and exponents have places of their own, because a reader that stops in one of them may
have dropped a byte that does not belong to it, and the outline has no place behind such a byte.
-/
import SessionAuth.Json.Reader
import Mathlib.Data.List.Basic

namespace SessionAuth.Json

/-! ### Marks -/

/-- What a byte is good for outside of strings. -/
inductive Mark
  | quote
  | opening
  | closing
  | between
  /-- The first letter of a word, with the letters that must follow. -/
  | letter (left : List Char)
  | exponent
  /-- A space, or a byte of a number. -/
  | plain
  /-- No byte of this kind stands outside of strings. -/
  | foreign
  deriving DecidableEq

/-- The mark that a byte is. -/
def Mark.of (b : UInt8) : Mark :=
  if b = code '"' then quote
  else if b = code '[' ∨ b = code '\x7b' then opening
  else if b = code ']' ∨ b = code '\x7d' then closing
  else if b = code ',' ∨ b = code ':' then between
  else if b = code 'n' then letter ['u', 'l', 'l']
  else if b = code 't' then letter ['r', 'u', 'e']
  else if b = code 'f' then letter ['a', 'l', 's', 'e']
  else if b = code 'e' ∨ b = code 'E' then exponent
  else if isSpace b ∨ isDigit b ∨ b = code '-' ∨ b = code '.' then plain
  else foreign

theorem Mark.of_eq_quote_iff {b : UInt8} : Mark.of b = quote ↔ b = code '"' := by
  unfold Mark.of
  constructor
  · intro h
    by_contra hne
    rw [if_neg hne] at h
    repeat' split at h
    all_goals cases h
  · rintro rfl
    rfl

theorem Mark.of_space {b : UInt8} (h : isSpace b = true) : Mark.of b = plain := by
  simp only [isSpace, Bool.or_eq_true, beq_iff_eq] at h
  rcases h with ((rfl | rfl) | rfl) | rfl <;> rfl

theorem Mark.of_digit {b : UInt8} (h : isDigit b = true) : Mark.of b = plain := by
  have hall : ∀ k < 256, isDigit (UInt8.ofNat k) = true → Mark.of (UInt8.ofNat k) = plain := by
    decide +kernel
  have hthis := hall b.toNat b.toNat_lt
  rw [UInt8.ofNat_toNat] at hthis
  exact hthis h

/-! ### Places -/

/-- A place in a text, with the number of brackets that are open around it. -/
inductive Place
  /-- Between values and marks, or in a number. -/
  | outside (depth : Nat)
  /-- In a string. -/
  | inside (depth : Nat)
  /-- In a string, behind a backslash. -/
  | escaped (depth : Nat)
  /-- In a word of which some letters are left. -/
  | word (depth : Nat) (left : List Char)
  /-- Behind the letter of an exponent, and behind its sign if there is one. -/
  | exponent (depth : Nat) (signed : Bool)
  deriving DecidableEq

namespace Place

/-- The number of brackets that are open around a place. -/
def depth : Place → Nat
  | outside depth | inside depth | escaped depth | word depth _ | exponent depth _ => depth

/-- The place is in no string. -/
def IsOut : Place → Prop
  | outside _ | word _ _ | exponent _ _ => True
  | inside _ | escaped _ => False

/-- The place behind a byte outside of strings. -/
def behind (depth : Nat) : Mark → Option Place
  | .quote => some (inside depth)
  | .opening => some (outside (depth + 1))
  | .closing => if depth = 0 then none else some (outside (depth - 1))
  | .between => if depth = 0 then none else some (outside depth)
  | .letter left => some (word depth left)
  | .exponent => some (exponent depth false)
  | .plain => some (outside depth)
  | .foreign => none

/-- The place behind a byte; there is none if the byte cannot stand there. -/
def step : Place → UInt8 → Option Place
  | outside depth, b => behind depth (Mark.of b)
  | inside depth, b =>
    if b = code '"' then some (outside depth)
    else if b = code '\\' then some (escaped depth)
    else some (inside depth)
  | escaped depth, _ => some (inside depth)
  | word _ [], _ => none
  | word depth [c], b => if b = code c ∧ c.isLower then some (outside depth) else none
  | word depth (c :: left), b => if b = code c ∧ c.isLower then some (word depth left) else none
  | exponent depth signed, b =>
    if isDigit b then some (outside depth)
    else if (b = code '+' ∨ b = code '-') ∧ signed = false then some (exponent depth true)
    else none

/-- The place behind some bytes. -/
def walk (p : Place) (bytes : Bytes) : Option Place := bytes.foldlM step p

variable {p q t u : Place} {b : UInt8} {bytes more : Bytes} {d : Nat}

@[simp] theorem walk_nil : walk p [] = some p := rfl

theorem walk_cons : walk p (b :: bytes) = (step p b).bind fun q => walk q bytes := rfl

theorem walk_append : walk p (bytes ++ more) = (walk p bytes).bind fun q => walk q more :=
  List.foldlM_append

theorem walk_cons_eq_some :
    walk p (b :: bytes) = some t ↔ ∃ q, p.step b = some q ∧ walk q bytes = some t := by
  rw [walk_cons, Option.bind_eq_some_iff]

theorem walk_append_eq_some :
    walk p (bytes ++ more) = some t ↔ ∃ q, walk p bytes = some q ∧ walk q more = some t := by
  rw [walk_append, Option.bind_eq_some_iff]

/-- Bytes that each leave a place as it is leave it together. -/
theorem walk_of_steady (h : ∀ b ∈ bytes, step p b = some p) : walk p bytes = some p := by
  induction bytes with
  | nil => rfl
  | cons b bytes ih =>
    rw [walk_cons, h b List.mem_cons_self, Option.bind_some]
    exact ih fun b hb => h b (List.mem_cons_of_mem _ hb)

theorem step_outside (d : Nat) (b : UInt8) : step (outside d) b = behind d (Mark.of b) := by
  cases d <;> rfl

theorem step_outside_space (h : isSpace b = true) : step (outside d) b = some (outside d) := by
  rw [step_outside, Mark.of_space h]
  rfl

theorem step_outside_digit (h : isDigit b = true) : step (outside d) b = some (outside d) := by
  rw [step_outside, Mark.of_digit h]
  rfl

/-- Between values nothing changes, provided that there is a bracket around them. -/
theorem step_between (hd : d ≠ 0) (hmark : Mark.of b = .between) :
    step (outside d) b = some (outside d) := by
  rw [step_outside, hmark]
  exact if_neg hd

theorem step_inside (hquote : b ≠ code '"') (hbackslash : b ≠ code '\\') :
    step (inside d) b = some (inside d) := by
  show (if b = code '"' then _ else if b = code '\\' then _ else _) = _
  rw [if_neg hquote, if_neg hbackslash]

/-- Spaces leave both kinds of places as they are. -/
theorem walk_spaces_outside (h : ∀ b ∈ bytes, isSpace b = true) :
    walk (outside d) bytes = some (outside d) :=
  walk_of_steady fun b hb => step_outside_space (h b hb)

/-! ### How deep a place is -/

/-- The same place with one more bracket around it. -/
def raise : Place → Place
  | outside depth => outside (depth + 1)
  | inside depth => inside (depth + 1)
  | escaped depth => escaped (depth + 1)
  | word depth left => word (depth + 1) left
  | exponent depth signed => exponent (depth + 1) signed

@[simp] theorem depth_raise (p : Place) : p.raise.depth = p.depth + 1 := by cases p <;> rfl

theorem raise_injective : Function.Injective raise := by
  intro p q h
  cases p <;> cases q <;> simp_all [raise]

theorem exists_raise (h : 0 < p.depth) : ∃ q : Place, p = q.raise ∧ p.depth = q.depth + 1 := by
  match p, h with
  | outside (d + 1), _ => exact ⟨outside d, rfl, rfl⟩
  | inside (d + 1), _ => exact ⟨inside d, rfl, rfl⟩
  | escaped (d + 1), _ => exact ⟨escaped d, rfl, rfl⟩
  | word (d + 1) left, _ => exact ⟨word d left, rfl, rfl⟩
  | exponent (d + 1) signed, _ => exact ⟨exponent d signed, rfl, rfl⟩

/-- In strings, words and exponents brackets do not count. -/
theorem outside_or (p : Place) : (∃ d, p = outside d) ∨
    ∀ b, p.raise.step b = (p.step b).map raise ∧ ∀ q, p.step b = some q → q.depth = p.depth := by
  match p with
  | outside d => exact Or.inl ⟨d, rfl⟩
  | inside d =>
    refine Or.inr fun b => ?_
    simp only [step, raise]
    split_ifs <;> simp [raise, depth]
  | escaped d => exact Or.inr fun b => ⟨rfl, by rintro q ⟨⟩; rfl⟩
  | word d [] => exact Or.inr fun b => ⟨rfl, by rintro q ⟨⟩⟩
  | word d [c] | word d (c :: c' :: left) =>
    refine Or.inr fun b => ?_
    simp only [step, raise]
    split_ifs <;> simp [raise, depth]
  | exponent d signed =>
    refine Or.inr fun b => ?_
    simp only [step, raise]
    split_ifs <;> simp [raise, depth]

/-- Outside of strings brackets count only where one is ended or values are told apart. -/
theorem behind_succ {m : Mark} (h : d ≠ 0 ∨ m ≠ .closing ∧ m ≠ .between) :
    behind (d + 1) m = (behind d m).map raise := by
  have hup : d ≠ 0 → d + 1 - 1 = d - 1 + 1 := by omega
  cases m
  case closing | between =>
    have hd : d ≠ 0 := by simpa using h
    simp [behind, hd, raise, hup hd]
  all_goals rfl

/-- Deeper down the same bytes lead to the same places. -/
theorem step_raise (h : p.step b = some q) : p.raise.step b = some q.raise := by
  rcases p.outside_or with ⟨d, rfl⟩ | hinner
  · rw [step_outside] at h
    show (outside (d + 1)).step b = _
    have hmark : d ≠ 0 ∨ Mark.of b ≠ .closing ∧ Mark.of b ≠ .between := by
      by_contra! hzero
      obtain ⟨rfl, hbracket⟩ := hzero
      by_cases hclosing : Mark.of b = .closing
      · rw [hclosing] at h
        cases h
      · rw [hbracket hclosing] at h
        cases h
    rw [step_outside, behind_succ hmark, h]
    rfl
  · rw [(hinner b).1, h]
    rfl

theorem walk_raise (h : walk p bytes = some q) : walk p.raise bytes = some q.raise := by
  induction bytes generalizing p with
  | nil => cases h; rfl
  | cons b bytes ih =>
    obtain ⟨next, hstep, hwalk⟩ := walk_cons_eq_some.mp h
    exact walk_cons_eq_some.mpr ⟨next.raise, step_raise hstep, ih hwalk⟩

/--
What can stand deeper down can stand here, too, unless it ends a bracket or stands between its
values and there is none.
-/
theorem exists_step_of_raise (h : p.raise.step b = some q)
    (hmark : 0 < p.depth ∨ Mark.of b = .plain) : ∃ t, p.step b = some t := by
  rcases p.outside_or with ⟨d, rfl⟩ | hinner
  · have hbracket : d ≠ 0 ∨ Mark.of b ≠ .closing ∧ Mark.of b ≠ .between := by
      refine hmark.imp Nat.pos_iff_ne_zero.mp fun hplain => ?_
      rw [hplain]
      decide
    change (outside (d + 1)).step b = _ at h
    rw [step_outside, behind_succ hbracket] at h
    obtain ⟨t, ht, _⟩ := Option.map_eq_some_iff.mp h
    exact ⟨t, (step_outside d b).trans ht⟩
  · rw [(hinner b).1] at h
    obtain ⟨t, ht, _⟩ := Option.map_eq_some_iff.mp h
    exact ⟨t, ht⟩

/-- A byte ends one bracket at most, and a byte that is no bracket ends none. -/
theorem depth_of_step (h : p.step b = some q) :
    p.depth ≤ q.depth + 1 ∧ (Mark.of b = .plain → p.depth ≤ q.depth) := by
  rcases p.outside_or with ⟨d, rfl⟩ | hinner
  · rw [step_outside] at h
    cases hmark : Mark.of b <;> rw [hmark] at h <;> simp only [behind] at h
    case closing => split at h <;> cases h; exact ⟨by simp only [depth]; omega, by simp⟩
    case between => split at h <;> cases h; exact ⟨Nat.le_succ d, fun _ => Nat.le_refl d⟩
    all_goals cases h
    all_goals simp only [depth]; omega
  · rw [(hinner b).2 q h]
    exact ⟨Nat.le_succ _, fun _ => Nat.le_refl _⟩

/-! ### Staying inside of a bracket -/

/--
The bytes keep within a value: if they can be gone through one bracket deeper then so they can
from the place itself, and they lead to a certain depth at least.
-/
def Stays (floor : Nat) (p : Place) (bytes : Bytes) : Prop :=
  ∀ q, walk p.raise bytes = some q → ∃ t, walk p bytes = some t ∧ floor ≤ t.depth

theorem stays_nil {floor : Nat} (h : floor ≤ p.depth) : Stays floor p [] :=
  fun _ _ => ⟨p, rfl, h⟩

theorem Stays.mono {floor least : Nat} (h : Stays floor p bytes) (hle : least ≤ floor) :
    Stays least p bytes := by
  intro q hq
  obtain ⟨t, ht, hfloor⟩ := h q hq
  exact ⟨t, ht, Nat.le_trans hle hfloor⟩

/-- Bytes that stay where other bytes have led, which stayed themselves. -/
theorem Stays.append {floor least : Nat} (h : Stays floor p bytes)
    (hmore : ∀ t, walk p bytes = some t → floor ≤ t.depth → Stays least t more) :
    Stays least p (bytes ++ more) := by
  intro q hq
  obtain ⟨middle, hmiddle, hq⟩ := walk_append_eq_some.mp hq
  obtain ⟨t, ht, hfloor⟩ := h middle hmiddle
  rw [walk_raise ht] at hmiddle
  cases hmiddle
  obtain ⟨u, hu, hleast⟩ := hmore t ht hfloor q hq
  exact ⟨u, walk_append_eq_some.mpr ⟨t, ht, hu⟩, hleast⟩

/-- Bytes that stay behind bytes that lead somewhere. -/
theorem Stays.of_walk {floor : Nat} (h : walk p bytes = some q) (hmore : Stays floor q more) :
    Stays floor p (bytes ++ more) :=
  (show Stays 0 p bytes from fun _ _ => ⟨q, h, Nat.zero_le _⟩).append fun t ht _ => by
    rw [h] at ht
    cases ht
    exact hmore

/-- A byte stays if it can stand at the place whenever it can stand deeper down. -/
theorem stays_singleton {floor : Nat}
    (h : ∀ q, p.raise.step b = some q → ∃ t, p.step b = some t ∧ floor ≤ t.depth) :
    Stays floor p [b] := by
  intro q hq
  obtain ⟨next, hnext, _⟩ := walk_cons_eq_some.mp hq
  obtain ⟨t, ht, hfloor⟩ := h next hnext
  exact ⟨t, walk_cons_eq_some.mpr ⟨t, ht, rfl⟩, hfloor⟩

/-- Any byte stays if the bracket that it may end does not count. -/
theorem stays_byte (p : Place) (b : UInt8) : Stays p.depth p.raise [b] := by
  refine stays_singleton fun q hq => ?_
  obtain ⟨t, ht⟩ := exists_step_of_raise hq (Or.inl (by simp))
  have hle := (depth_of_step ht).1
  rw [depth_raise] at hle
  exact ⟨t, ht, by omega⟩

/-- Spaces stay everywhere. -/
theorem stays_spaces (p : Place) (h : ∀ b ∈ bytes, isSpace b = true) :
    Stays p.depth p bytes := by
  induction bytes generalizing p with
  | nil => exact stays_nil (Nat.le_refl _)
  | cons b bytes ih =>
    have hspace := h b List.mem_cons_self
    have hone : Stays p.depth p [b] := stays_singleton fun q hq => by
      obtain ⟨t, ht⟩ := exists_step_of_raise hq (Or.inr (Mark.of_space hspace))
      exact ⟨t, ht, (depth_of_step ht).2 (Mark.of_space hspace)⟩
    exact hone.append fun t _ hle =>
      (ih t fun b hb => h b (List.mem_cons_of_mem _ hb)).mono hle

/-! ### In a string or not -/

theorem code_of_isLower {c : Char} (h : c.isLower = true) :
    97 ≤ (code c).toNat ∧ (code c).toNat ≤ 122 := by
  have hrange : 97 ≤ c.toNat ∧ c.toNat ≤ 122 := by
    have hval : (97 ≤ c.val && c.val ≤ 122) = true := h
    simpa [UInt32.le_iff_toNat_le] using hval
  unfold code
  rw [UInt8.toNat_ofNat', Nat.mod_eq_of_lt (by omega)]
  exact hrange

/-- The letters of words are no others than letters. -/
theorem ne_code_of_isLower {c : Char} (h : c.isLower = true) (hb : b.toNat < 97 ∨ 122 < b.toNat) :
    b ≠ code c := by
  rintro rfl
  have hrange := code_of_isLower h
  omega

theorem code_ne_of_isLower {c : Char} (h : c.isLower = true) :
    code c ≠ code '"' ∧ code c ≠ code '\\' :=
  ⟨(ne_code_of_isLower h (by decide)).symm, (ne_code_of_isLower h (by decide)).symm⟩

/-- Outside of strings a quote begins one, and no backslash can stand there. -/
theorem isOut_step (hp : p.IsOut) (h : step p b = some q) :
    b = code '"' ∧ (∃ d, q = inside d) ∨ b ≠ code '"' ∧ b ≠ code '\\' ∧ q.IsOut := by
  cases p with
  | inside d => exact hp.elim
  | escaped d => exact hp.elim
  | outside d =>
    rw [step_outside] at h
    by_cases hquote : b = code '"'
    · subst hquote
      cases h
      exact Or.inl ⟨rfl, d, rfl⟩
    · refine Or.inr ⟨hquote, ?_, ?_⟩
      · rintro rfl
        cases h
      · cases hmark : Mark.of b <;> rw [hmark] at h <;> simp only [behind] at h
        case quote => exact absurd (Mark.of_eq_quote_iff.mp hmark) hquote
        all_goals (try split at h) <;> cases h <;> trivial
  | word d left =>
    match left with
    | [] => cases h
    | [c] | c :: c' :: left =>
      simp only [step] at h
      split at h
      · rename_i hc
        cases h
        rw [hc.1]
        exact Or.inr ⟨(code_ne_of_isLower hc.2).1, (code_ne_of_isLower hc.2).2, trivial⟩
      · cases h
  | exponent d signed =>
    simp only [step] at h
    split at h
    · rename_i hdigit
      cases h
      refine Or.inr ⟨?_, ?_, trivial⟩ <;> rintro rfl <;> exact absurd hdigit (by decide)
    · split at h
      · rename_i hsign
        cases h
        refine Or.inr ⟨?_, ?_, trivial⟩ <;> rintro rfl <;> exact absurd hsign.1 (by decide)
      · cases h

/-- One of two places is in a string and the other one is not. -/
def Opposed (p t : Place) : Prop := p.IsOut ∧ (∃ d, t = inside d) ∨ (∃ d, p = inside d) ∧ t.IsOut

/-- A byte that can stand at both of two opposed places leads to opposed places. -/
theorem Opposed.step (h : Opposed p t) (hp : p.step b = some q) (ht : t.step b = some u) :
    Opposed q u := by
  have hone : ∀ {p q u : Place} {d : Nat}, p.IsOut → p.step b = some q →
      (inside d).step b = some u → (∃ d, q = inside d) ∧ u.IsOut ∨ q.IsOut ∧ ∃ d, u = inside d := by
    intro p q u d hout hp hu
    rcases isOut_step hout hp with ⟨rfl, hq⟩ | ⟨hquote, hbackslash, hq⟩
    · cases hu
      exact Or.inl ⟨hq, trivial⟩
    · rw [step_inside hquote hbackslash] at hu
      cases hu
      exact Or.inr ⟨hq, d, rfl⟩
  rcases h with ⟨hout, d, rfl⟩ | ⟨⟨d, rfl⟩, hout⟩
  · exact (hone hout hp ht).symm
  · exact (hone hout ht hp).imp And.symm And.symm

theorem Opposed.walk (h : Opposed p t) (hp : p.walk bytes = some q) (ht : t.walk bytes = some u) :
    Opposed q u := by
  induction bytes generalizing p t with
  | nil => cases hp; cases ht; exact h
  | cons b bytes ih =>
    obtain ⟨p', hp', hp⟩ := walk_cons_eq_some.mp hp
    obtain ⟨t', ht', ht⟩ := walk_cons_eq_some.mp ht
    exact ih (h.step hp' ht') hp ht

/-! ### Reading on -/

/-- Some bytes are taken off the front, and lead from one place to another. -/
def Leads (p : Place) (bytes rest : Bytes) (q : Place) : Prop :=
  ∃ taken, bytes = taken ++ rest ∧ walk p taken = some q

variable {rest middle : Bytes}

theorem Leads.refl (p : Place) (bytes : Bytes) : Leads p bytes bytes p := ⟨[], rfl, rfl⟩

theorem Leads.trans (h : Leads p bytes middle q) (h' : Leads q middle rest t) :
    Leads p bytes rest t := by
  obtain ⟨taken, rfl, hwalk⟩ := h
  obtain ⟨taken', rfl, hwalk'⟩ := h'
  exact ⟨taken ++ taken', (List.append_assoc ..).symm,
    walk_append_eq_some.mpr ⟨q, hwalk, hwalk'⟩⟩

theorem Leads.step (h : p.step b = some q) (rest : Bytes) : Leads p (b :: rest) rest q :=
  ⟨[b], rfl, walk_cons_eq_some.mpr ⟨q, h, rfl⟩⟩

/-- The rest of a text, read on from a place, ends where no bracket and no string is open. -/
def Closes (p : Place) (bytes : Bytes) : Prop := walk p bytes = some (outside 0)

theorem Leads.closes (h : Leads p bytes rest q) (hrest : Closes q rest) : Closes p bytes := by
  obtain ⟨taken, rfl, hwalk⟩ := h
  exact walk_append_eq_some.mpr ⟨q, hwalk, hrest⟩

/-- What closes a text closes it from every later place, too. -/
theorem Closes.later (h : Closes p bytes) (hlead : Leads p bytes rest q) : Closes q rest := by
  obtain ⟨taken, rfl, hwalk⟩ := hlead
  unfold Closes at h
  rw [walk_append, hwalk] at h
  exact h

/-- From a place in a string, a reader that believes to be outside of it leads into a string. -/
theorem Closes.opposed (h : Closes (inside d) bytes) (hp : p.IsOut) (hq : q.IsOut)
    (hlead : Leads p bytes rest q) : ∃ d', Closes (inside d') rest := by
  obtain ⟨taken, rfl, hwalk⟩ := hlead
  obtain ⟨place, htruth, hclose⟩ := walk_append_eq_some.mp h
  have hopposed : Opposed p (inside d) := Or.inl ⟨hp, d, rfl⟩
  rcases hopposed.walk hwalk htruth with ⟨_, d', rfl⟩ | ⟨⟨d', rfl⟩, _⟩
  · exact ⟨d', hclose⟩
  · exact hq.elim

end Place

end SessionAuth.Json
