/-
The format of stored hashes.

Every field of a stored hash has one spelling, and a text is read as some fields if and only if it
spells them and each of them is what such a field may be (`parse?_eq_some_iff`).  Fields may be left
out, and what keeps them apart is what they are made of: no equals sign is in a salt, and none but
the version and the parameters has one.  A single parameter that is called like the version is read
as the version; two of them are not, for no version has a comma in it.
-/
import Mathlib.Data.List.Induction
import SessionAuth.Password.Phc
import SessionAuth.Proofs.Bytes.Base64
import SessionAuth.Proofs.Text.Cut

namespace SessionAuth.Password

instance : phcBase64.Distinct := ⟨by decide, by decide, by decide⟩

namespace Phc

/-! ### Numbers -/

section Numbers

variable {text : List Char} {n : Nat}

theorem isDigit_eq (c : Char) : (decide ('0' ≤ c) && decide (c ≤ '9')) = c.isDigit := rfl

theorem digitChar_of_isDigit {c : Char} (h : c.isDigit = true) :
    c.toNat - '0'.toNat < 10 ∧ Nat.digitChar (c.toNat - '0'.toNat) = c := by
  have hdigits : ∀ k < 10, Nat.digitChar k = Char.ofNat (48 + k) := by decide
  rw [← isDigit_eq, Bool.and_eq_true, decide_eq_true_eq, decide_eq_true_eq] at h
  have hlow : '0'.toNat ≤ c.toNat := UInt32.le_iff_toNat_le.mp h.1
  have hhigh : c.toNat ≤ '9'.toNat := UInt32.le_iff_toNat_le.mp h.2
  have hzero : '0'.toNat = 48 := rfl
  have hnine : '9'.toNat = 57 := rfl
  have hlt : c.toNat - '0'.toNat < 10 := by omega
  refine ⟨hlt, ?_⟩
  have hback : 48 + (c.toNat - '0'.toNat) = c.toNat := by omega
  rw [hdigits _ hlt, hback, Char.ofNat_toNat]

/-- No number but zero begins with a zero. -/
theorem head?_toDigits (h : 0 < n) : (Nat.toDigits 10 n).head? ≠ some '0' := by
  have hdigit : ∀ k < 10, 0 < k → some (Nat.digitChar k) ≠ some '0' := by decide
  induction n using Nat.strongRecOn with
  | _ n ih =>
    by_cases hn : n < 10
    · rw [Nat.toDigits_of_lt_base hn]
      exact hdigit n hn h
    · rw [Nat.toDigits_of_base_le (by decide) (by omega), List.head?_append_of_ne_nil _
        Nat.toDigits_ne_nil]
      exact ih (n / 10) (by omega) (by omega)

/-- Digits are those of the number that they give, if there are not too many zeros in front. -/
theorem toDigits_ofDigitChars (hsome : text ≠ []) (hdigits : ∀ c ∈ text, c.isDigit = true)
    (hfirst : text.head? = some '0' → text.length ≤ 1) :
    Nat.toDigits 10 (Nat.ofDigitChars 10 text 0) = text := by
  induction text using List.reverseRecOn with
  | nil => exact absurd rfl hsome
  | append_singleton front last ih =>
    obtain ⟨hlt, hlast⟩ := digitChar_of_isDigit (hdigits last (by simp))
    rw [Nat.ofDigitChars_append, Nat.ofDigitChars_cons, Nat.ofDigitChars_nil]
    by_cases hfront : front = []
    · subst hfront
      rw [Nat.ofDigitChars_nil, Nat.mul_zero, Nat.zero_add, Nat.toDigits_of_lt_base hlt, hlast]
      rfl
    · -- The digits in front do not begin with a zero, so they give a number that is not zero.
      have hzero : front.head? ≠ some '0' := by
        intro hhead
        have hlength := hfirst (by rw [List.head?_append_of_ne_nil _ hfront, hhead])
        have hpos := List.length_pos_iff.mpr hfront
        rw [List.length_append, List.length_singleton] at hlength
        omega
      have hrest := ih hfront (fun c hc => hdigits c (List.mem_append_left _ hc))
        fun hhead => absurd hhead hzero
      have hpos : 0 < Nat.ofDigitChars 10 front 0 := by
        rw [Nat.pos_iff_ne_zero]
        intro hnone
        rw [hnone, Nat.toDigits_zero] at hrest
        exact hzero (hrest ▸ rfl)
      rw [← Nat.toDigits_append_toDigits (by decide) hpos hlt, hrest,
        Nat.toDigits_of_lt_base hlt, hlast]

theorem toList_toString (n : Nat) : (toString n).toList = Nat.toDigits 10 n := by
  rw [Nat.toString_eq_repr, Nat.toList_repr]

/-- A text is read as a number if and only if it is the number in decimal digits. -/
theorem decimal?_eq_some_iff :
    decimal? text = some n ↔ text = (toString n).toList ∧ n < limit32 := by
  rw [toList_toString]
  have hvalue : text.foldl (fun n c => 10 * n + (c.toNat - '0'.toNat)) 0 =
    Nat.ofDigitChars 10 text 0 := rfl
  unfold decimal?
  dsimp only
  rw [hvalue]
  constructor
  · intro h
    split at h
    · cases h
    · rename_i hdigits
      rw [Bool.or_eq_true, List.isEmpty_iff, Bool.not_eq_true', not_or, Bool.not_eq_false,
        List.all_eq_true] at hdigits
      split at h
      · cases h
      · rename_i hfirst
        split at h
        · rename_i hlimit
          cases h
          refine ⟨(toDigits_ofDigitChars hdigits.1 hdigits.2 fun hhead => ?_).symm, hlimit⟩
          exact Nat.le_of_not_lt fun hlong => hfirst ⟨hhead, hlong⟩
        · cases h
  · rintro ⟨rfl, hlimit⟩
    have hdigits : ¬ ((Nat.toDigits 10 n).isEmpty ||
        !((Nat.toDigits 10 n).all fun c => '0' ≤ c && c ≤ '9')) = true := by
      rw [Bool.or_eq_true, List.isEmpty_iff, Bool.not_eq_true', not_or, Bool.not_eq_false,
        List.all_eq_true]
      exact ⟨Nat.toDigits_ne_nil, fun c hc =>
        Nat.isDigit_of_mem_toDigits (by decide) (by decide) hc⟩
    have hfirst : ¬ ((Nat.toDigits 10 n).head? = some '0' ∧ 1 < (Nat.toDigits 10 n).length) := by
      rintro ⟨hhead, hlong⟩
      rcases Nat.eq_zero_or_pos n with rfl | hpos
      · rw [Nat.toDigits_zero] at hlong
        exact absurd hlong (by decide)
      · exact head?_toDigits hpos hhead
    rw [if_neg hdigits, if_neg hfirst, Nat.ofDigitChars_ten_toDigits, if_pos hlimit]

end Numbers

/-! ### Names and values -/

/-- The text may be a name. -/
structure IsName (name : String) : Prop where
  notEmpty : 1 ≤ name.toList.length
  short : name.toList.length ≤ 32
  chars : ∀ c ∈ name.toList, isNameChar c = true

instance (name : String) : Decidable (IsName name) :=
  decidable_of_iff (1 ≤ name.toList.length ∧ name.toList.length ≤ 32 ∧
    name.toList.all isNameChar = true)
    ⟨fun h => ⟨h.1, h.2.1, List.all_eq_true.mp h.2.2⟩,
      fun h => ⟨h.notEmpty, h.short, List.all_eq_true.mpr h.chars⟩⟩

/-- The text may be a value. -/
structure IsValue (value : String) : Prop where
  short : value.toList.length ≤ 64
  chars : ∀ c ∈ value.toList, isValueChar c = true

section Fields

variable {text : List Char} {name value : String}

theorem ite_ofList_eq_some_iff {fits : Prop} [Decidable fits] :
    (if fits then some (String.ofList text) else none) = some value ↔
      text = value.toList ∧ fits := by
  rw [Option.ite_none_right_eq_some, Option.some.injEq, and_comm]
  refine and_congr_left fun _ => ⟨?_, ?_⟩
  · rintro rfl
    exact String.toList_ofList.symm
  · rintro rfl
    exact String.ofList_toList

theorem name?_eq_some_iff : name? text = some name ↔ text = name.toList ∧ IsName name := by
  unfold name?
  rw [ite_ofList_eq_some_iff]
  refine and_congr_right ?_
  rintro rfl
  rw [List.all_eq_true]
  exact ⟨fun h => ⟨h.1, h.2.1, h.2.2⟩, fun h => ⟨h.notEmpty, h.short, h.chars⟩⟩

theorem value?_eq_some_iff : value? text = some value ↔ text = value.toList ∧ IsValue value := by
  unfold value?
  rw [ite_ofList_eq_some_iff]
  refine and_congr_right ?_
  rintro rfl
  rw [List.all_eq_true]
  exact ⟨fun h => ⟨h.1, h.2⟩, fun h => ⟨h.short, h.chars⟩⟩

theorem IsName.notMem (h : IsName name) {c : Char} (hc : isNameChar c = false) :
    c ∉ name.toList :=
  fun hmem => Bool.false_ne_true (hc.symm.trans (h.chars c hmem))

theorem IsValue.notMem (h : IsValue value) {c : Char} (hc : isValueChar c = false) :
    c ∉ value.toList :=
  fun hmem => Bool.false_ne_true (hc.symm.trans (h.chars c hmem))

theorem isValueChar_of_isNameChar {c : Char} (h : isNameChar c = true) :
    isValueChar c = true := by
  unfold isNameChar at h
  unfold isValueChar
  simp only [Bool.or_eq_true] at h ⊢
  rcases h with (hletter | hdigit) | hhyphen
  · exact .inl (.inl (.inl (.inl (.inl (.inl hletter)))))
  · exact .inl (.inl (.inl (.inl (.inr hdigit))))
  · exact .inr hhyphen

theorem ascii_of_isValueChar {c : Char} (h : isValueChar c = true) : c.toNat < 128 := by
  have hrange : ∀ {first last : Char}, last.toNat < 128 → first ≤ c ∧ c ≤ last → c.toNat < 128 :=
    fun hlast hc => Nat.lt_of_le_of_lt (UInt32.le_iff_toNat_le.mp hc.2) hlast
  unfold isValueChar at h
  simp only [Bool.or_eq_true, Bool.and_eq_true, decide_eq_true_eq, beq_iff_eq] at h
  rcases h with (((((h | h) | h) | rfl) | rfl) | rfl) | rfl
  · exact hrange (by decide) h
  · exact hrange (by decide) h
  · exact hrange (by decide) h
  all_goals decide

theorem isValueChar_of_isDigit {c : Char} (h : c.isDigit = true) : isValueChar c = true := by
  unfold isValueChar
  rw [isDigit_eq, h]
  simp

/-- A number is short enough for a value. -/
theorem isValue_toString {n : Nat} (h : n < limit32) : IsValue (toString n) where
  short := by
    rw [toList_toString, Nat.length_toDigits_le_iff (by decide) (by decide)]
    exact h.trans (by decide)
  chars := by
    rw [toList_toString]
    exact fun c hc => isValueChar_of_isDigit
      (Nat.isDigit_of_mem_toDigits (by decide) (by decide) hc)

end Fields

/-! ### Parameters -/

/-- A parameter as it is written. -/
def parameterText (p : String × String) : List Char := p.1.toList ++ '=' :: p.2.toList

/-- Parameters as they are written. -/
def parametersText (ps : List (String × String)) : List Char :=
  [','].intercalate (ps.map parameterText)

/-- These may be the parameters. -/
structure AreParameters (ps : List (String × String)) : Prop where
  names : ∀ p ∈ ps, IsName p.1
  values : ∀ p ∈ ps, IsValue p.2
  short : (Bytes.ofText (String.ofList (parametersText ps))).length ≤ 127

section Parameters

variable {text : List Char} {p : String × String} {ps : List (String × String)}

theorem parameter?_eq_some_iff :
    parameter? text = some p ↔ text = parameterText p ∧ IsName p.1 ∧ IsValue p.2 := by
  obtain ⟨name, value⟩ := p
  unfold parameter? parameterText
  constructor
  · intro h
    split at h
    · rename_i first second hsplit
      obtain ⟨_, htext, _⟩ := Text.splitAt_eq_iff.mp hsplit
      obtain ⟨_, hfirst, h⟩ := Option.bind_eq_some_iff.mp h
      obtain ⟨_, hsecond, h⟩ := Option.bind_eq_some_iff.mp h
      cases h
      obtain ⟨rfl, hname⟩ := name?_eq_some_iff.mp hfirst
      obtain ⟨rfl, hvalue⟩ := value?_eq_some_iff.mp hsecond
      refine ⟨?_, hname, hvalue⟩
      rw [htext, List.intercalate_cons_cons, List.intercalate_singleton, List.append_assoc]
      rfl
    · cases h
  · rintro ⟨rfl, hname, hvalue⟩
    have hsplit : Text.splitAt '=' (name.toList ++ '=' :: value.toList) =
        [name.toList, value.toList] := by
      refine Text.splitAt_eq_iff.mpr ⟨List.cons_ne_nil _ _, ?_, ?_⟩
      · rw [List.intercalate_cons_cons, List.intercalate_singleton, List.append_assoc]
        rfl
      · simp only [List.forall_mem_cons]
        exact ⟨hname.notMem (by decide), hvalue.notMem (by decide), List.forall_mem_nil _⟩
    rw [hsplit]
    dsimp only
    rw [name?_eq_some_iff.mpr ⟨rfl, hname⟩, value?_eq_some_iff.mpr ⟨rfl, hvalue⟩]
    rfl

/-- Fields are read one by one. -/
theorem mapM_parameter?_eq_some_iff {fields : List (List Char)} :
    fields.mapM parameter? = some ps ↔
      fields = ps.map parameterText ∧ ∀ p ∈ ps, IsName p.1 ∧ IsValue p.2 := by
  induction fields generalizing ps with
  | nil =>
    rw [List.mapM_nil]
    constructor
    · intro h
      cases h
      exact ⟨rfl, List.forall_mem_nil _⟩
    · rintro ⟨h, _⟩
      rw [List.map_eq_nil_iff.mp h.symm]
      rfl
  | cons field fields ih =>
    rw [List.mapM_cons]
    constructor
    · intro h
      obtain ⟨p, hfirst, h⟩ := Option.bind_eq_some_iff.mp h
      obtain ⟨more, hrest, h⟩ := Option.bind_eq_some_iff.mp h
      cases h
      obtain ⟨rfl, hp⟩ := parameter?_eq_some_iff.mp hfirst
      obtain ⟨rfl, hmore⟩ := ih.mp hrest
      exact ⟨rfl, List.forall_mem_cons.mpr ⟨hp, hmore⟩⟩
    · rintro ⟨h, hall⟩
      cases ps with
      | nil => cases h
      | cons p more =>
        obtain ⟨rfl, hfields⟩ := List.cons.inj h
        obtain ⟨hp, hmore⟩ := List.forall_mem_cons.mp hall
        rw [parameter?_eq_some_iff.mpr ⟨rfl, hp⟩, ih.mpr ⟨hfields, hmore⟩]
        rfl

/-- The characters of parameters are those of values, and two marks. -/
theorem mem_parametersText (hnames : ∀ p ∈ ps, IsName p.1) (hvalues : ∀ p ∈ ps, IsValue p.2)
    {c : Char} (hc : c ∈ parametersText ps) : c = ',' ∨ c = '=' ∨ isValueChar c = true := by
  rcases Text.eq_or_mem_of_mem_intercalate hc with hcomma | ⟨_, hfield, hc⟩
  · exact .inl hcomma
  · obtain ⟨p, hp, rfl⟩ := List.mem_map.mp hfield
    rcases List.mem_append.mp hc with hname | hvalue
    · exact .inr (.inr (isValueChar_of_isNameChar ((hnames p hp).chars c hname)))
    · exact .inr ((List.mem_cons.mp hvalue).imp_right ((hvalues p hp).chars c))

theorem comma_notMem_parameterText (hname : IsName p.1) (hvalue : IsValue p.2) :
    ',' ∉ parameterText p := by
  unfold parameterText
  rw [List.mem_append, List.mem_cons, not_or, not_or]
  exact ⟨hname.notMem (by decide), by decide, hvalue.notMem (by decide)⟩

theorem parameters?_eq_some_iff : parameters? text = some ps ↔
    ps ≠ [] ∧ text = parametersText ps ∧ AreParameters ps := by
  unfold parameters?
  constructor
  · intro h
    split at h
    · rename_i hshort
      obtain ⟨hfields, hall⟩ := mapM_parameter?_eq_some_iff.mp h
      obtain ⟨hsome, htext, _⟩ := Text.splitAt_eq_iff.mp hfields
      refine ⟨fun hnil => hsome (hnil ▸ rfl), htext, fun p hp => (hall p hp).1,
        fun p hp => (hall p hp).2, ?_⟩
      rw [parametersText, ← htext]
      exact hshort
    · cases h
  · rintro ⟨hsome, rfl, hps⟩
    rw [if_pos hps.short, mapM_parameter?_eq_some_iff]
    refine ⟨Text.splitAt_eq_iff.mpr ⟨fun hnil => hsome (List.map_eq_nil_iff.mp hnil), rfl, ?_⟩,
      fun p hp => ⟨hps.names p hp, hps.values p hp⟩⟩
    intro field hfield
    obtain ⟨p, hp, rfl⟩ := List.mem_map.mp hfield
    exact comma_notMem_parameterText (hps.names p hp) (hps.values p hp)

theorem equals_mem_parametersText (h : ps ≠ []) : '=' ∈ parametersText ps := by
  obtain ⟨p, more, rfl⟩ := List.exists_cons_of_ne_nil h
  unfold parametersText
  cases more with
  | nil => simp [parameterText]
  | cons next more => simp [List.intercalate_cons_cons, parameterText]

end Parameters

/-! ### Salt and hash -/

/-- The text may be a salt. -/
structure IsSalt (salt : String) : Prop where
  long : 4 ≤ salt.toList.length
  value : IsValue salt

/-- The bytes may be a hash. -/
structure IsHash (hash : Bytes) : Prop where
  long : 10 ≤ hash.length
  short : hash.length ≤ 64

/-- These may be the salt and the hash; there is no hash without a salt. -/
inductive AreEnds : Option String → Option Bytes → Prop
  | neither : AreEnds none none
  | salted {salt : String} (hsalt : IsSalt salt) : AreEnds (some salt) none
  | hashed {salt : String} {hash : Bytes} (hsalt : IsSalt salt) (hhash : IsHash hash) :
    AreEnds (some salt) (some hash)

/-- The fields of the salt and of the hash. -/
def endFields (salt : Option String) (hash : Option Bytes) : List (List Char) :=
  salt.toList.map String.toList ++ hash.toList.map (Base64.encodeChars phcBase64)

section Ends

variable {text : List Char} {fields : List (List Char)} {salt : Option String}
  {hash : Option Bytes}

theorem salt?_eq_some_iff {s : String} : salt? text = some s ↔ text = s.toList ∧ IsSalt s := by
  unfold salt?
  constructor
  · intro h
    split at h
    · rename_i hlong
      obtain ⟨rfl, hs⟩ := value?_eq_some_iff.mp h
      exact ⟨rfl, hlong, hs⟩
    · cases h
  · rintro ⟨rfl, hs⟩
    rw [if_pos hs.long, value?_eq_some_iff.mpr ⟨rfl, hs.value⟩]

theorem hash?_eq_some_iff {h : Bytes} :
    hash? text = some h ↔ text = Base64.encodeChars phcBase64 h ∧ IsHash h := by
  unfold hash?
  rw [Option.filter_eq_some_iff, Base64.decodeChars?_eq_some_iff, decide_eq_true_eq]
  exact and_congr_right fun _ => ⟨fun h => ⟨h.1, h.2⟩, fun h => ⟨h.long, h.short⟩⟩

theorem tail?_eq_some_iff :
    tail? fields = some (salt, hash) ↔ fields = endFields salt hash ∧ AreEnds salt hash := by
  constructor
  · intro h
    unfold tail? at h
    split at h
    · cases h
      exact ⟨rfl, .neither⟩
    · obtain ⟨s, hfirst, h⟩ := Option.bind_eq_some_iff.mp h
      cases h
      obtain ⟨rfl, hs⟩ := salt?_eq_some_iff.mp hfirst
      exact ⟨rfl, .salted hs⟩
    · obtain ⟨s, hfirst, h⟩ := Option.bind_eq_some_iff.mp h
      obtain ⟨bytes, hsecond, h⟩ := Option.bind_eq_some_iff.mp h
      cases h
      obtain ⟨rfl, hs⟩ := salt?_eq_some_iff.mp hfirst
      obtain ⟨rfl, hbytes⟩ := hash?_eq_some_iff.mp hsecond
      exact ⟨rfl, .hashed hs hbytes⟩
    · cases h
  · rintro ⟨rfl, hends⟩
    cases hends with
    | neither => rfl
    | @salted s hs =>
      show (do return (some (← salt? s.toList), none) : Option (Option String × Option Bytes)) = _
      rw [salt?_eq_some_iff.mpr ⟨rfl, hs⟩]
      rfl
    | @hashed s bytes hs hbytes =>
      show (do return (some (← salt? s.toList),
        some (← hash? (Base64.encodeChars phcBase64 bytes))) : Option _) = _
      rw [salt?_eq_some_iff.mpr ⟨rfl, hs⟩, hash?_eq_some_iff.mpr ⟨rfl, hbytes⟩]
      rfl

theorem isValueChar_of_isAlphanum {c : Char} (h : c.isAlphanum = true) :
    isValueChar c = true := by
  have hranges : (decide (65 ≤ c.val ∧ c.val ≤ 90) || (97 ≤ c.val && c.val ≤ 122) ||
      (48 ≤ c.val && c.val ≤ 57)) = true := h
  unfold isValueChar
  simp only [Bool.or_eq_true, Bool.and_eq_true, decide_eq_true_eq] at hranges ⊢
  rcases hranges with (hupper | hlower) | hdigit
  · exact .inl (.inl (.inl (.inl (.inl (.inr hupper)))))
  · exact .inl (.inl (.inl (.inl (.inl (.inl hlower)))))
  · exact .inl (.inl (.inl (.inl (.inr hdigit))))

/-- What is written in base64 may stand in a value. -/
theorem isValueChar_of_mem_encodeChars {bytes : Bytes} {c : Char}
    (h : c ∈ Base64.encodeChars phcBase64 bytes) : isValueChar c = true := by
  obtain ⟨n, rfl⟩ := Base64.eq_digit_of_mem rfl h
  rcases Base64.digit_cases phcBase64 n with halphanum | hplus | hslash
  · exact isValueChar_of_isAlphanum halphanum
  · rw [hplus]
    decide
  · rw [hslash]
    decide

/-- The fields at the end are made of the characters of values. -/
theorem AreEnds.notMem (h : AreEnds salt hash) {field : List Char}
    (hfield : field ∈ endFields salt hash) {c : Char} (hc : isValueChar c = false) :
    c ∉ field := by
  intro hmem
  refine Bool.false_ne_true (hc.symm.trans ?_)
  rcases List.mem_append.mp hfield with hsalt | hhash
  · obtain ⟨s, hs, rfl⟩ := List.mem_map.mp hsalt
    cases h with
    | neither => cases hs
    | salted hs' => exact (List.mem_singleton.mp hs ▸ hs'.value).chars c hmem
    | hashed hs' _ => exact (List.mem_singleton.mp hs ▸ hs'.value).chars c hmem
  · obtain ⟨bytes, _, rfl⟩ := List.mem_map.mp hhash
    exact isValueChar_of_mem_encodeChars hmem

end Ends

/-! ### Whole texts -/

/-- The version as it is written. -/
def versionText (n : Nat) : List Char := 'v' :: '=' :: (toString n).toList

/-- The field of the parameters, if there are any. -/
def parametersFields (ps : List (String × String)) : List (List Char) :=
  if ps = [] then [] else [parametersText ps]

/-- The fields behind the version. -/
def lastFields (p : Phc) : List (List Char) :=
  parametersFields p.parameters ++ endFields p.salt p.hash

/-- All fields as they are written. -/
def fields (p : Phc) : List (List Char) :=
  p.algorithm.toList :: (p.version.toList.map versionText ++ p.lastFields)

/-- The text of a stored hash: every field with a dollar sign in front. -/
def text (p : Phc) : String := String.ofList (p.fields.flatMap ('$' :: ·))

/-- All fields are such as can be stored. -/
structure IsSound (p : Phc) : Prop where
  algorithm : IsName p.algorithm
  version : ∀ n, p.version = some n → n < limit32
  parameters : AreParameters p.parameters
  ends : AreEnds p.salt p.hash
  /-- A single parameter that is called so is the version. -/
  versionless : p.version = none → ∀ value, p.parameters ≠ [("v", value)]

/-- The text is that of a stored hash: `$name[$v=number][$name=value,…][$salt[$hash]]`. -/
def WellFormed (text : String) : Prop := ∃ p : Phc, p.IsSound ∧ text = p.text

variable {p : Phc} {text algorithm : String} {version : Option Nat} {fields : List (List Char)}

/-- A text with these fields behind its first dollar sign is the text of them. -/
theorem eq_text_of_splitAt (h : Text.splitAt '$' text.toList = [] :: p.fields) :
    text = p.text := by
  obtain ⟨_, htext, _⟩ := Text.splitAt_eq_iff.mp h
  rw [Phc.text, ← Text.intercalate_nil_cons, ← htext, String.ofList_toList]

theorem dollar_notMem_fields (h : p.IsSound) {field : List Char} (hfield : field ∈ p.fields) :
    '$' ∉ field := by
  rcases List.mem_cons.mp hfield with rfl | hfield
  · exact h.algorithm.notMem (by decide)
  rcases List.mem_append.mp hfield with hversion | hlast
  · obtain ⟨n, hn, rfl⟩ := List.mem_map.mp hversion
    have hvalue := isValue_toString (h.version n (Option.mem_toList.mp hn))
    unfold versionText
    rw [List.mem_cons, List.mem_cons, not_or, not_or]
    exact ⟨by decide, by decide, hvalue.notMem (by decide)⟩
  rcases List.mem_append.mp hlast with hparameters | hends
  · unfold parametersFields at hparameters
    split at hparameters
    · cases hparameters
    · rw [List.mem_singleton.mp hparameters]
      intro hdollar
      have hchar := mem_parametersText h.parameters.names h.parameters.values hdollar
      exact absurd hchar (by decide)
  · exact h.ends.notMem hends (by decide)

theorem splitAt_text (h : p.IsSound) : Text.splitAt '$' p.text.toList = [] :: p.fields := by
  refine Text.splitAt_eq_iff.mpr ⟨List.cons_ne_nil _ _, ?_, ?_⟩
  · rw [Phc.text, String.toList_ofList, Text.intercalate_nil_cons]
  · exact List.forall_mem_cons.mpr ⟨List.not_mem_nil, fun field => dollar_notMem_fields h⟩

theorem areParameters_nil : AreParameters [] :=
  ⟨List.forall_mem_nil _, List.forall_mem_nil _, by decide⟩

theorem afterVersion?_eq_some_iff : afterVersion? algorithm version fields = some p ↔
    p.algorithm = algorithm ∧ p.version = version ∧ fields = p.lastFields ∧
      AreParameters p.parameters ∧ AreEnds p.salt p.hash := by
  constructor
  · intro h
    unfold afterVersion? at h
    split at h
    · rename_i field more
      split at h
      · obtain ⟨ps, hfirst, h⟩ := Option.bind_eq_some_iff.mp h
        obtain ⟨⟨salt, hash⟩, hrest, h⟩ := Option.bind_eq_some_iff.mp h
        cases h
        obtain ⟨hsome, rfl, hps⟩ := parameters?_eq_some_iff.mp hfirst
        obtain ⟨rfl, hends⟩ := tail?_eq_some_iff.mp hrest
        refine ⟨rfl, rfl, ?_, hps, hends⟩
        rw [lastFields, parametersFields, if_neg hsome]
        rfl
      · obtain ⟨⟨salt, hash⟩, hall, h⟩ := Option.bind_eq_some_iff.mp h
        cases h
        obtain ⟨hfields, hends⟩ := tail?_eq_some_iff.mp hall
        exact ⟨rfl, rfl, hfields, areParameters_nil, hends⟩
    · cases h
      exact ⟨rfl, rfl, rfl, areParameters_nil, .neither⟩
  · obtain ⟨algorithm, version, ps, salt, hash⟩ := p
    rintro ⟨rfl, rfl, rfl, hps, hends⟩
    dsimp only at hps hends
    have hend := tail?_eq_some_iff.mpr ⟨rfl, hends⟩
    by_cases hnone : ps = []
    · subst hnone
      show afterVersion? algorithm version (endFields salt hash) = _
      cases hfields : endFields salt hash with
      | nil =>
        rw [hfields] at hend
        cases hend
        rfl
      | cons field more =>
        have hequals : '=' ∉ field :=
          hends.notMem (hfields ▸ List.mem_cons_self) (by decide)
        rw [afterVersion?, if_neg hequals, ← hfields, hend]
        rfl
    · have hequals := equals_mem_parametersText hnone
      rw [lastFields, parametersFields, if_neg hnone]
      show afterVersion? algorithm version (parametersText ps :: endFields salt hash) = _
      rw [afterVersion?, if_pos hequals, parameters?_eq_some_iff.mpr ⟨hnone, rfl, hps⟩, hend]
      rfl

/-- A single parameter that is called like the version is spelled like it. -/
theorem lastFields_single {value : String} (h : p.parameters = [("v", value)]) :
    p.lastFields = ('v' :: '=' :: value.toList) :: endFields p.salt p.hash := by
  have hname : "v".toList = ['v'] := by decide
  rw [lastFields, h, parametersFields, if_neg (List.cons_ne_nil _ _), parametersText,
    List.map_singleton, List.intercalate_singleton, parameterText, hname]
  rfl

/-- A parameter that is spelled like a version is called like it. -/
theorem eq_of_parameterText {name argument : String} (hname : IsName name) {value : List Char}
    (h : parameterText (name, argument) = 'v' :: '=' :: value) : name = "v" := by
  have hcut : Text.cutAt? ['='] (parameterText (name, argument)) =
      some (name.toList, argument.toList) :=
    Text.cutAt?_append_cons (hname.notMem (by decide))
  have hcut' : Text.cutAt? ['='] (['v'] ++ '=' :: value) = some (['v'], value) :=
    Text.cutAt?_append_cons (by decide)
  rw [h] at hcut
  obtain ⟨hchars, _⟩ := Prod.mk.inj (Option.some.inj (hcut.symm.trans hcut'))
  rw [← String.toList_inj, hchars]
  decide

/-- What is spelled like a version and is none has a comma in it. -/
theorem comma_mem_of_lastFields (h : p.IsSound) (hversion : p.version = none)
    {value : List Char} {rest : List (List Char)}
    (hfields : p.lastFields = ('v' :: '=' :: value) :: rest) : ',' ∈ value := by
  by_cases hnone : p.parameters = []
  · rw [lastFields, parametersFields, if_pos hnone, List.nil_append] at hfields
    have hmem : 'v' :: '=' :: value ∈ endFields p.salt p.hash := by
      rw [hfields]
      exact List.mem_cons_self
    exact absurd (List.mem_cons_of_mem _ List.mem_cons_self)
      (h.ends.notMem (c := '=') hmem (by decide))
  · rw [lastFields, parametersFields, if_neg hnone] at hfields
    have htext : parametersText p.parameters = 'v' :: '=' :: value := (List.cons.inj hfields).1
    have hcomma : ',' ∈ parametersText p.parameters := by
      obtain ⟨⟨name, argument⟩, more, hmore⟩ := List.exists_cons_of_ne_nil hnone
      cases more with
      | nil =>
        -- A single parameter would have to be called `v`.
        have hname : IsName name :=
          h.parameters.names (name, argument) (hmore ▸ List.mem_cons_self)
        rw [hmore, parametersText, List.map_singleton, List.intercalate_singleton] at htext
        rw [eq_of_parameterText hname htext] at hmore
        exact absurd hmore (h.versionless hversion argument)
      | cons next others =>
        rw [hmore, parametersText, List.map_cons, List.map_cons, List.intercalate_cons_cons]
        exact List.mem_append_left _ (List.mem_append_right _ List.mem_cons_self)
    rw [htext, List.mem_cons, List.mem_cons] at hcomma
    exact (hcomma.resolve_left (by decide)).resolve_left (by decide)

/-- What is read behind a name and a version is sound, if no parameter passes for the version. -/
theorem sound_of_afterVersion? {name : String} (hname : IsName name)
    (hversion : ∀ n, version = some n → n < limit32)
    (hless : version = none → ∀ value, p.parameters ≠ [("v", value)])
    (h : afterVersion? name version fields = some p)
    (hsplit : Text.splitAt '$' text.toList =
      [] :: name.toList :: (version.toList.map versionText ++ fields)) :
    text = p.text ∧ p.IsSound := by
  obtain ⟨rfl, rfl, rfl, hparameters, hends⟩ := afterVersion?_eq_some_iff.mp h
  exact ⟨eq_text_of_splitAt hsplit, hname, hversion, hparameters, hends, hless⟩

/-- A text is read as fields that it spells. -/
theorem text_of_parse? (h : parse? text = some p) : text = p.text ∧ p.IsSound := by
  unfold parse? at h
  split at h
  · rename_i first more hsplit
    obtain ⟨name, hfirst, hrest⟩ := Option.bind_eq_some_iff.mp h
    clear h
    obtain ⟨rfl, hname⟩ := name?_eq_some_iff.mp hfirst
    split at hrest
    · rename_i value rest
      split at hrest
      · rename_i hcomma
        -- With a comma in it the field holds parameters, and more than one.
        refine sound_of_afterVersion? hname (by simp) (fun _ argument heq => ?_) hrest hsplit
        obtain ⟨_, _, hfields, hparameters, _⟩ := afterVersion?_eq_some_iff.mp hrest
        rw [lastFields_single heq] at hfields
        obtain ⟨hfield, _⟩ := List.cons.inj hfields
        obtain rfl : value = argument.toList := (List.cons.inj (List.cons.inj hfield).2).2
        have hvalue := hparameters.values ("v", argument) (heq ▸ List.mem_cons_self)
        exact hvalue.notMem (by decide) hcomma
      · obtain ⟨n, hversion, hlast⟩ := Option.bind_eq_some_iff.mp hrest
        obtain ⟨_, hvalue, hnumber⟩ := Option.bind_eq_some_iff.mp hversion
        obtain ⟨rfl, _⟩ := value?_eq_some_iff.mp hvalue
        obtain ⟨hdigits, hlimit⟩ := decimal?_eq_some_iff.mp hnumber
        refine sound_of_afterVersion? hname (fun _ h => Option.some.inj h ▸ hlimit) (by simp) hlast
          ?_
        rw [hsplit, hdigits]
        rfl
    · rename_i hother
      refine sound_of_afterVersion? hname (by simp) (fun _ argument heq => ?_) hrest hsplit
      obtain ⟨_, _, hfields, _, _⟩ := afterVersion?_eq_some_iff.mp hrest
      rw [lastFields_single heq] at hfields
      exact hother _ _ hfields
  · cases h

/-- The text of fields that are sound is read as them. -/
theorem parse?_text (h : p.IsSound) : parse? p.text = some p := by
  have hlast : afterVersion? p.algorithm p.version p.lastFields = some p :=
    afterVersion?_eq_some_iff.mpr ⟨rfl, rfl, rfl, h.parameters, h.ends⟩
  unfold parse?
  rw [splitAt_text h]
  show (name? p.algorithm.toList).bind _ = _
  rw [name?_eq_some_iff.mpr ⟨rfl, h.algorithm⟩, Option.bind_some]
  cases hversion : p.version with
  | none =>
    rw [hversion] at hlast
    split
    · rename_i value rest hfields
      rw [if_pos (comma_mem_of_lastFields h hversion hfields)]
      exact hlast
    · exact hlast
  | some n =>
    rw [hversion] at hlast
    have hlimit := h.version n hversion
    have hvalue := isValue_toString hlimit
    show (if ',' ∈ (toString n).toList then _ else _ : Option Phc) = _
    rw [if_neg (hvalue.notMem (by decide)), value?_eq_some_iff.mpr ⟨rfl, hvalue⟩,
      Option.bind_some, decimal?_eq_some_iff.mpr ⟨rfl, hlimit⟩]
    exact hlast

/-- **A text is read as some fields if and only if it spells them and they are sound.** -/
theorem parse?_eq_some_iff : parse? text = some p ↔ text = p.text ∧ p.IsSound := by
  refine ⟨text_of_parse?, ?_⟩
  rintro ⟨rfl, h⟩
  exact parse?_text h

theorem parse?_eq_none_iff : parse? text = none ↔ ¬ WellFormed text := by
  rw [Option.eq_none_iff_forall_ne_some]
  unfold WellFormed
  rw [not_exists]
  refine forall_congr' fun p => not_congr ?_
  rw [parse?_eq_some_iff, and_comm]

end Phc

end SessionAuth.Password
