/-
A cookie comes back as it was set.

Setting and reading a cookie go by one grammar.  A header that sets a cookie begins with its
name, `=` and its value, and goes on behind a `;`; a client sends back what is in front of that
mark, among cookies of its own.  A reader takes apart at every `;` the headers that it can read,
and of the segments the first that gives its name a value counts (`find?_eq_some_iff`).  The
value may hold `=` since the name does not, and an empty value does not end the search.
-/
import SessionAuth.Http.Message
import SessionAuth.Proofs.Http.Header

namespace SessionAuth.Http

variable {c : Cookie} {value name : String} {segment : List Char} {headers : List Bytes}

/-! ### Texts for cookies -/

/-- A name for a cookie: visible characters, neither `=` nor `;`. -/
structure IsCookieName (name : String) : Prop where
  nonempty : name ≠ ""
  chars : ∀ c ∈ name.toList, IsVisible c ∧ c ≠ '=' ∧ c ≠ ';'

/-- A value for a cookie: visible characters but no `;`. -/
structure IsCookieValue (value : String) : Prop where
  nonempty : value ≠ ""
  chars : ∀ c ∈ value.toList, IsVisible c ∧ c ≠ ';'

theorem IsCookieName.visible (h : IsCookieName name) : AllVisible name :=
  fun c hc => (h.chars c hc).1

theorem IsCookieValue.visible (h : IsCookieValue value) : AllVisible value :=
  fun c hc => (h.chars c hc).1

/-! ### Setting -/

/-- **A cookie with a name and a path for headers can be set to every token that is made.** -/
theorem setHeader?_of_visible (hname : IsWritable c.name) (hpath : IsWritable c.path)
    (hvalue : AllVisible value) (seconds : Nat) :
    c.setHeader? value seconds = some (c.set value (some seconds)) := by
  have hset : IsWritable (c.set value (some seconds)) := by
    unfold Cookie.set
    refine .append (.append (.append (.append (.append (.append (.append (.append (.append
      hname ?_) (isWritable_of_printable (.of_visible hvalue))) ?_) ?_) ?_) ?_) ?_) hpath)
      (.append ?_ (isWritable_toString seconds))
    · decide
    · cases c.httpOnly <;> decide
    · cases c.secure <;> decide
    · decide
    · cases c.sameSite <;> decide
    · decide
    · decide
  exact if_pos hset

/-- What a client keeps of a header that sets a cookie, and sends back. -/
def pairOf (header : String) : List Char := header.toList.takeWhile (· ≠ ';')

/-- Behind the value there are attributes, each behind a `;`. -/
theorem exists_attributes (c : Cookie) (value : String) (maxAge : Option Nat) :
    ∃ rest, (c.set value maxAge).toList =
      (c.name.toList ++ '=' :: value.toList) ++ ';' :: rest := by
  unfold Cookie.set
  simp only [String.toList_append, List.append_assoc, List.cons_append]
  cases c.httpOnly <;> cases c.secure <;> exact ⟨_, rfl⟩

/-- **What a client keeps are the name and the value.** -/
theorem pairOf_set (hname : ';' ∉ c.name.toList) (hvalue : ';' ∉ value.toList)
    (maxAge : Option Nat) :
    pairOf (c.set value maxAge) = c.name.toList ++ '=' :: value.toList := by
  obtain ⟨rest, hset⟩ := exists_attributes c value maxAge
  have hkept : ∀ a ∈ c.name.toList ++ '=' :: value.toList, decide (a ≠ ';') = true := by
    intro a ha
    refine decide_eq_true fun heq => ?_
    subst heq
    rcases List.mem_append.mp ha with ha | ha
    · exact hname ha
    · exact hvalue ((List.mem_cons.mp ha).resolve_left (by decide))
  unfold pairOf
  rw [hset, List.takeWhile_append_of_pos hkept, List.takeWhile_cons_of_neg (by decide),
    List.append_nil]

/-! ### Reading -/

/-- The texts between the `;` of the headers that hold visible ASCII, blanks and tabs only. -/
def segmentsOf (headers : List Bytes) : List (List Char) :=
  (headers.filter fun value => value.all fun b => decide (IsPlain b)).flatMap fun value =>
    (value.map fun b => Char.ofNat b.toNat).splitOn ';'

theorem segments_eq (headers : List Bytes) : Cookie.segments headers = segmentsOf headers := by
  have hsplit : Text.splitAt ';' = List.splitOn ';' := funext (Text.splitAt_eq_splitOn ';')
  unfold Cookie.segments segmentsOf
  rw [hsplit]
  induction headers with
  | nil => rfl
  | cons value rest ih =>
    by_cases hplain : ∀ b ∈ value, IsPlain b
    · have hall : (value.all fun b => decide (IsPlain b)) = true := by simpa using hplain
      rw [List.filterMap_cons_some (readable?_eq_some_iff.mpr ⟨hplain, rfl⟩), List.filter_cons,
        if_pos hall, List.flatMap_cons, List.flatMap_cons, ih]
    · have hnone : HeaderValue.readable? value = none :=
        Option.eq_none_iff_forall_ne_some.mpr fun _ h => hplain (readable?_eq_some_iff.mp h).1
      have hall : ¬ (value.all fun b => decide (IsPlain b)) = true := by simpa using hplain
      rw [List.filterMap_cons_none hnone, List.filter_cons, if_neg hall, ih]

/-- The segment gives the name this value, which is not empty. -/
structure Says (name : String) (segment : List Char) (value : String) : Prop where
  bare : '=' ∉ name.toList
  nonempty : value ≠ ""
  text : Text.trim Text.isBlank segment = name.toList ++ '=' :: value.toList

theorem valueIn?_eq_some_iff :
    Cookie.valueIn? name.toList segment = some value.toList ↔ Says name segment value := by
  unfold Cookie.valueIn?
  constructor
  · intro h
    split at h
    · rename_i key text hcut
      obtain ⟨⟨rfl, hne⟩, htext⟩ := Option.ite_none_right_eq_some.mp h
      obtain rfl := Option.some.inj htext
      obtain ⟨hparts, hbare⟩ := Text.cutAt?_singleton_eq_some_iff.mp hcut
      exact ⟨hbare, fun hempty => hne (String.toList_eq_nil_iff.mpr hempty), hparts.symm⟩
    · cases h
  · rintro ⟨hbare, hne, htext⟩
    have hfilled : value.toList ≠ [] := fun hempty => hne (String.toList_eq_nil_iff.mp hempty)
    rw [Text.cutAt?_singleton_eq_some_iff.mpr ⟨htext.symm, hbare⟩]
    exact if_pos ⟨rfl, hfilled⟩

theorem valueIn?_eq_none_iff :
    Cookie.valueIn? name.toList segment = none ↔ ∀ value, ¬ Says name segment value := by
  simp only [← valueIn?_eq_some_iff, Option.eq_none_iff_forall_ne_some, ne_eq]
  constructor
  · intro h value
    exact h value.toList
  · intro h text
    have hnot := h (String.ofList text)
    rwa [String.toList_ofList] at hnot

/-- **The first segment that gives the name a value counts.** -/
theorem find?_eq_some_iff :
    Cookie.find? headers name = some value ↔
      ∃ before segment after, segmentsOf headers = before ++ segment :: after ∧
        Says name segment value ∧ ∀ earlier ∈ before, ∀ other, ¬ Says name earlier other := by
  have hvalue : ∀ text, String.ofList text = value ↔ text = value.toList := by
    intro text
    rw [← String.toList_inj, String.toList_ofList]
  unfold Cookie.find?
  rw [Option.map_eq_some_iff, segments_eq]
  simp only [hvalue, exists_eq_right, List.findSome?_eq_some_iff, valueIn?_eq_some_iff,
    valueIn?_eq_none_iff]

theorem find?_eq_none_iff :
    Cookie.find? headers name = none ↔
      ∀ segment ∈ segmentsOf headers, ∀ value, ¬ Says name segment value := by
  unfold Cookie.find?
  rw [Option.map_eq_none_iff, segments_eq]
  simp only [List.findSome?_eq_none_iff, valueIn?_eq_none_iff]

/-! ### There and back -/

/-- Every token that is made can be the value of a cookie. -/
theorem isCookieValue_of_mint {codec : Token.Codec} {now expiry : Instant} {id : UserId}
    {noise : Token.Noise} {subject token : String} {kind : Option Token.Kind}
    {o : Token.Overrides} (h : codec.mint now id noise subject kind o = .ok (expiry, token)) :
    IsCookieValue token := by
  obtain ⟨hvisible, hne⟩ := Token.Codec.allVisible_of_mint h
  refine ⟨hne, fun a ha => ⟨hvisible a ha, ?_⟩⟩
  rintro rfl
  exact absurd (Token.Codec.isUrlSafe_or_dot_of_mint h _ ha) (by decide)

/-- A cookie can be set, and what the client keeps is its name and its value. -/
theorem exists_setHeader (hname : IsCookieName c.name) (hpath : AllPrintable c.path)
    (hvalue : IsCookieValue value) (maxAge : Nat) :
    ∃ header, c.setHeader? value maxAge = some header ∧
      pairOf header = c.name.toList ++ '=' :: value.toList := by
  refine ⟨c.set value (some maxAge), ?_, ?_⟩
  · exact setHeader?_of_visible (isWritable_of_printable (.of_visible hname.visible))
      (isWritable_of_printable hpath) hvalue.visible maxAge
  · exact pairOf_set (fun h => (hname.chars _ h).2.2 rfl) (fun h => (hvalue.chars _ h).2 rfl) _

theorem IsCookieName.says (hname : IsCookieName name) (hvalue : value ≠ "")
    (htext : Text.trim Text.isBlank segment = name.toList ++ '=' :: value.toList) :
    Says name segment value :=
  ⟨fun h => (hname.chars _ h).2.1 rfl, hvalue, htext⟩

/-- What the client keeps of a cookie that it shall forget has no value. -/
theorem pairOf_delete (hname : IsCookieName c.name) :
    pairOf c.delete = c.name.toList ++ ['='] := by
  have hvalue : ';' ∉ "".toList := nofun
  exact pairOf_set (fun h => (hname.chars _ h).2.2 rfl) hvalue _

/--
**The cookie comes back as it was set.**  A cookie with a plain name and path can be set to every
plain value, which every token that is made is, and what the client keeps of the header is the
name and the value.  Among the `Cookie` headers of a request, whatever else they hold, the first
segment that gives the name a value counts, and nothing is found only if there is none.  When
all segments of that name are what the client keeps of a deleted cookie, nothing is found.
-/
theorem cookie_intact (c : Cookie) (hname : IsCookieName c.name) (hpath : AllPrintable c.path) :
    (∀ value maxAge, IsCookieValue value → ∃ header, c.setHeader? value maxAge = some header ∧
      pairOf header = c.name.toList ++ '=' :: value.toList) ∧
    (∀ (codec : Token.Codec) now id noise subject kind o expiry token,
      codec.mint now id noise subject kind o = .ok (expiry, token) → IsCookieValue token) ∧
    (∀ headers value before segment after, IsCookieValue value →
      segmentsOf headers = before ++ segment :: after →
      Text.trim Text.isBlank segment = c.name.toList ++ '=' :: value.toList →
      (∀ earlier ∈ before, ∀ other, ¬ Says c.name earlier other) →
      Cookie.find? headers c.name = some value) ∧
    (∀ headers name,
      (∀ value, Cookie.find? headers name = some value ↔
        ∃ before segment after, segmentsOf headers = before ++ segment :: after ∧
          Says name segment value ∧ ∀ earlier ∈ before, ∀ other, ¬ Says name earlier other) ∧
      (Cookie.find? headers name = none ↔
        ∀ segment ∈ segmentsOf headers, ∀ value, ¬ Says name segment value)) ∧
    ∀ headers, (∀ segment ∈ segmentsOf headers, ∀ rest,
        Text.trim Text.isBlank segment = c.name.toList ++ '=' :: rest →
        Text.trim Text.isBlank segment = pairOf c.delete) →
      Cookie.find? headers c.name = none := by
  refine ⟨?_, ?_, ?_, fun headers name => ⟨fun value => find?_eq_some_iff, find?_eq_none_iff⟩, ?_⟩
  · intro value maxAge hvalue
    exact exists_setHeader hname hpath hvalue maxAge
  · intro codec now id noise subject kind o expiry token hmint
    exact isCookieValue_of_mint hmint
  · intro headers value before segment after hvalue hsegments htext hfirst
    exact find?_eq_some_iff.mpr
      ⟨before, segment, after, hsegments, hname.says hvalue.nonempty htext, hfirst⟩
  · intro headers hdeleted
    refine find?_eq_none_iff.mpr fun segment hsegment value hsays => ?_
    have hpair := hdeleted segment hsegment _ hsays.text
    rw [pairOf_delete hname, hsays.text, List.append_cancel_left_eq, List.cons.injEq] at hpair
    exact hsays.nonempty (String.toList_eq_nil_iff.mp hpair.2)

namespace Sample

def refreshCookie : Cookie := { name := "refresh", path := "/v1/auth" }

/-- A header that cannot be read, and segments without a value in front of the one that counts. -/
def cookieHeaders : List Bytes :=
  [[200], Bytes.ofText "refresh; refresh=;a=1", Bytes.ofText "refreshed=x; refresh=t=1 ;refresh=u"]

theorem isCookieName_refresh : IsCookieName "refresh" := by
  have hchars :
      ("refresh".toList.all fun a => decide (IsVisible a ∧ a ≠ '=' ∧ a ≠ ';')) = true := by decide
  exact ⟨by decide, fun a ha => of_decide_eq_true (List.all_eq_true.mp hchars a ha)⟩

end Sample

theorem cookie_intact_refresh :
    IsCookieName Sample.refreshCookie.name ∧ AllPrintable Sample.refreshCookie.path ∧
    (∃ header, Sample.refreshCookie.setHeader? "t=1" 60 = some header ∧
      pairOf header = "refresh=t=1".toList) ∧
    Cookie.find? Sample.cookieHeaders "refresh" = some "t=1" := by
  have hpathChars :
      ("/v1/auth".toList.all fun a => decide (32 ≤ a.toNat ∧ a.toNat ≤ 126)) = true := by decide
  have hpath : AllPrintable "/v1/auth" :=
    fun a ha => of_decide_eq_true (List.all_eq_true.mp hpathChars a ha)
  have hvalueChars : ("t=1".toList.all fun a => decide (IsVisible a ∧ a ≠ ';')) = true := by decide
  have hvalue : IsCookieValue "t=1" :=
    ⟨by decide, fun a ha => of_decide_eq_true (List.all_eq_true.mp hvalueChars a ha)⟩
  obtain ⟨hset, _, hback, _⟩ :=
    cookie_intact Sample.refreshCookie Sample.isCookieName_refresh hpath
  refine ⟨Sample.isCookieName_refresh, hpath, hset "t=1" 60 hvalue, ?_⟩
  refine hback Sample.cookieHeaders "t=1"
    ["refresh".toList, " refresh=".toList, "a=1".toList, "refreshed=x".toList]
    " refresh=t=1 ".toList ["refresh=u".toList] hvalue (by decide) (by decide) ?_
  have hsilent : (["refresh".toList, " refresh=".toList, "a=1".toList, "refreshed=x".toList].all
      fun earlier => Cookie.valueIn? "refresh".toList earlier == none) = true := by decide
  intro earlier hearlier
  exact valueIn?_eq_none_iff.mp (beq_iff_eq.mp (List.all_eq_true.mp hsilent earlier hearlier))

end SessionAuth.Http
