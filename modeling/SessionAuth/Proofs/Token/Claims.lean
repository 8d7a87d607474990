/-
The two passes over the claims of a token.

The payload and the conditions are read from the same text, one after the other, and the second
pass is lenient: where a claim does not fit it goes on from the byte at which it stopped.  So it
could lose its way, and see a member where there is none, and an expiry that is not the one of
the payload.

It cannot, since the first pass has found the text to be in order.  As long as both passes come
to the same members they read the same expiry.  Once the second one has lost its way it does not
find the end of the text, as `lost` says.  The names of the claims enter there: inside of a
string, what the second pass takes for a key is no string at all, and none of the names can stand
there.
-/
import SessionAuth.Proofs.Json.Astray
import SessionAuth.Proofs.Token.RoundTrip

namespace SessionAuth.Token

open Json (Reader Within SpansValue SpanFields Astray EndsObject members valueOf code)
open Json.Place (outside inside walk)

/-! ### The fields of a payload -/

namespace Payload

theorem spanFields : SpanFields fields := by
  intro f hf draft d bytes
  simp only [fields, List.mem_cons, List.not_mem_nil, or_false] at hf
  rcases hf with rfl | rfl | rfl | rfl | rfl
  · exact (Json.spans_text d bytes).bind fun _ _ _ => Json.spans_pure _
  · exact ((Json.spans_choice _).nullable d bytes).bind fun _ _ _ => Json.spans_pure _
  · exact (Json.spans_integer d bytes).bind fun _ _ _ => Json.spans_pure _
  · exact (Json.spans_integer d bytes).bind fun _ _ _ => Json.spans_pure _
  · exact (Json.spans_text.nullable d bytes).bind fun _ _ _ => Json.spans_pure _

variable {draft draft' : Draft} {key : String} {value next : Bytes}

/-- A payload takes its expiry from the claim of this name, and from no other one. -/
theorem expiresAt_of_valueOf (h : valueOf fields key draft value = .ok (draft', next)) :
    key ≠ "exp" ∧ draft'.expiresAt = draft.expiresAt ∨
    key = "exp" ∧ ∃ n, Json.integer value = .ok (n, next) ∧ draft'.expiresAt = some n := by
  rcases Json.valueOf_eq_ok h with ⟨f, hf, rfl, hread⟩ | ⟨hno, rfl, _⟩
  · simp only [fields, List.mem_cons, List.not_mem_nil, or_false] at hf
    rcases hf with rfl | rfl | rfl | rfl | rfl
    case inr.inr.inr.inl =>
      obtain ⟨a, _, hvalue, hread⟩ := Json.bind_eq_ok hread
      cases hread
      exact Or.inr ⟨rfl, a, hvalue, rfl⟩
    all_goals
      obtain ⟨_, _, _, hread⟩ := Json.bind_eq_ok hread
      cases hread
      exact Or.inl ⟨by decide, rfl⟩
  · refine Or.inl ⟨?_, rfl⟩
    rintro rfl
    exact hno (by simp [fields])

end Payload

/-! ### The fields of conditions -/

namespace Conditions

variable {draft draft' : Draft} {key : String} {value next : Bytes}

/-- An expiry as the conditions keep it. -/
def timeOf (n : Int) : Option Nat := if 0 ≤ n then some n.toNat else none

/-- A whole number that the payload takes is the time that the conditions take. -/
theorem time_of_integer {n : Int} (h : Json.integer value = .ok (n, next)) :
    time value = .ok (timeOf n, next) := by
  unfold Json.integer at h
  obtain ⟨b, middle, hpeek, h⟩ := Json.bind_eq_ok h
  unfold time
  rw [Json.bind_of_ok hpeek]
  split at h
  · rename_i hdigit
    rw [if_pos hdigit]
    obtain ⟨number, rest, hnumber, h⟩ := Json.bind_eq_ok h
    cases number with
    | other => cases h
    | whole n' =>
      dsimp only at h
      split at h
      · cases h
        refine (Json.bind_of_ok (attempt_of_ok (timeOf n) next ?_)).trans rfl
        rw [Json.bind_of_ok hnumber]
        rfl
      · cases h
  · exact absurd h Json.wrongKind_ne_ok

theorem within_time {a : Option Nat} (h : time value = .ok (a, next)) : Within value next := by
  unfold time at h
  obtain ⟨b, middle, hpeek, h⟩ := Json.bind_eq_ok h
  obtain ⟨more, rfl, hvalue, hspace⟩ := Json.peek_eq_ok hpeek
  obtain ⟨read, rest, hattempt, h⟩ := Json.bind_eq_ok h
  cases h
  refine Within.of_leads (fun d => hvalue ▸ Json.leads_dropWhile d value) ?_
  refine Json.within_of_attempt (fun d => ?_) hattempt
  split
  · refine Json.traces_number.bind fun n rest _ => ?_
    cases n <;> exact Json.traces_pure _
  · split
    · rename_i hb
      subst hb
      exact Json.traces_bracket Json.finishes_endList rfl (Json.traces_pure _)
    · split
      · rename_i hb
        subst hb
        exact Json.traces_bracket Json.finishes_endObject rfl (Json.traces_pure _)
      · exact (Json.Value.traces_reader 1 d _).bind fun _ _ _ => Json.traces_pure _

theorem within_value {a : Json.Value} (h : Conditions.value value = .ok (a, next)) :
    Within value next := by
  unfold Conditions.value at h
  obtain ⟨read, rest, hattempt, h⟩ := Json.bind_eq_ok h
  cases h
  exact Json.within_of_attempt (fun d => Json.Value.traces_reader _ d _) hattempt

/-- The same for conditions; and whatever the claim, no more is taken than its value. -/
theorem expires_of_valueOf (h : valueOf fields key draft value = .ok (draft', next)) :
    Within value next ∧
    (key ≠ "exp" ∧ draft'.expires = draft.expires ∨
      key = "exp" ∧ ∃ t, time value = .ok (t, next) ∧ draft'.expires = some t) := by
  rcases Json.valueOf_eq_ok h with ⟨f, hf, rfl, hread⟩ | ⟨hno, rfl, hskip⟩
  · simp only [fields, List.mem_cons, List.not_mem_nil, or_false] at hf
    rcases hf with rfl | rfl | rfl | rfl | rfl
    all_goals
      obtain ⟨a, _, hvalue, hread⟩ := Json.bind_eq_ok hread
      cases hread
    · exact ⟨within_time hvalue, Or.inr ⟨rfl, a, hvalue, rfl⟩⟩
    · exact ⟨within_time hvalue, Or.inl ⟨by decide, rfl⟩⟩
    all_goals exact ⟨within_value hvalue, Or.inl ⟨by decide, rfl⟩⟩
  · refine ⟨Json.spans_skipValue.within hskip, Or.inl ⟨?_, rfl⟩⟩
    rintro rfl
    exact hno (by simp [fields])

/-- No name of a claim can be gone through as if it stood outside of strings. -/
theorem walk_name {f : Json.Field Draft} (hf : f ∈ fields) (d : Nat) :
    walk (outside d) (Bytes.ofText f.name) = none := by
  simp only [fields, List.mem_cons, List.not_mem_nil, or_false] at hf
  rcases hf with rfl | rfl | rfl | rfl | rfl <;> rfl

/-! ### Losing the way -/

variable {p : Json.Place} {bytes rest : Bytes} {fuel : Nat}

/-- The pass that has lost its way does not come to the end of the text. -/
theorem lost (hastray : Astray p) (hclose : Json.Place.Closes p bytes)
    (hread : members fields fuel false draft bytes = .ok (draft', rest)) : ¬ EndsObject rest := by
  induction fuel generalizing p bytes draft with
  | zero => cases hread
  | succ fuel ih =>
    rcases Json.members_eq_ok hread with ⟨hend, rfl⟩ | ⟨inner, key, behind, value, between, next,
      hmore, hkey, hcolon, hvalue, hagain⟩
    · intro hrest
      exact Json.not_endsObject hastray hclose (hrest.of_hasMember hend)
    · rcases Json.hasMember_false hmore with ⟨_, hno, _⟩ | ⟨after, _, hbytes, hquote⟩
      · cases hno
      rcases Json.closes_of_delimits hclose hbytes (Or.inl rfl) with ⟨d, rfl, hd⟩ | ⟨d, hd⟩
      · -- Deeper down the key is a key, and only the value may have been left too early.
        have hdeep : 2 ≤ d := by
          match d, hastray with
          | 0, hastray => exact absurd rfl hastray.1
          | 1, hastray => exact absurd rfl hastray.2
          | d + 2, _ => omega
        have hlead := Json.leads_key (by omega : d ≠ 0) hmore hkey hcolon
        obtain ⟨q, hq, hnext⟩ :=
          (expires_of_valueOf hvalue).1.astray hdeep (hclose.later hlead)
        exact ih hq hnext hagain
      · -- In a string the quote ends it, so that the key is outside of strings.
        have hinner : Json.Place.Closes (inside d) (code '"' :: inner) :=
          hquote ▸ Json.closes_inside_dropWhile hd
        have hout : Json.Place.Closes (outside d) inner :=
          hinner.later (Json.Place.Leads.step rfl inner)
        obtain ⟨q, hwalk⟩ := Json.walk_of_stringBody (p := outside d) trivial hout hkey
        rcases Json.valueOf_eq_ok hvalue with ⟨f, hf, rfl, _⟩ | ⟨_, rfl, hskip⟩
        · rw [walk_name hf] at hwalk
          cases hwalk
        · have hlead := (Json.leads_behind_quote Nat.one_ne_zero hkey hcolon).trans
            (Json.spans_skipValue 1 value _ _ hskip)
          obtain ⟨d', hnext⟩ :=
            hinner.opposed (p := outside 1) (q := outside 1) trivial trivial hlead
          exact ih (p := inside d') ⟨nofun, nofun⟩ hnext hagain

/-! ### Keeping the way -/

variable {fuel' : Nat} {first : Bool} {payload payload' : Payload.Draft} {bytes' rest' : Bytes}

/-- As long as the two passes come to the same members, they read the same expiry. -/
theorem lockstep (hpayload : members Payload.fields fuel first payload bytes = .ok (payload', rest))
    (hend : EndsObject rest)
    (hconditions : members fields fuel' first draft bytes' = .ok (draft', rest'))
    (hend' : EndsObject rest')
    (hsame : bytes.dropWhile Json.isSpace = bytes'.dropWhile Json.isSpace)
    (hexpires : draft.expires = payload.expiresAt.map timeOf) :
    draft'.expires = payload'.expiresAt.map timeOf := by
  induction fuel generalizing fuel' first payload draft bytes bytes' with
  | zero => cases hpayload
  | succ fuel ih =>
    cases fuel' with
    | zero => cases hconditions
    | succ fuel' =>
    rcases Json.members_eq_ok hpayload with ⟨hmore, rfl⟩ | ⟨inner, key, behind, value, between,
      next, hmore, hkey, hcolon, hvalue, hagain⟩ <;>
    rcases Json.members_eq_ok hconditions with ⟨hmore', rfl⟩ | ⟨inner', key', behind', value',
      between', next', hmore', hkey', hcolon', hvalue', hagain'⟩ <;>
    rw [Json.hasMember_congr hsame, hmore'] at hmore <;> cases hmore
    · exact hexpires
    · rw [hkey] at hkey'
      cases hkey'
      rw [hcolon] at hcolon'
      cases hcolon'
      obtain ⟨hwithin, hconditions⟩ := expires_of_valueOf hvalue'
      rcases Payload.expiresAt_of_valueOf hvalue with ⟨hne, hkept⟩ | ⟨rfl, n, hinteger, hn⟩
      · have hkept' : between'.expires = draft.expires := by
          rcases hconditions with ⟨_, hkept'⟩ | ⟨heq, _⟩
          · exact hkept'
          · exact absurd heq hne
        have hclose : Json.Place.Closes (outside 1) value := by
          have hspans := Json.spans_valueOf Payload.spanFields key payload 1 value _ _ hvalue
          have hlast := Json.spans_members Payload.spanFields Nat.one_ne_zero _ _ _ _ _ hagain
          exact (hspans.trans hlast).closes hend.closes
        rcases hwithin.ends_or_astray hclose with hlead | ⟨q, hastray, hnext⟩
        · have hspans := Json.spans_valueOf Payload.spanFields key payload 0 value _ _ hvalue
          have hnext := Json.dropWhile_unique hspans hlead (Json.delimited_of_members hagain)
            (Json.delimited_of_members hagain')
          exact ih hagain hagain' hnext (by rw [hkept', hkept, hexpires])
        · exact absurd hend' (lost hastray hnext hagain')
      · rcases hconditions with ⟨hne, _⟩ | ⟨_, t, htime, ht⟩
        · exact absurd rfl hne
        · rw [time_of_integer hinteger] at htime
          cases htime
          exact ih hagain hagain' rfl (by rw [ht, hn]; rfl)

end Conditions

/-! ### Both passes -/

/-- The claims are an object; reading its members one by one ends in a draft. -/
def Payload.Draft.IsReadFrom (draft : Payload.Draft) (claims : Bytes) : Prop :=
  ∃ body rest, claims.dropWhile Json.isSpace = code '\x7b' :: body ∧
    members Payload.fields (body.length + 1) true {} body = .ok (draft, rest) ∧ EndsObject rest

/-- The draft has everything that the payload says; the subject and both instants must be there. -/
structure Payload.IsFrom (p : Payload) (draft : Payload.Draft) : Prop where
  subject : draft.subject = some p.subject
  kind : draft.kind.join = p.kind
  issuedAt : draft.issuedAt = some p.issuedAt
  expiresAt : draft.expiresAt = some p.expiresAt
  id : draft.id.join = p.id

variable {claims : Bytes} {payload : Payload} {conditions : Conditions} {second : Int}

theorem Payload.isFrom_of_ofDraft? {draft : Payload.Draft}
    (h : Payload.ofDraft? draft = some payload) : payload.IsFrom draft := by
  simp only [Payload.ofDraft?, Option.bind_eq_bind, Option.bind_eq_some_iff, Option.pure_def,
    Option.some.injEq] at h
  obtain ⟨subject, hsubject, issuedAt, hissued, expiresAt, hexpires, rfl⟩ := h
  exact ⟨hsubject, rfl, hissued, hexpires, rfl⟩

/-- Conditions are read from an object only, member by member. -/
theorem Conditions.ofJson?_eq_ok (h : Conditions.ofJson? claims = .ok conditions) :
    ∃ body draft rest, claims.dropWhile Json.isSpace = code '\x7b' :: body ∧
      members Conditions.fields (body.length + 1) true {} body = .ok (draft, rest) ∧
      EndsObject rest ∧ conditions = Conditions.ofDraft draft := by
  obtain ⟨last, hread, hspaces⟩ := Json.whole_eq_ok h
  unfold Conditions.reader at hread
  obtain ⟨b, middle, hpeek, hread⟩ := Json.bind_eq_ok hread
  obtain ⟨more, rfl, hclaims, hspace⟩ := Json.peek_eq_ok hpeek
  have hhere : (b :: more).dropWhile Json.isSpace = b :: more :=
    List.dropWhile_cons_of_neg (by simp [hspace])
  split at hread
  · cases hread
  · rename_i hlist
    rcases Json.record_eq_ok hread hspaces with ⟨_, hbytes⟩ | ⟨body, draft, rest, hbytes, hmembers,
      hend, hdraft⟩
    · rw [hhere] at hbytes
      cases hbytes
      exact absurd rfl hlist
    · rw [hhere] at hbytes
      exact ⟨body, draft, rest, by rw [hclaims, hbytes], hmembers, hend,
        (Option.some.inj hdraft).symm⟩

namespace Codec

/--
Claims that are accepted at some second are an object, and the payload is what it says.  Its own
expiry is the one that has been checked.
-/
theorem isFrom_of_payloadAt? (h : payloadAt? second claims = some payload) :
    second ≤ payload.expiresAt ∧
      ∃ draft : Payload.Draft, draft.IsReadFrom claims ∧ payload.IsFrom draft := by
  obtain ⟨hpayload, conditions, hconditions, hallow⟩ := payloadAt?_eq_some_iff.mp h
  obtain ⟨body', draft', rest', hclaims', hmembers', hend', rfl⟩ :=
    Conditions.ofJson?_eq_ok hconditions
  obtain ⟨last, hread, hspaces⟩ := Json.whole_eq_ok hpayload
  rcases Json.record_eq_ok hread hspaces with ⟨_, hclaims⟩ | ⟨body, draft, rest, hclaims, hmembers,
    hend, hdraft⟩
  · rw [hclaims] at hclaims'
    cases hclaims'
  · have hfrom := Payload.isFrom_of_ofDraft? hdraft
    refine ⟨?_, draft, ⟨body, rest, hclaims, hmembers, hend⟩, hfrom⟩
    rw [hclaims] at hclaims'
    cases hclaims'
    have hsame := Conditions.lockstep hmembers hend hmembers' hend' rfl rfl
    rw [hfrom.expiresAt] at hsame
    have hexpires : (Conditions.ofDraft draft').expires = Conditions.timeOf payload.expiresAt :=
      congrArg Option.join hsame
    simp only [Conditions.allow, hexpires, Conditions.timeOf, Bool.and_eq_true, Option.any_eq_true,
      decide_eq_true_eq] at hallow
    obtain ⟨_, e, he, hle⟩ := hallow
    split at he
    · cases he
      omega
    · cases he

/-- A payload that was written is read until it expires, by a clock that counts from 1970 on. -/
theorem payloadAt?_toJson_of_nonneg (h : payload.InRange) (hsecond : 0 ≤ second) :
    payloadAt? second (Bytes.ofText payload.toJson) =
      if second ≤ payload.expiresAt then some payload else none := by
  by_cases hpositive : 0 ≤ payload.expiresAt
  · exact payloadAt?_toJson h hpositive second
  · -- An expiry before 1970 is none that conditions know, so nothing is read at all.
    rw [if_neg (by omega)]
    cases hread : payloadAt? second (Bytes.ofText payload.toJson) with
    | none => rfl
    | some read =>
      obtain ⟨hpayload, _⟩ := payloadAt?_eq_some_iff.mp hread
      rw [Payload.ofJson?_toJson h] at hpayload
      cases hpayload
      have hle := (isFrom_of_payloadAt? hread).1
      omega

end Codec

end SessionAuth.Token
