/-
Looking for a session in any list.

A list may hold anything: texts that are no sessions, copies of one text, several sessions with
one token.  The searches read the texts one after the other, but what is taken out is a text,
with all of its copies.  A fingerprint and a token are read from one text only, so it is known
beforehand which text `consume` takes out (`find?_eq_some_iff`); a token is read from many, and
`revoke` takes out the first of them.

A list is read, searched and changed by separate commands.  Here nobody comes in between, and
the list does not expire meanwhile; how much time passes otherwise does not matter
(`Setup.undisturbed`).  The two lookups then differ in what they do when nothing is found: one
drops the list, the other leaves it.
-/
import SessionAuth.Proofs.Deployment.Held
import SessionAuth.Proofs.Service.Calls
import SessionAuth.Proofs.Session.Registry

namespace SessionAuth

open Cache (Command Held)

namespace Session.Registry

variable {entries : List String} {fingerprint token raw : String} {held : Option Held}

/-! ### Searching -/

/-- The text is that of a session with this token. -/
def HoldsToken (token raw : String) : Prop :=
  ∃ e, Entry.parse? raw = some e ∧ e.refreshToken = token

theorem any_isFor_iff :
    (Entry.parse? raw).any (·.isFor fingerprint token) = true ↔
      Entry.parse? raw = some ⟨fingerprint, token⟩ := by
  rw [Option.any_eq_true]
  constructor
  · rintro ⟨e, hparse, hfor⟩
    rw [hparse, Entry.isFor_iff.mp hfor]
  · intro hparse
    exact ⟨_, hparse, Entry.isFor_iff.mpr rfl⟩

theorem any_matchesToken_iff :
    (Entry.parse? raw).any (·.matchesToken token) = true ↔ HoldsToken token raw := by
  rw [Option.any_eq_true]
  exact exists_congr fun e => and_congr_right fun _ => Entry.matchesToken_iff

theorem find?_eq_none_iff :
    find? fingerprint token entries = none ↔
      ¬ ∃ raw ∈ entries, Entry.parse? raw = some ⟨fingerprint, token⟩ := by
  unfold find?
  rw [List.find?_eq_none]
  simp only [any_isFor_iff, not_exists, not_and]

/-- Only one text can be found: the one that is written for what is sought. -/
theorem find?_eq_some_iff :
    find? fingerprint token entries = some raw ↔
      raw = Entry.encode ⟨fingerprint, token⟩ ∧
        ∃ raw ∈ entries, Entry.parse? raw = some ⟨fingerprint, token⟩ := by
  constructor
  · intro hfind
    obtain ⟨hmem, hparse⟩ := parse?_of_find? hfind
    exact ⟨(Entry.encode_of_parse? hparse).symm, raw, hmem, hparse⟩
  · rintro ⟨rfl, hexists⟩
    cases hfind : find? fingerprint token entries with
    | none => exact absurd hexists (find?_eq_none_iff.mp hfind)
    | some other => rw [Entry.encode_of_parse? (parse?_of_find? hfind).2]

theorem findToken?_eq_none_iff :
    findToken? token entries = none ↔ ¬ ∃ raw ∈ entries, HoldsToken token raw := by
  unfold findToken?
  rw [List.find?_eq_none]
  simp only [any_matchesToken_iff, not_exists, not_and]

/-- The first session with the token is found. -/
theorem findToken?_eq_some_iff :
    findToken? token entries = some raw ↔
      HoldsToken token raw ∧ ∃ newer older, entries = newer ++ raw :: older ∧
        ∀ other ∈ newer, ¬ HoldsToken token other := by
  unfold findToken?
  rw [List.find?_eq_some_iff_append]
  simp only [any_matchesToken_iff, Bool.not_eq_true', ← Bool.not_eq_true]

/-! ### What a lookup makes of a list -/

/-- The texts of a list; there are none when there is no list. -/
def entriesOf (held : Option Held) : List String := (held.map Held.values).getD []

/--
The list without all copies of a text, with the others in their order and with its expiry; it
is gone when nothing is left.
-/
def without (raw : String) (held : Option Held) : Option Held :=
  (held.map fun before => Held.mk (before.values.filter (· != raw)) before.expires).filter
    fun after => !after.values.isEmpty

theorem leaves_remove (key raw : String) (now : Instant) (held : Option Held) :
    (Command.remove key raw).leaves now held = without raw held := by
  cases held with
  | none => rfl
  | some before =>
    unfold without
    rw [Option.map_some, Option.filter_some]
    show (if (before.values.filter (· != raw)).isEmpty = true then none else some _) = _
    cases (before.values.filter (· != raw)).isEmpty <;> rfl

/-- What `consume` makes of a list, and whether it says that it found the session. -/
structure Consumed (fingerprint token : String) (before after : Option Held) (found : Bool) :
    Prop where
  found_iff : found = true ↔
    ∃ raw ∈ entriesOf before, Entry.parse? raw = some ⟨fingerprint, token⟩
  /-- All copies of the session are taken out. -/
  taken : found = true → after = without (Entry.encode ⟨fingerprint, token⟩) before
  dropped : found = false → entriesOf after = []

/-- What `revoke` makes of a list, and whether it says that it found a session. -/
structure Revoked (token : String) (before after : Option Held) (found : Bool) : Prop where
  found_iff : found = true ↔ ∃ raw ∈ entriesOf before, HoldsToken token raw
  /-- All copies of the first session with the token are taken out. -/
  taken : found = true → ∃ raw, HoldsToken token raw ∧ after = without raw before ∧
    ∃ newer older, entriesOf before = newer ++ raw :: older ∧
      ∀ other ∈ newer, ¬ HoldsToken token other
  kept : found = false → after = before

end Session.Registry

/-! ### Nobody comes in between -/

namespace Setup

open Session.Registry (entriesOf without leaves_remove)

/--
The requests of one call, each carried out by the setup at some instant at which the list at
the key is still what it was after the last one.
-/
def undisturbed (x : Setup) (key : String) : Contract Effect Effect.Reply (World x.Store) where
  asks _ _ := True
  answers e w reply later := ∃ at_ : Instant,
    x.held? at_ key w.store = x.held? w.now key w.store ∧
      x.deployment.handle 0 e { w with now := at_ } = (reply, later)

/-- A clock that stands still is one way for time to pass. -/
theorem answers_handle (x : Setup) (key : String) (e : Effect) (w : World x.Store) :
    (x.undisturbed key).answers e w (x.deployment.handle 0 e w).1 (x.deployment.handle 0 e w).2 :=
  ⟨w.now, rfl, rfl⟩

/-- With a clock that stands still, a call ends as it does under the contract. -/
theorem runCall_of_meets {α : Type} {x : Setup} {key : String} {w : World x.Store} {call : Call α}
    {ends : World x.Store → Except AuthError α → Prop}
    (h : Call.Meets (x.undisturbed key) call ends w) :
    ends (x.deployment.runCall call w).2 (x.deployment.runCall call w).1 :=
  Program.Meets.run h (x.answers_handle key)

/-- The setup serves the key and holds this there. -/
structure Holds (x : Setup) (key : String) (held : Option Held) (w : World x.Store) : Prop where
  serves : x.Serves key w.store
  held_eq : x.held? w.now key w.store = held

variable {x : Setup} {key value : String} {held : Option Held} {w : World x.Store}

theorem cache_meets {c : Command} {ends : World x.Store → Except AuthError c.Reply → Prop}
    (h : x.Holds c.key held w) (hfits : c.Fits)
    (hends : ∀ later, x.Holds c.key (c.leaves later.now held) later →
      ends later (.ok (c.answer held))) :
    Call.Meets (x.undisturbed c.key) (Call.cache c) ends w := by
  refine Call.meets_cache trivial ?_
  rintro reply later ⟨at_, hsame, hanswer⟩
  obtain ⟨hreply, hserves, hleaves⟩ := x.cache_eq h.serves at_ hfits
  rw [hsame, h.held_eq] at hreply hleaves
  obtain ⟨rfl, rfl⟩ := Prod.mk.inj hanswer
  have hok := hends (x.deployment.handle 0 (.cache c) { w with now := at_ }).2 ⟨hserves, hleaves⟩
  rw [← hreply] at hok
  exact hok

theorem readList_meets {ends : World x.Store → Except AuthError (List String) → Prop}
    (h : x.Holds key held w)
    (hends : ∀ later, x.Holds key held later → ends later (.ok (entriesOf held))) :
    Call.Meets (x.undisturbed key) (Call.readList key) ends w :=
  cache_meets (c := .get key) h trivial hends

theorem removeFrom_meets {ends : World x.Store → Except AuthError Bool → Prop}
    (h : x.Holds key held w)
    (hends : ∀ later, x.Holds key (without value held) later →
      ends later (.ok (decide (value ∈ entriesOf held)))) :
    Call.Meets (x.undisturbed key) (Call.removeFrom key value) ends w := by
  refine cache_meets (c := .remove key value) h trivial fun later hlater => hends later ?_
  rw [leaves_remove] at hlater
  exact hlater

theorem dropList_meets {ends : World x.Store → Except AuthError Unit → Prop}
    (h : x.Holds key held w) (hends : ∀ later, x.Holds key none later → ends later (.ok ())) :
    Call.Meets (x.undisturbed key) (Call.dropList key) ends w :=
  cache_meets (c := .delete key) h trivial hends

theorem log_meets {event : Event} {ends : World x.Store → Except AuthError Unit → Prop}
    (h : x.Holds key held w) (hends : ∀ later, x.Holds key held later → ends later (.ok ())) :
    Call.Meets (x.undisturbed key) (Call.log event) ends w := by
  refine ⟨trivial, ?_⟩
  rintro reply later ⟨at_, hsame, hanswer⟩
  obtain ⟨rfl, rfl⟩ := Prod.mk.inj hanswer
  exact hends _ ⟨h.serves, hsame.trans h.held_eq⟩

end Setup

namespace Session.Registry

/-! ### The lookups -/

variable {x : Setup} {w : World x.Store} {user : UserId} {fingerprint token : String}
  {held : Option Held}

/-- **What `consume` makes of a list when nobody comes in between.** -/
theorem consume_meets (fingerprint token : String) (h : x.Holds (key user) held w) :
    Call.Meets (x.undisturbed (key user)) (consume user fingerprint token)
      (fun later result => ∃ found after, result = .ok found ∧ x.Holds (key user) after later ∧
        Consumed fingerprint token held after found) w := by
  unfold consume
  refine Call.meets_bind.2 (Setup.readList_meets h ?_)
  intro read hread
  dsimp only
  by_cases hempty : (entriesOf held).isEmpty = true
  · rw [if_pos hempty]
    have hnil : entriesOf held = [] := List.isEmpty_iff.mp hempty
    refine ⟨false, held, rfl, hread, ?_⟩
    exact {
      found_iff := iff_of_false Bool.false_ne_true (by simp [hnil])
      taken := nofun
      dropped := fun _ => hnil }
  rw [if_neg hempty]
  cases hfind : find? fingerprint token (entriesOf held) with
  | some raw =>
    obtain ⟨rfl, hexists⟩ := find?_eq_some_iff.mp hfind
    have hmem : Entry.encode ⟨fingerprint, token⟩ ∈ entriesOf held := (parse?_of_find? hfind).1
    refine Call.meets_bind.2 (Setup.removeFrom_meets hread fun later hlater => ?_)
    dsimp only
    rw [if_pos (decide_eq_true hmem)]
    refine ⟨true, _, rfl, hlater, ?_⟩
    exact {
      found_iff := iff_of_true rfl hexists
      taken := fun _ => rfl
      dropped := nofun }
  | none =>
    refine Call.meets_bind.2 (Setup.log_meets hread fun logged hlogged => ?_)
    refine Call.meets_bind.2 (Setup.dropList_meets hlogged fun later hlater => ?_)
    refine ⟨false, none, rfl, hlater, ?_⟩
    exact {
      found_iff := iff_of_false Bool.false_ne_true (find?_eq_none_iff.mp hfind)
      taken := nofun
      dropped := fun _ => rfl }

/-- **What `revoke` makes of a list when nobody comes in between.** -/
theorem revoke_meets (token : String) (h : x.Holds (key user) held w) :
    Call.Meets (x.undisturbed (key user)) (revoke user token)
      (fun later result => ∃ found after, result = .ok found ∧ x.Holds (key user) after later ∧
        Revoked token held after found) w := by
  unfold revoke
  refine Call.meets_bind.2 (Setup.readList_meets h ?_)
  intro read hread
  dsimp only
  cases hfind : findToken? token (entriesOf held) with
  | some raw =>
    obtain ⟨hholds, newer, older, hentries, hfirst⟩ := findToken?_eq_some_iff.mp hfind
    have hmem : raw ∈ entriesOf held := by
      rw [hentries]
      exact List.mem_append_right newer List.mem_cons_self
    refine Setup.removeFrom_meets hread fun later hlater => ?_
    refine ⟨true, without raw held, congrArg Except.ok (decide_eq_true hmem), hlater, ?_⟩
    exact {
      found_iff := iff_of_true rfl ⟨raw, hmem, hholds⟩
      taken := fun _ => ⟨raw, hholds, rfl, newer, older, hentries, hfirst⟩
      kept := nofun }
  | none =>
    refine ⟨false, held, rfl, hread, ?_⟩
    exact {
      found_iff := iff_of_false Bool.false_ne_true (findToken?_eq_none_iff.mp hfind)
      taken := nofun
      kept := fun _ => rfl }

/--
**Lookups in any list.**  Whatever stands in the list of a user, and in whatever setup nothing
is refused: `consume` finds a session if and only if some text is read as its fingerprint and
token, and takes all copies of that text out; otherwise no list is left.  `revoke` finds a
session if and only if some text is read as one with its token, and takes all copies of the
first such text out; otherwise the list stays as it is.
-/
theorem lookups_exact (x : Setup) (user : UserId) (fingerprint token : String)
    (w : World x.Store) (hserves : x.Serves (key user) w.store) :
    (∃ found w', x.deployment.runCall (consume user fingerprint token) w = (.ok found, w') ∧
      Consumed fingerprint token (x.held? w.now (key user) w.store)
        (x.held? w'.now (key user) w'.store) found) ∧
    ∃ found w', x.deployment.runCall (revoke user token) w = (.ok found, w') ∧
      Revoked token (x.held? w.now (key user) w.store)
        (x.held? w'.now (key user) w'.store) found := by
  have hholds : x.Holds (key user) (x.held? w.now (key user) w.store) w := ⟨hserves, rfl⟩
  constructor
  · obtain ⟨found, after, hresult, hafter, hconsumed⟩ :=
      Setup.runCall_of_meets (consume_meets fingerprint token hholds)
    exact ⟨found, _, Prod.ext hresult rfl, hafter.held_eq ▸ hconsumed⟩
  · obtain ⟨found, after, hresult, hafter, hrevoked⟩ :=
      Setup.runCall_of_meets (revoke_meets token hholds)
    exact ⟨found, _, Prod.ext hresult rfl, hafter.held_eq ▸ hrevoked⟩

/-- A list of all sorts of texts, on a server that also keeps something else. -/
def littered : World Setup.remote.Store :=
  let others := (Table.empty : Table String Cache.Stored).insert "motd" ⟨.text, none⟩
  let texts := ["no session", "tablet::t", "phone::t", "tablet::t", "phone:::t"]
  ⟨({ keys := others.insert (key ⟨7⟩) ⟨.list texts, some (.ofSeconds 60)⟩ }, {}),
    .ofSeconds 0, ⟨[], 0⟩, []⟩

theorem lookups_exact_littered :
    Setup.remote.Serves (key ⟨7⟩) littered.store ∧
    (∃ w', Setup.remote.deployment.runCall (consume ⟨7⟩ "phone" "t") littered = (.ok true, w') ∧
      Setup.remote.held? w'.now (key ⟨7⟩) w'.store =
        some ⟨["no session", "tablet::t", "tablet::t", "phone:::t"], some (.ofSeconds 60)⟩) ∧
    ∃ w', Setup.remote.deployment.runCall (revoke ⟨7⟩ "t") littered = (.ok true, w') ∧
      Setup.remote.held? w'.now (key ⟨7⟩) w'.store =
        some ⟨["no session", "phone::t", "phone:::t"], some (.ofSeconds 60)⟩ := by
  have hserves : Setup.remote.Serves (key ⟨7⟩) littered.store := by
    refine ⟨rfl, fun _ => rfl, ?_⟩
    intro stored hget
    obtain rfl : _ = stored := Option.some.inj hget
    nofun
  have hheld : Setup.remote.held? littered.now (key ⟨7⟩) littered.store =
      some ⟨["no session", "tablet::t", "phone::t", "tablet::t", "phone:::t"],
        some (.ofSeconds 60)⟩ := rfl
  obtain ⟨⟨consumed, w₁, hconsume, hconsumed⟩, revoked, w₂, hrevoke, hrevoked⟩ :=
    lookups_exact Setup.remote ⟨7⟩ "phone" "t" littered hserves
  rw [hheld] at hconsumed hrevoked
  obtain rfl : consumed = true := hconsumed.found_iff.mpr ⟨"phone::t", by decide, by decide⟩
  obtain rfl : revoked = true :=
    hrevoked.found_iff.mpr ⟨"tablet::t", by decide, ⟨"tablet", "t"⟩, by decide, rfl⟩
  obtain ⟨raw, hholds, hafter, hfirst⟩ := hrevoked.taken rfl
  have hfind := findToken?_eq_some_iff.mpr ⟨hholds, hfirst⟩
  obtain rfl : "tablet::t" = raw := Option.some.inj (hfind.symm.trans (by decide)).symm
  exact ⟨hserves, ⟨w₁, hconsume, (hconsumed.taken rfl).trans (by decide)⟩,
    w₂, hrevoke, hafter.trans (by decide)⟩

end Session.Registry

end SessionAuth
