/-
No session is lost.

Every call acts on a list that it has read some time before, and two things that a call may
do would destroy the sessions of others: it drops the list when it finds it too long, and
when it does not find the session that it was given.  Calls that are given different
sessions of a list, in which there is room for all that they add, do neither.  What one of
them looks for is taken out by no other one, and what it counts is never more than there
was at first and what was added since.

`Kept` is the invariant.  It says exactly what the list holds, in terms of what has
happened, and that every call is on course: it has found what it was given, or has counted
fewer sessions than allowed.  From it follows that no call lacks anything
(`Proofs/Service/Success.lean`), so that all of them succeed.
-/
import SessionAuth.Proofs.Service.Success
import SessionAuth.Proofs.Session.Cap
import SessionAuth.Proofs.Session.Expiry
import SessionAuth.Proofs.Session.SingleUse

namespace SessionAuth

namespace Session.Entry

/-- Texts that can be read are the ones that were written for what is read. -/
theorem eq_map_encode {texts : List String} {entries : List Entry}
    (h : texts.map parse? = entries.map some) : texts = entries.map encode := by
  induction texts generalizing entries with
  | nil =>
    obtain rfl : entries = [] := List.map_eq_nil_iff.mp h.symm
    rfl
  | cons raw texts ih =>
    cases entries with
    | nil => cases h
    | cons e entries =>
      obtain ⟨hparse, hrest⟩ := List.cons.inj h
      rw [List.map_cons, ← ih hrest, encode_of_parse? hparse]

end Session.Entry

namespace Service

open Session (Registry Entry Fingerprint)

variable {n : Nat} {s : Service} {requests : Fin n → Request} {user : UserId} {key : String}
  {es : List Entry} {past : List (Happening n)} {w : World Store} {a c : Scene Store n}
  {i j : Fin n} {e e' : Entry} {raw : String} {q : Request} {p : Place} {x : Asked}
  {l l' : List String} {φ : Phase}

/-! ### Calls on different sessions -/

/-- The requests present different sessions of the list of a user, and there is room for all. -/
structure Apart (s : Service) (requests : Fin n → Request) (user : UserId) (es : List Entry)
    (w : World Store) : Prop where
  /-- The list holds these sessions, as they are read from it. -/
  listed : (sessions w (Registry.key user)).map Entry.parse? = es.map some
  distinct : (es.map (·.refreshToken)).Nodup
  /-- A token that is presented is that of a session, and so is a fingerprint along with it. -/
  presented : ∀ i token, (requests i).token? = some token → ∃ e ∈ es, e.refreshToken = token ∧
    ∀ f, (requests i).fingerprint? = some f → e.fingerprint = f.text
  /-- No two requests present the same token. -/
  once : ∀ i j token, (requests i).token? = some token → (requests j).token? = some token → i = j
  /-- The sessions and those that are opened are not more than allowed. -/
  room : es.length + (Finset.univ.filter fun i => (requests i).fingerprint?.isSome = true).card ≤
    s.registry.maxSessions

/-- Tokens that were made in a run are new: made once, and not for a session of the list. -/
structure Novel (s : Service) (requests : Fin n → Request) (user : UserId) (es : List Entry)
    (past : List (Happening n)) : Prop where
  fresh : s.Fresh requests user past
  unlisted : ∀ i e, s.Opened requests user past i e → ∀ old ∈ es,
    e.refreshToken ≠ old.refreshToken ∧ e.encode ≠ old.encode

/--
Nothing but the order of the commands is left open: whenever the clock is read, the requests
are those of the user and tokens can be made, the tokens are new, and no list runs out.
-/
structure Orderly (s : Service) (requests : Fin n → Request) (user : UserId) (es : List Entry)
    (w : World Store) (past : List (Happening n)) : Prop where
  owned : ∀ older, older <:+ past → ∀ i, ∃ u,
    (requests i).owner s w.store.2.users (timeAfter w.now older) = .ok u ∧ u.id = user
  mints : ∀ older, older <:+ past → s.CanMint user (timeAfter w.now older)
  novel : s.Novel requests user es past
  /-- When time passes, what is live at the key of the user stays so. -/
  lasts : ∀ older b later, Happening.waited later :: older <:+ past →
    Run inMemory (s.opening requests w) older b → ∀ held,
      b.world.store.1.live? b.world.now (Registry.key user) = some held → held.isLive later = true

theorem Novel.of_cons {h : Happening n} (hnovel : s.Novel requests user es (h :: past)) :
    s.Novel requests user es past :=
  ⟨hnovel.fresh.of_cons, fun i e ho => hnovel.unlisted i e (ho.mono h)⟩

theorem Orderly.of_cons {h : Happening n} (horderly : s.Orderly requests user es w (h :: past)) :
    s.Orderly requests user es w past where
  owned older holder := horderly.owned older (holder.trans (List.suffix_cons _ _))
  mints older holder := horderly.mints older (holder.trans (List.suffix_cons _ _))
  novel := horderly.novel.of_cons
  lasts older b later holder := horderly.lasts older b later (holder.trans (List.suffix_cons _ _))

theorem Orderly.of_suffix {older : List (Happening n)}
    (horderly : s.Orderly requests user es w past) (h : older <:+ past) :
    s.Orderly requests user es w older := by
  induction past with
  | nil =>
    obtain rfl : older = [] := List.suffix_nil.mp h
    exact horderly
  | cons newest past ih =>
    rcases List.suffix_cons_iff.mp h with rfl | h
    · exact horderly
    · exact ih horderly.of_cons h

/-- The call was given this session of the list. -/
def Given (requests : Fin n → Request) (es : List Entry) (i : Fin n) (e : Entry) : Prop :=
  e ∈ es ∧ (requests i).token? = some e.refreshToken

namespace Apart

theorem sessions_eq (h : s.Apart requests user es w) :
    sessions w (Registry.key user) = es.map Entry.encode :=
  Entry.eq_map_encode h.listed

/-- What is read from the text of a session is the session. -/
theorem parse?_encode (h : s.Apart requests user es w) (he : e ∈ es) :
    Entry.parse? e.encode = some e := by
  have hmem : some e ∈ (sessions w (Registry.key user)).map Entry.parse? := by
    rw [h.listed]
    exact List.mem_map_of_mem he
  obtain ⟨raw, _, hparse⟩ := List.mem_map.mp hmem
  rw [Entry.encode_of_parse? hparse]
  exact hparse

theorem encode_inj (h : s.Apart requests user es w) (he : e ∈ es) (he' : e' ∈ es)
    (hsame : e.encode = e'.encode) : e = e' := by
  have hparse := h.parse?_encode he
  rw [hsame, h.parse?_encode he'] at hparse
  exact (Option.some.inj hparse).symm

theorem eq_of_token (h : s.Apart requests user es w) (he : e ∈ es) (he' : e' ∈ es)
    (hsame : e.refreshToken = e'.refreshToken) : e = e' :=
  List.inj_on_of_nodup_map h.distinct he he' hsame

theorem presents_unique (h : s.Apart requests user es w) (hi : Given requests es i e)
    (hi' : Given requests es i e') : e = e' :=
  h.eq_of_token hi.1 hi'.1 (Option.some.inj (hi.2.symm.trans hi'.2))

theorem nodup_encode (h : s.Apart requests user es w) : (es.map Entry.encode).Nodup := by
  have hnodup : es.Nodup := List.Nodup.of_map _ h.distinct
  exact hnodup.map_on fun e he e' he' hsame => h.encode_inj he he' hsame

end Apart

/-! ### Steps -/

/-- The call has added its session. -/
def Phase.isAdded (key : String) : Phase → Bool
  | added k _ => k == key
  | _ => false

theorem Phase.isAdded_iff : φ.isAdded key = true ↔ ∃ raw, φ = .added key raw := by
  cases φ <;> simp [isAdded]

/--
The call will not drop the list: it has found the session that it was given, or has counted
fewer sessions than allowed.
-/
def Phase.OnCourse (s : Service) (q : Request) (es : List Entry) (key : String) : Phase → Prop
  | searching k entries => k = key →
    ∃ e ∈ es, q.token? = some e.refreshToken ∧ q.finds? entries = some e.encode
  | counting k count => k = key → count < s.registry.maxSessions
  | missed k | cleared k | dropped k => k ≠ key
  | _ => True

theorem Phase.onCourse_of_key?_ne (h : φ.key? ≠ some key) : φ.OnCourse s q es key := by
  have hne : ∀ k, φ.key? = some k → k ≠ key := fun k hk heq => h (heq ▸ hk)
  cases φ with
  | searching k entries => exact fun heq => absurd heq (hne k rfl)
  | counting k count => exact fun heq => absurd heq (hne k rfl)
  | missed k | cleared k | dropped k => exact hne k rfl
  | _ => trivial

/-- A step that changes nothing in the list. -/
structure Looks (key : String) (p : Place) (l : List String) (x : Asked) (φ : Phase)
    (l' : List String) : Prop where
  noTake : ∀ raw, x ≠ ⟨.cache (.remove key raw), .ok true⟩
  list : l' = l
  added : ∀ raw, φ = .added key raw ↔ p.phase = .added key raw

/-- A step of a call on course changes nothing, or takes out one session, or adds one. -/
theorem Move.looks_or_takes_or_adds (h : Move s q key p l x φ l')
    (hcourse : p.phase.OnCourse s q es key) :
    Looks key p l x φ l' ∨ (∃ raw, Takes q key raw p l x φ l') ∨
      ∃ raw, Adds s q key raw p l x φ l' := by
  rcases h.quiet_or_takes_or_adds with hquiet | htakes | hadds
  · refine Or.inl ⟨hquiet.noTake, ?_, ?_⟩
    · cases h with
      | take hfind hmem => exact absurd rfl (hquiet.noTake _)
      | addBelow hroom hopens => exact absurd rfl (hquiet.noPush _ _)
      | addCleared hopens => exact absurd rfl (hquiet.noPush _ _)
      | dropUnfound hq hentries hfind =>
        obtain ⟨e, _, _, hfound⟩ := hcourse rfl
        cases hfind.symm.trans hfound
      | dropMissed hq => exact absurd rfl hcourse
      | clear hfull => exact absurd (hcourse rfl) (by omega)
      | _ => rfl
    · refine fun raw => ⟨?_, hquiet.stays raw⟩
      intro hφ
      cases h with
      | aside hx => exact hφ
      | elsewhere hc hbefore hafter => exact absurd (congrArg Phase.key? hφ) hafter
      | addBelow hroom hopens => exact absurd rfl (hquiet.noPush _ _)
      | addCleared hopens => exact absurd rfl (hquiet.noPush _ _)
      | _ => cases hφ
  · exact Or.inr (Or.inl htakes)
  · exact Or.inr (Or.inr hadds)

/-- A call that finds what it was given, and room where it wants to add, stays on course. -/
theorem Move.onCourse (h : Move s q key p l x φ l') (hcourse : p.phase.OnCourse s q es key)
    (hpresented : q.token? ≠ none → ∃ e ∈ es, q.token? = some e.refreshToken)
    (hfinds : p.phase.hasTaken key = false → ∀ e ∈ es, q.token? = some e.refreshToken →
      q.finds? l = some e.encode)
    (hroom : q.fingerprint? ≠ none → (∀ raw, p.phase ≠ .added key raw) →
      l.length < s.registry.maxSessions) : φ.OnCourse s q es key := by
  cases h with
  | aside hx => exact hcourse
  | elsewhere hc hbefore hafter => exact Phase.onCourse_of_key?_ne hafter
  | search hq habout =>
    obtain ⟨e, he, htoken⟩ := hpresented hq
    exact fun _ => ⟨e, he, htoken, hfinds rfl e he htoken⟩
  | countFirst hq habout =>
    have hopens : q.fingerprint? ≠ none := by
      cases q with
      | login login password f => simp [Request.fingerprint?]
      | _ => cases hq
    exact fun _ => hroom hopens (by simp)
  | countAgain hq => exact fun _ => hroom hq (by simp)
  | miss hfind hmem =>
    obtain ⟨e, he, htoken, hfound⟩ := hcourse rfl
    obtain rfl := Option.some.inj (hfind.symm.trans hfound)
    exact absurd (Request.mem_of_finds? (hfinds rfl e he htoken)) hmem
  | dropUnfound hq hentries hfind =>
    obtain ⟨e, _, _, hfound⟩ := hcourse rfl
    cases hfind.symm.trans hfound
  | dropMissed hq => exact absurd rfl hcourse
  | clear hfull => exact absurd (hcourse rfl) (by omega)
  | _ => trivial

/-! ### The invariant -/

/-- How the list of a user and what has happened belong together, when no session is lost. -/
structure Kept (s : Service) (requests : Fin n → Request) (user : UserId) (es : List Entry)
    (past : List (Happening n)) (l : List String) : Prop where
  /-- The list holds the sessions of the beginning that were not taken out, and the new ones. -/
  mem : ∀ raw, raw ∈ l ↔
    (raw ∈ es.map Entry.encode ∧ ∀ i, ¬ TookOut (Registry.key user) past i raw) ∨
      ∃ i, (s.place requests i past).phase = .added (Registry.key user) raw
  nodup : l.Nodup
  length : l.length ≤ es.length + s.tally requests (Phase.isAdded (Registry.key user)) past
  /-- What a call has added is a session that it has opened. -/
  added : ∀ i raw, (s.place requests i past).phase = .added (Registry.key user) raw →
    ∃ e, s.Opened requests user past i e ∧ raw = e.encode
  /-- What a call has taken out is the session that it was given. -/
  taken : ∀ i raw, TookOut (Registry.key user) past i raw →
    (s.place requests i past).phase.hasTaken (Registry.key user) = true ∧
      ∃ e, Given requests es i e ∧ raw = e.encode
  onCourse : ∀ i, (s.place requests i past).phase.OnCourse s (requests i) es (Registry.key user)

/-- At the beginning nothing has been taken out and nothing added. -/
theorem Kept.start (hapart : s.Apart requests user es w) :
    s.Kept requests user es [] (es.map Entry.encode) where
  mem raw := ⟨fun h => Or.inl ⟨h, nofun⟩, fun h => h.elim And.left nofun⟩
  nodup := hapart.nodup_encode
  length := by
    rw [List.length_map]
    exact Nat.le_add_right _ _
  added := nofun
  taken := nofun
  onCourse _ := trivial

/-- The session that a call was given is in the list until the call takes it out. -/
theorem Kept.mem_presented (h : s.Kept requests user es past l)
    (hapart : s.Apart requests user es w) (hi : Given requests es i e)
    (hnot : (s.place requests i past).phase.hasTaken (Registry.key user) = false) :
    e.encode ∈ l := by
  refine (h.mem _).mpr (Or.inl ⟨List.mem_map_of_mem hi.1, ?_⟩)
  intro j htook
  obtain ⟨htaken, e', hj, hsame⟩ := h.taken j _ htook
  obtain rfl : e = e' := hapart.encode_inj hi.1 hj.1 hsame
  obtain rfl : i = j := hapart.once i j _ hi.2 hj.2
  rw [hnot] at htaken
  cases htaken

/-- In the list a token that was presented is held by one session only. -/
theorem Kept.eq_of_token (h : s.Kept requests user es past l)
    (hapart : s.Apart requests user es w) (hnovel : s.Novel requests user es past) {read : Entry}
    (he : e ∈ es) (htoken : e.refreshToken.toList.head? ≠ some ':') (hmem : raw ∈ l)
    (hparse : Entry.parse? raw = some read) (hsame : read.refreshToken = e.refreshToken) :
    raw = e.encode := by
  rcases (h.mem raw).mp hmem with ⟨hold, _⟩ | ⟨i, hadded⟩
  · obtain ⟨e', he', rfl⟩ := List.mem_map.mp hold
    obtain rfl : e' = read := Option.some.inj ((hapart.parse?_encode he').symm.trans hparse)
    rw [hapart.eq_of_token he' he hsame]
  · -- A new session would hold the token without the colon in front that it does not have.
    exfalso
    obtain ⟨new, hopened, rfl⟩ := h.added i raw hadded
    have hnew := hopened.token_of_parse? hparse
    have hbare : e.refreshToken.toList.dropWhile (· == ':') = e.refreshToken.toList := by
      cases hchars : e.refreshToken.toList with
      | nil => rfl
      | cons first rest =>
        rw [hchars] at htoken
        rw [List.dropWhile_cons_of_neg]
        simpa using htoken
    rw [hsame, hbare, String.ofList_toList] at hnew
    exact (hnovel.unlisted i new hopened e he).1 hnew

/-- A call finds the session that it was given. -/
theorem Kept.finds?_presented (h : s.Kept requests user es past l)
    (hapart : s.Apart requests user es w) (hnovel : s.Novel requests user es past)
    (hi : Given requests es i e) (htoken : e.refreshToken.toList.head? ≠ some ':')
    (hnot : (s.place requests i past).phase.hasTaken (Registry.key user) = false) :
    (requests i).finds? l = some e.encode := by
  have hmem := h.mem_presented hapart hi hnot
  have hparse := hapart.parse?_encode hi.1
  obtain ⟨e', he', hsame, hfingerprint⟩ := hapart.presented i _ hi.2
  obtain rfl : e' = e := hapart.eq_of_token he' hi.1 hsame
  cases hq : requests i with
  | login login password f =>
    have hnone := hi.2
    rw [hq] at hnone
    cases hnone
  | refresh f token =>
    have htok : token = e'.refreshToken := by
      have hpresented := hi.2
      rw [hq] at hpresented
      exact Option.some.inj hpresented
    have hprint : e'.fingerprint = f.text := hfingerprint f (by rw [hq]; rfl)
    show Registry.find? f.text token l = _
    cases hfind : Registry.find? f.text token l with
    | some raw =>
      obtain ⟨hraw, hread⟩ := Registry.parse?_of_find? hfind
      rw [h.eq_of_token hapart hnovel hi.1 htoken hraw hread htok]
    | none =>
      exfalso
      have hnone := List.find?_eq_none.mp hfind _ hmem
      rw [hparse] at hnone
      refine hnone (Entry.isFor_iff.mpr ?_)
      rw [htok, ← hprint]
  | logout token =>
    have htok : token = e'.refreshToken := by
      have hpresented := hi.2
      rw [hq] at hpresented
      exact Option.some.inj hpresented
    show Registry.findToken? token l = _
    cases hfind : Registry.findToken? token l with
    | some raw =>
      obtain ⟨hraw, read, hread, hheld⟩ := Registry.parse?_of_findToken? hfind
      rw [h.eq_of_token hapart hnovel hi.1 htoken hraw hread (hheld.trans htok)]
    | none =>
      exfalso
      have hnone := List.find?_eq_none.mp hfind _ hmem
      rw [hparse] at hnone
      exact hnone (Entry.matchesToken_iff.mpr htok.symm)

/-- There is room in the list for a call that has not yet added its session. -/
theorem Kept.length_lt (h : s.Kept requests user es past l) (hapart : s.Apart requests user es w)
    (hopens : (requests i).fingerprint? ≠ none)
    (hnot : ∀ raw, (s.place requests i past).phase ≠ .added (Registry.key user) raw) :
    l.length < s.registry.maxSessions := by
  have hfewer : s.tally requests (Phase.isAdded (Registry.key user)) past <
      (Finset.univ.filter fun i => (requests i).fingerprint?.isSome = true).card := by
    refine Finset.card_lt_card ⟨?_, ?_⟩
    · intro j hj
      obtain ⟨raw, hraw⟩ := Phase.isAdded_iff.mp (Finset.mem_filter.mp hj).2
      obtain ⟨e, hopened, _⟩ := h.added j raw hraw
      obtain ⟨f, hf, _⟩ := hopened.fingerprint
      exact Finset.mem_filter.mpr ⟨Finset.mem_univ j, by rw [hf]; rfl⟩
    · intro hsub
      have hi : i ∈ Finset.univ.filter fun i => (requests i).fingerprint?.isSome = true :=
        Finset.mem_filter.mpr ⟨Finset.mem_univ i, Option.isSome_iff_ne_none.mpr hopens⟩
      obtain ⟨raw, hraw⟩ := Phase.isAdded_iff.mp (Finset.mem_filter.mp (hsub hi)).2
      exact hnot raw hraw
  have hlength := h.length
  have hroom := hapart.room
  omega

/-- The text of a session that is new is not in the list. -/
theorem Kept.encode_notMem {h' : Happening n} (h : s.Kept requests user es past l)
    (hnovel : s.Novel requests user es (h' :: past))
    (hopened : s.Opened requests user (h' :: past) i e)
    (hfirst : ∀ raw, (s.place requests i past).phase ≠ .added (Registry.key user) raw) :
    e.encode ∉ l := by
  intro hmem
  rcases (h.mem _).mp hmem with ⟨hold, _⟩ | ⟨j, hj⟩
  · obtain ⟨old, hold, hsame⟩ := List.mem_map.mp hold
    exact (hnovel.unlisted i e hopened old hold).2 hsame.symm
  · -- Whoever has opened a session with this text is this call, which has not added any before.
    obtain ⟨other, hother, hsame⟩ := h.added j _ hj
    obtain rfl : e = other := Entry.encode_inj hopened.colon_notMem hother.colon_notMem hsame
    obtain rfl : j = i := hnovel.fresh j i e e (hother.mono _) hopened rfl
    exact hfirst _ hj

/-! ### Every step keeps it -/

/-- What has been taken out after a step was taken out before, or in that step. -/
theorem tookOut_asked : TookOut key (.asked i x :: past) j raw ↔
    (j = i ∧ x = ⟨.cache (.remove key raw), .ok true⟩) ∨ TookOut key past j raw := by
  unfold TookOut
  rw [List.mem_cons, Happening.asked.injEq]
  constructor <;> rintro (⟨h, h'⟩ | h)
  · exact Or.inl ⟨h, h'.symm⟩
  · exact Or.inr h
  · exact Or.inl ⟨h, h'.symm⟩
  · exact Or.inr h

theorem tookOut_asked_of_ne (hx : ∀ raw, x ≠ ⟨.cache (.remove key raw), .ok true⟩) :
    TookOut key (.asked i x :: past) j raw ↔ TookOut key past j raw := by
  rw [tookOut_asked]
  exact or_iff_right fun h => hx raw h.2

/-- Calls that have added a session, after a step of a call that has not added any in it. -/
theorem added_asked (hadded : ∀ raw, (s.place requests i (.asked i x :: past)).phase =
      .added key raw ↔ (s.place requests i past).phase = .added key raw) (j : Fin n)
    (raw : String) :
    (s.place requests j (.asked i x :: past)).phase = .added key raw ↔
      (s.place requests j past).phase = .added key raw := by
  by_cases hj : i = j
  · subst hj
    exact hadded raw
  · rw [place_asked_ne hj]

/-- After a step in which a call adds its session that one is added as well. -/
theorem Adds.added_asked (h : Adds s (requests i) key raw (s.place requests i past) l x
      (s.place requests i (.asked i x :: past)).phase l') (j : Fin n) (other : String) :
    (s.place requests j (.asked i x :: past)).phase = .added key other ↔
      (j = i ∧ other = raw) ∨ (s.place requests j past).phase = .added key other := by
  by_cases hj : i = j
  · subst hj
    rw [h.phase]
    constructor
    · intro heq
      exact Or.inl ⟨rfl, (Phase.added.inj heq).2.symm⟩
    · rintro (⟨_, rfl⟩ | heq)
      · rfl
      · exact absurd heq (h.first other)
  · rw [place_asked_ne hj]
    constructor
    · exact Or.inr
    · rintro (⟨rfl, _⟩ | heq)
      · exact absurd rfl hj
      · exact heq

/-- How the number of calls that have added their sessions changes in a step. -/
theorem tally_isAdded_asked (s : Service) (requests : Fin n → Request) (key : String)
    (past : List (Happening n)) (i : Fin n) (x : Asked) :
    s.tally requests (Phase.isAdded key) (.asked i x :: past) +
        ((s.place requests i past).phase.isAdded key).toNat =
      s.tally requests (Phase.isAdded key) past +
        ((s.place requests i (.asked i x :: past)).phase.isAdded key).toNat :=
  tally_asked i x

section Step

/-- Whoever had taken a session out before the step has done so after it. -/
theorem hasTaken_asked (hmove : Move s (requests i) key (s.place requests i past) l x
      (s.place requests i (.asked i x :: past)).phase l') (j : Fin n)
    (h : (s.place requests j past).phase.hasTaken key = true) :
    (s.place requests j (.asked i x :: past)).phase.hasTaken key = true := by
  by_cases hj : i = j
  · subst hj
    exact hmove.hasTaken h
  · rw [place_asked_ne hj]
    exact h

variable (htaken : ∀ j, (s.place requests j past).phase.hasTaken (Registry.key user) = true →
    (s.place requests j (.asked i x :: past)).phase.hasTaken (Registry.key user) = true)
  (hcourse : ∀ j, (s.place requests j (.asked i x :: past)).phase.OnCourse s (requests j) es
    (Registry.key user))

include htaken hcourse

theorem Kept.looks (h : s.Kept requests user es past l)
    (hlooks : Looks (Registry.key user) (s.place requests i past) l x
      (s.place requests i (.asked i x :: past)).phase l') :
    s.Kept requests user es (.asked i x :: past) l' := by
  have htook : ∀ j raw, TookOut (Registry.key user) (.asked i x :: past) j raw ↔
      TookOut (Registry.key user) past j raw :=
    fun j raw => tookOut_asked_of_ne hlooks.noTake
  have hadded := added_asked hlooks.added
  have htally := tally_isAdded_asked s requests (Registry.key user) past i x
  have hsame : (s.place requests i (.asked i x :: past)).phase.isAdded (Registry.key user) =
      (s.place requests i past).phase.isAdded (Registry.key user) := by
    rw [Bool.eq_iff_iff, Phase.isAdded_iff, Phase.isAdded_iff]
    exact exists_congr hlooks.added
  rw [hlooks.list]
  refine ⟨?_, h.nodup, ?_, ?_, ?_, hcourse⟩
  · intro raw
    simp only [htook, hadded]
    exact h.mem raw
  · have hlength := h.length
    rw [hsame] at htally
    omega
  · intro j raw hj
    obtain ⟨e, hopened, hraw⟩ := h.added j raw ((hadded j raw).mp hj)
    exact ⟨e, hopened.mono _, hraw⟩
  · intro j raw hj
    obtain ⟨hbefore, hpresents⟩ := h.taken j raw ((htook j raw).mp hj)
    exact ⟨htaken j hbefore, hpresents⟩

theorem Kept.takes (h : s.Kept requests user es past l) (hnovel : s.Novel requests user es past)
    (htakes : Takes (requests i) (Registry.key user) raw (s.place requests i past) l x
      (s.place requests i (.asked i x :: past)).phase l') :
    s.Kept requests user es (.asked i x :: past) l' := by
  obtain ⟨entries, hsearching, hfinds⟩ := htakes.found
  -- The call has found the session that it was given.
  obtain ⟨e, hpresents, rfl⟩ : ∃ e, Given requests es i e ∧ raw = e.encode := by
    have hfound := h.onCourse i
    rw [hsearching] at hfound
    obtain ⟨e, he, htoken, hsame⟩ := hfound rfl
    exact ⟨e, ⟨he, htoken⟩, Option.some.inj (hfinds.symm.trans hsame)⟩
  have htook : ∀ j other, TookOut (Registry.key user) (.asked i x :: past) j other ↔
      (j = i ∧ other = e.encode) ∨ TookOut (Registry.key user) past j other := by
    intro j other
    rw [tookOut_asked, htakes.event]
    refine or_congr_left (and_congr_right fun _ => ⟨?_, ?_⟩)
    · intro heq
      cases heq
      rfl
    · intro heq
      rw [heq]
  have hadded : ∀ j other, (s.place requests j (.asked i x :: past)).phase =
      .added (Registry.key user) other ↔
        (s.place requests j past).phase = .added (Registry.key user) other := by
    refine added_asked ?_
    intro other
    rw [htakes.phase, hsearching]
    simp
  have htally := tally_isAdded_asked s requests (Registry.key user) past i x
  rw [htakes.list]
  refine ⟨?_, h.nodup.filter _, ?_, ?_, ?_, hcourse⟩
  · intro other
    rw [List.mem_filter, bne_iff_ne, h.mem other]
    simp only [htook, hadded, not_or, not_and]
    constructor
    · rintro ⟨⟨hold, hnot⟩ | hnew, hne⟩
      · exact Or.inl ⟨hold, fun j => ⟨fun _ => hne, hnot j⟩⟩
      · exact Or.inr hnew
    · rintro (⟨hold, hnot⟩ | ⟨j, hj⟩)
      · exact ⟨Or.inl ⟨hold, fun j => (hnot j).2⟩, (hnot i).1 rfl⟩
      · obtain ⟨new, hopened, rfl⟩ := h.added j other hj
        exact ⟨Or.inr ⟨j, hj⟩, (hnovel.unlisted j new hopened e hpresents.1).2⟩
  · have hlength := h.length
    have hshorter := List.length_filter_le (· != e.encode) l
    rw [htakes.phase, hsearching] at htally
    simp only [Phase.isAdded] at htally
    omega
  · intro j other hj
    obtain ⟨new, hopened, hother⟩ := h.added j other ((hadded j other).mp hj)
    exact ⟨new, hopened.mono _, hother⟩
  · intro j other hj
    rcases (htook j other).mp hj with ⟨rfl, rfl⟩ | hold
    · refine ⟨?_, e, hpresents, rfl⟩
      rw [htakes.phase]
      exact beq_self_eq_true _
    · obtain ⟨hbefore, hpresented⟩ := h.taken j other hold
      exact ⟨htaken j hbefore, hpresented⟩

theorem Kept.adds (h : s.Kept requests user es past l)
    (hnovel : s.Novel requests user es (.asked i x :: past))
    (hadds : Adds s (requests i) (Registry.key user) raw (s.place requests i past) l x
      (s.place requests i (.asked i x :: past)).phase l') :
    s.Kept requests user es (.asked i x :: past) l' := by
  obtain ⟨new, hnew, rfl⟩ := hadds.opened
  obtain ⟨_, _, hx⟩ := hadds.event
  have htook : ∀ j raw, TookOut (Registry.key user) (.asked i x :: past) j raw ↔
      TookOut (Registry.key user) past j raw := by
    intro j raw
    refine tookOut_asked_of_ne ?_
    intro other heq
    rw [hx] at heq
    cases heq
  have hadded := hadds.added_asked
  have htally := tally_isAdded_asked s requests (Registry.key user) past i x
  have hnotMem := h.encode_notMem hnovel hnew hadds.first
  rw [hadds.list]
  refine ⟨?_, List.nodup_cons.mpr ⟨hnotMem, h.nodup⟩, ?_, ?_, ?_, hcourse⟩
  · intro raw
    rw [List.mem_cons, h.mem raw]
    simp only [htook, hadded]
    constructor
    · rintro (rfl | hold | ⟨j, hj⟩)
      · exact Or.inr ⟨i, Or.inl ⟨rfl, rfl⟩⟩
      · exact Or.inl hold
      · exact Or.inr ⟨j, Or.inr hj⟩
    · rintro (hold | ⟨j, ⟨_, rfl⟩ | hj⟩)
      · exact Or.inr (Or.inl hold)
      · exact Or.inl rfl
      · exact Or.inr (Or.inr ⟨j, hj⟩)
  · have hlength := h.length
    have hbefore : (s.place requests i past).phase.isAdded (Registry.key user) = false := by
      rw [Bool.eq_false_iff, ne_eq, Phase.isAdded_iff]
      exact fun ⟨raw, hraw⟩ => hadds.first raw hraw
    rw [hadds.phase, hbefore] at htally
    simp only [Phase.isAdded, beq_self_eq_true, Bool.toNat_true, Bool.toNat_false] at htally
    rw [List.length_cons]
    omega
  · intro j raw hj
    rcases (hadded j raw).mp hj with ⟨rfl, rfl⟩ | hold
    · exact ⟨new, hnew, rfl⟩
    · obtain ⟨e, hopened, hraw⟩ := h.added j raw hold
      exact ⟨e, hopened.mono _, hraw⟩
  · intro j raw hj
    obtain ⟨hbefore, hpresented⟩ := h.taken j raw ((htook j raw).mp hj)
    exact ⟨htaken j hbefore, hpresented⟩

end Step

/-- The token that a call was given does not begin with a colon. -/
theorem Orderly.head?_ne (h : s.Orderly requests user es w past) (hi : Given requests es i e) :
    e.refreshToken.toList.head? ≠ some ':' := by
  obtain ⟨u, hu, _⟩ := h.owned past (List.suffix_refl _) i
  have htoken := hi.2
  cases hq : requests i with
  | login login password f =>
    rw [hq] at htoken
    cases htoken
  | refresh f token | logout token =>
    rw [hq] at hu htoken
    cases htoken
    exact (names_of_bearer hu).head?_ne

/-- In an orderly run of calls on different sessions no session is lost. -/
theorem Run.kept (hapart : s.Apart requests user es w)
    (hrun : Run inMemory (s.opening requests w) past a)
    (horderly : s.Orderly requests user es w past) :
    s.Kept requests user es past (sessions a.world (Registry.key user)) := by
  induction hrun with
  | start =>
    show s.Kept requests user es [] (sessions w (Registry.key user))
    rw [hapart.sessions_eq]
    exact .start hapart
  | @step past h a c hrun hstep ih =>
    have hbefore := ih horderly.of_cons
    cases h with
    | waited later =>
      have hsame : sessions c.world (Registry.key user) = sessions a.world (Registry.key user) := by
        cases hstep with
        | waits hle =>
          exact Cache.Memory.values_later_of_isLive hle
            (horderly.lasts past a later (List.suffix_refl _) hrun)
      rw [hsame]
      have hmem : ∀ j raw, TookOut (Registry.key user) (.waited later :: past) j raw ↔
          TookOut (Registry.key user) past j raw := by
        intro j raw
        unfold TookOut
        rw [List.mem_cons]
        exact or_iff_right nofun
      refine ⟨?_, hbefore.nodup, hbefore.length, ?_, ?_, hbefore.onCourse⟩
      · intro raw
        simp only [hmem]
        exact hbefore.mem raw
      · intro j raw hj
        obtain ⟨e, hopened, hraw⟩ := hbefore.added j raw hj
        exact ⟨e, hopened.mono _, hraw⟩
      · intro j raw hj
        exact hbefore.taken j raw ((hmem j raw).mp hj)
    | asked i x =>
      have hmove := hrun.move (Registry.key user) hstep
      have hcourse : ∀ j, (s.place requests j (.asked i x :: past)).phase.OnCourse s (requests j)
          es (Registry.key user) := by
        intro j
        by_cases hj : i = j
        · subst hj
          refine hmove.onCourse (hbefore.onCourse i) ?_ ?_
            fun hopens hnot => hbefore.length_lt hapart hopens hnot
          · intro htoken
            obtain ⟨token, htoken⟩ := Option.ne_none_iff_exists'.mp htoken
            obtain ⟨e, he, rfl, _⟩ := hapart.presented i token htoken
            exact ⟨e, he, htoken⟩
          · intro hnot e he htoken
            exact hbefore.finds?_presented hapart horderly.novel.of_cons ⟨he, htoken⟩
              (horderly.head?_ne ⟨he, htoken⟩) hnot
        · rw [place_asked_ne hj]
          exact hbefore.onCourse j
      rcases hmove.looks_or_takes_or_adds (hbefore.onCourse i) with
        hlooks | ⟨raw, htakes⟩ | ⟨raw, hadds⟩
      · exact hbefore.looks (hasTaken_asked hmove) hcourse hlooks
      · exact hbefore.takes (hasTaken_asked hmove) hcourse horderly.novel.of_cons htakes
      · exact hbefore.adds (hasTaken_asked hmove) hcourse horderly.novel hadds

/-! ### Every call succeeds -/

/-- What the clock shows in a run. -/
def Shown (start : Instant) (past : List (Happening n)) (now : Instant) : Prop :=
  ∃ older, older <:+ past ∧ now = timeAfter start older

/-- Every reply is one that the call can use. -/
theorem Run.favours (hapart : s.Apart requests user es w)
    (hrun : Run inMemory (s.opening requests w) past a)
    (horderly : s.Orderly requests user es w past) {Reading : Instant → Prop}
    (hreading : Reading a.world.now) (hraw : ∀ e, Given requests es i e → raw = e.encode)
    {e : Effect} {reply : e.Reply} {w' : World Store}
    (hanswer : inMemory.Answers i e a.world reply w') :
    Favours (requests i) (Registry.key user) raw w.store.2.users Reading (s.place requests i past) e
      reply := by
  cases hanswer with
  | drawn count bits => trivial
  | handled =>
    cases e with
    | cache d =>
      refine ⟨a.world.now, a.world.store.1, rfl, ?_⟩
      intro hgiven hnot
      obtain ⟨token, htoken⟩ := Option.ne_none_iff_exists'.mp hgiven
      obtain ⟨e, he, rfl, _⟩ := hapart.presented i token htoken
      have hpresents : Given requests es i e := ⟨he, htoken⟩
      rw [hraw e hpresents]
      exact (hrun.kept hapart horderly).finds?_presented hapart horderly.novel hpresents
        (horderly.head?_ne hpresents) hnot
    | users d =>
      refine ⟨i, a.world.store.2, rfl, hrun.users_eq, ?_⟩
      intro hbegun
      rw [seen_place] at hbegun
      exact hrun.isOpen hbegun
    | clock => exact hreading
    | random count => trivial
    | log event => trivial

/-- A call that has returned has asked for the list of the user only, and has succeeded. -/
theorem Run.succeeds (hapart : s.Apart requests user es w)
    (hrun : Run inMemory (s.opening requests w) past a)
    (horderly : s.Orderly requests user es w past) {answer : Answer}
    (hdone : a.calls i = .done answer) :
    (∀ k, (s.place requests i past).phase.key? = some k → k = Registry.key user) ∧
      (requests i).Succeeds answer := by
  -- The text of the session that the call was given, if it was given one.
  obtain ⟨raw, hraw⟩ : ∃ raw, ∀ e, Given requests es i e → raw = e.encode := by
    by_cases hgiven : ∃ e, Given requests es i e
    · obtain ⟨e, he⟩ := hgiven
      exact ⟨e.encode, fun e' he' => by rw [hapart.presents_unique he he']⟩
    · exact ⟨"", fun e he => absurd ⟨e, he⟩ hgiven⟩
  have howned : ∀ now, Shown w.now past now →
      ∃ u, (requests i).owner s w.store.2.users now = .ok u ∧ u.id = user := by
    rintro now ⟨older, holder, rfl⟩
    exact horderly.owned older holder i
  have hmints : ∀ now, Shown w.now past now → s.CanMint user now := by
    rintro now ⟨older, holder, rfl⟩
    exact horderly.mints older holder
  have hserve : Call.Meets (favourable (requests i) (Registry.key user) raw w.store.2.users
      (Shown w.now past)) (s.serve (requests i)) _ Place.start :=
    serve_favourable s (requests i) howned ⟨w.now, [], List.nil_suffix, rfl⟩ hmints
  have hmeets := Run.meets hserve hrun fun older c e reply w' holder hrun hanswer =>
    ⟨hrun.favours hapart (horderly.of_suffix holder) ⟨older, holder, hrun.now_eq⟩ hraw hanswer,
      place_asked_self _⟩
  rw [hdone] at hmeets
  exact hmeets

/-! ### What is left -/

/-- The stored text of the session that a request has opened, as its answer tells. -/
def Request.opens? (q : Request) (answer : Answer) : Option String :=
  match q.fingerprint?, answer with
  | some f, .ok (some tokens) => some (Entry.encode ⟨f.text, tokens.refresh⟩)
  | _, _ => none

/-- A call that has succeeded has ended a session, or has opened the one that it answers. -/
theorem phase_of_succeeds {answer : Answer} (hends : q.Ends p answer)
    (hsucceeds : q.Succeeds answer) :
    (q.fingerprint? = none ∧ ∃ k other, p.phase = .taken k other) ∨
      ∃ f tokens k, q.fingerprint? = some f ∧ answer = .ok (some tokens) ∧
        p.phase = .added k (Entry.encode ⟨f.text, tokens.refresh⟩) := by
  obtain ⟨issued, rfl, hissued⟩ := hsucceeds
  obtain ⟨seen, φ⟩ := p
  have hopened : ∀ (f : Fingerprint) k other,
      (∃ tokens, (Except.ok issued : Answer) = .ok (some tokens) ∧
        other = Entry.encode ⟨f.text, tokens.refresh⟩) →
      ∃ f' tokens k', some f = some f' ∧ (Except.ok issued : Answer) = .ok (some tokens) ∧
        Phase.added k other = .added k' (Entry.encode ⟨f'.text, tokens.refresh⟩) := by
    rintro f k other ⟨tokens, hanswer, rfl⟩
    exact ⟨f, tokens, k, rfl, hanswer, rfl⟩
  cases q with
  | login login password f =>
    cases φ with
    | added k other => exact Or.inr (hopened f k other hends)
    | _ => simp [Request.Ends] at hends
  | refresh f token =>
    cases φ with
    | added k other => exact Or.inr (hopened f k other hends)
    | _ => simp [Request.Ends] at hends
  | logout token =>
    cases φ with
    | taken k other => exact Or.inl ⟨rfl, k, other, rfl⟩
    | _ => simp [Request.Ends] at hends

/-- A call that has succeeded has added what its answer tells. -/
theorem added_iff_opens? {answer : Answer} (hends : q.Ends p answer) (hsucceeds : q.Succeeds answer)
    (hkey : ∀ k, p.phase.key? = some k → k = key) :
    p.phase = .added key raw ↔ q.opens? answer = some raw := by
  unfold Request.opens?
  rcases phase_of_succeeds hends hsucceeds with
    ⟨hnone, k, other, hphase⟩ | ⟨f, tokens, k, hf, rfl, hphase⟩
  · rw [hphase, hnone]
    exact ⟨nofun, nofun⟩
  · obtain rfl : k = key := hkey k (by rw [hphase]; rfl)
    rw [hphase, hf, Phase.added.injEq, Option.some.injEq]
    exact and_iff_right rfl

/-- A call that has succeeded has taken out the session that it was given. -/
theorem hasTaken_of_succeeds {answer : Answer} (hends : q.Ends p answer)
    (hsucceeds : q.Succeeds answer) (hkey : ∀ k, p.phase.key? = some k → k = key) :
    p.phase.hasTaken key = true := by
  rcases phase_of_succeeds hends hsucceeds with
    ⟨_, k, other, hphase⟩ | ⟨f, tokens, k, _, _, hphase⟩
  all_goals
    obtain rfl : k = key := hkey k (by rw [hphase]; rfl)
    rw [hphase]
    exact beq_self_eq_true k

/-- What is left when all calls of an orderly run have returned. -/
theorem Run.sessions_perm (hapart : s.Apart requests user es w)
    (hrun : Run inMemory (s.opening requests w) past a)
    (horderly : s.Orderly requests user es w past) {answers : Fin n → Answer}
    (hdone : ∀ i, a.calls i = .done (answers i)) :
    (sessions a.world (Registry.key user)).Perm
      ((es.filter fun e => ∀ i, (requests i).token? ≠ some e.refreshToken).map Entry.encode ++
        (List.finRange n).filterMap fun i => (requests i).opens? (answers i)) := by
  have hkept := hrun.kept hapart horderly
  have hends := fun i => hrun.ends (fun _ _ _ _ _ => expected_of_answers) (hdone i)
  have hsucceeds := fun i => hrun.succeeds hapart horderly (hdone i)
  have hadded : ∀ i raw, (requests i).opens? (answers i) = some raw ↔
      (s.place requests i past).phase = .added (Registry.key user) raw :=
    fun i raw => (added_iff_opens? (hends i) (hsucceeds i).2 (hsucceeds i).1).symm
  -- A session was taken out just if it was presented.
  have htaken : ∀ e ∈ es, (∃ i, TookOut (Registry.key user) past i e.encode) ↔
      ∃ i, (requests i).token? = some e.refreshToken := by
    intro e he
    constructor
    · rintro ⟨i, htook⟩
      obtain ⟨_, e', hpresents, hsame⟩ := hkept.taken i _ htook
      obtain rfl : e = e' := hapart.encode_inj he hpresents.1 hsame
      exact ⟨i, hpresents.2⟩
    · rintro ⟨i, htoken⟩
      obtain ⟨raw, htook⟩ := hrun.tookOut htoken
        (hasTaken_of_succeeds (hends i) (hsucceeds i).2 (hsucceeds i).1)
      obtain ⟨_, e', hpresents, rfl⟩ := hkept.taken i _ htook
      obtain rfl : e = e' := hapart.presents_unique ⟨he, htoken⟩ hpresents
      exact ⟨i, htook⟩
  rw [List.perm_ext_iff_of_nodup hkept.nodup]
  · intro raw
    rw [hkept.mem raw, List.mem_append, List.mem_filterMap]
    simp only [List.mem_finRange, true_and, hadded, List.mem_map, List.mem_filter,
      decide_eq_true_eq]
    refine or_congr_left ⟨?_, ?_⟩
    · rintro ⟨⟨e, he, rfl⟩, hnot⟩
      exact ⟨e, ⟨he, fun i htoken => not_exists.mpr hnot ((htaken e he).mpr ⟨i, htoken⟩)⟩, rfl⟩
    · rintro ⟨e, ⟨he, hnot⟩, rfl⟩
      exact ⟨⟨e, he, rfl⟩, fun i htook => not_exists.mpr hnot ((htaken e he).mp ⟨i, htook⟩)⟩
  · refine List.nodup_append.mpr ⟨?_, ?_, ?_⟩
    · exact hapart.nodup_encode.sublist (List.filter_sublist.map _)
    · refine (List.nodup_finRange n).filterMap ?_
      intro i j raw hi hj
      obtain ⟨e, hopened, rfl⟩ := hkept.added i raw ((hadded i raw).mp hi)
      obtain ⟨e', hopened', hsame⟩ := hkept.added j _ ((hadded j _).mp hj)
      obtain rfl : e = e' := Entry.encode_inj hopened.colon_notMem hopened'.colon_notMem hsame
      exact horderly.novel.fresh i j e e hopened hopened' rfl
    · intro raw hold new hnew heq
      subst heq
      obtain ⟨e, he, rfl⟩ := List.mem_map.mp hold
      obtain ⟨i, _, hi⟩ := List.mem_filterMap.mp hnew
      obtain ⟨e', hopened, hsame⟩ := hkept.added i _ ((hadded i _).mp hi)
      exact (horderly.novel.unlisted i e' hopened e (List.mem_filter.mp he).1).2 hsame.symm

/--
**Calls on different sessions do not get in each other's way.**  When requests of a user
present different sessions of the list and there is room for all that they open, every call
that returns has succeeded, whatever the order of their commands, and all of them can return.
Then the list holds, each once, the sessions that were not presented and one for every call
that opens a session, with its fingerprint and the token that it was answered with.
-/
theorem sessions_survive (hapart : s.Apart requests user es w)
    (hrun : Run inMemory (s.opening requests w) past a)
    (horderly : s.Orderly requests user es w past) :
    (∀ i answer, a.calls i = .done answer → (requests i).Succeeds answer) ∧
    (∃ newer c, Run inMemory (s.opening requests w) (newer ++ past) c ∧
      (∀ h ∈ newer, ∃ i x, h = .asked i x) ∧ ∀ i, ∃ answer, c.calls i = .done answer) ∧
    ∀ answers : Fin n → Answer, (∀ i, a.calls i = .done (answers i)) →
      (sessions a.world (Registry.key user)).Nodup ∧
      (sessions a.world (Registry.key user)).Perm
        ((es.filter fun e => ∀ i, (requests i).token? ≠ some e.refreshToken).map Entry.encode ++
          (List.finRange n).filterMap fun i => (requests i).opens? (answers i)) := by
  refine ⟨fun i answer hdone => (hrun.succeeds hapart horderly hdone).2, hrun.completes,
    fun answers hdone => ⟨(hrun.kept hapart horderly).nodup, ?_⟩⟩
  exact hrun.sessions_perm hapart horderly hdone

namespace Sample

/-- Ada refreshes one of her two sessions, and logs in for a third one at the same time. -/
def rotation : Fin 2 → Request
  | 0 => .refresh fingerprint token
  | 1 => login

/-- The two sessions that she has. -/
def entries : List Entry := [⟨"laptop", token⟩, ⟨"tablet", "older"⟩]

/-- Each call is given random bits of its own. -/
def bits (i : Fin 2) (count : Nat) : BitVec count := BitVec.ofNat count (i + 1)

/-- Every token has dots in it. -/
theorem token_ne_older : token ≠ "older" := by
  intro heq
  have hdot : '.' ∈ token.toList := by
    show '.' ∈ (Token.Compact.attach _ _).toList
    simp [Token.Compact.attach]
  rw [heq] at hdot
  revert hdot
  decide

theorem apart_opened : (service 8).Apart rotation ada.id entries opened where
  listed := by
    rw [sessions_opened]
    show [Entry.parse? _, Entry.parse? _] = _
    unfold Registry.stored
    rw [Entry.parse?_encode, Entry.parse?_encode]
    rfl
  distinct := by
    show [token, "older"].Nodup
    simp [token_ne_older]
  presented i t ht := by
    match i with
    | 0 =>
      cases ht
      refine ⟨⟨"laptop", token⟩, List.mem_cons_self, rfl, ?_⟩
      intro f hf
      cases hf
      rfl
    | 1 => cases ht
  once i j t hi hj := by
    have hfirst : ∀ i, (rotation i).token? = some t → i = 0 := by
      intro i hi
      match i with
      | 0 => rfl
      | 1 => cases hi
    rw [hfirst i hi, hfirst j hj]
  room := by
    have hcard := Finset.card_le_univ
      (Finset.univ.filter fun i => (rotation i).fingerprint?.isSome = true)
    rw [Fintype.card_fin] at hcard
    show 2 + _ ≤ 8
    omega

theorem canMint_opened : (service 8).CanMint ada.id opened.now :=
  have hmints : (service 8).CanMint ada.id (.ofSeconds 0) := canMint _ (by decide) (by decide)
  hmints

/-- What the two calls have asked they have asked at once, with the bits that they were given. -/
def AtOnce (past : List (Happening 2)) : Prop := ∀ h ∈ past, ∃ i, IsChosen (bits i) i h

theorem AtOnce.asked {past : List (Happening 2)} (h : AtOnce past) :
    ∀ x ∈ past, ∃ i y, x = .asked i y := by
  intro x hx
  obtain ⟨i, e, w, rfl⟩ := h x hx
  exact ⟨i, _, rfl⟩

/-- A session that is opened has a token with an id made of the bits of its call. -/
theorem AtOnce.payload {past : List (Happening 2)} {a : Scene Store 2} {i : Fin 2} {e : Entry}
    (h : AtOnce past) (hrun : Run inMemory ((service 8).opening rotation opened) past a)
    (hopened : (service 8).Opened rotation ada.id past i e) : ∃ payload,
      Token.Codec.open? codec.verificationKey codec.algorithm (.ofSeconds 0) e.refreshToken =
        some payload ∧ payload.id = some (UserId.ofRandom (bits i 128)).toHex := by
  obtain ⟨now, id, noise, expiry, hnow, hid, _, hmint⟩ := hopened.minted
  obtain ⟨older, holder, rfl⟩ := hrun.clock_eq (mem_own.mp hnow)
  have hstart : timeAfter opened.now older = .ofSeconds 0 :=
    timeAfter_of_asked fun x hx => h.asked x (holder.subset hx)
  obtain ⟨j, _, _, hchosen⟩ := h _ (mem_own.mp hid)
  cases hchosen
  change codec.mint (timeAfter opened.now older) _ _ _ _ _ = _ at hmint
  rw [hstart] at hmint
  exact ⟨_, open?_minted (by decide) hmint, rfl⟩

theorem orderly_opened {past : List (Happening 2)} {a : Scene Store 2} (h : AtOnce past)
    (hrun : Run inMemory ((service 8).opening rotation opened) past a) :
    (service 8).Orderly rotation ada.id entries opened past := by
  have htime : ∀ older, older <:+ past → timeAfter opened.now older = opened.now :=
    fun older holder => timeAfter_of_asked fun x hx => h.asked x (holder.subset hx)
  -- The ids in three tokens are different: in that of the list, and in those of the two calls.
  have hids : ∀ i j, UserId.ofRandom (bits i 128) = UserId.ofRandom (bits j 128) → i = j := by
    decide
  have hid : ∀ i, UserId.ofRandom (bits i 128) ≠ UserId.ofRandom (zeros 128) := by decide
  have hunlisted : ∀ i e, (service 8).Opened rotation ada.id past i e → ∀ old ∈ entries,
      e.refreshToken ≠ old.refreshToken := by
    intro i e hopened old hold heq
    obtain ⟨payload, hopen, hpayload⟩ := h.payload hrun hopened
    rw [heq] at hopen
    rcases List.mem_cons.mp hold with rfl | hold
    · obtain rfl := Option.some.inj (hopen.symm.trans open?_token)
      exact hid i (UserId.toHex_inj (Option.some.inj hpayload.symm))
    · obtain rfl := List.mem_singleton.mp hold
      cases hopen
  refine ⟨?_, ?_, ⟨?_, fun i e hopened old hold => ⟨hunlisted i e hopened old hold, ?_⟩⟩, ?_⟩
  · intro older holder i
    rw [htime older holder]
    match i with
    | 0 =>
      have howner : (service 8).bearer opened.store.2.users opened.now token = .ok ada :=
        bearer_opened
      exact ⟨ada, howner, rfl⟩
    | 1 =>
      have howner : (service 8).verified opened.store.2.users "ada" ⟨"swordfish"⟩ = .ok ada :=
        verified
      exact ⟨ada, howner, rfl⟩
  · intro older holder
    rw [htime older holder]
    exact canMint_opened
  · intro i j e e' hi hj hsame
    obtain ⟨payload, hopen, hpayload⟩ := h.payload hrun hi
    obtain ⟨payload', hopen', hpayload'⟩ := h.payload hrun hj
    rw [hsame] at hopen
    obtain rfl := Option.some.inj (hopen.symm.trans hopen')
    exact hids i j (UserId.toHex_inj (Option.some.inj (hpayload.symm.trans hpayload')))
  · intro heq
    have hcolon : ':' ∉ old.refreshToken.toList := by
      rcases List.mem_cons.mp hold with rfl | hold
      · exact Token.Codec.colon_notMem_of_mint (mint_eq (.ofRandom (zeros 128)) ada.id (zeros 512)
          .refresh 0 (by decide) (by decide))
      · obtain rfl := List.mem_singleton.mp hold
        decide
    exact hunlisted i e hopened old hold
      (congrArg Entry.refreshToken (Entry.encode_inj hopened.colon_notMem hcolon heq))
  · intro older b later holder
    obtain ⟨i, x, hx⟩ := h.asked _ (holder.subset List.mem_cons_self)
    cases hx

/-- The refresh takes its session out, the login runs, and the refresh adds its new session. -/
theorem exists_rotation : ∃ past a tokens tokens',
    Run inMemory ((service 8).opening rotation opened) past a ∧ AtOnce past ∧
      a.calls 0 = .done (.ok (some tokens)) ∧ a.calls 1 = .done (.ok (some tokens')) := by
  have hstart : Run inMemory ((service 8).opening rotation opened) []
      ((service 8).opening rotation opened) := .start
  obtain ⟨w₁, htaken, hsettled₁⟩ := ahead_refresh (s := service 8) (chosen (bits 0)) (0 : Fin 2)
    bearer_opened find?_opened
  obtain ⟨past₁, hrun₁, hchosen₁⟩ := hstart.ahead_chosen (i := 0) rfl htaken
  have hverified : (service 8).verified w₁.store.2.users "ada" ⟨"swordfish"⟩ = .ok ada := by
    rw [hsettled₁.users, users_withCache]
    exact verified
  have hmint₁ : (service 8).CanMint ada.id w₁.now := by
    rw [hsettled₁.now, now_withCache]
    exact canMint_opened
  obtain ⟨tokens', _, w₂, hlogin, hsettled₂⟩ :=
    Alone.login_ok (chosen (bits 1)) (1 : Fin 2) fingerprint hverified hmint₁
  obtain ⟨past₂, hrun₂, hchosen₂⟩ := hrun₁.ahead_chosen (i := 1)
    (Scene.moved_ne (by decide) _ _) (.of_run hlogin)
  have hmint₂ : (service 8).CanMint ada.id w₂.now := by
    rw [hsettled₂.now, now_withCache]
    exact hmint₁
  obtain ⟨tokens, _, w₃, hreissued, _⟩ :=
    Alone.reissue_ok (chosen (bits 0)) (0 : Fin 2) fingerprint hmint₂
  obtain ⟨past₃, hrun₃, hchosen₃⟩ := hrun₂.ahead_chosen (i := 0)
    ((Scene.moved_ne (by decide) _ _).trans (Scene.moved_self _ _)) (.of_run hreissued)
  refine ⟨_, _, tokens, tokens', hrun₃, ?_, Scene.moved_self _ _, ?_⟩
  · intro h hh
    simp only [List.append_nil, List.mem_append] at hh
    rcases hh with hh | hh | hh
    · exact ⟨0, hchosen₃ h hh⟩
    · exact ⟨1, hchosen₂ h hh⟩
    · exact ⟨0, hchosen₁ h hh⟩
  · exact (Scene.moved_ne (by decide) _ _).trans (Scene.moved_self _ _)

/-- The session that is not presented is the one on the tablet. -/
theorem filter_rotation :
    entries.filter (fun e => ∀ i, (rotation i).token? ≠ some e.refreshToken) =
      [⟨"tablet", "older"⟩] := by
  unfold entries
  rw [List.filter_cons_of_neg, List.filter_cons_of_pos, List.filter_nil]
  · refine decide_eq_true ?_
    intro i
    match i with
    | 0 => exact fun h => token_ne_older (Option.some.inj h)
    | 1 => exact nofun
  · rw [decide_eq_true_eq]
    exact fun h => h 0 rfl

end Sample

theorem sessions_survive_rotation : ∃ past a tokens tokens',
    Run inMemory ((Sample.service 8).opening Sample.rotation Sample.opened) past a ∧
    a.calls 0 = .done (.ok (some tokens)) ∧ a.calls 1 = .done (.ok (some tokens')) ∧
    (sessions a.world (Registry.key Sample.ada.id)).Perm
      [Entry.encode ⟨"tablet", "older"⟩, Entry.encode ⟨"laptop", tokens.refresh⟩,
        Entry.encode ⟨"laptop", tokens'.refresh⟩] := by
  obtain ⟨past, a, tokens, tokens', hrun, hatOnce, hfirst, hsecond⟩ := Sample.exists_rotation
  have hsurvive := (sessions_survive Sample.apart_opened hrun
    (Sample.orderly_opened hatOnce hrun)).2.2 ![.ok (some tokens), .ok (some tokens')]
    (Fin.forall_fin_two.mpr ⟨hfirst, hsecond⟩)
  rw [Sample.filter_rotation] at hsurvive
  exact ⟨past, a, tokens, tokens', hrun, hfirst, hsecond, hsurvive.2⟩

end Service

end SessionAuth
