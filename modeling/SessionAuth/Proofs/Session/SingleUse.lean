/-
A refresh token is used at most once.

Many calls may have read the list while a session was in it, and each of them may try to
take the session out.  The removal is one command, so only one of them is told that it
did.  What has to be shown is that the same session never comes back: a stored text is
put into the list by one call only, once, and a call that could put in the same text
would have to make the same token.

`Tracked` is the invariant.  It speaks of what has happened, not of what the calls still
have to do, so a step changes it only by the event of that step, and only two kinds of
steps matter (`Move.quiet_or_takes_or_adds`).
-/
import SessionAuth.Proofs.Service.Schedule

namespace SessionAuth.Service

open Session (Registry Entry Fingerprint)

variable {n : Nat} {s : Service} {requests : Fin n → Request} {user : UserId} {key : String}
  {past : List (Happening n)} {i j : Fin n} {e e' : Entry} {raw : String}

/-! ### Steps that matter -/

/-- A step that takes no session out of the list and adds none, though it may drop it. -/
structure Quiet (key : String) (p : Place) (l : List String) (x : Asked) (φ : Phase)
    (l' : List String) : Prop where
  noPush : ∀ raw ttl, x ≠ ⟨.cache (.push key raw ttl), .ok ()⟩
  noTake : ∀ raw, x ≠ ⟨.cache (.remove key raw), .ok true⟩
  list : l' = l ∨ l' = []
  stays : ∀ raw, p.phase = .added key raw → φ = .added key raw

/-- A step that takes out what the call found. -/
structure Takes (q : Request) (key raw : String) (p : Place) (l : List String) (x : Asked)
    (φ : Phase) (l' : List String) : Prop where
  found : ∃ entries, p.phase = .searching key entries ∧ q.finds? entries = some raw
  mem : raw ∈ l
  event : x = ⟨.cache (.remove key raw), .ok true⟩
  phase : φ = .taken key raw
  list : l' = l.filter (· != raw)

/-- A step that adds the session of the call. -/
structure Adds (s : Service) (q : Request) (key raw : String) (p : Place) (l : List String)
    (x : Asked) (φ : Phase) (l' : List String) : Prop where
  first : ∀ raw, p.phase ≠ .added key raw
  event : ∃ ttl, q.Opens s p.seen key raw ttl ∧ x = ⟨.cache (.push key raw ttl), .ok ()⟩
  phase : φ = .added key raw
  list : l' = raw :: l

/-- A step is quiet, or takes a session out, or adds one. -/
theorem Move.quiet_or_takes_or_adds {q : Request} {p : Place} {l l' : List String} {x : Asked}
    {φ : Phase} (h : Move s q key p l x φ l') :
    Quiet key p l x φ l' ∨ (∃ raw, Takes q key raw p l x φ l') ∨
      ∃ raw, Adds s q key raw p l x φ l' := by
  cases h with
  | aside hx =>
    refine Or.inl ⟨?_, ?_, Or.inl rfl, fun raw hraw => hraw⟩
    · rintro raw ttl rfl
      exact hx _ rfl
    · rintro raw rfl
      exact hx _ rfl
  | elsewhere hc hbefore hafter =>
    refine Or.inl ⟨?_, ?_, Or.inl rfl, fun raw hraw => ?_⟩
    · intro raw ttl heq
      cases heq
      exact hc rfl
    · intro raw heq
      cases heq
      exact hc rfl
    · exact absurd (congrArg Phase.key? hraw) hbefore
  | search hq habout => exact Or.inl ⟨nofun, nofun, Or.inl rfl, nofun⟩
  | countFirst hq habout => exact Or.inl ⟨nofun, nofun, Or.inl rfl, nofun⟩
  | countAgain hq => exact Or.inl ⟨nofun, nofun, Or.inl rfl, nofun⟩
  | take hfind hmem => exact Or.inr (Or.inl ⟨_, ⟨_, rfl, hfind⟩, hmem, rfl, rfl, rfl⟩)
  | miss hfind hmem => exact Or.inl ⟨nofun, nofun, Or.inl rfl, nofun⟩
  | dropUnfound hq hentries hfind => exact Or.inl ⟨nofun, nofun, Or.inr rfl, nofun⟩
  | dropMissed hq => exact Or.inl ⟨nofun, nofun, Or.inr rfl, nofun⟩
  | clear hfull => exact Or.inl ⟨nofun, nofun, Or.inr rfl, nofun⟩
  | addBelow hroom hopens => exact Or.inr (Or.inr ⟨_, nofun, ⟨_, hopens, rfl⟩, rfl, rfl⟩)
  | addCleared hopens => exact Or.inr (Or.inr ⟨_, nofun, ⟨_, hopens, rfl⟩, rfl, rfl⟩)

/-! ### What has happened to sessions -/

/-- A call has taken a stored text out of the list at a key. -/
def TookOut (key : String) (past : List (Happening n)) (i : Fin n) (raw : String) : Prop :=
  Happening.asked i ⟨.cache (.remove key raw), .ok true⟩ ∈ past

/--
A call has put a session into the list of a user: its own fingerprint with a refresh token
that it has made.
-/
structure Opened (s : Service) (requests : Fin n → Request) (user : UserId)
    (past : List (Happening n)) (i : Fin n) (e : Entry) : Prop where
  fingerprint : ∃ f, (requests i).fingerprint? = some f ∧ e.fingerprint = f.text
  minted : s.Minted user (own i past) e.refreshToken
  pushed : ∃ ttl, Happening.asked i ⟨.cache (.push (Registry.key user) e.encode ttl), .ok ()⟩ ∈ past

/-- No two calls have opened sessions with the same token. -/
def Fresh (s : Service) (requests : Fin n → Request) (user : UserId)
    (past : List (Happening n)) : Prop :=
  ∀ i j e e', s.Opened requests user past i e → s.Opened requests user past j e' →
    e.refreshToken = e'.refreshToken → i = j

theorem own_subset_cons (h : Happening n) : own i past ⊆ own i (h :: past) := by
  intro x hx
  rw [mem_own] at hx ⊢
  exact List.mem_cons_of_mem _ hx

theorem Opened.mono (ho : s.Opened requests user past i e) (h : Happening n) :
    s.Opened requests user (h :: past) i e :=
  ⟨ho.fingerprint, ho.minted.mono (own_subset_cons h),
    ho.pushed.imp fun _ hmem => List.mem_cons_of_mem _ hmem⟩

theorem Fresh.of_cons {h : Happening n} (hfresh : s.Fresh requests user (h :: past)) :
    s.Fresh requests user past :=
  fun i j e e' hi hj => hfresh i j e e' (hi.mono h) (hj.mono h)

theorem Opened.colon_notMem (ho : s.Opened requests user past i e) :
    ':' ∉ e.refreshToken.toList := by
  obtain ⟨now, id, noise, expiry, _, _, _, hmint⟩ := ho.minted
  exact Token.Codec.colon_notMem_of_mint hmint

/-- A call that adds a session has opened it. -/
theorem Adds.opened {x : Asked} {l l' : List String}
    (h : Adds s (requests i) (Registry.key user) raw (s.place requests i past) l x
      (s.place requests i (.asked i x :: past)).phase l') :
    ∃ e, s.Opened requests user (.asked i x :: past) i e ∧ raw = e.encode := by
  obtain ⟨ttl, ⟨user', f, token, seconds, hkey, hf, hraw, hminted, _, _⟩, hx⟩ := h.event
  obtain rfl : user = user' := Registry.key_inj hkey
  rw [seen_place] at hminted
  refine ⟨⟨f.text, token⟩, ⟨⟨f, hf, rfl⟩, hminted.mono (own_subset_cons _), ttl, ?_⟩, hraw⟩
  rw [← hraw, hx]
  exact List.mem_cons_self

/-- The token of a session is told by what is read from its text. -/
theorem Opened.token_of_parse? (ho : s.Opened requests user past i e) {read : Entry}
    (hparse : Entry.parse? e.encode = some read) :
    e.refreshToken = String.ofList (read.refreshToken.toList.dropWhile (· == ':')) := by
  obtain ⟨f, _, hf⟩ := ho.fingerprint
  obtain ⟨fingerprint, token⟩ := e
  obtain rfl : fingerprint = f.text := hf
  exact Entry.token_of_parse? ho.colon_notMem hparse

/-! ### The invariant -/

/-- How the list of a user and what has happened to sessions belong together. -/
structure Tracked (s : Service) (requests : Fin n → Request) (user : UserId)
    (past : List (Happening n)) (l : List String) : Prop where
  /-- The list consists of sessions with different tokens. -/
  listed : ∃ opened : List (Fin n × Entry), l = opened.map (·.2.encode) ∧
    (opened.map (·.2.refreshToken)).Nodup ∧ ∀ o ∈ opened, s.Opened requests user past o.1 o.2
  /-- A call that has added a session is done with the list. -/
  pushed : ∀ i raw ttl,
    Happening.asked i ⟨.cache (.push (Registry.key user) raw ttl), .ok ()⟩ ∈ past →
      (s.place requests i past).phase = .added (Registry.key user) raw
  /-- What was taken out was a session, and is no longer there. -/
  spent : ∀ i raw, TookOut (Registry.key user) past i raw →
    raw ∉ l ∧ ∃ j e, s.Opened requests user past j e ∧ raw = e.encode
  /-- What a call has taken out holds the token that it was given. -/
  found : ∀ i raw, TookOut (Registry.key user) past i raw →
    ∃ read, Entry.parse? raw = some read ∧ (requests i).token? = some read.refreshToken
  /-- No text was taken out by two calls. -/
  once : ∀ i j raw, TookOut (Registry.key user) past i raw →
    TookOut (Registry.key user) past j raw → i = j

/-- A call has opened at most one session. -/
theorem Tracked.opened_unique {l : List String} (h : s.Tracked requests user past l)
    (ho : s.Opened requests user past i e) (ho' : s.Opened requests user past i e') : e = e' := by
  obtain ⟨ttl, hpushed⟩ := ho.pushed
  obtain ⟨ttl', hpushed'⟩ := ho'.pushed
  have hphase := (h.pushed i _ _ hpushed).symm.trans (h.pushed i _ _ hpushed')
  exact Entry.encode_inj ho.colon_notMem ho'.colon_notMem (Phase.added.inj hphase).2

/-- Before anything has happened, an empty list is all there has to be. -/
theorem Tracked.start : s.Tracked requests user [] [] where
  listed := ⟨[], rfl, List.nodup_nil, nofun⟩
  pushed := nofun
  spent := nofun
  found := nofun
  once := nofun

/-- What is read when a session was sought is the token that was given. -/
theorem parse?_of_finds? {q : Request} {entries : List String}
    (h : q.finds? entries = some raw) :
    ∃ read, Entry.parse? raw = some read ∧ q.token? = some read.refreshToken := by
  cases q with
  | login login password fingerprint => cases h
  | refresh fingerprint token => exact ⟨_, (Registry.parse?_of_find? h).2, rfl⟩
  | logout token =>
    obtain ⟨_, read, hparse, rfl⟩ := Registry.parse?_of_findToken? h
    exact ⟨read, hparse, rfl⟩

/-! ### Every step keeps it -/

variable {x : Asked} {l l' : List String}

/-- An event of one call is new, or it was there before. -/
theorem asked_mem_cons {c : Asked} (h : Happening.asked j c ∈ (Happening.asked i x :: past)) :
    (j = i ∧ c = x) ∨ Happening.asked j c ∈ past := by
  rcases List.mem_cons.mp h with heq | hmem
  · cases heq
    exact Or.inl ⟨rfl, rfl⟩
  · exact Or.inr hmem

/-- Calls that have added a session keep their phase, whichever call moves. -/
theorem Tracked.pushed_asked (h : s.Tracked requests user past l)
    (hself : ∀ raw ttl,
      Happening.asked i ⟨.cache (.push (Registry.key user) raw ttl), .ok ()⟩ ∈
        (Happening.asked i x :: past) →
      (s.place requests i (.asked i x :: past)).phase = .added (Registry.key user) raw)
    (j : Fin n) (raw : String) (ttl : Option Nat)
    (hmem : Happening.asked j ⟨.cache (.push (Registry.key user) raw ttl), .ok ()⟩ ∈
      (Happening.asked i x :: past)) :
    (s.place requests j (.asked i x :: past)).phase = .added (Registry.key user) raw := by
  by_cases hj : i = j
  · subst hj
    exact hself raw ttl hmem
  · rw [place_asked_ne hj]
    rcases asked_mem_cons hmem with ⟨heq, _⟩ | hold
    · exact absurd heq.symm hj
    · exact h.pushed j raw ttl hold

theorem Tracked.quiet (h : s.Tracked requests user past l)
    (hquiet : Quiet (Registry.key user) (s.place requests i past) l x
      (s.place requests i (.asked i x :: past)).phase l') :
    s.Tracked requests user (.asked i x :: past) l' := by
  have hold : ∀ j raw, TookOut (Registry.key user) (.asked i x :: past) j raw →
      TookOut (Registry.key user) past j raw := by
    intro j raw hmem
    rcases asked_mem_cons hmem with ⟨_, heq⟩ | hmem
    · exact absurd heq.symm (hquiet.noTake raw)
    · exact hmem
  have hsub : ∀ raw, raw ∈ l' → raw ∈ l := by
    intro raw hraw
    rcases hquiet.list with heq | heq <;> rw [heq] at hraw
    · exact hraw
    · cases hraw
  refine ⟨?_, h.pushed_asked ?_, ?_, ?_, ?_⟩
  · obtain ⟨opened, hl, hnodup, hopened⟩ := h.listed
    rcases hquiet.list with heq | heq
    · exact ⟨opened, heq.trans hl, hnodup, fun o ho => (hopened o ho).mono _⟩
    · exact ⟨[], heq, List.nodup_nil, nofun⟩
  · intro raw ttl hmem
    rcases asked_mem_cons hmem with ⟨_, heq⟩ | hmem
    · exact absurd heq.symm (hquiet.noPush raw ttl)
    · exact hquiet.stays raw (h.pushed i raw ttl hmem)
  · intro j raw hmem
    obtain ⟨hnot, k, e, hopened, hraw⟩ := h.spent j raw (hold j raw hmem)
    exact ⟨fun hin => hnot (hsub raw hin), k, e, hopened.mono _, hraw⟩
  · exact fun j raw hmem => h.found j raw (hold j raw hmem)
  · exact fun j k raw hj hk => h.once j k raw (hold j raw hj) (hold k raw hk)

theorem Tracked.takes (h : s.Tracked requests user past l)
    (htakes : Takes (requests i) (Registry.key user) raw (s.place requests i past) l x
      (s.place requests i (.asked i x :: past)).phase l') :
    s.Tracked requests user (.asked i x :: past) l' := by
  -- What was taken out is this text, now and by this call, or something that was gone before.
  have hsplit : ∀ j other, TookOut (Registry.key user) (.asked i x :: past) j other →
      (j = i ∧ other = raw) ∨ (TookOut (Registry.key user) past j other ∧ other ≠ raw) := by
    intro j other hmem
    rcases asked_mem_cons hmem with ⟨rfl, heq⟩ | hmem
    · rw [htakes.event] at heq
      cases heq
      exact Or.inl ⟨rfl, rfl⟩
    · exact Or.inr ⟨hmem, fun heq => (h.spent j other hmem).1 (heq ▸ htakes.mem)⟩
  obtain ⟨opened, hl, hnodup, hopened⟩ := h.listed
  refine ⟨⟨opened.filter (·.2.encode != raw), ?_, ?_, ?_⟩, h.pushed_asked ?_, ?_, ?_, ?_⟩
  · rw [htakes.list, hl, List.filter_map]
    rfl
  · exact hnodup.sublist (List.Sublist.map _ List.filter_sublist)
  · exact fun o ho => (hopened o (List.mem_filter.mp ho).1).mono _
  · intro other ttl hmem
    rcases asked_mem_cons hmem with ⟨_, heq⟩ | hmem
    · rw [htakes.event] at heq
      cases heq
    · obtain ⟨entries, hphase, _⟩ := htakes.found
      cases hphase.symm.trans (h.pushed i other ttl hmem)
  · intro j other hmem
    rcases hsplit j other hmem with ⟨rfl, rfl⟩ | ⟨hmem, _⟩
    · obtain ⟨o, ho, hraw⟩ := List.mem_map.mp (hl ▸ htakes.mem)
      refine ⟨?_, o.1, o.2, (hopened o ho).mono _, hraw.symm⟩
      rw [htakes.list, List.mem_filter]
      simp
    · obtain ⟨hnot, k, e, hopened, hraw⟩ := h.spent j other hmem
      refine ⟨fun hin => hnot ?_, k, e, hopened.mono _, hraw⟩
      rw [htakes.list] at hin
      exact (List.mem_filter.mp hin).1
  · intro j other hmem
    rcases hsplit j other hmem with ⟨rfl, rfl⟩ | ⟨hmem, _⟩
    · obtain ⟨entries, _, hfinds⟩ := htakes.found
      exact parse?_of_finds? hfinds
    · exact h.found j other hmem
  · intro j k other hj hk
    rcases hsplit j other hj with ⟨rfl, rfl⟩ | ⟨hj, hne⟩
    · rcases hsplit k _ hk with ⟨rfl, _⟩ | ⟨_, hne⟩
      · rfl
      · exact absurd rfl hne
    · rcases hsplit k _ hk with ⟨_, rfl⟩ | ⟨hk, _⟩
      · exact absurd rfl hne
      · exact h.once j k other hj hk

theorem Tracked.adds (h : s.Tracked requests user past l)
    (hadds : Adds s (requests i) (Registry.key user) raw (s.place requests i past) l x
      (s.place requests i (.asked i x :: past)).phase l')
    (hfresh : s.Fresh requests user (.asked i x :: past)) :
    s.Tracked requests user (.asked i x :: past) l' := by
  obtain ⟨new, hnew, hraw⟩ := hadds.opened
  obtain ⟨_, _, hx⟩ := hadds.event
  -- Whoever opened a session with this token is this call, which has not opened any yet.
  have hunknown : ∀ j e, s.Opened requests user past j e → e.refreshToken ≠ new.refreshToken := by
    intro j e hopened htoken
    obtain rfl : j = i := hfresh _ _ _ _ (hopened.mono _) hnew htoken
    obtain ⟨ttl, hpushed⟩ := hopened.pushed
    exact hadds.first _ (h.pushed j _ _ hpushed)
  have hold : ∀ j other, TookOut (Registry.key user) (.asked i x :: past) j other →
      TookOut (Registry.key user) past j other := by
    intro j other hmem
    rcases asked_mem_cons hmem with ⟨_, heq⟩ | hmem
    · rw [hx] at heq
      cases heq
    · exact hmem
  obtain ⟨opened, hl, hnodup, hopened⟩ := h.listed
  refine ⟨⟨(i, new) :: opened, ?_, ?_, ?_⟩, h.pushed_asked ?_, ?_, ?_, ?_⟩
  · rw [hadds.list, hl, hraw]
    rfl
  · rw [List.map_cons, List.nodup_cons]
    refine ⟨fun hmem => ?_, hnodup⟩
    obtain ⟨o, ho, htoken⟩ := List.mem_map.mp hmem
    exact hunknown _ _ (hopened o ho) htoken
  · intro o ho
    rcases List.mem_cons.mp ho with rfl | ho
    · exact hnew
    · exact (hopened o ho).mono _
  · intro other ttl' hmem
    rcases asked_mem_cons hmem with ⟨_, heq⟩ | hmem
    · rw [hx] at heq
      cases heq
      exact hadds.phase
    · exact absurd (h.pushed i other ttl' hmem) (hadds.first other)
  · intro j other hmem
    obtain ⟨hnot, k, e, hopened, hother⟩ := h.spent j other (hold j other hmem)
    refine ⟨fun hin => ?_, k, e, hopened.mono _, hother⟩
    rw [hadds.list] at hin
    rcases List.mem_cons.mp hin with heq | hin
    · have hsame : e = new :=
        Entry.encode_inj hopened.colon_notMem hnew.colon_notMem (by rw [← hother, heq, hraw])
      exact hunknown k e hopened (by rw [hsame])
    · exact hnot hin
  · exact fun j other hmem => h.found j other (hold j other hmem)
  · exact fun j k other hj hk => h.once j k other (hold j other hj) (hold k other hk)

theorem Tracked.waited {later : Instant} (h : s.Tracked requests user past l)
    (hl' : l' = l ∨ l' = []) : s.Tracked requests user (.waited later :: past) l' := by
  have hmem : ∀ {j : Fin n} {c : Asked},
      Happening.asked j c ∈ (Happening.waited later :: past) → Happening.asked j c ∈ past := by
    intro j c hin
    rcases List.mem_cons.mp hin with heq | hin
    · cases heq
    · exact hin
  refine ⟨?_, fun j raw ttl hin => h.pushed j raw ttl (hmem hin), ?_,
    fun j raw hin => h.found j raw (hmem hin),
    fun j k raw hj hk => h.once j k raw (hmem hj) (hmem hk)⟩
  · obtain ⟨opened, hl, hnodup, hopened⟩ := h.listed
    rcases hl' with rfl | rfl
    · exact ⟨opened, hl, hnodup, fun o ho => (hopened o ho).mono _⟩
    · exact ⟨[], rfl, List.nodup_nil, nofun⟩
  · intro j raw hin
    obtain ⟨hnot, k, e, hopened, hraw⟩ := h.spent j raw (hmem hin)
    refine ⟨fun hin' => ?_, k, e, hopened.mono _, hraw⟩
    rcases hl' with rfl | rfl
    · exact hnot hin'
    · cases hin'

/-- The list of a user is tracked in every run that begins without sessions. -/
theorem Run.tracked {w : World Store} {a : Scene Store n}
    (hempty : sessions w (Registry.key user) = [])
    (hrun : Run inMemory (s.opening requests w) past a) (hfresh : s.Fresh requests user past) :
    s.Tracked requests user past (sessions a.world (Registry.key user)) := by
  have htracked := hrun.invariant (Registry.key user)
    (P := fun past l => s.Fresh requests user past → s.Tracked requests user past l)
    ?start ?move ?wait
  case start => exact fun _ => hempty ▸ Tracked.start
  case move =>
    intro past l i x l' ih hmove hfresh
    have hbefore := ih hfresh.of_cons
    rcases hmove.quiet_or_takes_or_adds with hquiet | ⟨raw, htakes⟩ | ⟨raw, hadds⟩
    · exact hbefore.quiet hquiet
    · exact hbefore.takes htakes
    · exact hbefore.adds hadds hfresh
  case wait =>
    intro past l later l' ih hl' hfresh
    exact (ih hfresh.of_cons).waited hl'
  exact htracked hfresh

/-! ### Success -/

/-- A call that was given a token and has got past taking a session out has done so. -/
theorem Run.tookOut {w : World Store} {a : Scene Store n} {token : String}
    (hrun : Run inMemory (s.opening requests w) past a)
    (htoken : (requests i).token? = some token)
    (hphase : (s.place requests i past).phase.hasTaken key = true) :
    ∃ raw, TookOut key past i raw := by
  have htaken := hrun.invariant key
    (P := fun past _ => ∀ i, (requests i).token? ≠ none →
      (s.place requests i past).phase.hasTaken key = true → ∃ raw, TookOut key past i raw)
    ?start ?move ?wait
  case start => exact fun i _ h => nomatch h
  case wait =>
    intro past l later l' ih _ i hi h
    exact (ih i hi h).imp fun raw hmem => List.mem_cons_of_mem _ hmem
  case move =>
    intro past l j x l' ih hmove i hi h
    by_cases hj : j = i
    · subst hj
      have hbefore : (s.place requests j past).phase.hasTaken key = true →
          ∃ raw, TookOut key (.asked j x :: past) j raw :=
        fun h => (ih j hi h).imp fun raw hmem => List.mem_cons_of_mem _ hmem
      generalize s.place requests j past = p at hmove hbefore
      generalize (s.place requests j (.asked j x :: past)).phase = φ at hmove h
      cases hmove with
      | aside hx => exact hbefore h
      | elsewhere hc _ hafter => cases φ <;> simp_all [Phase.hasTaken, Phase.key?]
      | countFirst hq => exact absurd hq hi
      | take hfind hmem => exact ⟨_, List.mem_cons_self⟩
      | countAgain hq => exact hbefore (by simp [Phase.hasTaken])
      | clear hfull => exact hbefore (by simp [Phase.hasTaken])
      | addBelow hroom hopens => exact hbefore (by simp [Phase.hasTaken])
      | addCleared hopens => exact hbefore (by simp [Phase.hasTaken])
      | _ => cases h
    · rw [place_asked_ne hj] at h
      exact (ih i hi h).imp fun raw hmem => List.mem_cons_of_mem _ hmem
  exact htaken i (by simp [htoken]) hphase

/-- A call that was given a token and has succeeded has taken a session of its user out. -/
theorem Run.tookOut_of_ok {w : World Store} {a : Scene Store n} {token : String}
    {issued : Option IssuedTokens} (hrun : Run inMemory (s.opening requests w) past a)
    (htoken : (requests i).token? = some token) (hnames : s.codec.Names token user)
    (hdone : a.calls i = .done (.ok issued)) :
    ∃ raw, TookOut (Registry.key user) past i raw := by
  have hends := hrun.ends (fun _ _ _ _ _ => expected_of_answers) hdone
  -- The call has taken a session out of some list, which is that of the user of the token.
  have htaken : ∃ k, (s.place requests i past).phase.hasTaken k = true ∧
      (s.place requests i past).phase.key? = some k := by
    generalize s.place requests i past = p at hends
    obtain ⟨seen, φ⟩ := p
    cases hq : requests i <;> rw [hq] at hends htoken <;> cases φ <;>
      simp_all [Request.Ends, Request.token?, Phase.hasTaken, Phase.key?]
  obtain ⟨k, hphase, hkey⟩ := htaken
  obtain ⟨user', rfl, hnames'⟩ := hrun.isAbout hkey
  rw [hnames.unique (hnames' token htoken)]
  exact hrun.tookOut htoken hphase

/--
**A refresh token is used at most once.**  In a run that begins without sessions, and in
which no two calls make the same token, the list of a user consists of sessions that calls
of the run have opened, each with its own fingerprint and a token that it has made, and
no token is there twice; of all calls that are given one token at most one takes a session
out, and only such a call succeeds.
-/
theorem single_use {w : World Store} {a : Scene Store n}
    (hempty : sessions w (Registry.key user) = [])
    (hrun : Run inMemory (s.opening requests w) past a) (hfresh : s.Fresh requests user past) :
    (∃ opened : List (Fin n × Entry),
      sessions a.world (Registry.key user) = opened.map (·.2.encode) ∧
      (opened.map (·.2.refreshToken)).Nodup ∧
      ∀ o ∈ opened, s.Opened requests user past o.1 o.2) ∧
    (∀ token i j raw raw', (requests i).token? = some token → (requests j).token? = some token →
      TookOut (Registry.key user) past i raw → TookOut (Registry.key user) past j raw' → i = j) ∧
    ∀ token i issued, (requests i).token? = some token → s.codec.Names token user →
      a.calls i = .done (.ok issued) → ∃ raw, TookOut (Registry.key user) past i raw := by
  have htracked := hrun.tracked hempty hfresh
  refine ⟨htracked.listed, ?_, fun token i issued => hrun.tookOut_of_ok⟩
  intro token i j raw raw' hi hj htook htook'
  obtain ⟨_, k, e, hopened, rfl⟩ := htracked.spent i raw htook
  obtain ⟨_, k', e', hopened', rfl⟩ := htracked.spent j raw' htook'
  obtain ⟨read, hparse, hread⟩ := htracked.found i _ htook
  obtain ⟨read', hparse', hread'⟩ := htracked.found j _ htook'
  -- Both calls were given this token, so both have taken out the session that holds it.
  have hsame : read.refreshToken = read'.refreshToken :=
    Option.some.inj (hread.symm.trans (hi.trans (hj.symm.trans hread')))
  have htoken : e.refreshToken = e'.refreshToken := by
    rw [hopened.token_of_parse? hparse, hopened'.token_of_parse? hparse', hsame]
  obtain rfl : k = k' := hfresh _ _ _ _ hopened hopened' htoken
  obtain rfl : e = e' := htracked.opened_unique hopened hopened'
  exact htracked.once i j _ htook htook'

theorem single_use_logout : ∃ past a,
    Run inMemory ((Sample.service 1).opening Sample.loginLogout Sample.world) past a ∧
    (∃ raw, TookOut (Registry.key Sample.ada.id) past 1 raw) ∧
    ∀ i raw, (Sample.loginLogout i).token? = some Sample.token →
      TookOut (Registry.key Sample.ada.id) past i raw → i = 1 := by
  have hstart : Run inMemory ((Sample.service 1).opening Sample.loginLogout Sample.world) []
    ((Sample.service 1).opening Sample.loginLogout Sample.world) := .start
  obtain ⟨tokens, w₁, hlogin, hage, hsettled⟩ :=
    Sample.login_ok 1 (0 : Fin 2) (w := Sample.world) rfl rfl
  obtain ⟨past₁, hrun₁⟩ := hstart.alone (i := 0) rfl hlogin
  -- The session that was opened is the one to be ended.
  have hbearer : (Sample.service 1).bearer w₁.store.2.users w₁.now Sample.token =
      .ok Sample.ada := by
    rw [hsettled.users, hsettled.now]
    exact Sample.bearer
  have hlist : sessions w₁ (Registry.key Sample.ada.id) =
      [(Sample.fingerprint, Sample.token)].map Registry.stored := by
    rw [hsettled.sessions, sessions_withCache, values_registered rfl hage]
    rfl
  have hfind : Registry.findToken? Sample.token (sessions w₁ (Registry.key Sample.ada.id)) =
      some (Registry.stored (Sample.fingerprint, Sample.token)) := by
    rw [hlist]
    have hcolon : Sample.fingerprint.endsInColon = false := by decide
    exact Registry.findToken?_stored (Sample.names 1).head?_ne List.mem_cons_self hcolon
      (List.nodup_singleton _)
  obtain ⟨w₂, hlogout, _⟩ := Alone.logout_found (chosen Sample.zeros) (1 : Fin 2) hbearer hfind
  obtain ⟨past₂, hrun₂⟩ := hrun₁.alone (i := 1) (Scene.moved_ne (by decide) _ _) hlogout
  -- Only the first call opens a session.
  have hfresh : (Sample.service 1).Fresh Sample.loginLogout Sample.ada.id
      (past₂ ++ (past₁ ++ [])) := by
    have hfirst : ∀ i e, (Sample.service 1).Opened Sample.loginLogout Sample.ada.id
        (past₂ ++ (past₁ ++ [])) i e → i = 0 := by
      intro i e hopened
      obtain ⟨f, hf, _⟩ := hopened.fingerprint
      by_contra hi
      obtain rfl : i = 1 := by omega
      have hnone : none = some f := hf
      cases hnone
    intro i j e e' hi hj _
    rw [hfirst i e hi, hfirst j e' hj]
  obtain ⟨_, honce, hsuccess⟩ := single_use rfl hrun₂ hfresh
  obtain ⟨raw, htook⟩ := hsuccess Sample.token 1 none rfl (Sample.names 1) (Scene.moved_self _ _)
  refine ⟨_, _, hrun₂, ⟨raw, htook⟩, fun i raw' htoken htook' => ?_⟩
  exact honce Sample.token i 1 raw' raw htoken rfl htook' htook

end SessionAuth.Service
