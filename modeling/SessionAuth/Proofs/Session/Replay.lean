/-
Two refreshes with the same session.

When one of two calls that were given the same fingerprint and token is told that its
session was revoked, one might expect that nothing is left: presenting a used token is
what drops all sessions.  That depends on the order of two commands, the drop by the call
that lost and the push by the call that won.  If the push comes last, the new session
stays, and for every session there is a run in which it does (`exists_replay_survives`).

`Replayed` is what holds from then on: the list is what was pushed after the drop, and
nothing if there was no push.  A call that finds the list empty drops nothing, since
there is nothing to be dropped, and counts as one that lost as well.
-/
import SessionAuth.Proofs.Service.Schedule
import SessionAuth.Proofs.Session.Expiry

namespace SessionAuth.Service

open Session (Registry Entry Fingerprint)

/-! ### The invariant -/

/-- A refresh in this phase answers that its session was revoked. -/
def Phase.HasLost (key : String) (φ : Phase) : Prop := φ = .searching key [] ∨ φ = .dropped key

/--
The list of two calls, one of which has not taken a session out: their phases, the
instant at which what was pushed expires, the time and the list.
-/
structure Replayed (key : String) (φ ψ : Phase) (kept : Option Instant) (now : Instant)
    (l : List String) : Prop where
  /-- Only the other call can have pushed, and it is done with the list then. -/
  pushed : ∀ t, kept = some t → ∃ raw, ψ = .added key raw
  /-- When the call has lost, nothing is left but what was pushed since. -/
  gone : φ.HasLost key → kept = none → l = []
  left : φ.HasLost key → ∀ t, kept = some t → now.nanos < t.nanos →
    ∃ raw, ψ = .added key raw ∧ l = [raw]
  /-- What was pushed is found by a call that comes later. -/
  stays : φ.key? ≠ some key → ∀ t, kept = some t → now.nanos < t.nanos → l ≠ []

variable {n : Nat} {s : Service} {key : String} {start now : Instant} {i : Fin n}
  {past : List (Happening n)} {q : Request} {p : Place} {x : Asked} {l l' : List String}
  {φ ψ χ : Phase}

/-- Commands to other lists, and whatever is not a command to the cache, change no expiry. -/
theorem keptUntil_aside (hx : ∀ c, x.command ≠ .cache c) :
    keptUntil start key (.asked i x :: past) = keptUntil start key past := by
  obtain ⟨e, reply⟩ := x
  cases e with
  | cache c => exact absurd rfl (hx c)
  | _ => rfl

theorem keptUntil_elsewhere {c : Cache.Command} {reply : c.Reply} (hc : c.key ≠ key) :
    keptUntil start key (.asked i ⟨.cache c, .ok reply⟩ :: past) = keptUntil start key past := by
  cases c with
  | push k raw ttl =>
    have hk : k ≠ key := hc
    cases ttl with
    | none => rfl
    | some seconds => exact if_neg hk
  | delete k =>
    have hk : k ≠ key := hc
    exact if_neg hk
  | _ => rfl

/-! ### Every step keeps it -/

/-- Right after a drop nothing is left. -/
theorem Replayed.of_none {kept : Option Instant} (hkept : kept = none) :
    Replayed key φ ψ kept now [] := by
  refine ⟨fun t h => ?_, fun _ _ => rfl, fun _ t h => ?_, fun _ t h => ?_⟩
  all_goals
    rw [hkept] at h
    cases h

/-- A step of the call that has not taken a session out. -/
theorem Replayed.loser (h : Replayed key p.phase ψ (keptUntil start key past) now l)
    (hmove : Move s q key p l x φ l') (htoken : q.token? ≠ none)
    (hnot : φ.hasTaken key = false) :
    Replayed key φ ψ (keptUntil start key (.asked i x :: past)) now l' := by
  cases hmove with
  | aside hx =>
    rw [keptUntil_aside hx]
    exact h
  | elsewhere hc hbefore hafter =>
    rw [keptUntil_elsewhere hc]
    have hother : ¬ φ.HasLost key := by
      rintro (rfl | rfl)
      · exact hafter rfl
      · exact hafter rfl
    exact ⟨h.pushed, fun hlost => absurd hlost hother, fun hlost => absurd hlost hother,
      fun _ => h.stays hbefore⟩
  | search hq habout =>
    -- The call has lost if it reads an empty list, and then nothing that was pushed is left.
    have hlost : (Phase.searching key l).HasLost key → l = [] := by
      rintro (heq | heq)
      · exact (Phase.searching.inj heq).2
      · cases heq
    refine ⟨h.pushed, fun hl _ => hlost hl, fun hl t ht hnow => ?_, fun hkey => absurd rfl hkey⟩
    exact absurd (hlost hl) (h.stays nofun t ht hnow)
  | countFirst hq => exact absurd hq htoken
  | miss hfind hmem =>
    refine ⟨h.pushed, ?_, ?_, fun hkey => absurd rfl hkey⟩ <;> rintro (heq | heq) <;> cases heq
  | dropUnfound hq hentries hfind => exact .of_none (if_pos rfl)
  | dropMissed hq => exact .of_none (if_pos rfl)
  | _ => simp [Phase.hasTaken] at hnot

/-- A step of the other call. -/
theorem Replayed.winner (h : Replayed key φ p.phase (keptUntil start key past) now l)
    (hmove : Move s q key p l x χ l') :
    Replayed key φ χ (keptUntil start key (.asked i x :: past)) now l' := by
  -- Before the other call has pushed, nothing has been pushed since the last drop.
  have hnone : (∀ raw, p.phase ≠ .added key raw) → keptUntil start key past = none := by
    intro hother
    cases hkept : keptUntil start key past with
    | none => rfl
    | some t =>
      obtain ⟨raw, hraw⟩ := h.pushed t hkept
      exact absurd hraw (hother raw)
  -- A step that changes no expiry then leaves an empty list empty.
  have hquiet : (∀ raw, p.phase ≠ .added key raw) →
      keptUntil start key (.asked i x :: past) = keptUntil start key past → (l = [] → l' = []) →
      Replayed key φ χ (keptUntil start key (.asked i x :: past)) now l' := by
    intro hother hsame hempty
    rw [hsame, hnone hother]
    exact ⟨nofun, fun hlost _ => hempty (h.gone hlost (hnone hother)), nofun, nofun⟩
  have hadds : ∀ raw t, (∀ other, p.phase ≠ .added key other) → χ = .added key raw →
      keptUntil start key (.asked i x :: past) = some t →
      Replayed key φ χ (keptUntil start key (.asked i x :: past)) now (raw :: l) := by
    rintro raw t hother rfl hkept
    refine ⟨fun _ _ => ⟨raw, rfl⟩, fun _ hk => ?_, fun hlost _ _ _ => ⟨raw, rfl, ?_⟩,
      fun _ _ _ _ => nofun⟩
    · rw [hkept] at hk
      cases hk
    · rw [h.gone hlost (hnone hother)]
  cases hmove with
  | aside hx =>
    rw [keptUntil_aside hx]
    exact h
  | elsewhere hc hbefore hafter =>
    refine hquiet (fun raw hraw => ?_) (keptUntil_elsewhere hc) id
    exact hbefore (by rw [hraw]; rfl)
  | search hq habout => exact hquiet nofun rfl id
  | countFirst hq habout => exact hquiet nofun rfl id
  | countAgain hq => exact hquiet nofun rfl id
  | take hfind hmem => exact hquiet nofun rfl fun hl => by rw [hl]; rfl
  | miss hfind hmem => exact hquiet nofun rfl id
  | dropUnfound hq hentries hfind => exact .of_none (if_pos rfl)
  | dropMissed hq => exact .of_none (if_pos rfl)
  | clear hfull => exact .of_none (if_pos rfl)
  | addBelow hroom hopens =>
    obtain ⟨_, _, _, _, _, _, _, _, rfl, _⟩ := hopens
    exact hadds _ _ nofun rfl (if_pos rfl)
  | addCleared hopens =>
    obtain ⟨_, _, _, _, _, _, _, _, rfl, _⟩ := hopens
    exact hadds _ _ nofun rfl (if_pos rfl)

/-- While time passes, a list that is kept stays as it is. -/
theorem Replayed.waited {kept : Option Instant} {later : Instant}
    (h : Replayed key φ ψ kept now l) (hle : now.nanos ≤ later.nanos) (hl' : l' = l ∨ l' = [])
    (hkept : ∀ t, kept = some t → later.nanos < t.nanos → l' = l) :
    Replayed key φ ψ kept later l' := by
  refine ⟨h.pushed, fun hlost hk => ?_, fun hlost t ht hnow => ?_, fun hkey t ht hnow => ?_⟩
  · rcases hl' with rfl | rfl
    · exact h.gone hlost hk
    · rfl
  · rw [hkept t ht hnow]
    exact h.left hlost t ht (by omega)
  · rw [hkept t ht hnow]
    exact h.stays hkey t ht (by omega)

/-! ### Two calls -/

variable {fingerprint : Fingerprint} {token : String} {user : UserId} {w : World Store}
  {past : List (Happening 2)} {a : Scene Store 2} {i j : Fin 2}

/-- Two requests to refresh the same session. -/
def replay (fingerprint : Fingerprint) (token : String) : Fin 2 → Request :=
  fun _ => .refresh fingerprint token

/-- In every run of two such calls the list is as the invariant says, for either call. -/
theorem Run.replayed (hrun : Run inMemory (s.opening (replay fingerprint token) w) past a)
    (hij : i ≠ j)
    (hnot : (s.place (replay fingerprint token) i past).phase.hasTaken key = false) :
    Replayed key (s.place (replay fingerprint token) i past).phase
      (s.place (replay fingerprint token) j past).phase (keptUntil w.now key past) a.world.now
      (sessions a.world key) := by
  induction hrun with
  | start =>
    have hnot : ¬ Phase.HasLost key .arriving := nofun
    exact ⟨nofun, fun hlost => absurd hlost hnot, nofun, nofun⟩
  | @step past h a c hrun hstep ih =>
    cases h with
    | waited later =>
      have hbefore := ih hnot
      have hle : a.world.now.nanos ≤ later.nanos ∧ c.world.now = later := by
        cases hstep with
        | waits hle => exact ⟨hle, rfl⟩
      rw [hle.2]
      exact hbefore.waited hle.1 (sessions_waited hstep) fun t ht hnow =>
        hrun.sessions_waited_eq ht hstep hnow
    | asked k x =>
      have hmove := hrun.move key hstep
      have hnow : c.world.now = a.world.now := by
        rw [(Run.step hrun hstep).now_eq, hrun.now_eq]
        rfl
      rw [hnow]
      by_cases hk : k = i
      · subst hk
        rw [place_asked_ne hij]
        have hfirst : (s.place (replay fingerprint token) k past).phase.hasTaken key = false := by
          rw [Bool.eq_false_iff]
          intro htaken
          rw [hmove.hasTaken htaken] at hnot
          cases hnot
        exact (ih hfirst).loser hmove nofun hnot
      · obtain rfl : k = j := by omega
        rw [place_asked_ne hk] at hnot ⊢
        exact (ih hnot).winner hmove

/-! ### When the push comes last -/

/--
**Any session can outlive its replay.**  One call takes the session out, then the other
one finds it gone and drops what there is, and only then the first one adds the session
that it has opened.
-/
theorem exists_replay_survives {user : User}
    (h : s.bearer w.store.2.users w.now token = .ok user) {raw : String}
    (hfind : Registry.find? fingerprint.text token (sessions w (Registry.key user.id)) = some raw)
    (hmint : s.CanMint user.id w.now) :
    ∃ past a tokens, Run inMemory (s.opening (replay fingerprint token) w) past a ∧
      a.calls 0 = .done (.ok (some tokens)) ∧ a.calls 1 = .done (.error .sessionRevoked) ∧
      sessions a.world (Registry.key user.id) =
        [Entry.encode ⟨fingerprint.text, tokens.refresh⟩] := by
  have hstart : Run inMemory (s.opening (replay fingerprint token) w) []
      (s.opening (replay fingerprint token) w) := .start
  obtain ⟨w₁, htaken, hsettled₁⟩ := ahead_refresh (chosen fun _ => 0) 0 h hfind
  obtain ⟨past₁, hrun₁⟩ := hstart.ahead (i := 0) rfl htaken
  -- The other call does not find the session any more.
  have hbearer : s.bearer w₁.store.2.users w₁.now token = .ok user := by
    rw [hsettled₁.users, hsettled₁.now]
    exact h
  have hgone : Registry.find? fingerprint.text token (sessions w₁ (Registry.key user.id)) =
      none := by
    rw [hsettled₁.sessions, sessions_withCache, Cache.Memory.values_remove_self]
    exact Registry.find?_filter hfind
  obtain ⟨w₂, hrevoked, hempty, hnow⟩ := Alone.refresh_absent (chosen fun _ => 0) 1 hbearer hgone
  obtain ⟨past₂, hrun₂⟩ := hrun₁.alone (i := 1) (Scene.moved_ne (by decide) _ _) hrevoked
  -- What the first call has left to do adds a session to the empty list.
  have hmint₂ : s.CanMint user.id w₂.now := by
    rw [hnow, hsettled₁.now]
    exact hmint
  obtain ⟨tokens, hissues, w₃, hreissued, hsettled₃⟩ :=
    Alone.reissue_ok (chosen fun _ => 0) 0 fingerprint hmint₂
  obtain ⟨past₃, hrun₃⟩ := hrun₂.ahead (i := 0)
    ((Scene.moved_ne (by decide) _ _).trans (Scene.moved_self _ _)) (.of_run hreissued)
  refine ⟨_, _, tokens, hrun₃, Scene.moved_self _ _, ?_, ?_⟩
  · exact (Scene.moved_ne (by decide) _ _).trans (Scene.moved_self _ _)
  · have hage : 1 ≤ tokens.maxAge := hissues.maxAge ▸ Instant.one_le_secondsUntil _ _
    show sessions w₃ (Registry.key user.id) = _
    rw [hsettled₃.sessions, sessions_withCache, values_registered hempty hage]

theorem exists_replay_opened : ∃ past a tokens,
    Run inMemory ((Sample.service 8).opening (replay Sample.fingerprint Sample.token) Sample.opened)
      past a ∧
    a.calls 0 = .done (.ok (some tokens)) ∧ a.calls 1 = .done (.error .sessionRevoked) ∧
    sessions a.world (Registry.key Sample.ada.id) =
      [Entry.encode ⟨Sample.fingerprint.text, tokens.refresh⟩] :=
  exists_replay_survives Sample.bearer_opened Sample.find?_opened
    (Sample.canMint _ (by decide) (by decide))

/-! ### What is left -/

/--
**What two refreshes with the same session leave behind.**  When one of them has answered
that the session was revoked, the list of the user is empty exactly if nothing was pushed
after it was last dropped, or if what was pushed has expired.  Otherwise it holds the
session that the other call has opened, and nothing else.
-/
theorem replay_survives (hnames : s.codec.Names token user)
    (hrun : Run inMemory (s.opening (replay fingerprint token) w) past a) (hij : i ≠ j)
    (hrevoked : a.calls i = .done (.error .sessionRevoked)) {answer : Answer}
    (hdone : a.calls j = .done answer) :
    (sessions a.world (Registry.key user) = [] ↔
      ∀ t, keptUntil w.now (Registry.key user) past = some t → t.nanos ≤ a.world.now.nanos) ∧
    (sessions a.world (Registry.key user) ≠ [] → ∃ tokens, answer = .ok (some tokens) ∧
      sessions a.world (Registry.key user) =
        [Entry.encode ⟨fingerprint.text, tokens.refresh⟩]) := by
  have hends := hrun.ends (fun _ _ _ _ _ => expected_of_answers) hrevoked
  have hends' := hrun.ends (fun _ _ _ _ _ => expected_of_answers) hdone
  -- The call that was told so has lost, at the list of the user whom the token names.
  have hphase : ∃ k, (s.place (replay fingerprint token) i past).phase.HasLost k := by
    generalize s.place (replay fingerprint token) i past = p at hends
    obtain ⟨seen, φ⟩ := p
    cases φ <;> simp_all [Request.Ends, replay, Phase.HasLost]
  obtain ⟨k, hlost⟩ := hphase
  have hkey : (s.place (replay fingerprint token) i past).phase.key? = some k := by
    rcases hlost with h | h <;> rw [h] <;> rfl
  obtain ⟨user', rfl, hnames'⟩ := hrun.isAbout hkey
  obtain rfl : user = user' := hnames.unique (hnames' token rfl)
  have hnot : (s.place (replay fingerprint token) i past).phase.hasTaken (Registry.key user) =
      false := by
    rcases hlost with h | h <;> rw [h] <;> rfl
  have hreplayed := hrun.replayed hij hnot
  -- What is there in time was pushed by the other call.
  have hleft : ∀ t, keptUntil w.now (Registry.key user) past = some t →
      a.world.now.nanos < t.nanos → ∃ tokens, answer = .ok (some tokens) ∧
        sessions a.world (Registry.key user) =
          [Entry.encode ⟨fingerprint.text, tokens.refresh⟩] := by
    intro t ht hnow
    obtain ⟨raw, hadded, hlist⟩ := hreplayed.left hlost t ht hnow
    obtain ⟨tokens, hanswer, hraw⟩ : ∃ tokens, answer = .ok (some tokens) ∧
        raw = Entry.encode ⟨fingerprint.text, tokens.refresh⟩ := by
      generalize s.place (replay fingerprint token) j past = p at hends' hadded
      obtain ⟨seen, φ⟩ := p
      obtain rfl : φ = .added (Registry.key user) raw := hadded
      exact hends'
    exact ⟨tokens, hanswer, by rw [hlist, hraw]⟩
  have hgone : (∀ t, keptUntil w.now (Registry.key user) past = some t →
      t.nanos ≤ a.world.now.nanos) → sessions a.world (Registry.key user) = [] := by
    intro hover
    cases hkept : keptUntil w.now (Registry.key user) past with
    | none => exact hreplayed.gone hlost hkept
    | some t => exact hrun.sessions_eq_nil hkept (hover t hkept)
  refine ⟨⟨fun hempty t ht => ?_, hgone⟩, fun hsome => ?_⟩
  · by_contra hnow
    obtain ⟨tokens, _, hlist⟩ := hleft t ht (by omega)
    rw [hempty] at hlist
    cases hlist
  · by_contra hnone
    refine hsome (hgone fun t ht => ?_)
    by_contra hnow
    exact hnone (hleft t ht (by omega))

theorem replay_survives_opened : ∃ past a tokens,
    Run inMemory ((Sample.service 8).opening (replay Sample.fingerprint Sample.token) Sample.opened)
      past a ∧
    a.calls 0 = .done (.ok (some tokens)) ∧ a.calls 1 = .done (.error .sessionRevoked) ∧
    (sessions a.world (Registry.key Sample.ada.id) = [] ↔
      ∀ t, keptUntil Sample.opened.now (Registry.key Sample.ada.id) past = some t →
        t.nanos ≤ a.world.now.nanos) ∧
    sessions a.world (Registry.key Sample.ada.id) =
      [Entry.encode ⟨Sample.fingerprint.text, tokens.refresh⟩] := by
  obtain ⟨past, a, tokens, hrun, hdone, hrevoked, hlist⟩ := exists_replay_opened
  have hsurvives := replay_survives (Sample.names 8) hrun (by decide) hrevoked hdone
  exact ⟨past, a, tokens, hrun, hdone, hrevoked, hsurvives.1, hlist⟩

/-- So the list is not always empty when one of the two calls was told that it was revoked. -/
theorem not_forall_replay_empties : ¬ ∀ (s : Service) (user : UserId) (fingerprint : Fingerprint)
    (token : String) (w : World Store) (past : List (Happening 2)) (a : Scene Store 2)
    (i j : Fin 2) (answer : Answer), s.codec.Names token user →
    Entry.encode ⟨fingerprint.text, token⟩ ∈ sessions w (Registry.key user) →
    Run inMemory (s.opening (replay fingerprint token) w) past a → i ≠ j →
    a.calls i = .done (.error .sessionRevoked) → a.calls j = .done answer →
    sessions a.world (Registry.key user) = [] := by
  intro hall
  obtain ⟨past, a, tokens, hrun, hdone, hrevoked, hlist⟩ := exists_replay_opened
  have hmem := (Registry.parse?_of_find? Sample.find?_opened).1
  have hempty := hall _ _ _ _ _ _ _ _ _ _ (Sample.names 8) hmem hrun (by decide) hrevoked hdone
  rw [hlist] at hempty
  cases hempty

end SessionAuth.Service
