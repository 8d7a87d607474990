/-
No list expires before its tokens.

One time to live serves a whole list, and every push sets it anew, also for the sessions that
are in the list already.  That this is never too short has one reason: all refresh tokens of a
service hold equally long.  A call makes its token at a reading of the clock and asks for the
time to live that is left at the same reading, which is the whole lifetime; it may push later,
and so may have calls whose tokens are younger.  Whatever is in the list by then was made
before, hence expires within one lifetime from the push, when the list does.

`Outlives` is the invariant, about what is stored rather than about what is visible, so that
nothing is lost on the way by expiring.  The clock has to show whole seconds, since tokens are
dated in seconds while lists expire to the nanosecond.
-/
import SessionAuth.Proofs.Service.Operation
import SessionAuth.Proofs.Service.Schedule
import SessionAuth.Proofs.Session.Expiry
import SessionAuth.Proofs.Token.RoundTrip

namespace SessionAuth

/-! ### Whole seconds -/

namespace Instant

/-- The instant is the beginning of a second. -/
def IsWhole (t : Instant) : Prop := t = .ofSeconds t.seconds

instance : DecidablePred IsWhole := fun t => inferInstanceAs (Decidable (t = .ofSeconds t.seconds))

theorem IsWhole.nanos_eq {t : Instant} (h : t.IsWhole) : t.nanos = t.seconds * nanosPerSecond :=
  congrArg nanos h

/-- At a whole second all of a lifetime is left of a token that is made then. -/
theorem IsWhole.secondsUntil {t : Instant} (h : t.IsWhole) {lifetime : Int} (hpos : 0 < lifetime) :
    (t.secondsUntil (.ofSeconds (t.seconds + lifetime)) : Int) = lifetime := by
  have hnanos := h.nanos_eq
  unfold Instant.secondsUntil Instant.millisUntil Instant.ofSeconds
  unfold nanosPerSecond at *
  unfold nanosPerMilli
  dsimp only
  omega

end Instant

namespace Service

open Session (Registry Entry)

variable {υ : Type} {n : Nat}

/-! ### What lists hold -/

/-- A cache in memory, and any store of users. -/
def cachedInMemory (users : Nat → (c : Users.Command) → υ → c.Outcome × υ) :
    Backend (Cache.Memory × υ) where
  cache now c state :=
    let (outcome, m) := state.1.perform now c
    (outcome, m, state.2)
  users unit c state :=
    let (outcome, store) := users unit c state.2
    (outcome, state.1, store)

/-- The text is the entry of a refresh token of the user that says until which second it holds. -/
def HoldsUntil (user : UserId) (raw : String) (second : Int) : Prop :=
  ∃ fingerprint token payload, raw = Entry.encode ⟨fingerprint, token⟩ ∧ ':' ∉ token.toList ∧
    Token.Codec.claims? token = some payload ∧ payload.user = .ok user ∧
    payload.isOf .refresh = true ∧ payload.expiresAt = second

/-- A text speaks of one token only. -/
theorem HoldsUntil.unique {user user' : UserId} {raw : String} {second second' : Int}
    (h : HoldsUntil user raw second) (h' : HoldsUntil user' raw second') : second = second' := by
  obtain ⟨f, token, payload, hraw, hcolon, hclaims, _, _, hsecond⟩ := h
  obtain ⟨f', token', payload', hraw', hcolon', hclaims', _, _, hsecond'⟩ := h'
  have hentry := Entry.encode_inj hcolon hcolon' (hraw.symm.trans hraw')
  simp only [Entry.mk.injEq] at hentry
  obtain ⟨rfl, rfl⟩ := hentry
  rw [hclaims] at hclaims'
  cases hclaims'
  exact hsecond.symm.trans hsecond'

/-- The seconds that the refresh tokens of a service hold. -/
def refreshSeconds (s : Service) : Int := s.codec.lifetimeSeconds (some .refresh) {}

/--
The list of a user expires, and none of its tokens holds longer than it does, or longer than
one that is made now.
-/
def Outlives (s : Service) (now : Instant) (user : UserId) (held : Cache.Held) : Prop :=
  ∃ until_, held.expires = some until_ ∧ ∀ raw ∈ held.values, ∃ second,
    HoldsUntil user raw second ∧ (Instant.ofSeconds second).nanos ≤ until_.nanos ∧
    second ≤ now.seconds + s.refreshSeconds

/-! ### Runs -/

variable {σ : Type} {s : Service} {requests : Fin n → Request} {past : List (Happening n)}

/-- The operation that a request asks for. -/
def Request.operation : Request → Operation
  | .login name password fingerprint => .login name password fingerprint
  | .refresh fingerprint token => .refresh fingerprint token
  | .logout token => .logout token

/-- A request is served by running the errand of its operation. -/
theorem serve_meets (s : Service) (q : Request) :
    Call.Meets (q.operation.errand s) (s.serve q) (fun _ _ => True) [] := by
  have hunasked : Unasked [] := fun d reply hmem => by cases hmem
  have hcall := call_meets s q.operation hunasked
  cases q with
  | login login password fingerprint => exact Call.meets_map.2 (hcall.mono fun _ _ _ => trivial)
  | refresh fingerprint token => exact Call.meets_map.2 (hcall.mono fun _ _ _ => trivial)
  | logout token =>
    refine Call.Meets.bind hcall (fun _ _ _ => ?_) fun _ _ _ => trivial
    exact Call.meets_pure.2 trivial

/-- In every run every call runs its errand, from what it has asked so far on. -/
theorem Run.errand {b : Backend σ} {w : World σ} {a : Scene σ n}
    (hrun : Run b (s.opening requests w) past a) (i : Fin n) :
    (a.calls i).Meets ((requests i).operation.errand s) (fun _ _ => True) (own i past) := by
  induction hrun with
  | start => exact serve_meets s (requests i)
  | @step past h a c hrun hstep ih =>
    cases hstep with
    | waits hle => exact ih
    | @asks j e next reply w' hcall hreply =>
      show Program.Meets _ _ (if i = j then next reply else a.calls i) _
      by_cases hj : i = j
      · subst hj
        rw [if_pos rfl, own_asked_self]
        rw [hcall] at ih
        exact ih.2 reply _ rfl
      · rw [if_neg hj, own_asked_ne fun h => hj h.symm]
        exact ih

/-- What is pushed in a run bears the stamp of the call that pushes it. -/
theorem Run.stamps {b : Backend σ} {w : World σ} {a : Scene σ n} {i : Fin n}
    {key raw : String} {ttl : Option Nat}
    {next : (Cache.Command.push key raw ttl).Outcome → Action Answer}
    (hrun : Run b (s.opening requests w) past a)
    (hcall : a.calls i = Program.ask (.cache (.push key raw ttl)) next) :
    s.Stamps (own i past) key raw ttl := by
  have herrand := hrun.errand i
  rw [hcall] at herrand
  exact (herrand.1 _ rfl).stamps key raw ttl rfl

/-- The clock shows whole seconds and does not go back. -/
structure Timely (start now : Instant) (past : List (Happening n)) : Prop where
  whole : now.IsWhole
  started : start.nanos ≤ now.nanos
  readings : ∀ i reading, .asked i ⟨.clock, reading⟩ ∈ past →
    reading.IsWhole ∧ start.nanos ≤ reading.nanos ∧ reading.nanos ≤ now.nanos

theorem Run.timely {b : Backend σ} {first a : Scene σ n} (hstart : first.world.now.IsWhole)
    (hwhole : ∀ later, .waited later ∈ past → later.IsWhole) (hrun : Run b first past a) :
    Timely first.world.now a.world.now past := by
  induction hrun with
  | start => exact ⟨hstart, Int.le_refl _, fun i reading hmem => by cases hmem⟩
  | @step past h a c hrun hstep ih =>
    have hbefore := ih fun later hmem => hwhole later (List.mem_cons_of_mem _ hmem)
    cases hstep with
    | @waits later hle =>
      refine ⟨hwhole later List.mem_cons_self, hbefore.started.trans hle, ?_⟩
      intro i reading hmem
      obtain hmem : .asked i ⟨.clock, reading⟩ ∈ past := by simpa using hmem
      obtain ⟨hwhole, hlow, hhigh⟩ := hbefore.readings i reading hmem
      exact ⟨hwhole, hlow, hhigh.trans hle⟩
    | @asks j e next reply w' hcall hreply =>
      have hnow : w'.now = a.world.now := by
        cases hreply with
        | drawn => rfl
        | handled => cases e <;> rfl
      show Timely first.world.now w'.now _
      rw [hnow]
      refine ⟨hbefore.whole, hbefore.started, ?_⟩
      intro i reading hmem
      rcases List.mem_cons.mp hmem with heq | hmem
      · cases heq
        cases hreply with
        | handled => exact ⟨hbefore.whole, hbefore.started, Int.le_refl _⟩
      · exact hbefore.readings i reading hmem

/-! ### The invariant -/

variable {s : Service} {user : UserId} {now afterwards : Instant} {held : Cache.Held}

/-- A list that loses entries still outlives the others. -/
theorem Outlives.of_subset {before : Cache.Held} (h : Outlives s now user before)
    (hexpires : held.expires = before.expires) (hvalues : held.values ⊆ before.values) :
    Outlives s now user held := by
  obtain ⟨until_, hkept, hall⟩ := h
  exact ⟨until_, hexpires.trans hkept, fun raw hraw => hall raw (hvalues hraw)⟩

/-- A list outlives its tokens as time goes by. -/
theorem Outlives.later (h : Outlives s now user held) (hle : now.nanos ≤ afterwards.nanos) :
    Outlives s afterwards user held := by
  obtain ⟨until_, hkept, hall⟩ := h
  refine ⟨until_, hkept, ?_⟩
  intro raw hraw
  obtain ⟨second, hholds, huntil, hrecent⟩ := hall raw hraw
  have hseconds : now.seconds ≤ afterwards.seconds := Int.ediv_le_ediv (by decide) hle
  exact ⟨second, hholds, huntil, by omega⟩

/-- A token that was made is an entry that says when it expires. -/
theorem holdsUntil_of_mint {fingerprint token : String} {minted expiry : Instant} {id : UserId}
    {noise : Token.Noise} (hdate : Instant.firstSecond ≤ minted.seconds)
    (hmint : s.codec.mint minted id noise user.toHex (some .refresh) {} = .ok (expiry, token)) :
    HoldsUntil user (Entry.encode ⟨fingerprint, token⟩) (minted.seconds + s.refreshSeconds) := by
  refine ⟨fingerprint, token, _, rfl, Token.Codec.colon_notMem_of_mint hmint,
    Token.Codec.claims?_mint hmint hdate, ?_, rfl, rfl⟩
  unfold Token.Payload.user Token.Codec.payloadOf
  dsimp only
  rw [UserId.parse?_toHex]

/-- **A push under its stamp leaves a list that outlives its tokens.** -/
theorem Outlives.push {seen : List Asked} {m : Cache.Memory} {key raw : String} {ttl : Option Nat}
    (hstamps : s.Stamps seen key raw ttl) (hsteady : IsSteady seen) (hnow : now.IsWhole)
    (hread : ∀ reading, (⟨.clock, reading⟩ : Asked) ∈ seen → reading.IsWhole ∧
      Instant.firstSecond ≤ reading.seconds ∧ reading.seconds ≤ now.seconds)
    (hbefore : ∀ held, m.lists.get? (Registry.key user) = some held → Outlives s now user held)
    (hkey : Registry.key user = key)
    (hheld : (m.push now key raw ttl).lists.get? (Registry.key user) = some held) :
    Outlives s now user held := by
  obtain ⟨owner, fingerprint, token, minted, id, noise, expiry, reading, howner, rfl, hminted,
    hmint, rfl, hsame⟩ := hstamps
  obtain rfl : user = owner := Registry.key_inj (hkey.trans howner)
  obtain rfl : reading = minted := hsame hsteady
  obtain ⟨hwhole, hdate, hpast⟩ := hread reading hminted
  obtain ⟨hpos, hexpiry, _⟩ := Token.Codec.mint_eq_ok hmint
  -- At one reading the time to live is the whole lifetime.
  have hseconds : (reading.secondsUntil expiry : Int) = s.refreshSeconds := by
    rw [hexpiry]
    exact hwhole.secondsUntil hpos
  have huntil : (Cache.after now (reading.secondsUntil expiry)).nanos =
      (Instant.ofSeconds (now.seconds + s.refreshSeconds)).nanos := by
    show now.nanos + (reading.secondsUntil expiry : Int) * nanosPerSecond = _ * nanosPerSecond
    rw [hseconds, hnow.nanos_eq, Int.add_mul]
  subst hkey
  obtain ⟨hexpires, hvalues⟩ := Cache.Memory.stored_push hheld
  refine ⟨_, hexpires, ?_⟩
  have hrecent : ∀ second, second ≤ now.seconds + s.refreshSeconds →
      (Instant.ofSeconds second).nanos ≤
        (Cache.after now (reading.secondsUntil expiry)).nanos := by
    intro second hle
    rw [huntil]
    exact Int.mul_le_mul_of_nonneg_right hle (by decide)
  intro raw hraw
  rcases hvalues raw hraw with rfl | ⟨before, hstored, hmem⟩
  · have hle : reading.seconds + s.refreshSeconds ≤ now.seconds + s.refreshSeconds := by omega
    exact ⟨_, holdsUntil_of_mint hdate hmint, hrecent _ hle, hle⟩
  · obtain ⟨_, _, hall⟩ := hbefore before hstored
    obtain ⟨second, hholds, _, hle⟩ := hall raw hmem
    exact ⟨second, hholds, hrecent second hle, hle⟩

/-- **In every run every list outlives its tokens.** -/
theorem Run.outlives {users : Nat → (c : Users.Command) → υ → c.Outcome × υ}
    {w : World (Cache.Memory × υ)} {a : Scene (Cache.Memory × υ) n} (hempty : w.store.1 = {})
    (hdate : Instant.firstSecond ≤ w.now.seconds) (hstart : w.now.IsWhole)
    (hwhole : ∀ later, .waited later ∈ past → later.IsWhole)
    (hsteady : ∀ i, IsSteady (own i past))
    (hrun : Run (cachedInMemory users) (s.opening requests w) past a)
    (hheld : a.world.store.1.lists.get? (Registry.key user) = some held) :
    Outlives s a.world.now user held := by
  induction hrun generalizing held with
  | start =>
    change w.store.1.lists.get? (Registry.key user) = some held at hheld
    rw [hempty] at hheld
    cases hheld
  | @step past h a c hrun hstep ih =>
    have hwhole' : ∀ later, .waited later ∈ past → later.IsWhole :=
      fun later hmem => hwhole later (List.mem_cons_of_mem _ hmem)
    have hsteady' : ∀ i, IsSteady (own i past) := by
      intro i
      have hi := hsteady i
      cases h with
      | waited later => exact hi
      | asked j x =>
        by_cases hj : j = i
        · subst hj
          rw [own_asked_self] at hi
          exact hi.of_cons
        · rw [own_asked_ne hj] at hi
          exact hi
    have hbefore : ∀ {held}, a.world.store.1.lists.get? (Registry.key user) = some held →
        Outlives s a.world.now user held := fun hget => ih hwhole' hsteady' hget
    cases hstep with
    | waits hle => exact (hbefore hheld).later hle
    | @asks i e next reply w' hcall hreply =>
      cases hreply with
      | drawn => exact hbefore hheld
      | handled =>
        cases e with
        | cache d =>
          change (Cache.Memory.perform a.world.now d a.world.store.1).2.lists.get? _ = _ at hheld
          have hother : ∀ {c : Cache.Command}, (∀ k value ttl, c ≠ .push k value ttl) →
              (Cache.Memory.perform a.world.now c a.world.store.1).2.lists.get?
                (Registry.key user) = some held → Outlives s a.world.now user held := by
            intro c hpush hstored
            obtain ⟨before, hget, hexpires, hvalues⟩ := Cache.Memory.stored_perform hpush hstored
            exact (hbefore hget).of_subset hexpires hvalues
          cases d with
          | push k raw ttl =>
            by_cases hkey : Registry.key user = k
            · have htimely := hrun.timely hstart hwhole'
              refine Outlives.push (hrun.stamps hcall) (hsteady' i) htimely.whole ?_
                (fun _ => hbefore) hkey hheld
              intro reading hmem
              obtain ⟨hreading, hlow, hhigh⟩ := htimely.readings i reading (mem_own.mp hmem)
              exact ⟨hreading, hdate.trans (Int.ediv_le_ediv (by decide) hlow),
                Int.ediv_le_ediv (by decide) hhigh⟩
            · exact hbefore ((Cache.Memory.get?_perform_ne hkey).symm.trans hheld)
          | get k => exact hother (by simp) hheld
          | remove k raw => exact hother (by simp) hheld
          | delete k => exact hother (by simp) hheld
        | users d => exact hbefore hheld
        | clock => exact hbefore hheld
        | random count => exact hbefore hheld
        | log event => exact hbefore hheld

/--
**The list of a user outlives every token in it.**  Over a cache in memory that was empty, and
any store of users, whatever logins, refreshes and logouts are interleaved: the list that is
stored for a user expires at some instant, and the refresh token of each of its entries says
that it expires at that instant or before.  So no entry whose token still holds is dropped
because of the time: at every instant before that the list would be read with it.

The clock shows whole seconds, and to each call the same from its first token on until it asks
for the time that is left; meanwhile, and until the session is pushed, others may come in and
time may pass.
-/
theorem list_outlives_tokens {users : Nat → (c : Users.Command) → υ → c.Outcome × υ}
    {w : World (Cache.Memory × υ)} {a : Scene (Cache.Memory × υ) n} (hempty : w.store.1 = {})
    (hdate : Instant.firstSecond ≤ w.now.seconds) (hstart : w.now.IsWhole)
    (hwhole : ∀ later, .waited later ∈ past → later.IsWhole)
    (hsteady : ∀ i, IsSteady (own i past))
    (hrun : Run (cachedInMemory users) (s.opening requests w) past a)
    (hheld : a.world.store.1.lists.get? (Registry.key user) = some held) :
    ∃ until_, held.expires = some until_ ∧ ∀ raw ∈ held.values,
      (∃ second, HoldsUntil user raw second) ∧ ∀ second, HoldsUntil user raw second →
        (Instant.ofSeconds second).nanos ≤ until_.nanos ∧
        ∀ later, later.nanos < (Instant.ofSeconds second).nanos →
          raw ∈ a.world.store.1.values later (Registry.key user) := by
  obtain ⟨until_, hexpires, hall⟩ :=
    hrun.outlives hempty hdate hstart hwhole hsteady hheld
  refine ⟨until_, hexpires, ?_⟩
  intro raw hraw
  obtain ⟨second, hholds, huntil, _⟩ := hall raw hraw
  refine ⟨⟨second, hholds⟩, ?_⟩
  intro second' hholds'
  obtain rfl := hholds.unique hholds'
  refine ⟨huntil, ?_⟩
  intro later hlater
  have hcounts : held.isLive later = true := by
    unfold Cache.Held.isLive
    rw [hexpires]
    exact decide_eq_true (Int.lt_of_lt_of_le hlater huntil)
  unfold Cache.Memory.values Cache.Memory.live?
  rw [hheld, Option.filter_some, if_pos hcounts]
  exact hraw

/-- The session with which Ada has logged in, at the first second of all. -/
theorem list_outlives_tokens_login : ∃ past a held,
    Run (cachedInMemory fun unit c m => Users.Memory.perform unit c m)
      ((Sample.service 5).opening (fun _ : Fin 1 => Sample.login) Sample.world) past a ∧
    a.world.store.1.lists.get? (Registry.key Sample.ada.id) = some held ∧
    held.values = [Registry.stored (Sample.fingerprint, Sample.token)] ∧
    ∃ until_, held.expires = some until_ ∧ ∀ raw ∈ held.values,
      (∃ second, HoldsUntil Sample.ada.id raw second) ∧ ∀ second,
        HoldsUntil Sample.ada.id raw second → (Instant.ofSeconds second).nanos ≤ until_.nanos ∧
        ∀ later, later.nanos < (Instant.ofSeconds second).nanos →
          raw ∈ a.world.store.1.values later (Registry.key Sample.ada.id) := by
  obtain ⟨tokens, w', hlogin, _, hsettled⟩ :=
    Sample.login_ok 5 (0 : Fin 1) (w := Sample.world) rfl rfl
  have hstart : Run inMemory ((Sample.service 5).opening (fun _ : Fin 1 => Sample.login)
      Sample.world) [] ((Sample.service 5).opening (fun _ => Sample.login) Sample.world) := .start
  obtain ⟨past, hrun, hchosen⟩ := hstart.ahead_chosen (i := 0) rfl (.of_run hlogin)
  rw [List.append_nil] at hrun
  have hasked : ∀ h ∈ past, ∃ i x, h = .asked i x := by
    intro h hh
    obtain ⟨e, w, rfl⟩ := hchosen h hh
    exact ⟨0, _, rfl⟩
  have hwhole : ∀ later, .waited later ∈ past → later.IsWhole := by
    intro later hmem
    obtain ⟨i, x, hx⟩ := hasked _ hmem
    cases hx
  have hsteady : ∀ i, IsSteady (own i past) := by
    intro i
    have hstanding : ∀ reading, (⟨.clock, reading⟩ : Asked) ∈ own i past →
        reading = Sample.world.now := by
      intro reading hmem
      obtain ⟨older, holder, rfl⟩ := hrun.clock_eq (mem_own.mp hmem)
      exact timeAfter_of_asked fun h hh => hasked h (holder.subset hh)
    exact isSteady_of_standing hstanding
  have hget : w'.store.1.lists.get? (Registry.key Sample.ada.id) =
      some ⟨[Registry.stored (Sample.fingerprint, Sample.token)],
        some (Cache.after (.ofSeconds 0) tokens.maxAge)⟩ := by
    have hroom : ¬ 5 ≤ (Sample.world.store.1.values Sample.world.now
        (Registry.key Sample.ada.id)).length := Nat.not_succ_le_zero 4
    rw [hsettled.lists]
    unfold registered
    rw [if_neg hroom]
    exact (Table.get?_insert _ _ _ _).trans (if_pos rfl)
  refine ⟨past, _, _, hrun, hget, rfl, ?_⟩
  have hrun' : Run (cachedInMemory fun unit c m => Users.Memory.perform unit c m)
    ((Sample.service 5).opening (fun _ : Fin 1 => Sample.login) Sample.world) past _ := hrun
  exact list_outlives_tokens rfl (by decide) (by decide) hwhole hsteady hrun' hget

end Service

end SessionAuth
