/-
What a new session is good for.

Whoever has logged in was given a refresh token, and should be able to use it: once more
for a refresh, or to log out.  The token itself is accepted as long as it holds.  Whether
the session is found depends on the fingerprint.  The texts that are accepted as
fingerprints hold no separator, so that a stored text can be taken apart again; but one
that ends in a colon makes a text that is cut one character early, and then neither the
fingerprint nor the token that is read is the one that was stored.
-/
import SessionAuth.Proofs.Service.Schedule

namespace SessionAuth

/-- The seconds until the end of a lifetime are not more than it has. -/
theorem Instant.secondsUntil_le {now : Instant} {lifetime : Int} (hpositive : 0 < lifetime) :
    (now.secondsUntil (.ofSeconds (now.seconds + lifetime)) : Int) ≤ lifetime := by
  unfold Instant.secondsUntil Instant.millisUntil Instant.ofSeconds nanosPerMilli
  unfold Instant.seconds nanosPerSecond
  dsimp only
  omega

namespace Service

open Session (Registry Entry Fingerprint)

variable {s : Service} {source source' : Source} {unit unit' : Nat} {w w₁ w₂ later : World Store}
  {α : Type} {f : Fingerprint} {name : String} {password : Password.ClearText}
  {tokens : IssuedTokens} {user : User}

/-! ### Logging in -/

/-- Tokens that were made come with a session that was added. -/
theorem Alone.issue_of_ok {id : UserId} (h : Alone source unit (s.issue id f) w (.ok tokens) w₁) :
    s.Issues source id w.now tokens ∧
      Still (withCache w (registered s.registry w.now (Registry.key id)
        (Entry.encode ⟨f.text, tokens.refresh⟩) tokens.maxAge w.store.1)) w₁ := by
  obtain ⟨⟨expiry, refresh⟩, wa, hrefresh, h⟩ := Alone.bind_eq_ok h
  obtain ⟨x, y, _, hencoded, hstill⟩ := encode source unit s id.toHex .refresh w
  obtain ⟨hminted, rfl⟩ := hrefresh.unique hencoded
  obtain ⟨⟨expiry', access⟩, wb, haccess, h⟩ := Alone.bind_eq_ok h
  obtain ⟨x', y', _, hencoded', hstill'⟩ := encode source unit s id.toHex .access wa
  obtain ⟨hminted', rfl⟩ := haccess.unique hencoded'
  rw [hstill.now] at hminted'
  obtain ⟨now, wc, hclock, h⟩ := Alone.bind_eq_ok h
  obtain ⟨hnow, rfl⟩ := (clock wb).unique hclock
  obtain rfl : wb.now = now := Except.ok.inj hnow
  obtain ⟨_, wd, hregister, h⟩ := Alone.bind_eq_ok h
  obtain ⟨_, hregistered, hadded⟩ := register source unit s.registry id f.text refresh
    (wb.now.secondsUntil expiry) wb
  obtain ⟨_, rfl⟩ := hregister.unique hregistered
  obtain ⟨htokens, rfl⟩ := h.unique (pure _ wd)
  obtain rfl := Except.ok.inj htokens
  have hall := hstill.trans hstill'
  refine ⟨⟨⟨x, y, hminted.symm⟩, ⟨x', y', expiry', hminted'.symm⟩, by rw [hall.now]⟩, ?_, ?_⟩
  · rw [hadded.store]
    unfold withCache
    rw [hall.store, hall.now]
  · rw [hadded.now]
    exact hall.now

/-- Whoever has logged in is known, and has a session. -/
theorem login_of_ok
    (h : Alone source unit (s.serve (.login name password f)) w (.ok (some tokens)) w₁) :
    ∃ user, s.verified w.store.2.users name password = .ok user ∧
      s.Issues source user.id w.now tokens ∧
      Settled (withCache w (registered s.registry w.now (Registry.key user.id)
        (Entry.encode ⟨f.text, tokens.refresh⟩) tokens.maxAge w.store.1)) w₁ := by
  obtain ⟨_, hvalue, h⟩ := Alone.map_eq_ok h
  obtain rfl := Option.some.inj hvalue
  obtain ⟨wa, hwork, hsettled⟩ := Alone.inUnit_of_ok h
  have hbegun := settled_begun unit w
  obtain ⟨user, wb, hcredentials, h⟩ := Alone.bind_eq_ok hwork
  obtain ⟨hverified, rfl⟩ :=
    hcredentials.unique (Alone.credentials source s name password (isOpen_begun unit w))
  obtain ⟨issued, wc, hissue, h⟩ := Alone.bind_eq_ok h
  obtain ⟨_, wd, hlog, h⟩ := Alone.bind_eq_ok h
  obtain ⟨htokens, rfl⟩ := h.unique (Alone.pure issued wd)
  obtain rfl := Except.ok.inj htokens
  obtain ⟨_, hlogged, hstill⟩ := Alone.log source unit (.loggedIn user.id tokens.expiresAt) wc
  obtain ⟨_, rfl⟩ := hlog.unique hlogged
  obtain ⟨hissues, hadded⟩ := hissue.issue_of_ok
  rw [hbegun.users] at hverified
  refine ⟨user, hverified.symm, hissues, ?_⟩
  exact (hbegun.withCache _).trans ((hadded.trans hstill).settled.trans hsettled)

/-! ### While time passes -/

/-- Time has passed, and nothing that another call could see has changed. -/
structure Waited (w later : World Store) : Prop where
  lists : later.store.1 = w.store.1
  users : later.store.2.users = w.store.2.users

/-- A session that was added is in front of the list until its time is over. -/
theorem values_registered_until {r : Registry} {now at_ : Instant} {key raw : String} {ttl : Nat}
    {m : Cache.Memory} (h : at_.nanos < (Cache.after now ttl).nanos) :
    (registered r now key raw ttl m).values at_ key =
      raw :: roomIn r.maxSessions (m.values now key) := by
  unfold registered roomIn
  rw [Cache.Memory.values_push_until h]
  split
  · rw [Cache.Memory.values_erase_self]
  · rfl

/-- The refresh token of a new session is accepted until the session expires. -/
theorem bearer_of_issues {users : List User} {now at_ : Instant} (hown : s.codec.ChecksOwn)
    (hissues : s.Issues source user.id now tokens) (hmem : user ∈ users) (hstart : 0 ≤ now.seconds)
    (hlive : at_.nanos < (Cache.after now tokens.maxAge).nanos) :
    ∃ same, s.bearer users at_ tokens.refresh = .ok same ∧ same.id = user.id := by
  obtain ⟨x, y, hminted⟩ := hissues.refresh
  obtain ⟨hpositive, hexpiry, _⟩ := Token.Codec.mint_eq_ok hminted
  have hfirst : Instant.firstSecond ≤ now.seconds := by
    unfold Instant.firstSecond
    omega
  -- The session does not live longer than the token.
  have hage : (tokens.maxAge : Int) ≤ s.codec.lifetimeSeconds (some .refresh) {} := by
    rw [hissues.maxAge, hexpiry]
    exact Instant.secondsUntil_le hpositive
  have hvalid : at_.seconds ≤ now.seconds + s.codec.lifetimeSeconds (some .refresh) {} := by
    unfold Cache.after at hlive
    unfold Instant.seconds nanosPerSecond at *
    dsimp only at hlive
    omega
  have hopen := Token.Codec.open?_mint hown rfl rfl hminted hfirst (by omega) at_
  rw [if_pos hvalid] at hopen
  have huser : (s.codec.payloadOf now (.ofRandom (source x 128).1) user.id.toHex (some .refresh)
      {}).user = .ok user.id := by
    unfold Token.Payload.user Token.Codec.payloadOf
    rw [UserId.parse?_toHex]
  cases hfind : users.find? (·.id == user.id) with
  | none => exact absurd (beq_self_eq_true user.id) (List.find?_eq_none.mp hfind user hmem)
  | some same =>
    exact ⟨same, bearer_eq_ok hopen huser hfind rfl, by simpa using List.find?_some hfind⟩

/-- Whoever is known is one of the users. -/
theorem mem_of_verified {users : List User}
    (h : s.verified users name password = .ok user) : user ∈ users := by
  unfold verified at h
  cases hfind : users.find? (·.hasLogin name) with
  | none =>
    rw [hfind] at h
    cases h
  | some found =>
    rw [hfind] at h
    dsimp only at h
    split at h
    · cases h
      exact List.mem_of_find?_eq_some hfind
    · cases h

/-- What a call finds that comes after a login while the new session is live. -/
theorem found_of_login (hown : s.codec.ChecksOwn) (hstart : 0 ≤ w.now.seconds)
    (hlogin : Alone source unit (s.serve (.login name password f)) w (.ok (some tokens)) w₁)
    (hwaited : Waited w₁ later)
    (hlive : later.now.nanos < (Cache.after w.now tokens.maxAge).nanos) :
    ∃ user, s.verified w.store.2.users name password = .ok user ∧
      (∃ same, s.bearer later.store.2.users later.now tokens.refresh = .ok same ∧
        same.id = user.id) ∧
      sessions later (Registry.key user.id) = Entry.encode ⟨f.text, tokens.refresh⟩ ::
        roomIn s.registry.maxSessions (sessions w (Registry.key user.id)) := by
  obtain ⟨user, hverified, hissues, hsettled⟩ := login_of_ok hlogin
  refine ⟨user, hverified, ?_, ?_⟩
  · refine bearer_of_issues hown hissues ?_ hstart hlive
    rw [hwaited.users, hsettled.users]
    exact mem_of_verified hverified
  · unfold sessions
    rw [hwaited.lists, hsettled.lists]
    exact values_registered_until hlive

/-! ### Looking for the session -/

section Lookup

variable {token : String} {old entries : List String}

/-- In front of a list a session is found, if its text is read as it was written. -/
theorem find?_front (hcolon : f.endsInColon = false) :
    Registry.find? f.text token (Entry.encode ⟨f.text, token⟩ :: old) =
      some (Entry.encode ⟨f.text, token⟩) := by
  unfold Registry.find?
  refine List.find?_cons_of_pos ?_
  rw [Entry.parse?_encode, hcolon]
  exact Entry.isFor_iff.mpr rfl

theorem findToken?_front (hcolon : f.endsInColon = false) :
    Registry.findToken? token (Entry.encode ⟨f.text, token⟩ :: old) =
      some (Entry.encode ⟨f.text, token⟩) := by
  unfold Registry.findToken?
  refine List.find?_cons_of_pos ?_
  rw [Entry.parse?_encode, hcolon]
  exact Entry.matchesToken_iff.mpr rfl

/-- With a fingerprint that ends in a colon no session is found in any list. -/
theorem find?_of_endsInColon (hcolon : f.endsInColon = true)
    (htoken : token.toList.head? ≠ some ':') :
    Registry.find? f.text token entries = none := by
  cases hfind : Registry.find? f.text token entries with
  | none => rfl
  | some raw =>
    obtain ⟨_, hparse⟩ := Registry.parse?_of_find? hfind
    rw [← Entry.encode_of_parse? hparse, Entry.parse?_encode, hcolon] at hparse
    have hsame : ":" ++ token = token := congrArg Entry.refreshToken (Option.some.inj hparse)
    refine absurd ?_ htoken
    rw [← hsame, String.toList_append]
    rfl

/-- The token of such a session is found only with another session. -/
theorem findToken?_of_endsInColon (hcolon : f.endsInColon = true)
    (htoken : token.toList.head? ≠ some ':')
    (hold : ∀ raw ∈ old, ∀ e, Entry.parse? raw = some e → e.refreshToken ≠ token) :
    Registry.findToken? token (Entry.encode ⟨f.text, token⟩ :: old) = none := by
  cases hfind : Registry.findToken? token (Entry.encode ⟨f.text, token⟩ :: old) with
  | none => rfl
  | some raw =>
    obtain ⟨hmem, e, hparse, hsame⟩ := Registry.parse?_of_findToken? hfind
    rcases List.mem_cons.mp hmem with rfl | hmem
    · rw [Entry.parse?_encode, hcolon] at hparse
      obtain rfl := Option.some.inj hparse
      refine absurd ?_ htoken
      rw [← hsame]
      simp
    · exact absurd hsame (hold raw hmem e hparse)

end Lookup

/-! ### Using the session -/

/-- A session whose fingerprint ends in a colon is not found, and a refresh drops all others. -/
theorem unusable_of_endsInColon (hown : s.codec.ChecksOwn) (hstart : 0 ≤ w.now.seconds)
    (hlogin : Alone source unit (s.serve (.login name password f)) w (.ok (some tokens)) w₁)
    (hwaited : Waited w₁ later)
    (hlive : later.now.nanos < (Cache.after w.now tokens.maxAge).nanos)
    (source' : Source) (unit' : Nat) (hcolon : f.endsInColon = true) :
    ∃ user, s.verified w.store.2.users name password = .ok user ∧
      (∃ w', Alone source' unit' (s.serve (.refresh f tokens.refresh)) later
        (.error .sessionRevoked) w' ∧ sessions w' (Registry.key user.id) = []) ∧
      ((∀ raw ∈ sessions w (Registry.key user.id), ∀ e, Entry.parse? raw = some e →
          e.refreshToken ≠ tokens.refresh) →
        ∃ w', Alone source' unit' (s.serve (.logout tokens.refresh)) later
          (.error .unknownToken) w' ∧ Settled later w') := by
  obtain ⟨user, hverified, ⟨same, hbearer, hid⟩, hlist⟩ :=
    found_of_login hown hstart hlogin hwaited hlive
  have htoken := (names_of_bearer hbearer).head?_ne
  rw [← hid] at hlist
  refine ⟨user, hverified, ?_, ?_⟩
  · obtain ⟨w', halone, hempty, _⟩ := Alone.refresh_absent source' unit' hbearer
      (find?_of_endsInColon hcolon htoken)
    rw [hid] at hempty
    exact ⟨w', halone, hempty⟩
  · intro hnew
    refine Alone.logout_unknown hbearer ?_
    rw [hlist]
    refine findToken?_of_endsInColon hcolon htoken fun raw hraw => hnew raw ?_
    rw [hid] at hraw
    unfold roomIn at hraw
    split at hraw
    · cases hraw
    · exact hraw

/--
**A new session can be used, unless its fingerprint ends in a colon.**  Between the login
and the end of the time that it has reported nothing but time has passed.
-/
theorem session_usable (hown : s.codec.ChecksOwn) (hstart : 0 ≤ w.now.seconds)
    (hlogin : Alone source unit (s.serve (.login name password f)) w (.ok (some tokens)) w₁)
    (hwaited : Waited w₁ later)
    (hlive : later.now.nanos < (Cache.after w.now tokens.maxAge).nanos)
    (source' : Source) (unit' : Nat) :
    (f.endsInColon = false →
      ((∀ id, s.CanMint id later.now) → ∃ tokens' w', Alone source' unit'
        (s.serve (.refresh f tokens.refresh)) later (.ok (some tokens')) w') ∧
      ∃ w', Alone source' unit' (s.serve (.logout tokens.refresh)) later (.ok none) w') ∧
    (f.endsInColon = true → ∃ user, s.verified w.store.2.users name password = .ok user ∧
      (∃ w', Alone source' unit' (s.serve (.refresh f tokens.refresh)) later
        (.error .sessionRevoked) w' ∧ sessions w' (Registry.key user.id) = []) ∧
      ((∀ raw ∈ sessions w (Registry.key user.id), ∀ e, Entry.parse? raw = some e →
          e.refreshToken ≠ tokens.refresh) →
        ∃ w', Alone source' unit' (s.serve (.logout tokens.refresh)) later
          (.error .unknownToken) w' ∧ Settled later w')) := by
  refine ⟨?_, unusable_of_endsInColon hown hstart hlogin hwaited hlive source' unit'⟩
  intro hcolon
  obtain ⟨user, _, ⟨same, hbearer, hid⟩, hlist⟩ :=
    found_of_login hown hstart hlogin hwaited hlive
  rw [← hid] at hlist
  refine ⟨?_, ?_⟩
  · intro hmint
    have hfind : Registry.find? f.text tokens.refresh (sessions later (Registry.key same.id)) =
        some (Entry.encode ⟨f.text, tokens.refresh⟩) := by
      rw [hlist]
      exact find?_front hcolon
    obtain ⟨tokens', _, w', halone, _⟩ :=
      Alone.refresh_found source' unit' hbearer hfind (hmint same.id)
    exact ⟨tokens', w', halone⟩
  · have hfind : Registry.findToken? tokens.refresh (sessions later (Registry.key same.id)) =
        some (Entry.encode ⟨f.text, tokens.refresh⟩) := by
      rw [hlist]
      exact findToken?_front hcolon
    obtain ⟨w', halone, _⟩ := Alone.logout_found source' unit' hbearer hfind
    exact ⟨w', halone⟩

namespace Sample

/-- A fingerprint that is accepted, although it ends in a colon. -/
def colonFingerprint : Fingerprint := ⟨"laptop:", by decide⟩

/-- Ada can log in with any fingerprint, and a minute later her session is live. -/
theorem login_with (f : Fingerprint) : ∃ tokens w₁,
    Alone (chosen zeros) 0 ((service 3).serve (.login "ada" ⟨"swordfish"⟩ f)) world
      (.ok (some tokens)) w₁ ∧
    ∀ later : World Store, later.now = .ofSeconds 60 →
      later.now.nanos < (Cache.after world.now tokens.maxAge).nanos := by
  obtain ⟨tokens, hissues, w₁, halone, _⟩ := Alone.login_ok (s := service 3) (w := world)
    (chosen zeros) 0 f verified (canMint _ (by decide) (by decide))
  refine ⟨tokens, w₁, halone, ?_⟩
  intro later hlater
  obtain ⟨x, y, hminted⟩ := hissues.refresh
  have hexpiry := (Token.Codec.mint_eq_ok hminted).2.1
  rw [hissues.maxAge, hexpiry, hlater]
  decide

end Sample

/-- Within a minute after the login Ada can use her session. -/
theorem session_usable_laptop : ∃ tokens w₁, Alone (chosen Sample.zeros) 0
      ((Sample.service 3).serve (.login "ada" ⟨"swordfish"⟩ Sample.fingerprint)) Sample.world
        (.ok (some tokens)) w₁ ∧
    let later : World Store := { w₁ with now := .ofSeconds 60 }
    (∃ tokens' w', Alone (chosen Sample.zeros) 1
      ((Sample.service 3).serve (.refresh Sample.fingerprint tokens.refresh)) later
        (.ok (some tokens')) w') ∧
    ∃ w', Alone (chosen Sample.zeros) 1 ((Sample.service 3).serve (.logout tokens.refresh)) later
      (.ok none) w' := by
  obtain ⟨tokens, w₁, hlogin, hlive⟩ := Sample.login_with Sample.fingerprint
  have hwaited : Waited w₁ { w₁ with now := .ofSeconds 60 } := ⟨rfl, rfl⟩
  refine ⟨tokens, w₁, hlogin, ?_⟩
  have husable := (session_usable Sample.checksOwn (by decide) hlogin
    hwaited (hlive _ rfl)
    (chosen Sample.zeros) 1).1 (by decide)
  exact ⟨husable.1 fun id => Sample.canMint id (by decide) (by decide), husable.2⟩

/-- So not every fingerprint that is accepted makes a session that can be used. -/
theorem not_forall_usable : ¬ ∀ (s : Service) (source source' : Source) (unit unit' : Nat)
    (w w₁ later : World Store) (name : String) (password : Password.ClearText) (f : Fingerprint)
    (tokens : IssuedTokens), s.codec.ChecksOwn → 0 ≤ w.now.seconds →
    Alone source unit (s.serve (.login name password f)) w (.ok (some tokens)) w₁ →
    Waited w₁ later → later.now.nanos < (Cache.after w.now tokens.maxAge).nanos →
    (∀ id, s.CanMint id later.now) → ∃ tokens' w', Alone source' unit'
      (s.serve (.refresh f tokens.refresh)) later (.ok (some tokens')) w' := by
  intro hall
  obtain ⟨tokens, w₁, hlogin, hlive⟩ := Sample.login_with Sample.colonFingerprint
  have hwaited : Waited w₁ { w₁ with now := .ofSeconds 60 } := ⟨rfl, rfl⟩
  obtain ⟨tokens', w', hrefreshed⟩ := hall (Sample.service 3) _ (chosen Sample.zeros) 0 1 _ _ _ _ _
    _ _ Sample.checksOwn (by decide) hlogin hwaited (hlive _ rfl)
    fun id => Sample.canMint id (by decide) (by decide)
  obtain ⟨user, _, ⟨w'', hrevoked, _⟩, _⟩ := unusable_of_endsInColon Sample.checksOwn (by decide)
    hlogin hwaited (hlive _ rfl) (chosen Sample.zeros) 1 (by decide)
  cases (hrefreshed.unique hrevoked).1

end Service

end SessionAuth
