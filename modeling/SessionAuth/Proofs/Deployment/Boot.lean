/-
What boots and what it can mint.

A deployment boots when its settings load and a codec can be made of them.  With a shared key
that leaves one thing that can still go wrong when a token is made: its expiry may be too late to
have a date.  A codec is made for every lifetime that can be counted in milliseconds, and
calendars end long before such a lifetime may.  The configuration is then only found wrong by
the calls that make tokens, and by all of them (`boots_mint`).
-/
import SessionAuth.Proofs.Service.Faults
import SessionAuth.Proofs.Settings.Readings
import SessionAuth.Proofs.Token.Configured

namespace SessionAuth

open Token (Codec Kind)

/-! ### Making tokens -/

/-- The lifetime of the tokens of a kind. -/
def Config.lifetime (config : Config) : Kind → Lifetime
  | .access => config.accessLifetime
  | .refresh => config.refreshLifetime

theorem Lifetime.seconds_ofSeconds (n : Nat) : (Lifetime.ofSeconds n).seconds = n :=
  Nat.mul_div_cancel n (by decide)

/-- The last second of the year 3000. -/
def Instant.lastSecondOf3000 : Int := 32535215999

variable {σ : Type} {config : Config} {c : Codec} {now : Instant} {kind : Kind}

theorem Token.Codec.IsOf.lifetimeSeconds (h : c.IsOf config) (kind : Kind) :
    c.lifetimeSeconds (some kind) {} = (config.lifetime kind).seconds := by
  cases kind with
  | access => exact congrArg (fun d : Lifetime => (d.seconds : Int)) h.access
  | refresh => exact congrArg (fun d : Lifetime => (d.seconds : Int)) h.refresh

theorem Token.Codec.IsOf.lifetime_le (h : c.IsOf config) (kind : Kind) :
    (config.lifetime kind).nanos ≤ Lifetime.longest.nanos := by
  cases kind with
  | access => exact h.accessLimit
  | refresh => exact h.refreshLimit

/--
With a shared key a token is made, or its expiry has no date, before the end of the year 3000
at least.
-/
theorem mint_cases (hof : c.IsOf config) (hshared : config.algorithm.family = .shared)
    (hpositive : 1 ≤ (config.lifetime kind).seconds) (hfirst : Instant.firstSecond ≤ now.seconds)
    (hlast : now.seconds ≤ Instant.lastSecondOf3000) (id : UserId) (noise : Token.Noise)
    (subject : String) :
    (now.seconds + (config.lifetime kind).seconds ≤ Instant.lastSecond ∧
        ∃ made, c.mint now id noise subject (some kind) {} = .ok made) ∨
      Instant.lastSecond < now.seconds + (config.lifetime kind).seconds ∧
        c.mint now id noise subject (some kind) {} =
          .error (.configuration "token expiry out of range") := by
  obtain ⟨d, hd⟩ := Codec.exists_hmac hshared
  have hseconds := hof.lifetimeSeconds kind
  have hlong := hof.lifetime_le kind
  by_cases hdate : now.seconds + (config.lifetime kind).seconds ≤ Instant.lastSecond
  · refine Or.inl ⟨hdate, _, Codec.mint_shared (hof.algorithm.trans hd) ?_ ?_ ?_ ?_⟩
    · rw [(hof.keys_of_shared hshared).1]
    · rw [hseconds]
      omega
    · rw [hseconds]
      omega
    · rw [hseconds]
      exact hdate
  · refine Or.inr ⟨by omega, ?_⟩
    -- What can be counted in milliseconds does not come near to what 63 bits can count.
    have hlimit : ¬ (limit63 : Int) ≤ now.seconds + (config.lifetime kind).seconds := by
      unfold Lifetime.longest Lifetime.ofMillis nanosPerMilli limit63 at hlong
      dsimp only at hlong
      unfold Instant.lastSecondOf3000 at hlast
      unfold Lifetime.seconds nanosPerSecond limit63
      omega
    unfold Codec.mint
    simp only
    rw [hseconds, if_neg (by omega), if_neg hlimit, Instant.ofSeconds?, if_neg (by omega)]

/-! ### Booting -/

variable {env : Environment} {development : Bool} {fresh : BitVec 256} {settings : Settings}
  {events : List Event}

/-- The keys are shared ones: the environment asks for that, or it has none at all. -/
def Environment.SharesKeys (env : Environment) : Prop :=
  (∃ d, Settings.loadAlgorithm env = .ok (.hmac d)) ∨ env.get? "CIPHER_SECRET_KEY" = none

theorem family_of_load (h : Settings.load env development fresh = .ok (settings, events))
    (hshared : env.SharesKeys) : settings.config.algorithm.family = .shared := by
  obtain ⟨r, keys, hr, hkeys, hconfig⟩ := Settings.config_of_load h
  rw [hconfig]
  rcases Settings.loadKeys_eq_ok_iff.mp hkeys with
    ⟨secret, _, _, hsecret, _, _, _, rfl⟩ | ⟨_, _, _, rfl⟩
  · rcases hshared with ⟨d, hd⟩ | hnone
    · have hhmac : r.algorithm = .hmac d := Except.ok.inj (hr.algorithm.symm.trans hd)
      exact congrArg Token.Algorithm.family hhmac
    · cases hsecret.symm.trans hnone
  · rfl

/-- The lifetimes of a configuration that was loaded are whole seconds, one at least. -/
theorem lifetime_of_load (h : Settings.load env development fresh = .ok (settings, events))
    (kind : Kind) : ∃ n, 1 ≤ n ∧ settings.config.lifetime kind = .ofSeconds n := by
  obtain ⟨r, keys, hr, _, hconfig⟩ := Settings.config_of_load h
  rw [hconfig]
  cases kind with
  | access => exact ⟨r.access, hr.access_pos, rfl⟩
  | refresh => exact ⟨r.refresh, hr.refresh_pos, rfl⟩

theorem one_le_lifetime_of_load
    (h : Settings.load env development fresh = .ok (settings, events)) (kind : Kind) :
    1 ≤ (settings.config.lifetime kind).seconds := by
  obtain ⟨n, hn, hlifetime⟩ := lifetime_of_load h kind
  rw [hlifetime, Lifetime.seconds_ofSeconds]
  exact hn

/--
**What boots makes every token whose expiry has a date, and no other.**  Settings that load, and
that a codec can be made of, have a key, and lifetimes that are positive and that can be counted
in milliseconds.  With a shared key a token is then made, at any time until the end of the year
3000, exactly if its lifetime does not reach beyond the last second of the calendar.  If it does
that is a fault of the configuration, the only one that an operation can end with.
-/
theorem boots_mint (hload : Settings.load env development fresh = .ok (settings, events))
    (hshared : env.SharesKeys) (hcodec : Codec.ofConfig settings.config = .ok c) :
    settings.config.signingKey ≠ [] ∧
    (∀ kind, 1 ≤ (settings.config.lifetime kind).seconds ∧
      (settings.config.lifetime kind).nanos ≤ Lifetime.longest.nanos) ∧
    (∀ (σ : Type) (b : Backend σ) (w : World σ) (subject : String) (kind : Kind),
      Instant.firstSecond ≤ w.now.seconds → w.now.seconds ≤ Instant.lastSecondOf3000 →
      (w.now.seconds + (settings.config.lifetime kind).seconds ≤ Instant.lastSecond ∧
          ∃ made, (b.runCall (c.encode subject kind) w).1 = .ok made) ∨
        Instant.lastSecond < w.now.seconds + (settings.config.lifetime kind).seconds ∧
          (b.runCall (c.encode subject kind) w).1 =
            .error (.configuration "token expiry out of range")) ∧
    ∀ (s : Service), s.codec = c → ∀ (op : Service.Operation)
      (w : World (Cache.ListServer × Users.Relational)),
      Instant.firstSecond ≤ w.now.seconds → w.now.seconds ≤ Instant.lastSecondOf3000 →
      ∀ message, (Deployment.remote.runCall (s.call op) w).1 = .error (.configuration message) →
        message = "token expiry out of range" ∧
          ∃ kind, Instant.lastSecond < w.now.seconds + (settings.config.lifetime kind).seconds := by
  have hof := Codec.isOf_of_ofConfig hcodec
  have hfamily := family_of_load hload hshared
  have hpositive := one_le_lifetime_of_load hload
  refine ⟨hof.hasKey, fun kind => ⟨hpositive kind, hof.lifetime_le kind⟩,
    fun σ b w subject kind hfirst hlast =>
      mint_cases hof hfamily (hpositive kind) hfirst hlast _ _ subject, ?_⟩
  rintro s rfl op w hfirst hlast message hfault
  have hconfines : Deployment.remote.Confines w.now (fun message =>
      message = "token expiry out of range" ∧
        ∃ kind, Instant.lastSecond < w.now.seconds + (settings.config.lifetime kind).seconds)
      (s.call op) := by
    refine Backend.confines_call plain_remote (fun subject kind w' message' hnow hfailed => ?_) op
    have hmint : s.codec.mint w'.now _ _ subject (some kind) {} =
      .error (.configuration message') := hfailed
    rw [hnow] at hmint
    rcases mint_cases hof hfamily (hpositive kind) hfirst hlast _ _ subject with
      ⟨_, made, hmade⟩ | ⟨hlate, hfault⟩
    · cases hmade.symm.trans hmint
    · cases hfault.symm.trans hmint
      exact ⟨rfl, kind, hlate⟩
  exact hconfines w message rfl hfault

namespace Settings.Sample

/-- An environment with a key and with a lifetime for access tokens. -/
def environment (access : String) : Environment := fun name =>
  [("DATABASE_URL", "postgres://localhost"), ("CIPHER_SECRET_KEY", "c2VjcmV0"),
    ("CIPHER_ACCESS_TOKEN_EXPIRE_SECONDS", access)].lookup name

/-- What these variables stand for. -/
def loaded (access : Nat) : Settings where
  databaseUrl := "postgres://localhost"
  databaseConnections := 10
  cacheUrl := "redis://127.0.0.1:6379"
  host := "127.0.0.1"
  port := 8080
  config := { signingKey := Bytes.ofText "secret", accessLifetime := .ofSeconds access }

def codec (access : Nat) : Codec where
  algorithm := .hmac .sha256
  signingKey := ⟨.shared, Bytes.ofText "secret"⟩
  verificationKey := ⟨.shared, Bytes.ofText "secret"⟩
  accessLifetime := .ofSeconds access
  refreshLifetime := .ofSeconds 2592000

/-- Nobody is registered, and nothing has been asked. -/
def world : World (Cache.ListServer × Users.Relational) := ⟨({}, {}), .ofSeconds 0, ⟨[], 0⟩, []⟩

/-- A service that lets nobody in. -/
def service (access : Nat) : Service := ⟨codec access, ⟨5⟩, fun _ _ => false⟩

theorem load_minute : Settings.load (environment "60") false 0 = .ok (loaded 60, []) := rfl

/-- This many seconds can be counted in milliseconds, and no calendar reaches so far. -/
theorem load_late : Settings.load (environment "9000000000000000") false 0 =
    .ok (loaded 9000000000000000, []) := rfl

theorem sharesKeys (access : String) : (environment access).SharesKeys := by
  have hdefault : (environment access).get? "CIPHER_ALGORITHM" = none := rfl
  refine Or.inl ⟨.sha256, ?_⟩
  unfold Settings.loadAlgorithm
  rw [hdefault]
  rfl

end Settings.Sample

open Settings.Sample in
/-- A deployment with a lifetime of one minute makes tokens, and no call of it is at fault. -/
theorem boots_mint_minute :
    Settings.load (environment "60") false 0 = .ok (loaded 60, []) ∧
      (environment "60").SharesKeys ∧ Codec.ofConfig (loaded 60).config = .ok (codec 60) ∧
      (∃ made, (Deployment.remote.runCall ((codec 60).encode "ada" .access) world).1 = .ok made) ∧
      ∀ message, (Deployment.remote.runCall ((service 60).call (.logout "")) world).1 ≠
        .error (.configuration message) := by
  have hcodec : Codec.ofConfig (loaded 60).config = .ok (codec 60) := rfl
  obtain ⟨_, _, hencode, hfault⟩ := boots_mint load_minute (sharesKeys _) hcodec
  refine ⟨load_minute, sharesKeys _, hcodec, ?_, ?_⟩
  · rcases hencode _ Deployment.remote.toBackend world "ada" .access (by decide) (by decide) with
      ⟨_, hmade⟩ | ⟨hlate, _⟩
    · exact hmade
    · exact absurd hlate (by decide)
  · intro message hfailed
    obtain ⟨_, kind, hlate⟩ :=
      hfault (service 60) rfl _ world (by decide) (by decide) message hfailed
    revert hlate
    cases kind <;> decide

/-- There are deployments that boot and cannot make any access token. -/
theorem not_forall_boots_mint : ¬ ∀ (env : Environment) (development : Bool) (fresh : BitVec 256)
    (settings : Settings) (events : List Event) (c : Codec),
    Settings.load env development fresh = .ok (settings, events) → env.SharesKeys →
    Codec.ofConfig settings.config = .ok c →
    (∀ (w : World (Cache.ListServer × Users.Relational)) (subject : String) (kind : Kind),
      Instant.firstSecond ≤ w.now.seconds → w.now.seconds ≤ Instant.lastSecondOf3000 →
      ∃ made, (Deployment.remote.runCall (c.encode subject kind) w).1 = .ok made) ∧
    ∀ (s : Service), s.codec = c → ∀ (op : Service.Operation)
      (w : World (Cache.ListServer × Users.Relational)),
      Instant.firstSecond ≤ w.now.seconds → w.now.seconds ≤ Instant.lastSecondOf3000 →
      ∀ message, (Deployment.remote.runCall (s.call op) w).1 ≠ .error (.configuration message) := by
  intro hall
  obtain ⟨hmints, _⟩ := hall _ _ _ _ _ _ Settings.Sample.load_late (Settings.Sample.sharesKeys _)
    (show Codec.ofConfig _ = .ok (Settings.Sample.codec 9000000000000000) from rfl)
  obtain ⟨made, hmade⟩ := hmints Settings.Sample.world "ada" .access (by decide) (by decide)
  have hfailed : (Deployment.remote.runCall
      ((Settings.Sample.codec 9000000000000000).encode "ada" .access) Settings.Sample.world).1 =
        .error (.configuration "token expiry out of range") := rfl
  cases hfailed.symm.trans hmade

end SessionAuth
