/-
Settings that are fit for use.

Nothing that loads can do harm: there is a key to sign with, tokens live for a second at least, and
a user may have a session.  Where the key comes from depends on the build.  A release build signs
with the key that it was given, and that is never nothing, since a text that is not blank is not
read as no bytes.  A development build may do without, and then draws a key at random and goes by
nothing that is said about algorithms and keys (`loaded_safe`).
-/
import SessionAuth.Proofs.Bytes.Base64
import SessionAuth.Proofs.Deployment.Boot

namespace SessionAuth

open Token (Codec Kind)

/-! ### Variables -/

namespace Environment

variable {env env' : Environment} {name value : String}

/-- What is found is what the variable is set to, and it is not blank. -/
theorem get?_eq_some_iff :
    env.get? name = some value ↔ env name = some value ∧ Text.trimBlanks value ≠ "" := by
  unfold get?
  rw [Option.filter_eq_some_iff, bne_iff_ne]

theorem get?_congr (h : env' name = env name) : env'.get? name = env.get? name := by
  unfold get?
  rw [h]

theorem number_congr (h : env' name = env name) (limit default : Nat) :
    env'.number name limit default = env.number name limit default := by
  unfold number
  rw [get?_congr h]

theorem switch_congr (h : env' name = env name) (default : Bool) :
    env'.switch name default = env.switch name default := by
  unfold switch
  rw [get?_congr h]

theorem key?_congr (h : env' name = env name) : env'.key? name = env.key? name := by
  unfold key?
  rw [get?_congr h]

/-- Two environments differ at most in what they say about the algorithm and the public key. -/
def SameButKeys (env env' : Environment) : Prop :=
  ∀ name, name ≠ "CIPHER_ALGORITHM" → name ≠ "CIPHER_PUBLIC_KEY" → env' name = env name

end Environment

namespace Settings

open Environment

variable {env env' : Environment} {development : Bool} {fresh : BitVec 256} {settings : Settings}
  {events : List Event}

/-- The rest of the variables is read whatever the algorithm is. -/
theorem Readings.Of.sameButKeys {r : Readings} {algorithm : Token.Algorithm} (hr : r.Of env)
    (h : env.SameButKeys env') (halgorithm : loadAlgorithm env' = .ok algorithm) :
    Readings.Of { r with algorithm := algorithm } env' where
  algorithm := halgorithm
  access := (number_congr (h _ (by decide) (by decide)) _ _).trans hr.access
  refresh := (number_congr (h _ (by decide) (by decide)) _ _).trans hr.refresh
  maxSessions := (number_congr (h _ (by decide) (by decide)) _ _).trans hr.maxSessions
  cookieSecure := (switch_congr (h _ (by decide) (by decide)) _).trans hr.cookieSecure
  pepper := (key?_congr (h _ (by decide) (by decide))).trans hr.pepper
  access_pos := hr.access_pos
  refresh_pos := hr.refresh_pos
  maxSessions_pos := hr.maxSessions_pos

theorem loadCacheUrl_sameButKeys (h : env.SameButKeys env') :
    loadCacheUrl env' = loadCacheUrl env := by
  unfold loadCacheUrl
  rw [get?_congr (h "REDIS_URL" (by decide) (by decide)),
    get?_congr (h "REDIS_HOST" (by decide) (by decide)),
    get?_congr (h "REDIS_PASSWORD" (by decide) (by decide)),
    number_congr (h "REDIS_PORT" (by decide) (by decide))]

/-- Without a secret it makes no difference what is said about the algorithm and the public key, as
long as there is such an algorithm. -/
theorem load_sameButKeys (hload : load env development fresh = .ok (settings, events))
    (hsecret : env.get? "CIPHER_SECRET_KEY" = none) (h : env.SameButKeys env')
    {algorithm : Token.Algorithm} (halgorithm : loadAlgorithm env' = .ok algorithm) :
    load env' development fresh = .ok (settings, events) := by
  obtain ⟨hurl, hconnections, hcache, hconfig, hport, hhost⟩ := load_eq_ok_iff.mp hload
  obtain ⟨r, keys, hr, hkeys, hsame⟩ := loadConfig_eq_ok_iff.mp hconfig
  have hsecret' : env'.get? "CIPHER_SECRET_KEY" = none :=
    (get?_congr (h _ (by decide) (by decide))).trans hsecret
  refine load_eq_ok_iff.mpr ⟨?_, ?_, ?_, ?_, ?_, ?_⟩
  · rw [get?_congr (h _ (by decide) (by decide)), hurl]
  · rw [number_congr (h _ (by decide) (by decide)), hconnections]
  · rw [loadCacheUrl_sameButKeys h, hcache]
  · refine loadConfig_eq_ok_iff.mpr ⟨_, keys, hr.sameButKeys h halgorithm, ?_, hsame⟩
    rcases loadKeys_eq_ok_iff.mp hkeys with ⟨_, _, _, hset, _⟩ | ⟨_, hdrawn⟩
    · cases hset.symm.trans hsecret
    · exact loadKeys_eq_ok_iff.mpr (.inr ⟨hsecret', hdrawn⟩)
  · rw [number_congr (h _ (by decide) (by decide)), hport]
  · rw [get?_congr (h _ (by decide) (by decide)), hhost]

/-! ### Where the key comes from -/

/-- The key is what the secret stands for, and the secret is not blank. -/
structure GivesKey (secret : String) (key : Bytes) : Prop where
  notBlank : Text.trimBlanks secret ≠ ""
  read : fromBase64? secret = some key
  spelled : Base64.encode Base64.standard key = Text.trimBlanks secret

theorem GivesKey.ne_nil {secret : String} {key : Bytes} (h : GivesKey secret key) : key ≠ [] := by
  rintro rfl
  exact h.notBlank h.spelled.symm

theorem givesKey_of_decodeKey {name secret : String} {key : Bytes}
    (h : decodeKey name secret = .ok key) (hsecret : Text.trimBlanks secret ≠ "") :
    GivesKey secret key := by
  have hread : fromBase64? secret = some key := by
    unfold decodeKey at h
    split at h
    · cases h
      assumption
    · cases h
  exact ⟨hsecret, hread,
    congrArg String.ofList (Base64.decodeChars?_eq_some_iff.mp hread).symm⟩

/-- A secret that is set gives the key. -/
theorem givesKey_of_load (h : load env development fresh = .ok (settings, events))
    {secret : String} (hsecret : env.get? "CIPHER_SECRET_KEY" = some secret) :
    GivesKey secret settings.config.signingKey := by
  obtain ⟨r, keys, hr, hkeys, hconfig⟩ := config_of_load h
  rw [hconfig]
  rcases loadKeys_eq_ok_iff.mp hkeys with ⟨_, signing, _, hset, hsigning, _, _, rfl⟩ | ⟨hnone, _⟩
  · cases hset.symm.trans hsecret
    exact givesKey_of_decodeKey hsigning (get?_eq_some_iff.mp hsecret).2
  · cases hnone.symm.trans hsecret

/-- Without a secret the build is one for development, and the key is drawn. -/
theorem drawn_of_load (h : load env development fresh = .ok (settings, events))
    (hsecret : env.get? "CIPHER_SECRET_KEY" = none) :
    development = true ∧ ∃ r : Readings, r.Of env ∧
      settings.config = r.config (Config.withSecret (Bytes.ofNat 32 fresh.toNat)) := by
  obtain ⟨r, keys, hr, hkeys, hconfig⟩ := config_of_load h
  rcases loadKeys_eq_ok_iff.mp hkeys with ⟨_, _, _, hset, _⟩ | ⟨_, hdevelopment, _, rfl⟩
  · cases hset.symm.trans hsecret
  · exact ⟨hdevelopment, r, hr, hconfig⟩

theorem signingKey_ne_nil_of_load (h : load env development fresh = .ok (settings, events)) :
    settings.config.signingKey ≠ [] := by
  cases hsecret : env.get? "CIPHER_SECRET_KEY" with
  | some secret => exact (givesKey_of_load h hsecret).ne_nil
  | none =>
    obtain ⟨_, r, _, hconfig⟩ := drawn_of_load h hsecret
    rw [hconfig]
    exact List.ne_nil_of_length_eq_add_one (Bytes.length_ofNat 32 fresh.toNat)

/-! ### What is loaded -/

theorem one_le_maxSessions_of_load (h : load env development fresh = .ok (settings, events)) :
    1 ≤ settings.config.maxSessions := by
  obtain ⟨r, keys, hr, _, hconfig⟩ := config_of_load h
  rw [hconfig]
  exact hr.maxSessions_pos

/-- A lifetime that was loaded can be counted in milliseconds if its seconds can. -/
theorem lifetime_le_of_load (h : load env development fresh = .ok (settings, events)) {kind : Kind}
    (hlimit : (settings.config.lifetime kind).seconds ≤ (limit63 - 1) / 1000) :
    (settings.config.lifetime kind).nanos ≤ Lifetime.longest.nanos := by
  obtain ⟨n, _, hlifetime⟩ := lifetime_of_load h kind
  rw [hlifetime, Lifetime.seconds_ofSeconds] at hlimit
  rw [hlifetime]
  unfold Lifetime.longest Lifetime.ofMillis Lifetime.ofSeconds nanosPerMilli nanosPerSecond
  dsimp only
  omega

/--
**Settings that load are safe.**  There is a key to sign with, the lifetimes are a second long at
least, and there may be a session at least.  If a secret is set, and in a release build one has to
be, the key is what it stands for in base64.  In a development build without a secret the key is 32
bytes that are drawn at random for HS256, and there is no other key to check with; nothing that is
said about the algorithm or the public key changes that, and all the rest is as the environment
says.  So with a shared key a codec can be made, unless a lifetime is longer than what can be
counted in milliseconds.
-/
theorem loaded_safe (h : load env development fresh = .ok (settings, events)) :
    settings.config.signingKey ≠ [] ∧
    (∀ kind, 1 ≤ (settings.config.lifetime kind).seconds) ∧
    1 ≤ settings.config.maxSessions ∧
    (development = false ∨ env.get? "CIPHER_SECRET_KEY" ≠ none →
      ∃ secret, env "CIPHER_SECRET_KEY" = some secret ∧
        GivesKey secret settings.config.signingKey) ∧
    (env.get? "CIPHER_SECRET_KEY" = none →
      settings.config.algorithm = .hmac .sha256 ∧
      settings.config.signingKey = Bytes.ofNat 32 fresh.toNat ∧
      settings.config.signingKey.length = 32 ∧
      settings.config.verificationKey = [] ∧
      (∃ r : Readings, r.Of env ∧
        settings.config = r.config (Config.withSecret settings.config.signingKey)) ∧
      ∀ env' algorithm, env.SameButKeys env' → loadAlgorithm env' = .ok algorithm →
        load env' development fresh = .ok (settings, events)) ∧
    ((∃ d, settings.config.algorithm = .hmac d) →
      (∀ kind, (settings.config.lifetime kind).seconds ≤ (limit63 - 1) / 1000) →
      ∃ c, Codec.ofConfig settings.config = .ok c) := by
  have hkey := signingKey_ne_nil_of_load h
  refine ⟨hkey, one_le_lifetime_of_load h, one_le_maxSessions_of_load h, fun hgiven => ?_,
    fun hsecret => ?_, ?_⟩
  · cases hsecret : env.get? "CIPHER_SECRET_KEY" with
    | some secret =>
      exact ⟨secret, (get?_eq_some_iff.mp hsecret).1, givesKey_of_load h hsecret⟩
    | none =>
      have hdevelopment := (drawn_of_load h hsecret).1
      rcases hgiven with hrelease | hset
      · cases hrelease.symm.trans hdevelopment
      · exact absurd hsecret hset
  · obtain ⟨_, r, hr, hconfig⟩ := drawn_of_load h hsecret
    have hdrawn : settings.config.signingKey = Bytes.ofNat 32 fresh.toNat := by
      rw [hconfig]
      rfl
    refine ⟨?_, hdrawn, ?_, ?_, ⟨r, hr, ?_⟩, fun env' algorithm hsame halgorithm =>
      load_sameButKeys h hsecret hsame halgorithm⟩
    · rw [hconfig]
      rfl
    · rw [hdrawn, Bytes.length_ofNat]
    · rw [hconfig]
      rfl
    · rw [hdrawn, hconfig]
  · rintro ⟨d, hd⟩ hlimit
    have hshared : settings.config.algorithm.family = .shared := by
      rw [hd]
      rfl
    exact Codec.exists_ofConfig hshared hkey (lifetime_le_of_load h (hlimit .access))
      (lifetime_le_of_load h (hlimit .refresh))

namespace Sample

/-- An environment without a secret, with a public key that cannot be read. -/
def secretless : Environment := fun name =>
  [("DATABASE_URL", "postgres://localhost"), ("CIPHER_ALGORITHM", "RS256"),
    ("CIPHER_PUBLIC_KEY", "?"), ("AUTH_MAX_SESSIONS", "3")].lookup name

/-- What is drawn for it in development. -/
def drawn : Settings where
  databaseUrl := "postgres://localhost"
  databaseConnections := 10
  cacheUrl := "redis://127.0.0.1:6379"
  host := "127.0.0.1"
  port := 8080
  config := { signingKey := Bytes.ofNat 32 7, maxSessions := 3 }

theorem load_secretless : load secretless true 7 = .ok (drawn, [.secretMissing]) := rfl

end Sample

open Sample in
/-- A secret is made use of, and one that is missing is made up for, in development alone. -/
theorem loaded_safe_drawn :
    (load (environment "60") false 0 = .ok (loaded 60, []) ∧
      GivesKey "c2VjcmV0" (loaded 60).config.signingKey) ∧
    load secretless true 7 = .ok (drawn, [.secretMissing]) ∧
      drawn.config.algorithm = .hmac .sha256 ∧ drawn.config.signingKey.length = 32 ∧
      ∃ c, Codec.ofConfig drawn.config = .ok c := by
  obtain ⟨_, _, _, hgiven, _, _⟩ := loaded_safe load_minute
  obtain ⟨_, _, _, _, hdrawn, hcodec⟩ := loaded_safe load_secretless
  obtain ⟨halgorithm, _, hlength, _⟩ := hdrawn (by decide)
  obtain ⟨secret, hsecret, hkey⟩ := hgiven (.inl rfl)
  have hvalue : environment "60" "CIPHER_SECRET_KEY" = some "c2VjcmV0" := rfl
  cases hsecret.symm.trans hvalue
  refine ⟨⟨load_minute, hkey⟩, load_secretless, halgorithm, hlength,
    hcodec ⟨.sha256, rfl⟩ fun kind => ?_⟩
  cases kind <;> decide

end Settings

end SessionAuth
