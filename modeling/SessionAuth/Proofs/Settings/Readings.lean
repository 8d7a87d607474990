/-
What settings are made of.

Settings load if and only if every variable can be read (`load_eq_ok_iff`).  What is read of the
variables that have nothing to do with keys goes into the configuration as it is, whatever the keys
are (`Readings.config`).
-/
import SessionAuth.Proofs.Token.Signature
import SessionAuth.Settings

namespace SessionAuth.Settings

/-- What the variables of the service say, those of the keys left out. -/
structure Readings where
  algorithm : Token.Algorithm
  access : Nat
  refresh : Nat
  maxSessions : Nat
  cookieSecure : Bool
  pepper : Option Bytes

namespace Readings

/-- An environment gives these values, or they are the defaults, and all of them are in range. -/
structure Of (r : Readings) (env : Environment) : Prop where
  algorithm : loadAlgorithm env = .ok r.algorithm
  access : env.number "CIPHER_ACCESS_TOKEN_EXPIRE_SECONDS" limit64 900 = .ok r.access
  refresh : env.number "CIPHER_REFRESH_TOKEN_EXPIRE_SECONDS" limit64 2592000 = .ok r.refresh
  maxSessions : env.number "AUTH_MAX_SESSIONS" limit64 5 = .ok r.maxSessions
  cookieSecure : env.switch "COOKIE_SECURE" true = .ok r.cookieSecure
  pepper : env.key? "CIPHER_PASSWORD_PEPPER" = .ok r.pepper
  access_pos : 1 ≤ r.access
  refresh_pos : 1 ≤ r.refresh
  maxSessions_pos : 1 ≤ r.maxSessions

/-- The configuration with the algorithm and keys of another one. -/
def config (r : Readings) (keys : Config) : Config :=
  { keys with
    accessLifetime := .ofSeconds r.access
    refreshLifetime := .ofSeconds r.refresh
    maxSessions := r.maxSessions
    cookieSecure := r.cookieSecure
    pepper := r.pepper }

end Readings

variable {env : Environment} {development : Bool} {fresh : BitVec 256} {config : Config}
  {settings : Settings} {events : List Event}

/-- Keys are read if there is a secret; without one a development build alone goes on. -/
theorem loadKeys_eq_ok_iff {algorithm : Token.Algorithm} {keys : Config} :
    loadKeys env development fresh algorithm = .ok (keys, events) ↔
      (∃ secret signing verification, env.get? "CIPHER_SECRET_KEY" = some secret ∧
        Environment.decodeKey "CIPHER_SECRET_KEY" secret = .ok signing ∧
        env.key? "CIPHER_PUBLIC_KEY" = .ok verification ∧ events = [] ∧
        keys = { algorithm := algorithm, signingKey := signing,
                 verificationKey := verification.getD [] }) ∨
      env.get? "CIPHER_SECRET_KEY" = none ∧ development = true ∧ events = [.secretMissing] ∧
        keys = Config.withSecret (Bytes.ofNat 32 fresh.toNat) := by
  unfold loadKeys
  cases hsecret : env.get? "CIPHER_SECRET_KEY" with
  | none =>
    cases development with
    | true =>
      constructor
      · intro h
        cases h
        exact .inr ⟨rfl, rfl, rfl, rfl⟩
      · rintro (⟨_, _, _, hset, _⟩ | ⟨_, _, rfl, rfl⟩)
        · cases hset
        · rfl
    | false =>
      constructor
      · intro h
        cases h
      · rintro (⟨_, _, _, hset, _⟩ | ⟨_, hdevelopment, _⟩)
        · cases hset
        · cases hdevelopment
  | some secret =>
    constructor
    · intro h
      obtain ⟨signing, hsigning, h⟩ := exists_of_bind_eq_ok h
      obtain ⟨verification, hverification, h⟩ := exists_of_bind_eq_ok h
      cases h
      exact .inl ⟨secret, signing, verification, rfl, hsigning, hverification, rfl, rfl⟩
    · rintro (⟨_, signing, verification, hset, hsigning, hverification, rfl, rfl⟩ | ⟨hnone, _⟩)
      · cases hset
        dsimp only
        rw [hsigning, hverification]
        rfl
      · cases hnone

/-- A configuration loads if and only if its variables and its keys can be read. -/
theorem loadConfig_eq_ok_iff : loadConfig env development fresh = .ok (config, events) ↔
    ∃ (r : Readings) (keys : Config), r.Of env ∧
      loadKeys env development fresh r.algorithm = .ok (keys, events) ∧ config = r.config keys := by
  constructor
  · intro h
    unfold loadConfig at h
    obtain ⟨algorithm, halgorithm, h⟩ := exists_of_bind_eq_ok h
    obtain ⟨access, haccess, h⟩ := exists_of_bind_eq_ok h
    obtain ⟨refresh, hrefresh, h⟩ := exists_of_bind_eq_ok h
    split at h
    · cases h
    · rename_i hlifetimes
      obtain ⟨maxSessions, hsessions, h⟩ := exists_of_bind_eq_ok h
      split at h
      · cases h
      · rename_i hpositive
        obtain ⟨⟨keys, logged⟩, hkeys, h⟩ := exists_of_bind_eq_ok h
        obtain ⟨secure, hsecure, h⟩ := exists_of_bind_eq_ok h
        obtain ⟨pepper, hpepper, h⟩ := exists_of_bind_eq_ok h
        cases h
        exact ⟨⟨algorithm, access, refresh, maxSessions, secure, pepper⟩, keys,
          ⟨halgorithm, haccess, hrefresh, hsessions, hsecure, hpepper,
            Nat.pos_of_ne_zero fun h => hlifetimes (.inl h),
            Nat.pos_of_ne_zero fun h => hlifetimes (.inr h), Nat.pos_of_ne_zero hpositive⟩,
          hkeys, rfl⟩
  · rintro ⟨r, keys, hr, hkeys, rfl⟩
    have hlifetimes : ¬ (r.access = 0 ∨ r.refresh = 0) := by
      have haccess := hr.access_pos
      have hrefresh := hr.refresh_pos
      omega
    have hpositive : ¬ r.maxSessions = 0 := Nat.one_le_iff_ne_zero.mp hr.maxSessions_pos
    unfold loadConfig
    rw [hr.algorithm, hr.access, hr.refresh, hr.maxSessions, hr.cookieSecure, hr.pepper]
    show (if r.access = 0 ∨ r.refresh = 0 then _ else _ : Except SettingsFault _) = _
    rw [if_neg hlifetimes]
    show (if r.maxSessions = 0 then _ else _ : Except SettingsFault _) = _
    rw [if_neg hpositive]
    show (loadKeys env development fresh r.algorithm >>= _) = _
    rw [hkeys]
    rfl

/-- Settings load if and only if the addresses and the configuration can be read. -/
theorem load_eq_ok_iff : load env development fresh = .ok (settings, events) ↔
    env.get? "DATABASE_URL" = some settings.databaseUrl ∧
    env.number "DB_MAX_CONNECTIONS" limit32 10 = .ok settings.databaseConnections ∧
    loadCacheUrl env = .ok settings.cacheUrl ∧
    loadConfig env development fresh = .ok (settings.config, events) ∧
    env.number "SERVER_PORT" limit16 8080 = .ok settings.port ∧
    settings.host = (env.get? "SERVER_HOST").getD "127.0.0.1" := by
  unfold load
  cases hurl : env.get? "DATABASE_URL" with
  | none =>
    constructor
    · intro h
      cases h
    · intro h
      cases h.1
  | some url =>
    constructor
    · intro h
      obtain ⟨databaseUrl, hurl, h⟩ := exists_of_bind_eq_ok h
      obtain ⟨connections, hconnections, h⟩ := exists_of_bind_eq_ok h
      obtain ⟨cacheUrl, hcache, h⟩ := exists_of_bind_eq_ok h
      obtain ⟨⟨config, logged⟩, hconfig, h⟩ := exists_of_bind_eq_ok h
      obtain ⟨port, hport, h⟩ := exists_of_bind_eq_ok h
      cases hurl
      cases h
      exact ⟨rfl, hconnections, hcache, hconfig, hport, rfl⟩
    · rintro ⟨hurl, hconnections, hcache, hconfig, hport, hhost⟩
      cases hurl
      rw [hconnections, hcache, hconfig, hport, ← hhost]
      rfl

theorem config_of_load (h : load env development fresh = .ok (settings, events)) :
    ∃ (r : Readings) (keys : Config), r.Of env ∧
      loadKeys env development fresh r.algorithm = .ok (keys, events) ∧
      settings.config = r.config keys :=
  loadConfig_eq_ok_iff.mp (load_eq_ok_iff.mp h).2.2.2.1

end SessionAuth.Settings
