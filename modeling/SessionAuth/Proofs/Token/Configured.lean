/-
The codec of a configuration.

Making a codec checks that there is a key, that it can be loaded, and that both lifetimes can be
counted in milliseconds.  A shared key is taken as it is, so that with it nothing else can go
wrong; and it checks what it signs if there is no other key for that.
-/
import SessionAuth.Proofs.Token.RoundTrip
import SessionAuth.Proofs.Token.Signature

namespace SessionAuth

/-- The text of the key that checks signatures: the one for signing, if there is no other. -/
def Config.checkingKey (config : Config) : Bytes :=
  if config.verificationKey.isEmpty then config.signingKey else config.verificationKey

namespace Token.Codec

/-- What a codec has of its configuration, and what the configuration must be like. -/
structure IsOf (c : Codec) (config : Config) : Prop where
  hasKey : config.signingKey ≠ []
  algorithm : c.algorithm = config.algorithm
  signing : SigningKey.load config.algorithm.family config.signingKey = .ok c.signingKey
  checking : VerificationKey.load config.algorithm.family config.checkingKey =
    .ok c.verificationKey
  access : c.accessLifetime = config.accessLifetime
  refresh : c.refreshLifetime = config.refreshLifetime
  accessLimit : config.accessLifetime.nanos ≤ Lifetime.longest.nanos
  refreshLimit : config.refreshLifetime.nanos ≤ Lifetime.longest.nanos

variable {config : Config} {c : Codec}

/-- The steps in which a codec is made. -/
theorem ofConfig_eq (config : Config) : ofConfig config =
    if config.signingKey = [] then .error (.configuration "signing key is empty")
    else do
      let signingKey ← loaded config.algorithm
        (SigningKey.load config.algorithm.family config.signingKey)
      let verificationKey ← loaded config.algorithm
        (VerificationKey.load config.algorithm.family config.checkingKey)
      checkLifetime config.accessLifetime
      checkLifetime config.refreshLifetime
      return ⟨config.algorithm, signingKey, verificationKey, config.accessLifetime,
        config.refreshLifetime⟩ := by
  by_cases hkey : config.signingKey = []
  · rw [if_pos hkey]
    unfold ofConfig
    rw [hkey]
    rfl
  · have hsome : config.signingKey.isEmpty = false := by
      rw [Bool.eq_false_iff, ne_eq, List.isEmpty_iff]
      exact hkey
    rw [if_neg hkey]
    unfold ofConfig
    rw [hsome]
    rfl

theorem loaded_eq_ok {α : Type} {algorithm : Algorithm} {key : Except Keys.KeyFault α} {a : α}
    (h : loaded algorithm key = .ok a) : key = .ok a := by
  cases key with
  | error fault => cases h
  | ok key => exact congrArg Except.ok (Except.ok.inj h)

theorem checkLifetime_eq_ok {d : Lifetime} {done : Unit} (h : checkLifetime d = .ok done) :
    d.nanos ≤ Lifetime.longest.nanos := by
  unfold checkLifetime at h
  split at h
  · assumption
  · cases h

/-- **A codec that could be made has what its configuration says.** -/
theorem isOf_of_ofConfig (h : ofConfig config = .ok c) : c.IsOf config := by
  rw [ofConfig_eq] at h
  split at h
  · cases h
  · rename_i hkey
    obtain ⟨signingKey, hsigning, h⟩ := exists_of_bind_eq_ok h
    obtain ⟨verificationKey, hchecking, h⟩ := exists_of_bind_eq_ok h
    obtain ⟨_, haccess, h⟩ := exists_of_bind_eq_ok h
    obtain ⟨_, hrefresh, h⟩ := exists_of_bind_eq_ok h
    cases h
    exact ⟨hkey, rfl, loaded_eq_ok hsigning, loaded_eq_ok hchecking, rfl, rfl,
      checkLifetime_eq_ok haccess, checkLifetime_eq_ok hrefresh⟩

/-! ### Shared keys -/

/-- With a shared key both keys are what the configuration gives. -/
theorem IsOf.keys_of_shared (h : c.IsOf config) (hshared : config.algorithm.family = .shared) :
    c.signingKey = ⟨.shared, config.signingKey⟩ ∧
      c.verificationKey = ⟨.shared, config.checkingKey⟩ := by
  have hsigning := h.signing
  have hchecking := h.checking
  rw [hshared] at hsigning hchecking
  exact ⟨(Except.ok.inj hsigning).symm, (Except.ok.inj hchecking).symm⟩

/-- With a shared key a codec is made of every configuration that has one, unless a lifetime is
too long. -/
theorem exists_ofConfig (hshared : config.algorithm.family = .shared)
    (hkey : config.signingKey ≠ [])
    (haccess : config.accessLifetime.nanos ≤ Lifetime.longest.nanos)
    (hrefresh : config.refreshLifetime.nanos ≤ Lifetime.longest.nanos) :
    ∃ c, ofConfig config = .ok c := by
  have hfits : ∀ {d : Lifetime}, d.nanos ≤ Lifetime.longest.nanos → checkLifetime d = .ok () :=
    fun hd => if_pos hd
  rw [ofConfig_eq, if_neg hkey, hshared, hfits haccess, hfits hrefresh]
  exact ⟨_, rfl⟩

theorem exists_hmac {algorithm : Algorithm} (h : algorithm.family = .shared) :
    ∃ d, algorithm = .hmac d := by
  cases algorithm with
  | hmac d => exact ⟨d, rfl⟩
  | _ => cases h

/-- A shared key checks what it signs, unless there is another one for that. -/
theorem IsOf.checksOwn (h : c.IsOf config) (hshared : config.algorithm.family = .shared)
    (hsame : config.verificationKey = [] ∨ config.verificationKey = config.signingKey) :
    c.ChecksOwn := by
  obtain ⟨hsigning, hchecking⟩ := h.keys_of_shared hshared
  obtain ⟨d, hd⟩ := exists_hmac hshared
  have hkey : config.checkingKey = config.signingKey := by
    unfold Config.checkingKey
    rcases hsame with hnone | hsame
    · rw [hnone]
      rfl
    · rw [hsame, ite_self]
  refine checksOwn_shared (h.algorithm.trans hd) ?_
  rw [hchecking, hkey, hsigning]

end Token.Codec

end SessionAuth
