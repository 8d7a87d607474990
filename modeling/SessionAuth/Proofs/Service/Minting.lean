/-
A token from the moment it is made.

Whoever has made a token knows everything about it: which lifetime it was given, which second it
holds until, what it says, and which characters it is written in.  Reading it gives that back
until the second has passed, over any backend, and is refused from then on (`token_lasts`).

Only one thing is taken for granted, and only of keys that come in pairs: that the key for
checking finds the signature of this very token right.  Shared keys do so if they are the same.
-/
import SessionAuth.Proofs.Service.Decoding
import SessionAuth.Proofs.Token.Characters
import SessionAuth.Proofs.Token.Configured
import SessionAuth.Proofs.UserId

namespace SessionAuth

open Token (Codec Kind Overrides Payload)

/-! ### Characters -/

/-- One part of a token: some text in base64. -/
structure IsPart (part : List Char) : Prop where
  nonempty : part ≠ []
  urlSafe : ∀ c ∈ part, IsUrlSafe c

theorem Base64.isPart_encodeChars {bytes : Bytes} (h : bytes ≠ []) :
    IsPart (encodeChars urlSafe bytes) where
  nonempty hnone := by
    match bytes with
    | [] => exact h rfl
    | [x] => cases hnone
    | [x, y] => cases hnone
    | x :: y :: z :: rest => cases hnone
  urlSafe _ := isUrlSafe_of_mem

/-- The digits of a random id. -/
def IsHexId (id : String) : Prop :=
  id.toList.length = 32 ∧ ∀ c ∈ id.toList, ('0' ≤ c ∧ c ≤ '9') ∨ ('a' ≤ c ∧ c ≤ 'f')

theorem UserId.isHexId_toHex (id : UserId) : IsHexId id.toHex := by
  unfold toHex IsHexId
  rw [String.toList_ofList]
  refine ⟨id.length_digits, ?_⟩
  intro c hc
  have hall : ∀ k < 16, ('0' ≤ Bytes.hexDigit k ∧ Bytes.hexDigit k ≤ '9') ∨
      ('a' ≤ Bytes.hexDigit k ∧ Bytes.hexDigit k ≤ 'f') := by decide
  obtain ⟨b, _, hb⟩ := List.mem_flatMap.mp hc
  simp only [List.mem_cons, List.not_mem_nil, or_false] at hb
  have hbyte := b.toNat_lt
  rcases hb with rfl | rfl
  · exact hall _ (by omega)
  · exact hall _ (by omega)

/-- A token is written in three parts, and nothing in it is mistaken for anything else. -/
def IsThreeParts (token : String) : Prop :=
  (∃ header payload signature, IsPart header ∧ IsPart payload ∧ IsPart signature ∧
    token.toList = header ++ '.' :: (payload ++ '.' :: signature)) ∧
  ∀ c ∈ token.toList, c ≠ ':' ∧ c ≠ ';' ∧ c ≠ '=' ∧ Text.isBlank c = false

theorem isThreeParts_of_parts {header payload signature : List Char} {token : String}
    (hheader : IsPart header) (hpayload : IsPart payload) (hsignature : IsPart signature)
    (htoken : token.toList = header ++ '.' :: (payload ++ '.' :: signature)) :
    IsThreeParts token := by
  refine ⟨⟨header, payload, signature, hheader, hpayload, hsignature, htoken⟩, ?_⟩
  have hsafe : ∀ c ∈ token.toList, IsUrlSafe c ∨ c = '.' := by
    intro c hc
    rw [htoken] at hc
    simp only [List.mem_append, List.mem_cons] at hc
    rcases hc with hc | rfl | hc | rfl | hc
    · exact Or.inl (hheader.urlSafe c hc)
    · exact Or.inr rfl
    · exact Or.inl (hpayload.urlSafe c hc)
    · exact Or.inr rfl
    · exact Or.inl (hsignature.urlSafe c hc)
  intro c hc
  have hvisible : IsVisible c := by
    rcases hsafe c hc with hurl | rfl
    · exact isVisible_of_isUrlSafe hurl
    · decide
  refine ⟨?_, ?_, ?_, Bool.eq_false_iff.mpr (not_isBlank_of_isVisible hvisible)⟩ <;> rintro rfl <;>
    exact absurd (hsafe _ hc) (by decide)

/-- Any text makes a part, and so does any signature. -/
theorem Token.Compact.isThreeParts_attach {header payload : String} {signature : Bytes}
    (hheader : Bytes.ofText header ≠ []) (hpayload : Bytes.ofText payload ≠ [])
    (hsignature : signature ≠ []) :
    IsThreeParts (attach (signedText header payload) signature) := by
  refine isThreeParts_of_parts (Base64.isPart_encodeChars hheader)
    (Base64.isPart_encodeChars hpayload) (Base64.isPart_encodeChars hsignature) ?_
  rw [toList_attach, List.append_assoc, List.cons_append]

/-! ### Making tokens -/

variable {σ : Type} {b : Backend σ} {w w₁ : World σ} {config : Config} {c : Codec}
  {subject token : String} {kind : Option Kind} {expires : Instant}

/-- A token that was made was made at the time of day, with choices of its own. -/
theorem Backend.encodeWith_eq_ok {o : Overrides} {made : Instant × String}
    (h : b.runCall (c.encodeWith subject kind o) w = (.ok made, w₁)) :
    ∃ id noise, c.mint w.now id noise subject kind o = .ok made := by
  have hmint : ∀ w₂ : World σ, w₂.now = w.now → b.runCall (do
      let now ← Call.clock
      let id ← Call.random 128
      let noise ← Call.random 512
      Call.ofExcept (c.mint now (.ofRandom id) noise subject kind o)) w₂ = (.ok made, w₁) →
      ∃ id noise, c.mint w.now id noise subject kind o = .ok made := by
    intro w₂ hnow h
    obtain ⟨now, _, hclock, h⟩ := runCall_bind_eq_ok h
    obtain rfl : w₂.now = now := Except.ok.inj (Prod.mk.inj hclock).1
    obtain ⟨id, _, _, h⟩ := runCall_bind_eq_ok h
    obtain ⟨noise, _, _, h⟩ := runCall_bind_eq_ok h
    exact ⟨_, _, hnow ▸ (ofExcept_eq_ok h).1⟩
  unfold Token.Codec.encodeWith at h
  dsimp only at h
  split at h
  · obtain ⟨_, w₂, hlog, h⟩ := runCall_bind_eq_ok h
    obtain rfl := log_eq_ok hlog
    exact hmint (b.handle 0 (.log .tokenTypeMissing) w).2 rfl h
  · exact hmint w rfl h

/-- How long a token holds, in nanoseconds; it may have a lifetime of its own in milliseconds. -/
def Config.lifetimeOf (config : Config) (kind : Option Kind) (lifetime : Option Int) : Int :=
  match lifetime, kind with
  | some millis, _ => millis * nanosPerMilli
  | none, some .refresh => config.refreshLifetime.nanos
  | none, _ => config.accessLifetime.nanos

/-- The seconds of a lifetime are whole ones, and a token is made for one at least. -/
theorem lifetimeSeconds_eq {lifetime : Option Int} (hconfig : c.IsOf config)
    (hpositive : 0 < c.lifetimeSeconds kind { lifetime := lifetime }) :
    nanosPerSecond ≤ config.lifetimeOf kind lifetime ∧
      c.lifetimeSeconds kind { lifetime := lifetime } =
        config.lifetimeOf kind lifetime / nanosPerSecond := by
  have hconfigured : ∀ d : Lifetime, 0 < (d.seconds : Int) → (nanosPerSecond : Int) ≤ d.nanos ∧
      (d.seconds : Int) = (d.nanos : Int) / nanosPerSecond := by
    intro d hd
    unfold Lifetime.seconds nanosPerSecond at hd ⊢
    omega
  unfold Codec.lifetimeSeconds at hpositive ⊢
  unfold Config.lifetimeOf
  cases lifetime with
  | some millis =>
    dsimp only at hpositive ⊢
    have hmillis : 0 ≤ millis := by
      by_contra hnegative
      have hle := Int.tdiv_nonneg (by omega : 0 ≤ -millis) (by decide : (0 : Int) ≤ 1000)
      rw [Int.neg_tdiv] at hle
      omega
    rw [Int.tdiv_eq_ediv_of_nonneg hmillis] at hpositive ⊢
    unfold nanosPerSecond nanosPerMilli
    omega
  | none =>
    match kind with
    | none | some .access =>
      dsimp only at hpositive ⊢
      rw [hconfig.access] at hpositive ⊢
      exact hconfigured _ hpositive
    | some .refresh =>
      dsimp only at hpositive ⊢
      rw [hconfig.refresh] at hpositive ⊢
      exact hconfigured _ hpositive

/-! ### Reading them again -/

/-- The key for checking finds the signature of a token right. -/
def Token.Codec.Verifies (c : Codec) (token : String) : Prop := ∀ message signature,
  token.toList = message ++ '.' :: Base64.encodeChars Base64.urlSafe signature →
    c.verificationKey.checks c.algorithm (Bytes.ofText (String.ofList message)) signature = true

/--
What the codec has signed it finds right: with a shared key if there is only one, and with a pair
of keys by assumption.
-/
structure Config.KeysMatch (config : Config) (c : Codec) (token : String) : Prop where
  shared : config.algorithm.family = .shared →
    config.verificationKey = [] ∨ config.verificationKey = config.signingKey
  paired : config.algorithm.family ≠ .shared → c.Verifies token

theorem checks_of_keysMatch {payload : Payload} {signature : Bytes} {noise : Token.Noise}
    (hconfig : c.IsOf config)
    (hkeys : config.KeysMatch c (Token.Compact.attach (c.signedText payload) signature))
    (hsign : c.signingKey.sign c.algorithm noise (Bytes.ofText (c.signedText payload)) =
      .ok signature) :
    c.verificationKey.checks c.algorithm (Bytes.ofText (c.signedText payload)) signature =
      true := by
  by_cases hshared : config.algorithm.family = .shared
  · exact hconfig.checksOwn hshared (hkeys.shared hshared) _ _ _ hsign
  · have hchecks := hkeys.paired hshared (c.signedText payload).toList signature
      (by simp [Token.Compact.attach, Base64.encode])
    rwa [String.ofList_toList] at hchecks

/--
**A token that was made holds until the second in which it expires.**  Its lifetime has one whole
second at least; what is read until then, over any backend, is what it was made to say, and
afterwards it is refused.  It is written in three parts in base64.  The clock may show any date
when the token is made; clocks that tokens are read by count from 1970 on.
-/
theorem token_lasts {lifetime : Option Int} (hconfig : Codec.ofConfig config = .ok c)
    (hnow : Instant.firstSecond ≤ w.now.seconds)
    (hmade : b.runCall (c.encodeWith subject kind { lifetime := lifetime }) w =
      (.ok (expires, token), w₁))
    (hkeys : config.KeysMatch c token) :
    nanosPerSecond ≤ config.lifetimeOf kind lifetime ∧
    expires = .ofSeconds (w.now.seconds + config.lifetimeOf kind lifetime / nanosPerSecond) ∧
    (∃ id, IsHexId id ∧ ∀ (τ : Type) (b' : Backend τ) (later : World τ), 0 ≤ later.now.seconds →
      b'.decoded later c none none token =
        if later.now.seconds ≤
            w.now.seconds + config.lifetimeOf kind lifetime / nanosPerSecond then
          .ok { subject := subject, kind := kind, issuedAt := w.now.seconds
                expiresAt := w.now.seconds + config.lifetimeOf kind lifetime / nanosPerSecond
                id := some id }
        else .error .tokenInvalid) ∧
    IsThreeParts token := by
  have hof := Codec.isOf_of_ofConfig hconfig
  obtain ⟨id, noise, hmint⟩ := Backend.encodeWith_eq_ok hmade
  obtain ⟨hpositive, rfl, _⟩ := Codec.mint_eq_ok hmint
  obtain ⟨hlong, hseconds⟩ := lifetimeSeconds_eq hof hpositive
  obtain ⟨signature, hsign, rfl⟩ := Codec.signed_of_mint rfl rfl hmint
  have hchecks := checks_of_keysMatch hof hkeys hsign
  have hrange := Codec.inRange_of_mint hnow hmint
  refine ⟨hlong, by rw [hseconds], ⟨id.toHex, id.isHexId_toHex, ?_⟩, ?_⟩
  · intro τ b' later hlater
    rw [decoded_eq, Option.getD_none, Option.getD_none, Codec.open?_attach hchecks,
      Codec.payloadAt?_toJson_of_nonneg hrange hlater, ← hseconds]
    by_cases hexpires : later.now.seconds ≤
        (c.payloadOf w.now id subject kind { lifetime := lifetime }).expiresAt
    · rw [if_pos hexpires]
      exact (if_pos hexpires).symm
    · rw [if_neg hexpires]
      exact (if_neg hexpires).symm
  · refine Token.Compact.isThreeParts_attach ?_ ?_ ?_
    · intro hnone
      have hread := Token.Header.ofJson?_toJson ⟨c.algorithm⟩
      rw [hnone] at hread
      cases hread
    · intro hnone
      have hread := Token.Payload.ofJson?_toJson hrange
      rw [hnone] at hread
      cases hread
    · have hlength := Token.SigningKey.length_pos_of_sign hsign
      exact List.ne_nil_of_length_pos hlength

namespace Service.Sample

/-- The default configuration with a key of one byte. -/
def oneByte : Config := .withSecret [1]

/-- The codec of that configuration. -/
def keyed : Codec where
  algorithm := .hmac .sha256
  signingKey := ⟨.shared, [1]⟩
  verificationKey := ⟨.shared, [1]⟩
  accessLifetime := .ofSeconds 900
  refreshLifetime := .ofSeconds 2592000

/-- A subject with a quote, a backslash and a line break. -/
def oddSubject : String := "\"\\\n"

theorem runCall_oddSubject : ∃ token w₁,
    Deployment.inMemory.runCall (keyed.encodeWith oddSubject none {}) world =
      (.ok (.ofSeconds 900, token), w₁) := by
  have hmint : ∀ id noise, keyed.mint (.ofSeconds 0) id noise oddSubject none {} =
      .ok (.ofSeconds 900, keyed.sharedToken .sha256
        (keyed.payloadOf (.ofSeconds 0) id oddSubject none {})) :=
    fun id noise => Codec.mint_shared rfl rfl (by decide) (by decide) (by decide)
  refine ⟨_, _, Prod.ext (hmint (.ofRandom (world.entropy.bits 128).1)
    ((world.entropy.bits 128).2.bits 512).1) rfl⟩

end Service.Sample

/-- A token for this subject holds for a quarter of an hour. -/
theorem token_lasts_oddSubject : Codec.ofConfig Service.Sample.oneByte = .ok Service.Sample.keyed ∧
    Instant.firstSecond ≤ Service.Sample.world.now.seconds ∧ ∃ token w₁,
      Deployment.inMemory.runCall
          (Service.Sample.keyed.encodeWith Service.Sample.oddSubject none {})
          Service.Sample.world = (.ok (.ofSeconds 900, token), w₁) ∧
        Service.Sample.oneByte.KeysMatch Service.Sample.keyed token ∧ IsThreeParts token ∧
        ∃ id, IsHexId id ∧
          Deployment.inMemory.decoded { w₁ with now := .ofSeconds 900 } Service.Sample.keyed none
            none token = .ok ⟨Service.Sample.oddSubject, none, 0, 900, some id⟩ ∧
          Deployment.inMemory.decoded { w₁ with now := .ofSeconds 901 } Service.Sample.keyed none
            none token = .error .tokenInvalid := by
  obtain ⟨token, w₁, hmade⟩ := Service.Sample.runCall_oddSubject
  have hconfig : Codec.ofConfig Service.Sample.oneByte = .ok Service.Sample.keyed := rfl
  have hnow : Instant.firstSecond ≤ Service.Sample.world.now.seconds := by decide
  have hkeys : Service.Sample.oneByte.KeysMatch Service.Sample.keyed token :=
    ⟨fun _ => Or.inl rfl, fun hno => absurd rfl hno⟩
  obtain ⟨_, _, ⟨id, hid, hread⟩, hparts⟩ := token_lasts hconfig hnow hmade hkeys
  refine ⟨hconfig, hnow, token, w₁, hmade, hkeys, hparts, id, hid, hread _ _ _ ?_, hread _ _ _ ?_⟩
  · show 0 ≤ (Instant.ofSeconds 900).seconds
    decide
  · show 0 ≤ (Instant.ofSeconds 901).seconds
    decide

end SessionAuth
