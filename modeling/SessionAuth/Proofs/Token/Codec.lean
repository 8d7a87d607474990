/-
Tokens that were made, and tokens that are read.

A token that was made is two texts and a signature, written in base64 and joined by dots.
The alphabet has no dots; so the token is taken apart into what it was put together from,
and besides the dots it holds nothing but digits of base64.

Reading a token is a chain of steps each of which may refuse it.  `open?_eq_some_iff` says
which steps these are.  The time only enters in the last one, and decides whether the
token is refused, not what it says.
-/
import SessionAuth.Proofs.Bytes.Base64
import SessionAuth.Proofs.Text.Cut
import SessionAuth.Token.Codec

namespace SessionAuth.Token

/-! ### Form -/

namespace Compact

variable {header payload : String} {signature : Bytes}

theorem toList_attach : (attach (signedText header payload) signature).toList =
    (Base64.encodeChars Base64.urlSafe (Bytes.ofText header) ++
      '.' :: Base64.encodeChars Base64.urlSafe (Bytes.ofText payload)) ++
        '.' :: Base64.encodeChars Base64.urlSafe signature := by
  simp [attach, signedText, writePart, Base64.encode]

/-- A token is taken apart into what it was put together from. -/
theorem split?_attach : split? (attach (signedText header payload) signature) =
    some ⟨Base64.encodeChars Base64.urlSafe (Bytes.ofText header),
      Base64.encodeChars Base64.urlSafe (Bytes.ofText payload),
      Base64.encodeChars Base64.urlSafe signature⟩ := by
  unfold split?
  rw [toList_attach, Text.cutAtLast?_append_cons (Base64.dot_notMem_encodeChars _)]
  show (Text.cutAtLast? '.' _ >>= _) = _
  rw [Text.cutAtLast?_append_cons (Base64.dot_notMem_encodeChars _)]
  rfl

theorem isUrlSafe_or_dot {c : Char}
    (h : c ∈ (attach (signedText header payload) signature).toList) : IsUrlSafe c ∨ c = '.' := by
  rw [toList_attach] at h
  simp only [List.mem_append, List.mem_cons] at h
  rcases h with (h | rfl | h) | rfl | h
  · exact Or.inl (Base64.isUrlSafe_of_mem h)
  · exact Or.inr rfl
  · exact Or.inl (Base64.isUrlSafe_of_mem h)
  · exact Or.inr rfl
  · exact Or.inl (Base64.isUrlSafe_of_mem h)

end Compact

/-! ### Making tokens -/

namespace Codec

variable {c : Codec} {now expiry : Instant} {id : UserId} {noise : Noise} {subject token : String}
  {kind : Option Kind} {o : Overrides}

/-- What a token that was made says. -/
def payloadOf (c : Codec) (now : Instant) (id : UserId) (subject : String) (kind : Option Kind)
    (o : Overrides) : Payload :=
  { subject := subject, kind := kind, issuedAt := now.seconds
    expiresAt := now.seconds + c.lifetimeSeconds kind o, id := some id.toHex }

/-- A token that was made holds for some whole seconds, and is its texts with a signature. -/
theorem mint_eq_ok (h : c.mint now id noise subject kind o = .ok (expiry, token)) :
    0 < c.lifetimeSeconds kind o ∧
    expiry = Instant.ofSeconds (now.seconds + c.lifetimeSeconds kind o) ∧
    ∃ signature, token = Compact.attach
      (Compact.signedText (Header.toJson { algorithm := o.algorithm.getD c.algorithm })
        (c.payloadOf now id subject kind o).toJson) signature := by
  unfold mint at h
  simp only at h
  split at h
  · cases h
  · rename_i hpositive
    refine ⟨by omega, ?_⟩
    split at h
    · cases h
    · split at h
      · cases h
      · rename_i at_ hat
        unfold Instant.ofSeconds? at hat
        split at hat <;> cases hat
        unfold signText at h
        simp only at h
        split at h
        · rename_i signature _
          simp only [Except.map, Except.ok.injEq, Prod.mk.injEq] at h
          exact ⟨h.1.symm, signature, h.2.symm⟩
        · cases h

/-- A token that was made is written in digits of base64 and dots. -/
theorem isUrlSafe_or_dot_of_mint (h : c.mint now id noise subject kind o = .ok (expiry, token)) :
    ∀ a ∈ token.toList, IsUrlSafe a ∨ a = '.' := by
  obtain ⟨_, _, signature, rfl⟩ := mint_eq_ok h
  exact fun a ha => Compact.isUrlSafe_or_dot ha

/-- No colon stands in a token that was made. -/
theorem colon_notMem_of_mint (h : c.mint now id noise subject kind o = .ok (expiry, token)) :
    ':' ∉ token.toList :=
  fun hmem => absurd (isUrlSafe_or_dot_of_mint h ':' hmem) (by decide)

/-- What is made has a calendar date on which it expires. -/
theorem le_lastSecond_of_mint {minted : Instant × String}
    (h : c.mint now id noise subject kind o = .ok minted) :
    now.seconds + c.lifetimeSeconds kind o ≤ Instant.lastSecond := by
  unfold mint at h
  simp only at h
  split at h
  · cases h
  · split at h
    · cases h
    · split at h
      · cases h
      · rename_i hdate
        unfold Instant.ofSeconds? at hdate
        split at hdate
        · rename_i hrange
          exact hrange.2
        · cases hdate

/-! ### Shared keys -/

/-- The token with some texts, signed with a shared key. -/
def sharedToken (c : Codec) (d : Crypto.Digest) (payload : Payload) : String :=
  let text := Compact.signedText (Header.toJson { algorithm := .hmac d }) payload.toJson
  Compact.attach text (Crypto.hmac d c.signingKey.material (Bytes.ofText text))

/-- With a shared key a token can be made whenever its expiry has a calendar date. -/
theorem mint_shared {d : Crypto.Digest} (halgorithm : c.algorithm = .hmac d)
    (hfamily : c.signingKey.family = .shared) (hpositive : 0 < c.lifetimeSeconds kind {})
    (hfirst : Instant.firstSecond ≤ now.seconds + c.lifetimeSeconds kind {})
    (hlast : now.seconds + c.lifetimeSeconds kind {} ≤ Instant.lastSecond) :
    c.mint now id noise subject kind {} =
      .ok (.ofSeconds (now.seconds + c.lifetimeSeconds kind {}),
        c.sharedToken d (c.payloadOf now id subject kind {})) := by
  have hsign : ∀ text, c.signingKey.sign (.hmac d) noise text =
      .ok (Crypto.hmac d c.signingKey.material text) := by
    intro text
    unfold SigningKey.sign
    rw [if_neg (by rw [hfamily]; exact fun h => h rfl)]
  have hlimit : ¬ (limit63 : Int) ≤ now.seconds + c.lifetimeSeconds kind {} := by
    unfold Instant.lastSecond at hlast
    unfold limit63
    omega
  unfold mint
  simp only
  rw [if_neg (by omega), if_neg hlimit, Instant.ofSeconds?, if_pos ⟨hfirst, hlast⟩]
  simp only [Option.getD_none, halgorithm]
  unfold signText
  simp only [hsign]
  rfl

/-! ### Reading tokens -/

variable {key : VerificationKey} {algorithm : Algorithm} {payload : Payload}

theorem payloadAt?_eq_some_iff {second : Int} {claims : Bytes} :
    payloadAt? second claims = some payload ↔ Payload.ofJson? claims = .ok payload ∧
      ∃ conditions, Conditions.ofJson? claims = .ok conditions ∧
        conditions.allow second = true := by
  unfold payloadAt?
  cases Payload.ofJson? claims with
  | error fault => simp [Except.toOption]
  | ok read =>
    cases Conditions.ofJson? claims with
    | error fault => simp [Except.toOption]
    | ok conditions =>
      by_cases hallow : conditions.allow second = true <;> simp [Except.toOption, hallow]

/-- A token is accepted when all of its parts can be read and its signature fits. -/
theorem open?_eq_some_iff {token : String} : open? key algorithm now token = some payload ↔
    ∃ parts headerBytes header claims, Compact.split? token = some parts ∧
      readPart? parts.header = some headerBytes ∧ Header.ofJson? headerBytes = .ok header ∧
      header.algorithm = algorithm ∧
      key.accepts algorithm (Bytes.ofText (String.ofList parts.message)) parts.signature = true ∧
      readPart? parts.payload = some claims ∧ payloadAt? now.seconds claims = some payload := by
  unfold open?
  constructor
  · intro h
    simp only [Option.bind_eq_bind, Option.bind_eq_some_iff] at h
    obtain ⟨parts, hparts, headerBytes, hbytes, header, hheader, h⟩ := h
    split at h
    · rename_i hfits
      obtain ⟨claims, hclaims, hpayload⟩ := Option.bind_eq_some_iff.mp h
      refine ⟨parts, headerBytes, header, claims, hparts, hbytes, ?_, hfits.1, hfits.2, hclaims,
        hpayload⟩
      cases hread : Header.ofJson? headerBytes with
      | error fault => rw [hread] at hheader; cases hheader
      | ok read => rw [hread] at hheader; cases hheader; rfl
    · cases h
  · rintro ⟨parts, headerBytes, header, claims, hparts, hbytes, hheader, halgorithm, haccepts,
      hclaims, hpayload⟩
    simp [hparts, hbytes, hheader, Except.toOption, halgorithm, haccepts, hclaims, hpayload]

/-- No token that is accepted begins with a colon. -/
theorem head?_of_open? {token : String} (h : open? key algorithm now token = some payload) :
    token.toList.head? ≠ some ':' := by
  obtain ⟨parts, headerBytes, _, _, hparts, hbytes, _⟩ := open?_eq_some_iff.mp h
  rw [← Compact.append_of_split? hparts, Compact.message]
  cases hheader : parts.header with
  | nil => simp
  | cons c rest =>
    intro hc
    obtain rfl : c = ':' := by simpa using hc
    rw [hheader, readPart?, Base64.decodeChars?_colon] at hbytes
    cases hbytes

/-- What a token says does not depend on when it is read. -/
theorem open?_unique {later : Instant} {payload' : Payload} {token : String}
    (h : open? key algorithm now token = some payload)
    (h' : open? key algorithm later token = some payload') : payload = payload' := by
  obtain ⟨parts, _, _, claims, hparts, _, _, _, _, hclaims, hpayload⟩ := open?_eq_some_iff.mp h
  obtain ⟨parts', _, _, claims', hparts', _, _, _, _, hclaims', hpayload'⟩ :=
    open?_eq_some_iff.mp h'
  rw [hparts] at hparts'
  cases hparts'
  rw [hclaims] at hclaims'
  cases hclaims'
  have hread := (payloadAt?_eq_some_iff.mp hpayload).1
  rw [(payloadAt?_eq_some_iff.mp hpayload').1] at hread
  exact (Except.ok.inj hread).symm

end Codec

end SessionAuth.Token
